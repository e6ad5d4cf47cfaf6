import FlashSale.Order.Json
import FlashSale.Order.Row
import FlashSale.Proofs.Json.Reading

/-!
# The forms of an order and of its status

`OrderRow.Holds` says, column by column, what it is for a row to hold an order. An order is
written as the one row that holds it, and a row is read as the one order that it holds; a row
whose status is no name of a status holds none. Each direction is compared with `Holds` and not
only with the other one, for two columns that changed places in both would not show otherwise.

A status has one text. It is the name that is read, what is displayed, and what stands in JSON.
A string of JSON may be spelled in many ways; what it is read as depends on the text that it
stands for and on nothing else.
-/

namespace FlashSale

open Json

namespace OrderStatus

variable {text : String} {s s' : OrderStatus}

theorem ofName?_eq_ok : ofName? text = .ok s ↔ s.name = text := by
  constructor
  · intro read
    unfold ofName? at read
    split at read
    · rename_i same
      cases read
      exact same.symm
    split at read
    · rename_i same
      cases read
      exact same.symm
    split at read
    · rename_i same
      cases read
      exact same.symm
    · cases read
  · rintro rfl
    exact ofName?_name s

theorem name_inj : s.name = s'.name ↔ s = s' := by
  rw [← ofName?_eq_ok, ofName?_name]
  exact ⟨fun same => (Except.ok.inj same).symm, fun same => congrArg Except.ok same.symm⟩

/-- Whatever is no name is refused with the text as it was given. There is no case that
is ignored and no blank that is left out. -/
theorem ofName?_eq_error (unknown : ∀ s : OrderStatus, text ≠ s.name) :
    ofName? text = .error ⟨text⟩ := by
  have first : text ≠ "pending" := unknown .pending
  have second : text ≠ "confirmed" := unknown .confirmed
  have third : text ≠ "cancelled" := unknown .cancelled
  rw [ofName?, if_neg first, if_neg second, if_neg third]

end OrderStatus

namespace Json

/-- A string as it may stand in JSON, with blanks around it. -/
structure StringText where
  before : List Char := []
  inside : List Char
  after : List Char := []
  blank : IsBlanks before ∧ IsBlanks after
  pieces : List Piece
  spelled : IsInside inside pieces

namespace StringText

def text (t : StringText) : String := String.ofList (t.before ++ (quoted t.inside ++ t.after))

/-- The text that the string denotes, whatever its spelling. -/
def StandsFor (t : StringText) (s : String) : Prop := Denotes t.pieces s.toList

/-- A string of JSON is read as the text that it stands for, however it is spelled. -/
theorem ofString?_text {t : StringText} {s : String} (stands : t.StandsFor s) :
    Value.ofString? t.text = some (.string (some s)) := by
  have content : (joinPieces? t.pieces).map String.ofList = some s := by
    rw [joinPieces?_of_denotes stands, Option.map_some, String.ofList_toList]
  have means : Means (quoted t.inside) (.string (some s)) := by
    have yields := (reads_quoted t.spelled).yields
    rw [content] at yields
    exact means_of_yields _ yields nofun fun _ => rfl
  rw [Value.ofString?, text, String.toList_ofList]
  exact means.ofText? t.blank.1 t.blank.2

/-- For every text there is a string, if only the one that is written for it. So nothing
that is said of strings is said of none. -/
theorem exists_standsFor (s : String) :
    ∃ t : StringText, t.text = String.ofList (quote s) ∧ t.StandsFor s := by
  obtain ⟨pieces, spelled, denotes⟩ := written_spelled s.toList
  refine ⟨{ inside := _, blank := ⟨isBlanks_nil, isBlanks_nil⟩, pieces, spelled }, ?_, denotes⟩
  exact congrArg String.ofList (List.append_nil _)

end StringText

theorem quote_inj {s s' : String} : quote s = quote s' ↔ s = s' := by
  refine ⟨fun same => ?_, congrArg quote⟩
  obtain ⟨t, written, stands⟩ := StringText.exists_standsFor s
  obtain ⟨t', written', stands'⟩ := StringText.exists_standsFor s'
  have read := StringText.ofString?_text stands
  have read' := StringText.ofString?_text stands'
  rw [written, same, ← written', read'] at read
  cases read
  rfl

end Json

namespace OrderStatus

/-- The text is the name of the status, what is displayed of it, and what it is written as in
JSON. -/
structure HasText (status : OrderStatus) (s : String) : Prop where
  name : status.name = s
  displayed : toString status = s
  json : status.toJson = quote s

variable {s : String} {status : OrderStatus}

/-- Each of the three forms determines the text. There is one table of names behind
them. -/
theorem hasText_iff :
    (status.HasText s ↔ status.name = s) ∧ (status.HasText s ↔ toString status = s) ∧
      (status.HasText s ↔ status.toJson = quote s) := by
  have all (name : status.name = s) : status.HasText s := ⟨name, name, congrArg quote name⟩
  exact ⟨⟨HasText.name, all⟩, ⟨HasText.displayed, all⟩,
    ⟨HasText.json, fun json => all (quote_inj.mp json)⟩⟩

/-- A string of JSON is read as the text that it stands for would be by itself. Its
spelling makes no difference. -/
theorem ofJson?_string {t : StringText} (stands : t.StandsFor s) :
    ofJson? t.text = (ofName? s).toOption := by
  rw [ofJson?, StringText.ofString?_text stands]
  rfl

theorem ofJson?_eq_some {t : StringText} (stands : t.StandsFor s) :
    ofJson? t.text = some status ↔ ofName? s = .ok status := by
  rw [ofJson?_string stands]
  cases ofName? s <;> simp [Except.toOption]

/-- The forms of a status agree on a text: by itself and from a string of JSON that stands for it, it
is read as the status that has this text, and as no other. -/
structure Agree (s : String) : Prop where
  named : ∀ status, ofName? s = .ok status ↔ status.HasText s
  json : ∀ t : StringText, t.StandsFor s → ∀ status, ofJson? t.text = some status ↔ status.HasText s
  written : ∃ t : StringText, t.text = String.ofList (quote s) ∧ t.StandsFor s
  alone : ∀ status status' : OrderStatus, status.HasText s → status'.HasText s → status = status'

theorem agree (s : String) : Agree s := by
  have named (status : OrderStatus) : ofName? s = .ok status ↔ status.HasText s :=
    ofName?_eq_ok.trans hasText_iff.1.symm
  refine ⟨named, fun t stands status => (ofJson?_eq_some stands).trans (named status),
    StringText.exists_standsFor s, fun status status' has has' => ?_⟩
  exact name_inj.mp (has.name.trans has'.name.symm)

end OrderStatus

/-- The row holds the order, each column what it is for. -/
structure OrderRow.Holds (r : OrderRow) (o : Order) : Prop where
  id : r.id = o.id
  itemId : r.itemId = o.itemId
  userId : r.userId = o.userId
  quantity : r.quantity = o.quantity
  status : r.status = o.status.name
  createdAt : r.createdAt = o.createdAt
  updatedAt : r.updatedAt = o.updatedAt

section Rows

variable {r : OrderRow} {o : Order}

/-- An order is written as a row just when the row holds it. -/
theorem Order.toRow_eq_iff : o.toRow = r ↔ r.Holds o := by
  constructor
  · rintro rfl
    exact ⟨rfl, rfl, rfl, rfl, rfl, rfl, rfl⟩
  · intro holds
    obtain ⟨id, itemId, userId, quantity, status, createdAt, updatedAt⟩ := r
    obtain ⟨rfl, rfl, rfl, rfl, rfl, rfl, rfl⟩ := holds
    rfl

theorem OrderRow.Holds.toOrder (holds : r.Holds o) : r.toOrder = .ok o := by
  obtain ⟨id, itemId, userId, quantity, status, createdAt, updatedAt⟩ := r
  obtain ⟨rfl, rfl, rfl, rfl, rfl, rfl, rfl⟩ := holds
  simp [OrderRow.toOrder]

/-- A row is read as an order just when it holds it. With `Order.toRow_eq_iff` the two
ways are held against the same columns. -/
theorem OrderRow.toOrder_eq_ok_iff : r.toOrder = .ok o ↔ r.Holds o := by
  refine ⟨fun read => ?_, OrderRow.Holds.toOrder⟩
  unfold OrderRow.toOrder at read
  split at read
  · rename_i status known
    cases read
    exact ⟨rfl, rfl, rfl, rfl, (OrderStatus.ofName?_eq_ok.mp known).symm, rfl, rfl⟩
  · cases read

/-- A row that holds no order is refused; the refusal names the row and its status.
Nothing is made up for a status that is unknown. -/
theorem OrderRow.toOrder_unknown (unknown : ∀ s : OrderStatus, r.status ≠ s.name) :
    r.toOrder = .error (.unavailable
      ("order " ++ r.id.toString ++ ": " ++ ("unknown order status: " ++ r.status))) := by
  simp only [OrderRow.toOrder, OrderStatus.ofName?_eq_error unknown]
  rfl

/-- What a row is read as. -/
structure OrderRow.Exact (r : OrderRow) : Prop where
  /-- The status decides alone whether there is an order in the row. -/
  known : (∃ o, r.toOrder = .ok o) ↔ ∃ s : OrderStatus, r.status = s.name
  /-- The order that is read is the one that the row holds, and it is written as the row again. -/
  read : ∀ o, r.toOrder = .ok o → r.Holds o ∧ o.toRow = r
  refused : (∀ s : OrderStatus, r.status ≠ s.name) → r.toOrder = .error (.unavailable
    ("order " ++ r.id.toString ++ ": " ++ ("unknown order status: " ++ r.status)))

/-- Every row is read as the one order that it holds or refused, and there is no third
way. -/
theorem OrderRow.exact (r : OrderRow) : r.Exact where
  known := by
    constructor
    · rintro ⟨o, read⟩
      exact ⟨o.status, (OrderRow.toOrder_eq_ok_iff.mp read).status⟩
    · rintro ⟨s, named⟩
      let o : Order :=
        { id := r.id, userId := r.userId, itemId := r.itemId, quantity := r.quantity, status := s
          createdAt := r.createdAt, updatedAt := r.updatedAt }
      exact ⟨o, OrderRow.Holds.toOrder ⟨rfl, rfl, rfl, rfl, named, rfl, rfl⟩⟩
  read o read := by
    have holds := OrderRow.toOrder_eq_ok_iff.mp read
    exact ⟨holds, Order.toRow_eq_iff.mpr holds⟩
  refused := OrderRow.toOrder_unknown

end Rows

/-- Orders and rows stand for each other field by field, and all texts of a status are
one. A row is held against its columns and not only against the order that was read. -/
theorem orders_fit_rows :
    (∀ o : Order, o.toRow.Holds o ∧ o.toRow.toOrder = .ok o) ∧ (∀ r : OrderRow, r.Exact) ∧
      ∀ s : String, OrderStatus.Agree s := by
  refine ⟨fun o => ?_, OrderRow.exact, OrderStatus.agree⟩
  have holds : o.toRow.Holds o := Order.toRow_eq_iff.mp rfl
  exact ⟨holds, holds.toOrder⟩

example : OrderStatus.ofJson? " \"\\u0070ending\" " = some .pending ∧
    OrderStatus.ofJson? "\"Pending\"" = none := by decide +kernel

end FlashSale

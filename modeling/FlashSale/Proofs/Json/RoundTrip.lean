import FlashSale.Http.Body
import FlashSale.Order.Json
import FlashSale.Proofs.Json.Record
import FlashSale.Proofs.Timestamp
import FlashSale.Proofs.Uuid

/-!
# Writing and reading

An order, an inventory and a response of the web interface are read as they were written,
whatever their texts, numbers, identifiers and moments are. A text may be read that would
never be written; what was read from it is written in the one way there is.
-/

namespace FlashSale

open Json

namespace Json

/-- Written values are read as they were; a value that was read, however it was spelled, is written
and read again as the same value with the same text. -/
structure RoundTrips {α : Type} (write : α → String) (read : String → Option α) : Prop where
  same : ∀ a, read (write a) = some a
  settled : ∀ text a, read text = some a → ∃ again, read (write a) = some again ∧ again = a ∧
    write again = write a

/-- It is enough that written values are read as they were. What was read is then
written and read as any other value. -/
theorem RoundTrips.of_same {α : Type} {write : α → String} {read : String → Option α}
    (same : ∀ a, read (write a) = some a) : RoundTrips write read where
  same := same
  settled _ a _ := ⟨a, same a, rfl, rfl⟩

/-- A record is read by the values of its fields. This is the one argument for all the
records that are exchanged. -/
theorem read_record {α : Type} (read : List (Option Value) → Option α) (names : List String)
    {fields : List (String × Atom)} (given : fields ≠ []) (apart : (fields.map Prod.fst).Nodup) :
    ((Value.ofString? (record (texts fields))).bind fun v => (v.fields? names).bind read) =
      read (names.map fun name => (fields.lookup name).map Atom.value) := by
  rw [ofString?_record given, Option.bind_some, fields?_object names apart, Option.bind_some]

@[simp] theorem string?_quoted (s : String) : (Atom.quoted s).value.string? = some s := rfl

@[simp] theorem bool?_truth (b : Bool) : (Atom.truth b).value.bool? = some b := rfl

@[simp] theorem uuid?_quoted (u : Uuid) : (Atom.quoted u.toString).value.uuid? = some u := by
  rw [Value.uuid?, string?_quoted, Option.bind_some, Uuid.ofString?_toString]

@[simp] theorem timestamp?_quoted (t : Timestamp) :
    (Atom.quoted t.toString).value.timestamp? = some t := by
  rw [Value.timestamp?, string?_quoted, Option.bind_some, Timestamp.ofString?_toString]

@[simp] theorem int?_int (n : Int) : (Atom.int n).value.int? = some n := rfl

@[simp] theorem word32?_int (w : Int32) : (Atom.int w.toInt).value.word32? = some w := by
  rw [Value.word32?, int?_int, Option.bind_some, FlashSale.word32?_toInt]

@[simp] theorem size64?_int (w : UInt64) : (Atom.int w.toNat).value.size64? = some w := by
  rw [Value.size64?, int?_int, Option.bind_some, size64?_eq_some_iff]

theorem nullable_quoted {α : Type} (read : Value → Option α) (s : String) :
    nullable read (Atom.quoted s).value = (read (Atom.quoted s).value).map some := rfl

@[simp] theorem status?_quoted (s : OrderStatus) :
    OrderStatus.ofValue? (Atom.quoted s.name).value = some s := by
  cases s <;> rfl

end Json

/-- An order is read as it was written, with every one of its fields. Its texts may be
any, and its moments any that there are. -/
theorem Order.ofJson?_toJson (o : Order) : ofJson? o.toJson = some o := by
  let fields : List (String × Atom) := fieldNames.zip
    [.quoted o.id.toString, .quoted o.userId, .quoted o.itemId, .int o.quantity.toInt,
      .quoted o.status.name, .quoted o.createdAt.toString, .quoted o.updatedAt.toString]
  have apart : (fields.map Prod.fst).Nodup := (by decide : fieldNames.Nodup)
  refine (read_record ofFields? fieldNames (List.cons_ne_nil _ _) apart).trans ?_
  simp [fieldNames, List.lookup_cons, ofFields?, required]

theorem Inventory.ofJson?_toJson (i : Inventory) : ofJson? i.toJson = some i := by
  let fields : List (String × Atom) := fieldNames.zip
    [.quoted i.itemId, .int i.quantity.toInt, .int i.version.toInt, .quoted i.createdAt.toString,
      .quoted i.updatedAt.toString]
  have apart : (fields.map Prod.fst).Nodup := (by decide : fieldNames.Nodup)
  refine (read_record ofFields? fieldNames (List.cons_ne_nil _ _) apart).trans ?_
  simp [fieldNames, List.lookup_cons, ofFields?, required]

theorem HealthResponse.ofJson?_toJson (r : HealthResponse) : ofJson? r.toJson = some r := by
  let fields : List (String × Atom) := fieldNames.zip
    [.quoted r.status, .int r.queueDepth.toNat, .int r.queueCapacity.toNat]
  have apart : (fields.map Prod.fst).Nodup := (by decide : fieldNames.Nodup)
  refine (read_record ofFields? fieldNames (List.cons_ne_nil _ _) apart).trans ?_
  simp [fieldNames, List.lookup_cons, ofFields?, required]

/-- The identifier that is not there is not written, and reading does without it. One
that is there is written as a text. -/
theorem PurchaseResponse.ofJson?_toJson (r : PurchaseResponse) : ofJson? r.toJson = some r := by
  obtain ⟨success, message, orderId⟩ := r
  cases orderId with
  | none =>
      let fields : List (String × Atom) := fieldNames.zip [.truth success, .quoted message]
      have apart : (fields.map Prod.fst).Nodup := (by decide : (fieldNames.take 2).Nodup)
      refine (read_record ofFields? fieldNames (List.cons_ne_nil _ _) apart).trans ?_
      simp [fieldNames, List.lookup_cons, ofFields?, required, Json.optional]
  | some id =>
      let fields : List (String × Atom) :=
        fieldNames.zip [.truth success, .quoted message, .quoted id.toString]
      have apart : (fields.map Prod.fst).Nodup := (by decide : fieldNames.Nodup)
      refine (read_record ofFields? fieldNames (List.cons_ne_nil _ _) apart).trans ?_
      simp [fieldNames, List.lookup_cons, ofFields?, required, Json.optional, nullable_quoted]

/-- Every record of the service that is exchanged as JSON goes there and back unchanged.
A text that was spelled in another way is settled after one reading. -/
theorem json_roundTrips :
    RoundTrips Order.toJson Order.ofJson? ∧ RoundTrips Inventory.toJson Inventory.ofJson? ∧
      RoundTrips PurchaseResponse.toJson PurchaseResponse.ofJson? ∧
      RoundTrips HealthResponse.toJson HealthResponse.ofJson? :=
  ⟨.of_same Order.ofJson?_toJson, .of_same Inventory.ofJson?_toJson,
    .of_same PurchaseResponse.ofJson?_toJson, .of_same HealthResponse.ofJson?_toJson⟩

end FlashSale

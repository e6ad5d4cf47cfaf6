import FlashSale.Purchase

/-!
# A purchase that is kept waiting

A store may keep a call waiting before it carries the call out, and its reply waiting after
that. Between any two of these steps the purchase may be abandoned. `Step` lists what can
happen, with the rules of a purchase for what the purchase does itself. Nothing is assumed of
the store but that it takes stock exactly if it says so.

Whoever owns stock has to account for it. Stock that was taken is handed over with an order,
was put back, is owed by a task that is to put it back, or is owned by the purchase: this is the
invariant `Sound`. A purchase that is abandoned passes what it owns on only while it waits for
the queue. Before it knows that stock was taken, and after it has begun to put stock back, the
stock is left behind. `conserved_iff` says that there is no other way to lose stock, and that
none is ever put back twice.
-/

namespace FlashSale

/-- An amount of an item. -/
abbrev Goods := String × Int32

/-- What a purchase asks for. -/
def PurchaseRequest.goods (r : PurchaseRequest) : Goods := (r.itemId, r.quantity)

/-- What an order is for. -/
def Order.goods (o : Order) : Goods := (o.itemId, o.quantity)

/-- A call of a store: it is out, or it has been carried out and the reply is on its way. -/
inductive Call (ρ : Type) where
  | out
  | carriedOut (reply : ρ)

namespace Purchase

/-- What a purchase waits for. -/
inductive Point where
  | entering
  | marking (call : Call (Except StoreError Bool))
  | reserving (call : Call (Except StoreError Bool))
  | admitting (order : Order)
  | releasing (order : Order) (call : Call (Except StoreError Unit))
  | ended (result : Except PurchaseError Uuid)

/-- The point that a stage begins with; a call that it makes is out. -/
def Stage.point : Stage → Point
  | .entering => .entering
  | .marking => .marking .out
  | .reserving => .reserving .out
  | .admitting order => .admitting order
  | .releasing order => .releasing order .out

/-- The point to which a purchase goes on. -/
def Next.point : Next → Point
  | .go stage => stage.point
  | .done result => .ended result

/-- The stage that a purchase is in, unless it is over. -/
def Point.stage? : Point → Option Stage
  | .entering => some .entering
  | .marking _ => some .marking
  | .reserving _ => some .reserving
  | .admitting order => some (.admitting order)
  | .releasing order _ => some (.releasing order)
  | .ended _ => none

/-- A purchase, and what was done on its behalf. -/
structure Course where
  point : Point := .entering
  abandoned : Bool := false
  /-- What the store has taken. -/
  taken : List Goods := []
  /-- The orders that the queue has. -/
  handed : List Order := []
  /-- What was to be put back, with the replies of the store. -/
  putBack : List (Goods × Except StoreError Unit) := []
  /-- What tasks have been started to put back. -/
  owed : List Goods := []
  log : List Event := []

namespace Course

/-- The purchase goes on as its rule says, and reports what the rule reports. -/
def follow (c : Course) (m : Move) : Course :=
  { c with point := m.next.point, log := c.log ++ m.events }

/-- The purchase is abandoned; what it holds is put back by a task of its own. -/
def abandon (c : Course) : Course :=
  match c.point.stage?.bind Stage.held? with
  | none => { c with abandoned := true }
  | some order =>
    { c with
      abandoned := true
      owed := c.owed ++ [order.goods]
      log := c.log ++ [.purchaseAbandoned order.itemId order.quantity] }

end Course

/-- What can happen in the course of a purchase. A call that is out may be carried out even
though nobody waits for the reply any more. -/
inductive Step (r : PurchaseRequest) (id : Uuid) (c : Course) : Course → Prop where
  -- The purchase goes on.
  | enter (here : c.point = .entering) (live : c.abandoned = false) :
      Step r id c (c.follow (entered r))
  | marked {reply} (here : c.point = .marking (.carriedOut reply)) (live : c.abandoned = false) :
      Step r id c (c.follow (Purchase.marked r reply))
  | reserved {reply} (now : Timestamp) (here : c.point = .reserving (.carriedOut reply))
      (live : c.abandoned = false) : Step r id c (c.follow (Purchase.reserved r id now reply))
  | admitted {order} (here : c.point = .admitting order) (live : c.abandoned = false) :
      Step r id c { c.follow (Purchase.admitted r order) with handed := c.handed ++ [order] }
  | refused {order} (here : c.point = .admitting order) (live : c.abandoned = false) :
      Step r id c (c.follow (Purchase.refused r order))
  | released {order reply} (here : c.point = .releasing order (.carriedOut reply))
      (live : c.abandoned = false) : Step r id c (c.follow (Purchase.released r reply))
  | abandon (unfinished : c.point.stage? ≠ none) (live : c.abandoned = false) :
      Step r id c c.abandon
  -- The store carries out a call.
  | mark (reply : Except StoreError Bool) (here : c.point = .marking .out) :
      Step r id c { c with point := .marking (.carriedOut reply) }
  | take (here : c.point = .reserving .out) :
      Step r id c
        { c with point := .reserving (.carriedOut (.ok true)), taken := c.taken ++ [r.goods] }
  | takeNone {reply} (here : c.point = .reserving .out) (other : reply ≠ .ok true) :
      Step r id c { c with point := .reserving (.carriedOut reply) }
  | putBack {order} (reply : Except StoreError Unit) (here : c.point = .releasing order .out) :
      Step r id c
        { c with
          point := .releasing order (.carriedOut reply)
          putBack := c.putBack ++ [(r.goods, reply)] }
  -- The store carries out the call of a task.
  | repay {goods rest} (reply : Except StoreError Unit) (owes : c.owed = goods :: rest) :
      Step r id c { c with owed := rest, putBack := c.putBack ++ [(goods, reply)] }

/-- What the course of a purchase can come to. -/
inductive Reachable (r : PurchaseRequest) (id : Uuid) : Course → Prop where
  | start : Reachable r id {}
  | step {c c' : Course} (before : Reachable r id c) (step : Step r id c c') : Reachable r id c'

namespace Point

/-- How often a purchase owns the stock that it asks for. -/
def owned (abandoned : Bool) : Point → Nat
  | .reserving (.carriedOut (.ok true)) => 1
  | .admitting _ => if abandoned then 0 else 1
  | .releasing _ .out => 1
  | _ => 0

/-- The order of a purchase, while there is one to be handed over. -/
def order? : Point → Option Order
  | .admitting order => some order
  | .releasing order _ => some order
  | _ => none

/-- Whether the store may take the stock yet. -/
def isEarly : Point → Bool
  | .entering => true
  | .marking _ => true
  | .reserving .out => true
  | _ => false

end Point

/-- The books of a purchase balance, and everything in them is the stock that it asked for. -/
structure Course.Sound (r : PurchaseRequest) (c : Course) : Prop where
  balance : c.taken.length =
    c.handed.length + c.putBack.length + c.owed.length + c.point.owned c.abandoned
  once : c.taken.length ≤ 1
  early : c.point.isEarly = true → c.taken = []
  order : ∀ order, c.point.order? = some order → order.goods = r.goods
  handed : ∀ order ∈ c.handed, order.goods = r.goods
  owed : ∀ goods ∈ c.owed, goods = r.goods
  putBack : ∀ p ∈ c.putBack, p.1 = r.goods

section Moves

variable {r : PurchaseRequest}

theorem entered_point (r : PurchaseRequest) : (entered r).next.point = .marking .out ∨
    ∃ e, (entered r).next.point = .ended (.error e) := by
  unfold entered
  split
  · exact .inr ⟨_, rfl⟩
  · exact .inl rfl

theorem marked_point (r : PurchaseRequest) (reply : Except StoreError Bool) :
    (marked r reply).next.point = .reserving .out ∨
      ∃ e, (marked r reply).next.point = .ended (.error e) := by
  obtain _ | _ | _ := reply
  · exact .inr ⟨_, rfl⟩
  · exact .inr ⟨_, rfl⟩
  · exact .inl rfl

theorem reserved_point_none {reply : Except StoreError Bool} (other : reply ≠ .ok true)
    (id : Uuid) (now : Timestamp) :
    ∃ e, (reserved r id now reply).next.point = .ended (.error e) := by
  obtain _ | _ | _ := reply
  · exact ⟨_, rfl⟩
  · exact ⟨_, rfl⟩
  · exact absurd rfl other

theorem released_point (r : PurchaseRequest) (reply : Except StoreError Unit) :
    (released r reply).next.point = .ended (.error .queueClosed) := by
  cases reply <;> rfl

end Moves

section Step

variable {r : PurchaseRequest} {id : Uuid} {c c' : Course} {m : Move} {p : Point}

/-- A store that has no stock to give leaves the purchase without any. Its reply makes
no difference then. -/
theorem owned_of_other {reply : Except StoreError Bool} (other : reply ≠ .ok true)
    (abandoned : Bool) : (Point.reserving (.carriedOut reply)).owned abandoned = 0 := by
  obtain _ | _ | _ := reply
  · rfl
  · rfl
  · exact absurd rfl other

/-- Where a purchase goes has to leave it with as much stock as it had. Its moves are
all of this kind but for handing its order over. -/
theorem Course.Sound.follow (sound : c.Sound r) (goes : m.next.point = p)
    (owns : p.owned c.abandoned = c.point.owned c.abandoned)
    (early : p.isEarly = true → c.point.isEarly = true)
    (order : ∀ order, p.order? = some order → order.goods = r.goods) : (c.follow m).Sound r where
  balance := by
    have balance := sound.balance
    rw [← owns, ← goes] at balance
    exact balance
  once := sound.once
  early isEarly := sound.early (early (goes ▸ isEarly))
  order := by
    subst goes
    exact order
  handed := sound.handed
  owed := sound.owed
  putBack := sound.putBack

/-- An abandoned purchase passes on what it owns while it waits for the queue. Elsewhere
it passes nothing on, and is still its owner. -/
theorem Course.Sound.abandon (sound : c.Sound r) (live : c.abandoned = false) :
    c.abandon.Sound r := by
  have balance := sound.balance
  unfold Course.abandon
  split
  · rename_i held
    have same : c.point.owned true = c.point.owned c.abandoned := by
      rw [live]
      unfold Point.owned
      split
      · rfl
      · rename_i order here
        simp [here, Point.stage?, Stage.held?] at held
      · rfl
      · rfl
    exact { sound with balance := same ▸ balance }
  · rename_i order held
    have here : c.point = .admitting order := by
      cases point : c.point <;> simp_all [Point.stage?, Stage.held?]
    have goods := sound.order order (here ▸ rfl)
    rw [here, live] at balance
    exact
      { sound with
        balance := by
          rw [here]
          simpa [Point.owned, Nat.add_assoc] using balance
        owed := List.forall_mem_append.mpr ⟨sound.owed, List.forall_mem_singleton.mpr goods⟩ }

/-- Every step keeps the books of the purchase, by cases on what happens. Stock changes
its owner, and none is made or lost. -/
theorem Step.sound (step : Step r id c c') (sound : c.Sound r) : c'.Sound r := by
  have early := sound.early
  have order := sound.order
  have balance := sound.balance
  cases step with
  | enter here live =>
      rw [here] at early
      obtain goes | ⟨e, goes⟩ := entered_point r
      · exact sound.follow goes (by rw [here]; rfl) (fun _ => by rw [here]; rfl) fun _ => nofun
      · exact sound.follow goes (by rw [here]; rfl) nofun fun _ => nofun
  | @marked reply here live =>
      obtain goes | ⟨e, goes⟩ := marked_point r reply
      · exact sound.follow goes (by rw [here]; rfl) (fun _ => by rw [here]; rfl) fun _ => nofun
      · exact sound.follow goes (by rw [here]; rfl) nofun fun _ => nofun
  | @reserved reply now here live =>
      by_cases taken : reply = .ok true
      · subst taken
        refine sound.follow rfl ?_ nofun ?_
        · rw [here, live]
          rfl
        · rintro order ⟨⟩
          rfl
      · obtain ⟨e, goes⟩ := reserved_point_none taken id now
        exact sound.follow goes (by rw [here, owned_of_other taken]; rfl) nofun fun _ => nofun
  | @admitted placed here live =>
      rw [here, live] at balance
      rw [here] at order
      exact
        { sound with
          balance := by
            simpa [Course.follow, Purchase.admitted, Next.point, Point.owned, Nat.add_right_comm]
              using balance
          early := nofun
          order := fun _ => nofun
          handed := List.forall_mem_append.mpr
            ⟨sound.handed, List.forall_mem_singleton.mpr (order placed rfl)⟩ }
  | refused here live =>
      rw [here] at order
      exact sound.follow rfl (by rw [here, live]; rfl) nofun order
  | released here live =>
      exact sound.follow (released_point r _) (by rw [here]; rfl) nofun fun _ => nofun
  | abandon unfinished live => exact sound.abandon live
  | mark reply here =>
      rw [here] at balance early
      exact { sound with balance := balance, early := fun _ => early rfl, order := fun _ => nofun }
  | take here =>
      rw [here] at balance early
      have none := early rfl
      rw [none] at balance ⊢
      exact
        { sound with
          balance := by
            simp only [Point.owned, List.nil_append, List.length_nil, List.length_singleton]
              at balance ⊢
            omega
          once := Nat.le_refl 1
          early := nofun
          order := fun _ => nofun }
  | takeNone here other =>
      rw [here] at balance early
      exact
        { sound with
          balance := by
            rw [owned_of_other other]
            exact balance
          early := nofun
          order := fun _ => nofun }
  | putBack reply here =>
      rw [here] at balance order
      exact
        { sound with
          balance := by
            simp only [Point.owned, List.length_append, List.length_singleton] at balance ⊢
            omega
          early := nofun
          order := order
          putBack := List.forall_mem_append.mpr
            ⟨sound.putBack, List.forall_mem_singleton.mpr rfl⟩ }
  | repay reply owes =>
      have owed := sound.owed
      rw [owes] at balance owed
      obtain ⟨first, later⟩ := List.forall_mem_cons.mp owed
      exact
        { sound with
          balance := by
            simp only [List.length_cons, List.length_append, List.length_nil] at balance ⊢
            omega
          owed := later
          putBack := List.forall_mem_append.mpr
            ⟨sound.putBack, List.forall_mem_singleton.mpr first⟩ }

/-- The books balance in every course, by induction on its steps. Whoever is the owner
has to be found among the four that there are. -/
theorem Reachable.sound (reached : Reachable r id c) : c.Sound r := by
  induction reached with
  | start =>
      exact ⟨rfl, Nat.zero_le 1, fun _ => rfl, fun _ => nofun, by simp, by simp, by simp⟩
  | step _ step ih => exact step.sound ih

namespace Course

/-- The purchase is over or abandoned, and so are the tasks that put back what it passed on. -/
structure AtRest (c : Course) : Prop where
  finished : c.abandoned = true ∨ ∃ result, c.point = .ended result
  repaid : c.owed = []

/-- Nothing that was to be put back was refused. -/
def StoreWorks (c : Course) : Prop := ∀ p ∈ c.putBack, p.2 = .ok ()

/-- Either the queue has the order and nothing was put back, or the queue has none and what was
taken was put back once. -/
def Conserved (r : PurchaseRequest) (c : Course) : Prop :=
  (∃ order, c.handed = [order] ∧ order.goods = r.goods ∧ c.putBack = []) ∨
    (c.handed = [] ∧ c.putBack = [(r.goods, .ok ())])

/-- The purchase was abandoned before it knew that it had the stock, or before the store had
carried out the call that was to put it back. -/
def LeftBehind (c : Course) : Prop :=
  c.abandoned = true ∧
    (c.point = .reserving (.carriedOut (.ok true)) ∨ ∃ order, c.point = .releasing order .out)

end Course

theorem Course.LeftBehind.owned (left : c.LeftBehind) : c.point.owned c.abandoned = 1 := by
  obtain ⟨-, here | ⟨order, here⟩⟩ := left <;> rw [here] <;> rfl

/-- At rest nobody owns stock but a purchase that left it behind. What tasks owed has
been put back by then. -/
theorem Course.AtRest.owned (rest : c.AtRest) (left : ¬ c.LeftBehind) :
    c.point.owned c.abandoned = 0 := by
  obtain abandoned | ⟨result, here⟩ := rest.finished
  · rw [abandoned]
    unfold Point.owned
    split
    · rename_i here
      exact absurd ⟨abandoned, .inl here⟩ left
    · rfl
    · rename_i order here
      exact absurd ⟨abandoned, .inr ⟨order, here⟩⟩ left
    · rfl
  · rw [here]
    rfl

/-- Stock that was taken for an abandoned purchase is lost in two windows and in no
others. In them it is neither with the queue nor put back. -/
theorem conserved_iff (reached : Reachable r id c) (rest : c.AtRest) (works : c.StoreWorks)
    (taken : c.taken ≠ []) :
    (c.Conserved r ↔ ¬ c.LeftBehind) ∧ (c.LeftBehind → c.handed = [] ∧ c.putBack = []) := by
  have sound := reached.sound
  have balance := sound.balance
  have given : c.taken.length = 1 :=
    Nat.le_antisymm sound.once (List.length_pos_iff.mpr taken)
  rw [given, rest.repaid, List.length_nil] at balance
  by_cases left : c.LeftBehind
  · rw [left.owned] at balance
    have handed : c.handed = [] := List.length_eq_zero_iff.mp (by omega)
    have putBack : c.putBack = [] := List.length_eq_zero_iff.mp (by omega)
    refine ⟨iff_of_false ?_ (not_not_intro left), fun _ => ⟨handed, putBack⟩⟩
    rintro (⟨order, had, -⟩ | ⟨-, had⟩)
    · cases handed.symm.trans had
    · cases putBack.symm.trans had
  · rw [rest.owned left] at balance
    refine ⟨iff_of_true ?_ left, fun other => absurd other left⟩
    cases handed : c.handed with
    | nil =>
        rw [handed, List.length_nil] at balance
        obtain ⟨⟨goods, reply⟩, putBack⟩ :=
          List.length_eq_one_iff.mp (by omega : c.putBack.length = 1)
        have same := sound.putBack
        rw [Course.StoreWorks, putBack, List.forall_mem_singleton] at works
        rw [putBack, List.forall_mem_singleton] at same
        exact .inr ⟨handed, by rw [putBack, ← same, ← works]⟩
    | cons order others =>
        rw [handed, List.length_cons] at balance
        have alone : others = [] := List.length_eq_zero_iff.mp (by omega)
        have putBack : c.putBack = [] := List.length_eq_zero_iff.mp (by omega)
        exact .inl ⟨order, by rw [handed, alone], sound.handed order (by simp [handed]), putBack⟩

/-- The store has taken the stock, and the purchase is abandoned before it is told.
Nothing is owed then, and nothing is put back. -/
theorem conserved_iff_unanswered :
    let r : PurchaseRequest := ⟨"r1", "ann", "tea", 2⟩
    let c : Course :=
      { point := .reserving (.carriedOut (.ok true)), abandoned := true, taken := [("tea", 2)] }
    Reachable r ⟨1⟩ c ∧ c.AtRest ∧ c.StoreWorks ∧ c.taken ≠ [] ∧ c.LeftBehind ∧
      ¬ c.Conserved r := by
  intro r c
  have reached : Reachable r ⟨1⟩ c :=
    ((((Reachable.start.step (.enter rfl rfl)).step (.mark (.ok true) rfl)).step
      (.marked rfl rfl)).step (.take rfl)).step (.abandon nofun rfl)
  have rest : c.AtRest := ⟨.inl rfl, rfl⟩
  have works : c.StoreWorks := by simp [Course.StoreWorks, c]
  have left : c.LeftBehind := ⟨rfl, .inl rfl⟩
  have lost := (conserved_iff reached rest works nofun).1
  exact ⟨reached, rest, works, nofun, left, fun conserved => lost.mp conserved left⟩

end Step

end Purchase

end FlashSale

import FlashSale.Proofs.Purchase.Course

/-!
# Settling an order over stores that keep it waiting

The durable store may keep a commit waiting before it carries it out, and its reply waiting after
that. The limit may come at any point. A call that is given up while it is out may be carried
out all the same. `Step` lists what can happen, with the rules of settling for what the settlement
does itself. Of the durable store it is assumed that it stores an order exactly if it says so,
and no two orders with one identifier.

A commit that the store refused has stored nothing, and never will. A commit that was given up
says nothing of the kind: if the limit comes after the store has carried the commit out, or the
store carries it out after that, the order is stored and its stock is put back as well.
`persisted_iff` says that this, and an order with the same identifier that somebody else
stores in the meantime, are all that sets an outcome apart from what is stored.
-/

namespace FlashSale

/-- What made the commit fail, if it did. -/
def Outcome.commit? : Outcome → Option CommitError
  | .persisted => none
  | .compensated commit => some commit
  | .compensationFailed failure => some failure.commit

namespace Settlement

/-- What a settlement waits for. -/
inductive Point where
  | committing (call : Call (Except StoreError Unit))
  | restoring (commit : CommitError) (call : Call (Except StoreError Unit))
  | ended (outcome : Outcome)

/-- The point that a stage begins with; the call that it makes is out. -/
def Stage.point : Stage → Point
  | .opening => .committing .out
  | .committing => .committing .out
  | .restoring commit => .restoring commit .out

/-- The point to which a settlement goes on. -/
def Next.point : Next → Point
  | .go stage => stage.point
  | .done outcome => .ended outcome

/-- A settlement, and what was done on its behalf. -/
structure Course where
  point : Point := .committing .out
  /-- Whether its commit has stored the order and taken its quantity out of the inventory. -/
  stored : Bool := false
  /-- Whether somebody else has stored an order with the same identifier. -/
  taken : Bool := false
  /-- Whether its commit was given up while it was out. -/
  adrift : Bool := false
  /-- What was to be put back, with the replies of the store. -/
  putBack : List (Goods × Except StoreError Unit) := []
  /-- Whether the attempt to put the stock back was given up while it was out. -/
  restoringAdrift : Bool := false

/-- What can happen in the course of a settlement. -/
inductive Step (order : Order) (limit : Duration) (c : Course) : Course → Prop where
  -- The settlement goes on.
  | committed {reply} (here : c.point = .committing (.carriedOut reply)) :
      Step order limit c { c with point := (Settlement.committed limit (.replied reply)).point }
  | commitExpires {call} (here : c.point = .committing call) :
      Step order limit c
        { c with
          point := (Settlement.committed limit .timedOut).point
          adrift := match call with
            | .out => true
            | .carriedOut _ => false }
  | restored {commit reply} (here : c.point = .restoring commit (.carriedOut reply)) :
      Step order limit c
        { c with point := .ended (Settlement.restored limit order commit (.replied reply)) }
  | restoreExpires {commit call} (here : c.point = .restoring commit call) :
      Step order limit c
        { c with
          point := .ended (Settlement.restored limit order commit .timedOut)
          restoringAdrift := match call with
            | .out => true
            | .carriedOut _ => false }
  -- A store carries out a call.
  | commit (here : c.point = .committing .out) (new : c.taken = false) :
      Step order limit c { c with point := .committing (.carriedOut (.ok ())), stored := true }
  | commitRefused (e : StoreError) (here : c.point = .committing .out) :
      Step order limit c { c with point := .committing (.carriedOut (.error e)) }
  | putBack {commit} (reply : Except StoreError Unit) (here : c.point = .restoring commit .out) :
      Step order limit c
        { c with
          point := .restoring commit (.carriedOut reply)
          putBack := c.putBack ++ [(order.goods, reply)] }
  -- A store carries out a call that was given up.
  | commitLate (adrift : c.adrift = true) (new : c.taken = false) :
      Step order limit c { c with adrift := false, stored := true }
  | putBackLate (reply : Except StoreError Unit) (adrift : c.restoringAdrift = true) :
      Step order limit c
        { c with restoringAdrift := false, putBack := c.putBack ++ [(order.goods, reply)] }
  -- Somebody else stores an order with the same identifier.
  | elsewhere (new : c.stored = false) : Step order limit c { c with taken := true }

/-- What the course of a settlement can come to. -/
inductive Reachable (order : Order) (limit : Duration) : Course → Prop where
  | start : Reachable order limit {}
  | step {c c' : Course} (before : Reachable order limit c) (step : Step order limit c c') :
      Reachable order limit c'

namespace Course

/-- An order with the identifier is in the durable store. -/
def Exists (c : Course) : Prop := c.stored = true ∨ c.taken = true

/-- Stock was put back in effect. -/
def Raised (c : Course) : Prop := ∃ goods, (goods, .ok ()) ∈ c.putBack

/-- The limit came to a commit that has stored the order, or stored it afterwards. -/
def CutOff (limit : Duration) (outcome : Outcome) (c : Course) : Prop :=
  c.stored = true ∧ outcome.commit? = some (.timeout limit)

/-- What the error of a commit says of the durable store. -/
def Blames (limit : Duration) (c : Course) : CommitError → Prop
  | .store _ => c.stored = false ∧ c.adrift = false
  | .timeout span => span = limit

/-- What a settlement at a point says of the durable store. -/
def Tells (limit : Duration) (c : Course) : Point → Prop
  | .committing .out => c.stored = false ∧ c.adrift = false
  | .committing (.carriedOut reply) => (c.stored = true ↔ reply = .ok ()) ∧ c.adrift = false
  | .restoring commit _ => c.Blames limit commit
  | .ended outcome =>
    match outcome.commit? with
    | none => c.stored = true ∧ c.adrift = false ∧ c.putBack = [] ∧ c.restoringAdrift = false
    | some commit => c.Blames limit commit

end Course

/-- How often a settlement at the point is still to put its stock back, or may be. -/
def Point.toPutBack : Point → Nat
  | .committing _ => 1
  | .restoring _ .out => 1
  | _ => 0

/-- The store has one order with the identifier at most, the point tells the truth of
the store, and stock is put back once at most. -/
structure Course.Sound (order : Order) (limit : Duration) (c : Course) : Prop where
  unique : ¬ (c.stored = true ∧ c.taken = true)
  tells : c.Tells limit c.point
  once : c.putBack.length + c.restoringAdrift.toNat + c.point.toPutBack ≤ 1
  goods : ∀ p ∈ c.putBack, p.1 = order.goods

section Step

variable {order : Order} {limit : Duration} {c c' : Course} {outcome : Outcome}

/-- Whatever comes of putting the stock back, the outcome names what made the commit
fail. -/
theorem commit?_restored (commit : CommitError) (ended : Awaited) :
    (Settlement.restored limit order commit ended).commit? = some commit := by
  unfold Settlement.restored
  split <;> rfl

theorem tells_restored {commit : CommitError} {ended : Awaited} (blames : c.Blames limit commit) :
    c.Tells limit (.ended (Settlement.restored limit order commit ended)) := by
  rw [Course.Tells, commit?_restored]
  exact blames

/-- What is said of a commit that was given up leaves open what becomes of it. So it is
still true when the store carries it out. -/
theorem Course.Tells.late {p : Point} (tells : c.Tells limit p) (adrift : c.adrift = true) :
    Course.Tells limit { c with adrift := false, stored := true } p := by
  have blames {commit : CommitError} (blames : c.Blames limit commit) :
      Course.Blames limit { c with adrift := false, stored := true } commit := by
    cases commit with
    | store cause => exact absurd adrift (by simp [blames.2])
    | timeout span => exact blames
  match p with
  | .committing .out => exact absurd adrift (by simp [tells.2])
  | .committing (.carriedOut _) => exact absurd adrift (by simp [tells.2])
  | .restoring .. => exact blames tells
  | .ended .persisted => exact absurd adrift (by simp [tells.2.1])
  | .ended (.compensated _) => exact blames tells
  | .ended (.compensationFailed _) => exact blames tells

theorem Course.Tells.putBackLate {p : Point} (tells : c.Tells limit p)
    (adrift : c.restoringAdrift = true) (reply : Goods × Except StoreError Unit) :
    Course.Tells limit { c with restoringAdrift := false, putBack := c.putBack ++ [reply] } p := by
  match p with
  | .committing .out => exact tells
  | .committing (.carriedOut _) => exact tells
  | .restoring .. => exact tells
  | .ended .persisted => exact absurd adrift (by simp [tells.2.2.2])
  | .ended (.compensated _) => exact tells
  | .ended (.compensationFailed _) => exact tells

/-- Every step keeps the settlement sound, a call that is carried out late as well. The
point only ever says what no late call can make false. -/
theorem Step.sound (step : Step order limit c c') (sound : c.Sound order limit) :
    c'.Sound order limit := by
  obtain ⟨unique, tells, once, goods⟩ := sound
  cases step with
  | @committed reply here =>
      rw [here] at tells once
      obtain ⟨stored, adrift⟩ := tells
      cases reply with
      | ok _ =>
          simp only [Point.toPutBack] at once
          have putBack : c.putBack = [] := List.length_eq_zero_iff.mp (by omega)
          have restoringAdrift : c.restoringAdrift = false := Bool.toNat_eq_zero.mp (by omega)
          refine ⟨unique, ⟨stored.mpr rfl, adrift, putBack, restoringAdrift⟩, ?_, goods⟩
          change c.putBack.length + c.restoringAdrift.toNat + 0 ≤ 1
          omega
      | error e =>
          have notStored : c.stored = false := by simpa using stored
          exact ⟨unique, ⟨notStored, adrift⟩, once, goods⟩
  | commitExpires here =>
      rw [here] at once
      exact ⟨unique, rfl, once, goods⟩
  | @restored commit reply here =>
      rw [here] at tells once
      exact ⟨unique, tells_restored tells, once, goods⟩
  | @restoreExpires commit call here =>
      rw [here] at tells once
      refine ⟨unique, tells_restored tells, ?_, goods⟩
      cases call with
      | out =>
          simp only [Point.toPutBack, Bool.toNat_true] at once ⊢
          omega
      | carriedOut reply =>
          simp only [Point.toPutBack, Bool.toNat_false] at once ⊢
          omega
  | commit here new =>
      rw [here] at tells once
      exact ⟨fun both => by simp [new] at both, ⟨iff_of_true rfl rfl, tells.2⟩, once, goods⟩
  | commitRefused e here =>
      rw [here] at tells once
      exact ⟨unique, ⟨by simp [tells.1], tells.2⟩, once, goods⟩
  | @putBack commit reply here =>
      rw [here] at tells once
      refine ⟨unique, tells, ?_, List.forall_mem_append.mpr
        ⟨goods, List.forall_mem_singleton.mpr rfl⟩⟩
      simp only [Point.toPutBack, List.length_append, List.length_singleton] at once ⊢
      omega
  | commitLate adrift new =>
      exact ⟨fun both => by simp [new] at both, tells.late adrift, once, goods⟩
  | putBackLate reply adrift =>
      refine ⟨unique, tells.putBackLate adrift _, ?_, List.forall_mem_append.mpr
        ⟨goods, List.forall_mem_singleton.mpr rfl⟩⟩
      simp only [adrift, Bool.toNat_true, Bool.toNat_false, List.length_append,
        List.length_singleton] at once ⊢
      omega
  | elsewhere new => exact ⟨fun both => by simp [new] at both, tells, once, goods⟩

/-- A settlement is sound in every course, by induction on its steps. -/
theorem Reachable.sound (reached : Reachable order limit c) : c.Sound order limit := by
  induction reached with
  | start => exact ⟨by simp, ⟨rfl, rfl⟩, Nat.le_refl 1, by simp⟩
  | step _ step ih => exact step.sound ih

theorem commit?_eq_none : outcome.commit? = none ↔ outcome = .persisted := by
  cases outcome <;> simp [Outcome.commit?]

/-- An order that is told of as persisted is stored, and its stock was not put back. -/
theorem stored_of_persisted (reached : Reachable order limit c)
    (here : c.point = .ended .persisted) : c.stored = true ∧ c.putBack = [] := by
  have tells := reached.sound.tells
  rw [here] at tells
  exact ⟨tells.1, tells.2.2.1⟩

/-- A commit that stored the order all the same was given up. No store says no to what
it does. -/
theorem cutOff_of_stored (reached : Reachable order limit c) (here : c.point = .ended outcome)
    (failed : outcome ≠ .persisted) (stored : c.stored = true) : c.CutOff limit outcome := by
  have tells := reached.sound.tells
  obtain ⟨commit, blamed⟩ := Option.ne_none_iff_exists'.mp (mt commit?_eq_none.mp failed)
  rw [here, Course.Tells, blamed] at tells
  cases commit with
  | store cause => exact absurd stored (by simp [tells.1])
  | timeout span => exact ⟨stored, tells ▸ blamed⟩

/-- An outcome agrees with what is stored unless the limit cut the commit off from its reply, or
somebody else has stored an order with the same identifier; and it is only then that the stock of
an order that is stored is put back. -/
theorem persisted_iff (reached : Reachable order limit c) (here : c.point = .ended outcome) :
    ((outcome = .persisted ↔ c.Exists) ↔ ¬ (c.CutOff limit outcome ∨ c.taken = true)) ∧
      ((outcome ≠ .persisted → c.stored = false) ↔ ¬ c.CutOff limit outcome) ∧
      (c.Raised → c.Exists → c.CutOff limit outcome ∨ c.taken = true) ∧
      c.putBack.length ≤ 1 ∧ ∀ p ∈ c.putBack, p.1 = order.goods := by
  have sound := reached.sound
  have once : c.putBack.length ≤ 1 := by
    have once := sound.once
    omega
  by_cases persisted : outcome = .persisted
  · subst persisted
    obtain ⟨stored, putBack⟩ := stored_of_persisted reached here
    have notTaken : c.taken = false := by simpa [stored] using sound.unique
    have notCut : ¬ c.CutOff limit .persisted := fun cut => by cases cut.2
    refine ⟨iff_of_true (iff_of_true rfl (.inl stored)) ?_, iff_of_true ?_ notCut, ?_, once,
      sound.goods⟩
    · rintro (cut | taken)
      · exact notCut cut
      · rw [notTaken] at taken
        cases taken
    · exact fun other => absurd rfl other
    · rintro ⟨goods, raised⟩
      rw [putBack] at raised
      cases raised
  · have cut : c.stored = true ↔ c.CutOff limit outcome :=
      ⟨cutOff_of_stored reached here persisted, And.left⟩
    have exists_iff : c.Exists ↔ c.CutOff limit outcome ∨ c.taken = true := or_congr_left cut
    refine ⟨?_, ?_, fun _ => exists_iff.mp, once, sound.goods⟩
    · rw [iff_false_left persisted, exists_iff]
    · rw [← cut, Bool.not_eq_true]
      exact ⟨fun none => none persisted, fun none _ => none⟩

/-- The order is stored, and the limit comes before the settlement is told. -/
theorem persisted_iff_cutOff :
    let order : Order := .pending ⟨1⟩ "ann" "tea" 2 (.ofMillis 0)
    let limit : Duration := .ofMillis 5000
    let outcome : Outcome := .compensated (.timeout limit)
    let c : Course :=
      { point := .ended outcome, stored := true, putBack := [(("tea", 2), .ok ())] }
    Reachable order limit c ∧ c.point = .ended outcome ∧ c.CutOff limit outcome ∧
      c.taken = false ∧ c.Raised ∧ c.Exists ∧ ¬ (outcome = .persisted ↔ c.Exists) := by
  intro order limit outcome c
  have reached : Reachable order limit c :=
    (((Reachable.start.step (.commit rfl rfl)).step (.commitExpires rfl)).step
      (.putBack (.ok ()) rfl)).step (@Step.restored _ _ _ (.timeout limit) (.ok ()) rfl)
  have cut : c.CutOff limit outcome := ⟨rfl, rfl⟩
  have disagrees := (persisted_iff reached rfl).1
  exact ⟨reached, rfl, cut, rfl, ⟨_, List.mem_singleton.mpr rfl⟩, .inl rfl,
    fun agrees => disagrees.mp agrees (.inl cut)⟩

end Step

end Settlement

end FlashSale

import FlashSale.Proofs.Sale.Soundness

/-!
# No stock is lost without a report

The counter of an item is set once, at any time of a course, and never changed
directly again. Whatever happens then, each unit is on the counter, held by a
purchase, on its way back, in the queue, with a worker, persisted, or reported lost by
a critical event, and in one of these places only.

Before the counter is set nothing is out: without a counter no purchase gets stock.
-/

namespace FlashSale.Sale

variable {reservations : Reservations} {ledger : Ledger} {workers capacity commitLimit : Nat}
  {s₀ s : Sale} {item : String} {c : Int32}

/-- An item whose total is zero has no stock anywhere. None of the places can make up
for another one. -/
theorem Sound.nothing_out (sound : s.Sound) (none : s.total item = 0)
    (nonneg : 0 ≤ s.counter item) : s.counter item = 0 ∧ s.out item = 0 := by
  have whole := s.total_eq item
  have held := sound.held_nonneg item
  have returning := sound.returning_nonneg item
  have buffered := sound.buffered_nonneg item
  have settling := sound.settling_nonneg item
  have persisted := sound.persisted_nonneg item
  have lost := sound.lost_nonneg item
  unfold out at whole ⊢
  omega

/-- Setting the counter of an item of which there is nothing makes it the total of the
item. From then on only purchases move it about. -/
theorem Sound.setStock (sound : s.Sound) (none : s.total item = 0) (nonneg : 0 ≤ s.counter item)
    (available : s.reservations.unavailable = false) :
    (s.perform (.reserve (.setStock item c))).Sound ∧
      (s.perform (.reserve (.setStock item c))).total item = c.toInt ∧
      (s.perform (.reserve (.setStock item c))).counter item = c.toInt := by
  obtain ⟨empty, out⟩ := sound.nothing_out none nonneg
  have written (other : String) : (s.reservations.call s.now (.setStock item c)).counter other =
      if other = item then c.toInt else s.counter other := by
    change (s.reservations.setStock item c).2.counter other = _
    rw [Reservations.setStock_counters available, Reservations.counter_insert,
      Int32.toInt_toInt64]
    rfl
  have kept : (s.perform (.reserve (.setStock item c))).Sound := by
    refine sound.aside (fun other => ?_) rfl rfl fun ends => ends
    have upper := c.toInt_lt
    have room := sound.room other
    rw [written]
    split
    · rename_i same
      subst same
      omega
    · exact room
  have counter : (s.perform (.reserve (.setStock item c))).counter item = c.toInt :=
    (written item).trans (if_pos rfl)
  refine ⟨kept, ?_, counter⟩
  have before := s.total_eq item
  have after := (s.perform (.reserve (.setStock item c))).total_eq item
  have rest : (s.perform (.reserve (.setStock item c))).out item = s.out item ∧
      (s.perform (.reserve (.setStock item c))).persisted item = s.persisted item ∧
      (s.perform (.reserve (.setStock item c))).lost item = s.lost item := ⟨rfl, rfl, rfl⟩
  omega

/-- The counter of the item is set once in a permitted course of a pipeline. Before and
after that nobody changes it directly. -/
structure SetOnce (s₀ : Sale) (item : String) (c : Int32) (before rest : List Action) : Prop where
  nonneg : 0 ≤ c.toInt
  unset : s₀.reservations.stock? item = none
  available : (s₀.after before).reservations.unavailable = false
  first : Obeys Permits s₀ before
  second : Obeys Permits (s₀.after (before ++ [.reserve (.setStock item c)])) rest
  untouched : ∀ a ∈ before ++ rest, ¬ a.Restocks item

/-- From the moment the counter is set its value is the total of the item. The actions
before it add nothing to a total of zero. -/
theorem SetOnce.total {before rest : List Action} (once : SetOnce s₀ item c before rest)
    (opened : pipeline? reservations ledger workers capacity commitLimit = some s₀)
    (below : (s₀.after (before ++ .reserve (.setStock item c) :: rest)).ledger.VersionsBelowLimit) :
    (s₀.after (before ++ .reserve (.setStock item c) :: rest)).Sound ∧
      (s₀.after (before ++ .reserve (.setStock item c) :: rest)).total item = c.toInt ∧
      0 ≤ (s₀.after (before ++ .reserve (.setStock item c) :: rest)).counter item := by
  obtain ⟨sound, start⟩ := pipeline?_sound opened
  have unset : s₀.counter item = 0 := by
    unfold counter Reservations.counter
    rw [once.unset]
    rfl
  have early : ∀ a ∈ before, ¬ a.Restocks item :=
    fun a ha => once.untouched a (List.mem_append_left _ ha)
  have late : ∀ a ∈ rest, ¬ a.Restocks item :=
    fun a ha => once.untouched a (List.mem_append_right _ ha)
  have second := once.second
  rw [after_append, after_cons] at below ⊢
  rw [after_append, after_cons, after_nil] at second
  have below₂ := after_versions _ below
  have below₁ : (s₀.after before).ledger.VersionsBelowLimit := below₂
  -- Up to the call there is nothing of the item, and after it there is what was set.
  obtain ⟨none, nonneg⟩ := sound.total_after once.first below₁ early unset.ge
  have zero : (s₀.after before).total item = 0 := by
    rw [none, start]
    exact unset
  obtain ⟨kept, total, counter⟩ :=
    (sound.after once.first below₁).setStock zero nonneg once.available
  have positive := once.nonneg
  obtain ⟨total', nonneg'⟩ := kept.total_after second below late (by omega)
  exact ⟨kept.after second below, total'.trans total, nonneg'⟩

/-- The places in which a unit of an item can be hold together what the counter was set
to, and none of them holds less than nothing. So a unit is in one place at a time, and
none is lost without a report. -/
theorem stock_conserved (opened : pipeline? reservations ledger workers capacity commitLimit = some s₀)
    {before rest : List Action} (once : SetOnce s₀ item c before rest)
    (reached : s = s₀.after (before ++ .reserve (.setStock item c) :: rest))
    (below : s.ledger.VersionsBelowLimit) :
    s.counter item + s.held item + s.returning item + s.buffered item + s.settling item +
        s.persisted item + s.lost item = c.toInt ∧
      0 ≤ s.counter item ∧ 0 ≤ s.held item ∧ 0 ≤ s.returning item ∧ 0 ≤ s.buffered item ∧
      0 ≤ s.settling item ∧ 0 ≤ s.persisted item ∧ 0 ≤ s.lost item := by
  subst reached
  obtain ⟨sound, total, nonneg⟩ := once.total opened below
  refine ⟨?_, nonneg, sound.held_nonneg item, sound.returning_nonneg item,
    sound.buffered_nonneg item, sound.settling_nonneg item, sound.persisted_nonneg item,
    sound.lost_nonneg item⟩
  rw [total_eq, out] at total
  omega

theorem startWorkers_reservations (s : Sale) (r : Reservations) (workers : Nat) :
    startWorkers { s with reservations := r } workers =
      { s.startWorkers workers with reservations := r } := by
  have spawns (count : Nat) :
      (List.range count).foldl (fun s _ => s.spawn (.receive .worker)) { s with reservations := r } =
        { (List.range count).foldl (fun s _ => s.spawn (.receive .worker)) s with
          reservations := r } := by
    induction count with
    | zero => rfl
    | succ count ih =>
        rw [List.range_succ, List.foldl_append, List.foldl_append, ih]
        rfl
  simp only [startWorkers, spawns, emit]

/-- A counter that is set before a pipeline starts might as well be set by its first
action. So `stock_conserved` is about such pipelines too. -/
theorem pipeline?_setStock (reservations : Reservations) (item : String) (c : Int32) :
    pipeline? (reservations.setStock item c).2 ledger workers capacity commitLimit =
      (pipeline? reservations ledger workers capacity commitLimit).map
        fun s => s.perform (.reserve (.setStock item c)) := by
  unfold pipeline?
  cases AdmissionQueue.open? capacity with
  | none => rfl
  | some queue =>
      let sale : Sale := { reservations, ledger, queue, commitLimit }
      have started := sale.startWorkers_reservations (reservations.setStock item c).2 workers
      obtain ⟨tasks, ready, eq, -⟩ := sale.startWorkers_eq workers
      rw [eq] at started
      change some ((startWorkers { sale with reservations := _ } workers).emit _) =
        some (((sale.startWorkers workers).emit _).perform _)
      rw [started, eq]
      rfl

/-- One purchase of two, which the only worker of the pipeline persists. -/
def oneSale : List Action :=
  [.start (.purchase ⟨"r1", "ann", "tea", 2⟩ false ⟨1⟩ .entering 0), .turn 1, .turn 1, .turn 1,
    .turn 1, .turn 0, .turn 0, .turn 0]

theorem stock_conserved_oneSale : ∃ s₀ s,
    pipeline? { ttl := 1000 } {} 1 1 5000 = some s₀ ∧
    SetOnce s₀ "tea" 5 [.seed "tea" 9] oneSale ∧
    s = s₀.after ([.seed "tea" 9] ++ .reserve (.setStock "tea" 5) :: oneSale) ∧
    s.ledger.VersionsBelowLimit ∧
    (s.counter "tea" + s.held "tea" + s.returning "tea" + s.buffered "tea" + s.settling "tea" +
        s.persisted "tea" + s.lost "tea" = (5 : Int32).toInt ∧
      0 ≤ s.counter "tea" ∧ 0 ≤ s.held "tea" ∧ 0 ≤ s.returning "tea" ∧ 0 ≤ s.buffered "tea" ∧
      0 ≤ s.settling "tea" ∧ 0 ≤ s.persisted "tea" ∧ 0 ≤ s.lost "tea") ∧
    s.counter "tea" = 3 ∧ s.persisted "tea" = 2 := by
  have once : ∀ s₀, pipeline? { ttl := 1000 } {} 1 1 5000 = some s₀ →
      SetOnce s₀ "tea" 5 [.seed "tea" 9] oneSale := by
    rintro _ ⟨⟩
    exact ⟨by decide, by decide, by decide, ⟨trivial, trivial⟩,
      ⟨rfl, trivial, trivial, trivial, trivial, trivial, trivial, trivial, trivial⟩,
      by simp [oneSale, Action.Restocks]⟩
  have conserved (s₀ : Sale) (opened : pipeline? { ttl := 1000 } {} 1 1 5000 = some s₀) :=
    stock_conserved opened (once s₀ opened) rfl
  exact ⟨_, _, rfl, once _ rfl, rfl, by decide, conserved _ rfl (by decide), by decide, by decide⟩

end FlashSale.Sale

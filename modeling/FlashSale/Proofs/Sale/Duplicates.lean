import FlashSale.Proofs.Reservations.Counters
import FlashSale.Proofs.Sale.Markings
import Mathlib.Data.List.Pairwise

/-!
# One admission for each request

A purchase is told that its request is a duplicate if and only if an earlier purchase
for the request wrote its marker less than a time to live ago. What became of that
purchase does not matter, and purchases for other requests do not either. So two
purchases for one request that both took stock are at least a time to live apart.
-/

namespace FlashSale.Sale

variable {s s' s'' : Sale} {me : TaskId} {t : Task} {turn : Turn}

/-- What somebody is told of a task that ends its step so. -/
def Turn.answers (me : TaskId) : Turn → List (TaskId × Answer)
  | .finish a => [(me, a)]
  | .crash => [(me, .crashed)]
  | _ => []

theorem Placed.answers_eq (placed : Placed s me t turn s') :
    s'.answers = s.answers ++ turn.answers me := by
  cases placed with
  | again => exact (List.append_nil _).symm
  | wait => exact (List.append_nil _).symm
  | finish => rfl
  | crash => rfl

/-- The turn of a task tells that its purchase is a duplicate. It is the only thing that
anybody is told in that turn. -/
def TellsDuplicate (s : Sale) (me : TaskId) (r : PurchaseRequest) (web : Bool) : Prop :=
  (s.stepTask me).answers =
    s.answers ++ [(me, .purchased r web (.error .duplicateRequest))]

theorem tellsDuplicate_iff {r : PurchaseRequest} {web : Bool}
    (found : s.tasks.get? me = some t) :
    s.TellsDuplicate me r web ↔
      (s.act me t).2 = .finish (.purchased r web (.error .duplicateRequest)) := by
  have placed := stepTask_placed found
  rw [TellsDuplicate, placed.answers_eq, (s.act_deed me t).frame.answers,
    List.append_cancel_left_eq]
  cases (s.act me t).2 <;> simp [Turn.answers]

/-- A purchase is told that it is a duplicate by the call that would write its marker.
No other stage leads there. -/
theorem act_duplicate_iff {r : PurchaseRequest} {web : Bool} {uuid : Uuid} {stage : Purchase.Stage}
    {due : Nat} :
    (s.act me (.purchase r web uuid stage due)).2 =
        .finish (.purchased r web (.error .duplicateRequest)) ↔
      stage = .marking ∧ due ≤ s.now ∧
        (s.reservations.mark s.now (idempotencyKey r.requestId)).1 = .answer (.ok false) := by
  constructor
  · intro told
    have inTime : due ≤ s.now := by
      by_contra later
      simp only [act, stepPurchase, if_pos (Nat.not_le.mp later)] at told
      cases told
    have deed := s.act_deed me (.purchase r web uuid stage due)
    rw [told] at deed
    generalize (s.act me (.purchase r web uuid stage due)).1 = s' at deed
    cases deed with
    | duplicate reply => exact ⟨rfl, inTime, congrArg Prod.fst reply⟩
  · rintro ⟨rfl, inTime, reply⟩
    simp only [act, stepPurchase, if_neg (Nat.not_lt.mpr inTime)]
    rw [reply]
    rfl

/-- The turn that tells a purchase that it is a duplicate changes no counter, no order that is
queued and nothing in the ledger. -/
theorem TellsDuplicate.unchanged {r : PurchaseRequest} {web : Bool} {uuid : Uuid}
    {stage : Purchase.Stage} {due : Nat}
    (found : s.tasks.get? me = some (.purchase r web uuid stage due))
    (told : s.TellsDuplicate me r web) :
    (s.stepTask me).reservations.counters = s.reservations.counters ∧
      (s.stepTask me).queue = s.queue ∧ (s.stepTask me).ledger = s.ledger := by
  have finish := (tellsDuplicate_iff found).mp told
  have placed := stepTask_placed found
  have deed := s.act_deed me (.purchase r web uuid stage due)
  rw [finish] at deed placed
  generalize (s.act me (.purchase r web uuid stage due)).1 = s' at deed placed
  generalize s.stepTask me = s'' at placed ⊢
  cases deed with
  | duplicate reply =>
      cases placed with
      | finish after =>
          refine ⟨?_, after.eq_of_not_receiver rfl, rfl⟩
          have kept := s.reservations.mark_counters s.now (idempotencyKey r.requestId)
          rw [reply] at kept
          exact kept

/-- What the markers of a course come to for those who make purchases. The notes of the
course tell who wrote a marker and who took stock. -/
structure AdmitsOnce (s : Sale) (work : List Note) : Prop where
  /-- A purchase that asks for something goes on to write its marker. -/
  asks : ∀ me r web uuid due, s.tasks.get? me = some (.purchase r web uuid .entering due) →
    due ≤ s.now → 0 < r.quantity.toInt →
    (s.stepTask me).tasks.get? me =
      some (.purchase r web uuid .marking (s.now + s.latency.mark))
  /-- A purchase is told that it is a duplicate when it would write its marker, if another purchase
  for its request wrote one less than a time to live ago. -/
  verdict : ∀ me r web uuid stage due,
    s.tasks.get? me = some (.purchase r web uuid stage due) →
    (s.TellsDuplicate me r web ↔
      stage = .marking ∧ due ≤ s.now ∧ s.reservations.unavailable = false ∧
        ∃ buyer time, buyer ≠ me ∧ .marked buyer r.requestId time ∈ work ∧
          s.now < time + s.reservations.ttl)
  unchanged : ∀ me r web uuid stage due,
    s.tasks.get? me = some (.purchase r web uuid stage due) → s.TellsDuplicate me r web →
    (s.stepTask me).reservations.counters = s.reservations.counters ∧
      (s.stepTask me).queue = s.queue ∧ (s.stepTask me).ledger = s.ledger
  /-- Two purchases for a request that both took stock wrote their markers a time to live apart. -/
  apart : ∀ buyer buyer' requestId, buyer ≠ buyer' → .reserved buyer requestId ∈ work →
    .reserved buyer' requestId ∈ work →
    (∃ time, .marked buyer requestId time ∈ work) ∧
    (∃ time, .marked buyer' requestId time ∈ work) ∧
    ∀ time time', .marked buyer requestId time ∈ work → .marked buyer' requestId time' ∈ work →
      time + s.reservations.ttl ≤ time' ∨ time' + s.reservations.ttl ≤ time

variable {work : List Note}

/-- Two markers are for different requests or were written a time to live apart. -/
def Apart (ttl : Nat) (m m' : TaskId × String × Nat) : Prop :=
  m.2.1 = m'.2.1 → m.2.2 + ttl ≤ m'.2.2 ∨ m'.2.2 + ttl ≤ m.2.2

instance (ttl : Nat) : Std.Symm (Apart ttl) where
  symm _ _ apart same := (apart same.symm).symm

/-- Two markers for a request that were written at all are a time to live apart. The
store would not have let the second one in before. -/
theorem Marked.apart (marked : Marked s work) {m m' : TaskId × String × Nat}
    (first : m ∈ markings work) (second : m' ∈ markings work) (differ : m ≠ m') :
    Apart s.reservations.ttl m m' := by
  have ordered := List.pairwise_map.mp marked.remembers.apart
  have apart : (markings work).Pairwise (Apart s.reservations.ttl) :=
    ordered.imp fun later same => .inl (later same)
  exact apart.forall first second differ

/-- All this is read off what the store remembers and what the notes say of it. -/
theorem Marked.admitsOnce (marked : Marked s work)
    (fits : s.now + s.reservations.ttl ≤ Reservations.clockEnd) : AdmitsOnce s work := by
  constructor
  case asks =>
    intro me r web uuid due found inTime positive
    have placed := stepTask_placed found
    have fit : ¬ r.quantity ≤ 0 := by
      rw [Int32.le_iff_toInt_le]
      exact Int.not_le.mpr positive
    have goes : (s.act me (.purchase r web uuid .entering due)).2 =
        .again (.purchase r web uuid .marking (s.now + s.latency.mark)) := by
      simp only [act, stepPurchase, if_neg (Nat.not_lt.mpr inTime), Purchase.entered, if_neg fit]
      rfl
    rw [goes] at placed
    generalize s.stepTask me = s' at placed ⊢
    cases placed
    exact Table.get?_insert_self ..
  case verdict =>
    intro me r web uuid stage due found
    rw [tellsDuplicate_iff found, act_duplicate_iff, marked.remembers.mark_ok_false_iff fits]
    refine and_congr_right fun marking => and_congr_right fun _ => and_congr_right fun _ => ?_
    constructor
    · rintro ⟨⟨requestId, time⟩, member, rfl, fresh⟩
      obtain ⟨⟨buyer, written⟩, noted, rfl⟩ := List.mem_map.mp member
      have other := marked.early me r web uuid stage due found (.inr marking) _ noted
      exact ⟨buyer, time, other, mem_markings.mp noted, fresh⟩
    · rintro ⟨buyer, time, -, member, fresh⟩
      exact ⟨(r.requestId, time), List.mem_map_of_mem (mem_markings.mpr member), rfl, fresh⟩
  case unchanged => exact fun me r web uuid stage due found told => told.unchanged found
  case apart =>
    intro buyer buyer' requestId other first second
    obtain ⟨time, member⟩ := marked.reserved buyer requestId first
    obtain ⟨time', member'⟩ := marked.reserved buyer' requestId second
    refine ⟨⟨time, mem_markings.mp member⟩, ⟨time', mem_markings.mp member'⟩, ?_⟩
    intro time time' first second
    have differ : (buyer, requestId, time) ≠ (buyer', requestId, time') :=
      fun same => other (congrArg Prod.fst same)
    exact marked.apart (mem_markings.mpr first) (mem_markings.mpr second) differ rfl

/-- In a course in which only purchases write markers, a purchase is a duplicate exactly
while another purchase's marker for its request is live. It does not matter what became
of that purchase. -/
theorem admitted_once {s₀ : Sale} {actions : List Action} (unmarked : s₀.Unmarked)
    (allowed : Obeys MarksByPurchase s₀ actions) (reached : s = s₀.after actions)
    (fits : s.now + s.reservations.ttl ≤ Reservations.clockEnd) :
    AdmitsOnce s (s₀.history actions) := by
  subst reached
  exact (unmarked.after allowed).admitsOnce fits

/-- A purchase finds nothing in stock; its buyer asks again a millisecond before the marker of the
first attempt expires. -/
def secondTry : List Action :=
  [.start (.purchase ⟨"r1", "ann", "tea", 2⟩ false ⟨1⟩ .entering 0), .turn 1, .turn 1, .turn 1,
    .elapse 999, .start (.purchase ⟨"r1", "ann", "tea", 2⟩ true ⟨2⟩ .entering 0), .turn 2]

theorem admitted_once_secondTry : ∃ s₀ s,
    pipeline? { ttl := 1000 } {} 1 1 5000 = some s₀ ∧ s₀.Unmarked ∧
    Obeys MarksByPurchase s₀ secondTry ∧ s = s₀.after secondTry ∧
    s.now + s.reservations.ttl ≤ Reservations.clockEnd ∧ AdmitsOnce s (s₀.history secondTry) ∧
    s.TellsDuplicate 2 ⟨"r1", "ann", "tea", 2⟩ true ∧
    ¬ (s.perform (.elapse 1)).TellsDuplicate 2 ⟨"r1", "ann", "tea", 2⟩ true := by
  have allowed (s₀ : Sale) : Obeys MarksByPurchase s₀ secondTry :=
    ⟨rfl, trivial, trivial, trivial, trivial, rfl, trivial, trivial⟩
  have unmarked (s₀ : Sale) (opened : pipeline? { ttl := 1000 } {} 1 1 5000 = some s₀) :
      s₀.Unmarked := pipeline?_unmarked rfl opened
  refine ⟨_, _, rfl, unmarked _ rfl, allowed _, rfl, by decide,
    admitted_once (unmarked _ rfl) (allowed _) rfl (by decide), rfl, fun told => ?_⟩
  have longer := congrArg List.length told
  revert longer
  decide

end FlashSale.Sale

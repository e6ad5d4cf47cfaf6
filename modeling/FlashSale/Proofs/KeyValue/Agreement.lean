import FlashSale.Proofs.KeyValue.Session
import FlashSale.Proofs.Reservations.Markers

/-!
# Two reservation stores that agree

The reservation store in memory and the one on a key-value server, asked the same calls at
the same times, answer alike and hold the same counter for each item. Memory keeps counters
and markers in two tables and sweeps expired markers out now and then; the server has one
key space and drops each key at its own time.

Markers are compared by what is live from now on, so that a sweep makes no difference. The
clock of the server shows a time of its own at the start of the service.
-/

namespace FlashSale

/-- No key is both that of a counter and that of a marker. The two prefixes differ. -/
theorem stockKey_ne_idempotencyKey (item requestId : String) :
    stockKey item ≠ idempotencyKey requestId := by
  intro same
  have first := congrArg (fun key : String => key.toList.head?) same
  simp [stockKey, idempotencyKey, stockKeyPrefix, idempotencyKeyPrefix] at first

theorem stockKey_injective {item item' : String} (same : stockKey item = stockKey item') :
    item = item' := (String.append_right_inj stockKeyPrefix).mp same

namespace Reservations

/-- The counters are numbers of 53 binary digits. The script reads such numbers exactly,
and others perhaps not. -/
def CountersExact (s : Reservations) : Prop :=
  ∀ item n, s.stock? item = some n → n.toInt.natAbs ≤ 9007199254740992

instance (s : Reservations) : Decidable s.CountersExact :=
  decidable_of_iff (∀ e ∈ s.counters.entries, e.2.toInt.natAbs ≤ 9007199254740992)
    ⟨fun h item n found => h (item, n) (Table.get?_eq_some_iff.mp found),
      fun h e he => h e.1 e.2 (Table.get?_eq_some_iff.mpr he)⟩

end Reservations

/-- A call writes a marker only under the key of a request. -/
def ReservationCall.Keyed : ReservationCall → Prop
  | .mark key => ∃ requestId, key = idempotencyKey requestId
  | _ => True

namespace KeyValue

/-- The server, whose clock shows `opened` when the service starts, has what the store in memory
has: the same counters, and the same markers live from now on. -/
structure Matches (seconds opened now : Nat) (s : Reservations) (server : Server) : Prop where
  ttl : s.ttl = 1000 * seconds
  counters : ∀ item, server.entries.get? (stockKey item) = (s.stock? item).map (⟨·, none⟩)
  markers : ∀ requestId time, now ≤ time →
    ((server.find? (opened + time) (idempotencyKey requestId)).isSome = true ↔
      s.Holds time (idempotencyKey requestId))
  available : s.unavailable = false
  increments : s.failIncrements = false

namespace Matches

variable {opened now seconds : Nat} {s s' : Reservations} {server server' : Server} {item : String}
  {quantity : Int32}

theorem find?_stock (same : Matches seconds opened now s server) (item : String) (time : Nat) :
    server.find? time (stockKey item) = (s.stock? item).map (⟨·, none⟩) := by
  rw [Server.find?, same.counters]
  cases s.stock? item <;> rfl

/-- What the two stores have in common they still have later, as a marker is compared by
the times to come. -/
theorem later (same : Matches seconds opened now s server) {now' : Nat} (passed : now ≤ now') :
    Matches seconds opened now' s server :=
  { same with markers := fun requestId time later =>
      same.markers requestId time (Nat.le_trans passed later) }

/-- What scripts the server has makes no difference. A call finds out by itself whether
it has to load one. -/
theorem entries (same : Matches seconds opened now s server)
    (kept : server'.entries = server.entries) : Matches seconds opened now s server' where
  counters := by
    rw [kept]
    exact same.counters
  markers := by
    simp only [Server.find?, kept]
    exact same.markers
  ttl := same.ttl
  available := same.available
  increments := same.increments

/-- Both write the same counter. No marker is under its key, and no other counter. -/
theorem writeCounter (same : Matches seconds opened now s server) (item : String) (n : Int64) :
    Matches seconds opened now { s with counters := s.counters.insert item n }
      (server.write (stockKey item) ⟨n, none⟩) where
  counters other := by
    simp only [Server.write, Reservations.stock?, Table.get?_insert]
    by_cases this : other = item
    · simp [this]
    · have apart : stockKey other ≠ stockKey item := fun equal => this (stockKey_injective equal)
      rw [if_neg apart, if_neg this]
      exact same.counters other
  markers requestId time later := by
    have apart := (stockKey_ne_idempotencyKey item requestId).symm
    rw [Server.find?, Server.write, Table.get?_insert, if_neg apart]
    exact same.markers requestId time later
  ttl := same.ttl
  available := same.available
  increments := same.increments

/-- Both write the same marker. It expires at the same moment on either clock, and no
counter is under its key. -/
theorem writeMarker (same : Matches seconds opened now s server) (requestId : String)
    (expiry : Nat) : Matches seconds opened now
      { s with markers := s.markers.insert (idempotencyKey requestId) expiry }
      (server.write (idempotencyKey requestId) ⟨1, some (opened + expiry)⟩) where
  counters item := by
    rw [Server.write, Table.get?_insert, if_neg (stockKey_ne_idempotencyKey item requestId)]
    exact same.counters item
  markers other time later := by
    rw [Reservations.holds_write, Server.find?, Server.write, Table.get?_insert]
    by_cases this : other = requestId
    · subst this
      simp
    · have apart : idempotencyKey other ≠ idempotencyKey requestId :=
        fun equal => this (idempotencyKey_injective equal)
      rw [if_neg apart, if_neg apart]
      exact same.markers other time later
  ttl := same.ttl
  available := same.available
  increments := same.increments

/-- A sweep of the memory is not seen. The server has no part in it. -/
theorem sweep (same : Matches seconds opened now s server) (swept : s.Swept now s')
    (kept : s.SameCounters s') : Matches seconds opened now s' server where
  ttl := swept.ttl.trans same.ttl
  counters item := by
    rw [same.counters, Reservations.stock?, Reservations.stock?, kept.counters]
  markers requestId time later := by
    rw [same.markers requestId time later, swept.holds_later later]
  available := kept.unavailable.trans same.available
  increments := kept.failIncrements.trans same.increments

end Matches

/-- A call is answered alike by the store in memory and the store on a server, which
match each other afterwards. The server is asked when its clock shows the same time
since the start. -/
def AnsweredAlike (seconds opened now : Nat) (s : Reservations) (server : Server)
    (c : ReservationCall) : Prop :=
  ∃ reply s' server', s.handle now c = (some reply, s') ∧
    Dialogue.run (Server.serve (opened + now)) (handle (.ofSeconds seconds) c) server =
      (reply, server') ∧
    Matches seconds opened now s' server'

namespace Matches

variable {opened now seconds : Nat} {s s' : Reservations} {server server' : Server} {item : String}
  {quantity : Int32}

theorem setStock (same : Matches seconds opened now s server) :
    AnsweredAlike seconds opened now s server (.setStock item quantity) := by
  have memory : s.handle now (.setStock item quantity) = (some (.unit (.ok ())), { s with
      counters := s.counters.insert item quantity.toInt64 }) := by
    simp [Reservations.handle, Reservations.setStock, same.available]
  have answered : Dialogue.run (Server.serve (opened + now))
      (handle (.ofSeconds seconds) (.setStock item quantity)) server =
        (.unit (.ok ()), server.write (stockKey item) ⟨quantity.toInt64, none⟩) := by
    simp only [handle, run_bind, setStock_served, run_pure]
  exact ⟨_, _, _, memory, answered, same.writeCounter item quantity.toInt64⟩

theorem putBack (same : Matches seconds opened now s server) (exact : s.CountersExact) :
    AnsweredAlike seconds opened now s server (.putBack item quantity) := by
  have found := same.find?_stock item (opened + now)
  have start : ((server.find? (opened + now) (stockKey item)).elim 0 fun e => e.amount.toInt) =
      ((s.counters.get? item).getD 0).toInt := by
    rw [found, Reservations.stock?]
    cases s.counters.get? item <;> rfl
  have expiry : (server.find? (opened + now) (stockKey item)).bind Entry.expiry = none := by
    rw [found]
    cases s.stock? item <;> rfl
  obtain ⟨total, fits⟩ : ∃ total,
      word64? (((s.counters.get? item).getD 0).toInt + quantity.toInt) = some total := by
    have lower := quantity.le_toInt
    have upper := quantity.toInt_lt
    have held : ((s.counters.get? item).getD 0).toInt.natAbs ≤ 9007199254740992 := by
      cases known : s.counters.get? item with
      | none => decide
      | some n => exact exact item n known
    exact exists_word64? (by omega) (by omega)
  have memory : s.handle now (.putBack item quantity) = (some (.unit (.ok ())), { s with
      counters := s.counters.insert item total }) := by
    simp [Reservations.handle, Reservations.putBack, same.available, same.increments, fits]
  have served := putBack_served (start ▸ fits)
  rw [expiry] at served
  have answered : Dialogue.run (Server.serve (opened + now))
      (handle (.ofSeconds seconds) (.putBack item quantity)) server =
        (.unit (.ok ()), server.write (stockKey item) ⟨total, none⟩) := by
    simp only [handle, run_bind, served, run_pure]
  exact ⟨_, _, _, memory, answered, same.writeCounter item total⟩

section Take

variable (same : Matches seconds opened now s server) (stocked : server.Stocked)

include same

theorem running : Matches seconds opened now s server.running := same.entries rfl

theorem find?_held {held : Int64} (known : s.counters.get? item = some held) :
    server.find? (opened + now) (stockKey item) = some ⟨held, none⟩ := by
  rw [same.find?_stock, Reservations.stock?, known]
  rfl

include stocked

theorem take_unknown (unknown : s.counters.get? item = none) :
    AnsweredAlike seconds opened now s server (.take item quantity) := by
  have missing : server.find? (opened + now) (stockKey item) = none := by
    rw [same.find?_stock, Reservations.stock?, unknown]
    rfl
  have memory : s.handle now (.take item quantity) = (some (.flag (.ok false)), s) := by
    simp [Reservations.handle, Reservations.take, same.available, unknown]
  have answered : Dialogue.run (Server.serve (opened + now))
      (handle (.ofSeconds seconds) (.take item quantity)) server =
        (.flag (.ok false), server.running) := by
    simp only [handle, run_bind, take_missing stocked missing, run_pure]
  exact ⟨_, _, _, memory, answered, same.running⟩

variable {held : Int64} (known : s.counters.get? item = some held)
  (exact : held.toInt.natAbs ≤ 9007199254740992)

include known exact

/-- A counter that does not cover the quantity is left alone by both, and both say no.
-/
theorem take_lacking (short : held.toInt < quantity.toInt) :
    AnsweredAlike seconds opened now s server (.take item quantity) := by
  have memory : s.handle now (.take item quantity) = (some (.flag (.ok false)), s) := by
    simp [Reservations.handle, Reservations.take, same.available, known, short]
  have answered : Dialogue.run (Server.serve (opened + now))
      (handle (.ofSeconds seconds) (.take item quantity)) server =
        (.flag (.ok false), server.running) := by
    simp only [handle, run_bind, take_short stocked (same.find?_held known) exact short, run_pure]
  exact ⟨_, _, _, memory, answered, same.running⟩

/-- A counter that covers the quantity is lowered by both, as the script compares the
numbers exactly. -/
theorem take_enough (covered : quantity.toInt ≤ held.toInt) :
    AnsweredAlike seconds opened now s server (.take item quantity) := by
  have lower := quantity.le_toInt
  have upper := quantity.toInt_lt
  obtain ⟨left, fits⟩ := exists_word64? (n := held.toInt - quantity.toInt) (by omega) (by omega)
  have memory : s.handle now (.take item quantity) = (some (.flag (.ok true)), { s with
      counters := s.counters.insert item left }) := by
    simp [Reservations.handle, Reservations.take, same.available, known, Int.not_lt.mpr covered,
      fits]
  have answered : Dialogue.run (Server.serve (opened + now))
      (handle (.ofSeconds seconds) (.take item quantity)) server =
        (.flag (.ok true), server.running.write (stockKey item) ⟨left, none⟩) := by
    simp only [handle, run_bind, take_covered stocked (same.find?_held known) exact covered fits,
      run_pure]
  exact ⟨_, _, _, memory, answered, same.running.writeCounter item left⟩

end Take

theorem take (same : Matches seconds opened now s server) (exact : s.CountersExact)
    (stocked : server.Stocked) :
    AnsweredAlike seconds opened now s server (.take item quantity) := by
  cases known : s.counters.get? item with
  | none => exact same.take_unknown stocked known
  | some held =>
      have few := exact item held known
      obtain short | covered := Int.lt_or_le held.toInt quantity.toInt
      · exact same.take_lacking stocked known few short
      · exact same.take_enough stocked known few covered

/-- A marker is written by both or by neither. The time to live is not zero, as the
server would have a second and memory nothing. -/
theorem mark (same : Matches seconds opened now s server) (positive : 0 < seconds)
    (fits : opened + now + 1000 * seconds ≤ Server.clockEnd) (requestId : String) :
    AnsweredAlike seconds opened now s server (.mark (idempotencyKey requestId)) := by
  have marking := s.mark_marking now (idempotencyKey requestId)
  have kept := s.mark_sameCounters now (idempotencyKey requestId)
  have live := same.markers requestId now (Nat.le_refl now)
  generalize marked : s.mark now (idempotencyKey requestId) = outcome at marking kept
  cases marking with
  | refused unavailable => exact absurd (same.available.symm.trans unavailable) (by decide)
  | overflowed swept outside =>
      rw [same.ttl, Reservations.clockEnd] at outside
      rw [Server.clockEnd] at fits
      omega
  | @held s' available swept holds =>
      have memory : s.handle now (.mark (idempotencyKey requestId)) =
          (some (.flag (.ok false)), s') := by
        simp only [Reservations.handle, marked]
        rfl
      have answered : Dialogue.run (Server.serve (opened + now))
          (handle (.ofSeconds seconds) (.mark (idempotencyKey requestId))) server =
            (.flag (.ok false), server) := by
        simp only [handle, run_bind, mark_found positive fits (live.mpr holds), run_pure]
      exact ⟨_, _, _, memory, answered, same.sweep swept kept⟩
  | @wrote s' available swept free =>
      have memory : s.handle now (.mark (idempotencyKey requestId)) =
          (some (.flag (.ok true)), { s' with
            markers := s'.markers.insert (idempotencyKey requestId) (now + 1000 * seconds) }) := by
        rw [← same.ttl, ← swept.ttl]
        simp only [Reservations.handle, marked]
        rfl
      have absent : (server.find? (opened + now) (idempotencyKey requestId)).isSome = false :=
        Bool.eq_false_iff.mpr fun found => free (live.mp found)
      have answered : Dialogue.run (Server.serve (opened + now))
          (handle (.ofSeconds seconds) (.mark (idempotencyKey requestId))) server =
            (.flag (.ok true), server.write (idempotencyKey requestId)
              ⟨1, some (opened + now + 1000 * seconds)⟩) := by
        simp only [handle, run_bind, mark_free positive fits absent, run_pure]
      have sweep := same.sweep swept ⟨kept.counters, kept.unavailable, kept.failIncrements⟩
      have written := sweep.writeMarker requestId (now + 1000 * seconds)
      rw [← Nat.add_assoc] at written
      exact ⟨_, _, _, memory, answered, written⟩

/-- One call leaves the two as they were to each other, whichever call it is. This is
the step of which `Matches.handleAll` is the run. -/
theorem handle (same : Matches seconds opened now s server) (positive : 0 < seconds)
    (fits : opened + now + 1000 * seconds ≤ Server.clockEnd) (exact : s.CountersExact)
    (stocked : server.Stocked) {c : ReservationCall} (keyed : c.Keyed) :
    AnsweredAlike seconds opened now s server c := by
  cases c with
  | setStock item quantity => exact same.setStock
  | take item quantity => exact same.take exact stocked
  | putBack item quantity => exact same.putBack exact
  | mark key =>
      obtain ⟨requestId, rfl⟩ := keyed
      exact same.mark positive fits requestId

end Matches

/-- A call, the time at which the two stores are asked, and whether the server has the script
when the call starts. -/
structure Occasion where
  time : Nat
  call : ReservationCall
  cached : Bool

end KeyValue

open KeyValue (Occasion)

/-- One call after another of the store in memory. -/
def Reservations.handleAll (s : Reservations) :
    List Occasion → List (Option ReservationReply) × Reservations
  | [] => ([], s)
  | o :: rest =>
    let (reply, s) := s.handle o.time o.call
    let (replies, s) := s.handleAll rest
    (reply :: replies, s)

namespace KeyValue

/-- A server of commands, and what becomes of its scripts while nobody asks it: when a call
starts, it has the script of the store or it does not. -/
structure Service (σ : Type) where
  serve : Nat → σ → Command → Reply × σ
  restock : Bool → σ → σ

/-- The model of a server, as a service. It has the script when it is told so, and no
other one. -/
def Server.service : Service Server where
  serve := Server.serve
  restock cached s := { s with scripts := if cached then [takeScript] else [] }

namespace Service

variable {σ : Type} (service : Service σ)

/-- One call of the store on a server, which may have lost its scripts before. -/
def handle (seconds opened : Nat) (s : σ) (o : Occasion) : ReservationReply × σ :=
  Dialogue.run (service.serve (opened + o.time)) (KeyValue.handle (.ofSeconds seconds) o.call)
    (service.restock o.cached s)

/-- One call after another of the store on a server. -/
def handleAll (seconds opened : Nat) (s : σ) : List Occasion → List ReservationReply × σ
  | [] => ([], s)
  | o :: rest =>
    let (reply, s) := service.handle seconds opened s o
    let (replies, s) := handleAll seconds opened s rest
    (reply :: replies, s)

/-- The server answers and changes as `Server` does. `R` says which states of `Server` stand for a
state of it from some moment on, so that it may drop a key when its time has come or later. What
it does with commands and scripts that are not the store's is left open. -/
structure Conforms (R : Nat → σ → Server → Prop) : Prop where
  replies : ∀ {now s m c key}, R now s m → Command.About key c →
    (service.serve now s c).1 = (m.serve now c).1
  changes : ∀ {now s m c key}, R now s m → Command.About key c →
    R now (service.serve now s c).2 (m.serve now c).2
  restocked : ∀ {now s m} cached, R now s m →
    R now (service.restock cached s) (Server.service.restock cached m)
  later : ∀ {now now' s m}, R now s m → now ≤ now' → R now' s m

end Service

/-- The model of a server conforms to itself, with a single state for each state. So
what is proved of all that conform is not proved of nothing. -/
theorem Server.service_conforms : Server.service.Conforms fun _ s m => s = m where
  replies related _ := by rw [related]; rfl
  changes related _ := by rw [related]; rfl
  restocked _ related := by rw [related]
  later related _ := related

section Course

variable {σ : Type} {service : Service σ} {R : Nat → σ → Server → Prop}
  {seconds opened start : Nat} {s : Reservations} {server : σ} {model : Server}
  {calls : List Occasion}

theorem handleAll_concat (seconds opened : Nat) (model : Server) (before : List Occasion)
    (o : Occasion) : (Server.service.handleAll seconds opened model (before ++ [o])).2 =
      (Server.service.handle seconds opened
        (Server.service.handleAll seconds opened model before).2 o).2 := by
  induction before generalizing model with
  | nil => rfl
  | cons first rest ih => exact ih (Server.service.handle seconds opened model first).2

theorem Server.stocked (s : Server) (cached : Bool) :
    (Server.service.restock cached s).Stocked := by
  cases cached
  · exact .inl rfl
  · exact .inr rfl

/-- A server that conforms brings back what the model of it does, and the model stands for it
from the time of the last call on. -/
theorem Service.Conforms.handleAll (conforms : service.Conforms R) (related : R start server model)
    (started : ∀ o ∈ calls, start ≤ opened + o.time) (ordered : calls.Pairwise (·.time ≤ ·.time)) :
    (service.handleAll seconds opened server calls).1 =
        (Server.service.handleAll seconds opened model calls).1 ∧
      ∀ time, start ≤ time → (∀ o ∈ calls, opened + o.time ≤ time) →
        R time (service.handleAll seconds opened server calls).2
          (Server.service.handleAll seconds opened model calls).2 := by
  induction calls generalizing server model start with
  | nil => exact ⟨rfl, fun time later _ => conforms.later related later⟩
  | cons o rest ih =>
      obtain ⟨first, ordered⟩ := List.pairwise_cons.mp ordered
      have now := conforms.restocked o.cached (conforms.later related (started o List.mem_cons_self))
      have follows := (handle_sends (.ofSeconds seconds) o.call).follows
      have step (s : σ) (m : Server) (c : Command) (related : R (opened + o.time) s m)
          (about : Command.About (keyOf o.call) c) :
          (service.serve (opened + o.time) s c).1 = (m.serve (opened + o.time) c).1 ∧
            R (opened + o.time) (service.serve (opened + o.time) s c).2
              (m.serve (opened + o.time) c).2 :=
        ⟨conforms.replies related about, conforms.changes related about⟩
      obtain ⟨reply, next⟩ := follows.run step now
      have later : ∀ o' ∈ rest, opened + o.time ≤ opened + o'.time := fun o' member =>
        Nat.add_le_add_left (first o' member) opened
      obtain ⟨replies, final⟩ := ih next later ordered
      refine ⟨congrArg₂ List.cons reply replies, fun time _ passed => ?_⟩
      obtain ⟨own, passed⟩ := List.forall_mem_cons.mp passed
      exact final time own passed

/-- Over a course of calls the replies of the two stores are the same one by one, and
the stores match at the end. The induction is on the calls. -/
theorem Matches.handleAll (same : Matches seconds opened start s model) (positive : 0 < seconds)
    (started : ∀ o ∈ calls, start ≤ o.time) (ordered : calls.Pairwise (·.time ≤ ·.time))
    (keyed : ∀ o ∈ calls, o.call.Keyed)
    (fits : ∀ o ∈ calls, opened + o.time + 1000 * seconds ≤ Server.clockEnd)
    (exact : ∀ before, before <+: calls → (s.handleAll before).2.CountersExact) :
    (s.handleAll calls).1 = (Server.service.handleAll seconds opened model calls).1.map some ∧
      ∃ time, Matches seconds opened time (s.handleAll calls).2
        (Server.service.handleAll seconds opened model calls).2 := by
  induction calls generalizing s model start with
  | nil => exact ⟨rfl, start, same⟩
  | cons o rest ih =>
      have now := started o List.mem_cons_self
      have kept : (Server.service.restock o.cached model).entries = model.entries := rfl
      have before := (same.later now).entries kept
      obtain ⟨reply, s', model', memory, answered, next⟩ := before.handle positive
        (fits o List.mem_cons_self) (exact [] List.nil_prefix) (model.stocked o.cached)
        (keyed o List.mem_cons_self)
      have served : Server.service.handle seconds opened model o = (reply, model') := answered
      obtain ⟨first, later⟩ := List.pairwise_cons.mp ordered
      have exact' : ∀ before, before <+: rest → (s'.handleAll before).2.CountersExact := by
        intro before within
        have whole := exact (o :: before) ((List.prefix_cons_inj o).mpr within)
        simpa only [Reservations.handleAll, memory] using whole
      obtain ⟨replies, time, final⟩ := ih next first later
        (fun o member => keyed o (List.mem_cons_of_mem _ member))
        (fun o member => fits o (List.mem_cons_of_mem _ member)) exact'
      simp only [Reservations.handleAll, Service.handleAll, memory, served, replies, List.map_cons]
      exact ⟨trivial, time, final⟩

end Course

/-- What the two stores have in common after these calls, the one in memory started on nothing.
What the server holds is told from its model, which stands for it all the while. -/
structure StoresAgree {σ : Type} (service : Service σ) (R : Nat → σ → Server → Prop)
    (seconds opened : Nat) (server : σ) (model : Server) (calls : List Occasion) : Prop where
  replies : (Reservations.handleAll { ttl := 1000 * seconds } calls).1 =
    (service.handleAll seconds opened server calls).1.map some
  modelled : ∀ before o, before ++ [o] <+: calls →
    R (opened + o.time) (service.handleAll seconds opened server (before ++ [o])).2
      (Server.service.handleAll seconds opened model (before ++ [o])).2
  counters : ∀ item,
    (Server.service.handleAll seconds opened model calls).2.entries.get? (stockKey item) =
      ((Reservations.handleAll { ttl := 1000 * seconds } calls).2.stock? item).map (⟨·, none⟩)
  /-- A call that takes stock runs the script once, and no other call runs it. -/
  once : ∀ before o, before ++ [o] <+: calls →
    (Server.service.handleAll seconds opened model (before ++ [o])).2.runs =
      (Server.service.handleAll seconds opened model before).2.runs +
        if o.call.isTake then 1 else 0
  /-- A call leaves what is under other keys. -/
  apart : ∀ before o, before ++ [o] <+: calls → ∀ key, key ≠ keyOf o.call →
    (Server.service.handleAll seconds opened model (before ++ [o])).2.entries.get? key =
      (Server.service.handleAll seconds opened model before).2.entries.get? key
  /-- No key is both that of a counter and that of a marker. -/
  keys : ∀ item requestId, stockKey item ≠ idempotencyKey requestId

/-- The store in memory and the one on a server answer every course of calls alike, and
hold the same counters. It does not matter which calls find the script on the server. -/
theorem stores_agree {σ : Type} {service : Service σ} {R : Nat → σ → Server → Prop}
    (conforms : service.Conforms R) {seconds opened : Nat} {server : σ} {model : Server}
    {calls : List Occasion} (related : R opened server model) (positive : 0 < seconds)
    (unused : ∀ key, (∃ item, key = stockKey item) ∨ (∃ requestId, key = idempotencyKey requestId) →
      model.entries.get? key = none)
    (ordered : calls.Pairwise (·.time ≤ ·.time)) (keyed : ∀ o ∈ calls, o.call.Keyed)
    (fits : ∀ o ∈ calls, opened + o.time + 1000 * seconds ≤ Server.clockEnd)
    (exact : ∀ before, before <+: calls →
      (Reservations.handleAll { ttl := 1000 * seconds } before).2.CountersExact) :
    StoresAgree service R seconds opened server model calls := by
  have empty : Matches seconds opened 0 { ttl := 1000 * seconds } model := by
    refine ⟨rfl, fun item => unused _ (.inl ⟨item, rfl⟩), ?_, rfl, rfl⟩
    intro requestId time later
    rw [Server.find?, unused _ (.inr ⟨requestId, rfl⟩)]
    constructor
    · intro found
      cases found
    · rintro ⟨expiry, found, -⟩
      cases found
  obtain ⟨replies, time, final⟩ :=
    empty.handleAll positive (fun o _ => Nat.zero_le o.time) ordered keyed fits exact
  have started (o : Occasion) : opened ≤ opened + o.time := Nat.le_add_right ..
  constructor
  case replies =>
    rw [replies, (conforms.handleAll related (fun o _ => started o) ordered).1]
  case modelled =>
    intro before o within
    have whole : (before ++ [o]).Pairwise (·.time ≤ ·.time) := ordered.sublist within.sublist
    obtain ⟨-, modelled⟩ := conforms.handleAll related (fun o _ => started o) whole
    refine modelled _ (started o) fun o' member => Nat.add_le_add_left ?_ opened
    obtain before | last := List.mem_append.mp member
    · exact (List.pairwise_append.mp whole).2.2 o' before o (List.mem_singleton_self o)
    · exact Nat.le_of_eq (congrArg Occasion.time (List.mem_singleton.mp last))
  case counters => exact final.counters
  case once =>
    intro before o _
    rw [handleAll_concat]
    exact handle_runs (Server.stocked _ o.cached) ..
  case apart =>
    intro before o _ key differ
    rw [handleAll_concat]
    exact Server.handle_other _ o.call differ
  case keys => exact stockKey_ne_idempotencyKey

/-- Stock is taken from a server that does not have the script at first, put back where there was
none, and a marker is asked for until it expires. -/
def coldStart : List Occasion :=
  [⟨0, .setStock "tea" 3, true⟩, ⟨0, .take "tea" 2, false⟩, ⟨4, .take "tea" 2, true⟩,
    ⟨4, .putBack "milk" (-1), true⟩, ⟨5, .take "milk" (-3), false⟩,
    ⟨5, .mark (idempotencyKey "tea"), true⟩, ⟨1004, .mark (idempotencyKey "tea"), true⟩,
    ⟨1005, .mark (idempotencyKey "tea"), true⟩]

theorem stores_agree_coldStart : Server.service.Conforms (fun _ s m => s = m) ∧ 0 < 1 ∧
    (∀ key, (∃ item, key = stockKey item) ∨ (∃ requestId, key = idempotencyKey requestId) →
      (∅ : Table String Entry).get? key = none) ∧
    coldStart.Pairwise (·.time ≤ ·.time) ∧ (∀ o ∈ coldStart, o.call.Keyed) ∧
    (∀ o ∈ coldStart, 1700000000000 + o.time + 1000 * 1 ≤ Server.clockEnd) ∧
    (∀ before, before <+: coldStart →
      (Reservations.handleAll { ttl := 1000 * 1 } before).2.CountersExact) ∧
    StoresAgree Server.service (fun _ s m => s = m) 1 1700000000000 {} {} coldStart ∧
    (Server.service.handleAll 1 1700000000000 {} coldStart).1 =
      [.unit (.ok ()), .flag (.ok true), .flag (.ok false), .unit (.ok ()), .flag (.ok true),
        .flag (.ok true), .flag (.ok false), .flag (.ok true)] := by
  have positive : 0 < 1 := by decide
  have unused : ∀ key, (∃ item, key = stockKey item) ∨
      (∃ requestId, key = idempotencyKey requestId) →
      (∅ : Table String Entry).get? key = none := fun _ _ => rfl
  have ordered : coldStart.Pairwise (·.time ≤ ·.time) := by decide
  have keyed : ∀ o ∈ coldStart, o.call.Keyed := by
    simp only [coldStart, List.forall_mem_cons, ReservationCall.Keyed]
    have tea : ∃ requestId, idempotencyKey "tea" = idempotencyKey requestId := ⟨"tea", rfl⟩
    exact ⟨trivial, trivial, trivial, trivial, trivial, tea, tea, tea, List.forall_mem_nil _⟩
  have fits : ∀ o ∈ coldStart, 1700000000000 + o.time + 1000 * 1 ≤ Server.clockEnd := by decide
  have exact : ∀ before, before <+: coldStart →
      (Reservations.handleAll { ttl := 1000 * 1 } before).2.CountersExact := by
    have all : ∀ n ≤ coldStart.length,
        (Reservations.handleAll { ttl := 1000 * 1 } (coldStart.take n)).2.CountersExact := by decide
    intro before within
    rw [List.prefix_iff_eq_take.mp within]
    exact all before.length within.length_le
  have agree : StoresAgree Server.service (fun _ s m => s = m) 1 1700000000000 {} {} coldStart :=
    stores_agree Server.service_conforms rfl positive unused ordered keyed fits exact
  have memory : (Reservations.handleAll { ttl := 1000 * 1 } coldStart).1 =
      [.unit (.ok ()), .flag (.ok true), .flag (.ok false), .unit (.ok ()), .flag (.ok true),
        .flag (.ok true), .flag (.ok false), .flag (.ok true)].map some := rfl
  have replies := List.map_inj_right (fun _ _ => Option.some.inj) |>.mp
    (agree.replies.symm.trans memory)
  exact ⟨Server.service_conforms, positive, unused, ordered, keyed, fits, exact, agree, replies⟩

end KeyValue

end FlashSale

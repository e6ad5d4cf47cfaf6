import FlashSale.Proofs.Dialogue
import FlashSale.Proofs.KeyValue.Server
import FlashSale.Proofs.Reservations.Calls

/-!
# Calls of the reservation store on a server

What a server and a call of the reservation store come to, one lemma for each call. A call
sends commands for one key only, whatever is replied to it. Stock is taken by one run of
the script: a server that does not have it replies so without having run anything, is given
it, and runs it then.
-/

namespace FlashSale

namespace KeyValue

/-- A call of the reservation store on a server. -/
def handle (ttl : Duration) : ReservationCall → Session ReservationReply
  | .setStock item quantity => return .unit (← setStock item quantity)
  | .take item quantity => return .flag (← take item quantity)
  | .putBack item quantity => return .unit (← putBack item quantity)
  | .mark key => return .flag (← mark ttl key)

/-- The key that a call is about. -/
def keyOf : ReservationCall → String
  | .setStock item _ => stockKey item
  | .take item _ => stockKey item
  | .putBack item _ => stockKey item
  | .mark key => key

/-- The command is one of the store's and about this key, or about none. The only script
that the store has run or given away is its own. -/
def Command.About (key : String) : Command → Prop
  | .set key' _ => key' = key
  | .setOnce key' _ => key' = key
  | .increase key' _ => key' = key
  | .run digest key' _ => digest = takeScriptDigest ∧ key' = key
  | .load script => script = takeScript

variable {key : String}

/-- A call of one command sends this command and no other, whether or not it is answered
with an error. -/
theorem call_sends {c : Command} (about : c.About key) : (call c).Sends (Command.About key) := by
  refine .bind (.ask about fun _ => .done _) fun reply => ?_
  split <;> exact .done _

/-- Running the script sends at most three commands: the run, the script if it is
missing, and the run again. -/
theorem runTakeScript_sends (key : String) (amount : Int32) :
    (runTakeScript key amount).Sends (Command.About key) := by
  have run : (call (.run takeScriptDigest key amount)).Sends (Command.About key) :=
    call_sends ⟨rfl, rfl⟩
  have load : (call (.load takeScript)).Sends (Command.About key) := call_sends rfl
  refine run.bind fun result => ?_
  split
  · exact .done _
  split
  · refine load.bind fun result => ?_
    split
    · exact .done _
    · exact run
  · exact .done _

/-- A call sends commands for its own key, whatever is replied to them. -/
theorem handle_sends (ttl : Duration) (c : ReservationCall) :
    (handle ttl c).Sends (Command.About (keyOf c)) := by
  have one {key : String} {c : Command} {α β : Type} {f : _ → α} {g : α → β} (about : c.About key) :
      Dialogue.Sends (Command.About key)
        ((call c >>= fun reply => pure (f reply)) >>= fun result => pure (g result)) :=
    .bind (.bind (call_sends about) fun _ => .done _) fun _ => .done _
  cases c with
  | setStock item quantity => exact one rfl
  | take item quantity =>
      exact .bind (.bind (runTakeScript_sends ..) fun _ => .done _) fun _ => .done _
  | putBack item quantity => exact one rfl
  | mark key => exact one rfl

namespace Server

variable {s s' : Server} {now : Nat} {other : String}

theorem add_other {amount : Int} (differ : other ≠ key) :
    (s.add now key amount).2.entries.get? other = s.entries.get? other := by
  unfold add
  dsimp only
  split
  · rfl
  · exact (Table.get?_insert ..).trans (if_neg differ)

theorem runTake_other {amount : Int32} (differ : other ≠ key) :
    (s.runTake now key amount).2.entries.get? other = s.entries.get? other := by
  unfold runTake
  split
  · rfl
  split
  · exact add_other differ
  · rfl

theorem serve_other {c : Command} (about : c.About key) (differ : other ≠ key) :
    (s.serve now c).2.entries.get? other = s.entries.get? other := by
  cases c with
  | set key' amount =>
      obtain rfl : key' = key := about
      exact (Table.get?_insert ..).trans (if_neg differ)
  | setOnce key' seconds =>
      obtain rfl : key' = key := about
      unfold serve
      dsimp only
      split
      · rfl
      split
      · rfl
      · exact (Table.get?_insert ..).trans (if_neg differ)
  | increase key' amount =>
      obtain rfl : key' = key := about
      exact add_other differ
  | run digest key' amount =>
      obtain ⟨-, rfl⟩ : digest = takeScriptDigest ∧ key' = key := about
      unfold serve
      dsimp only
      split
      · rfl
      split
      · exact runTake_other differ
      · rfl
  | load script => rfl

/-- A call changes nothing under another key, since none of its commands does. -/
theorem handle_other (ttl : Duration) (c : ReservationCall) (differ : other ≠ keyOf c) :
    (Dialogue.run (serve now) (handle ttl c) s).2.entries.get? other = s.entries.get? other :=
  (handle_sends ttl c).run (fun s => s.entries.get? other)
    (fun _ _ about => serve_other about differ) s

end Server

variable {s s' : Server} {now : Nat} {item : String} {quantity : Int32}

@[simp] theorem run_pure {α : Type} (a : α) :
    Dialogue.run (Server.serve now) (pure a : Session α) s = (a, s) := rfl

theorem run_bind {α β : Type} (d : Session α) (f : α → Session β) :
    Dialogue.run (Server.serve now) (d >>= f) s =
      Dialogue.run (Server.serve now) (f (Dialogue.run (Server.serve now) d s).1)
        (Dialogue.run (Server.serve now) d s).2 := Dialogue.run_bind ..

/-- What a reply says, or the error in it. -/
def Reply.checked (reply : Reply) : Except ServerError Reply :=
  match reply.error? with
  | some e => .error e
  | none => .ok reply

@[simp] theorem checked_error (e : ServerError) : (Reply.error e).checked = .error e := rfl

@[simp] theorem checked_string (content : String) :
    (Reply.string content).checked = .ok (.string content) := rfl

/-- A call of one command brings back what is replied to it, or the error in the reply.
-/
theorem run_call {c : Command} {reply : Reply} (served : s.serve now c = (reply, s')) :
    Dialogue.run (Server.serve now) (call c) s = (reply.checked, s') := by
  simp only [call, run_bind, Dialogue.run_send, served, Reply.checked]
  cases reply.error? with
  | some e => rfl
  | none => rfl

/-- Setting the stock writes the number without an expiry, whatever stood there. -/
theorem setStock_served (s : Server) (now : Nat) (item : String) (quantity : Int32) :
    Dialogue.run (Server.serve now) (setStock item quantity) s =
      (.ok (), s.write (stockKey item) ⟨quantity.toInt64, none⟩) := rfl

/-- Putting stock back adds to the number that is there, or to nothing, and leaves the
expiry as it is. -/
theorem putBack_served {total : Int64}
    (fits : word64? (((s.find? now (stockKey item)).elim 0 fun e => e.amount.toInt) +
      quantity.toInt) = some total) :
    Dialogue.run (Server.serve now) (putBack item quantity) s = (.ok (),
      s.write (stockKey item) ⟨total, (s.find? now (stockKey item)).bind Entry.expiry⟩) := by
  have served : s.serve now (.increase (stockKey item) quantity) = (.integer total,
      s.write (stockKey item) ⟨total, (s.find? now (stockKey item)).bind Entry.expiry⟩) := by
    simp only [Server.serve, Server.add, fits]
  simp only [putBack, run_bind, run_call served]
  rfl

section Marking

variable {seconds : Nat} {key : String}

theorem mark_seconds (positive : 0 < seconds) : markerSeconds (.ofSeconds seconds) = seconds := by
  simp only [markerSeconds, Duration.ofSeconds]
  omega

variable (positive : 0 < seconds) (fits : now + 1000 * seconds ≤ Server.clockEnd)

include positive fits

/-- A marker that is there is not written again, and the call says so. -/
theorem mark_found (found : (s.find? now key).isSome = true) :
    Dialogue.run (Server.serve now) (mark (.ofSeconds seconds) key) s = (.ok false, s) := by
  have served : s.serve now (.setOnce key seconds) = (.nothing, s) := by
    simp only [Server.serve, if_pos found]
    exact if_neg (by omega)
  simp only [mark, run_bind, mark_seconds positive, run_call served]
  rfl

/-- A marker that is not there is written, to expire after the whole seconds of its time
to live. -/
theorem mark_free (free : (s.find? now key).isSome = false) :
    Dialogue.run (Server.serve now) (mark (.ofSeconds seconds) key) s =
      (.ok true, s.write key ⟨1, some (now + 1000 * seconds)⟩) := by
  have served : s.serve now (.setOnce key seconds) =
      (.done, s.write key ⟨1, some (now + 1000 * seconds)⟩) := by
    simp only [Server.serve, free, Bool.false_eq_true, if_false]
    exact if_neg (by omega)
  simp only [mark, run_bind, mark_seconds positive, run_call served]
  rfl

end Marking

/-- The server has just the script of the store, or none. -/
def Server.Stocked (s : Server) : Prop := s.scripts = [] ∨ s.scripts = [takeScript]

/-- The server has the script and is about to run it. -/
def Server.running (s : Server) : Server := { s with scripts := [takeScript], runs := s.runs + 1 }

/-- A server that has the script runs it and counts the run. -/
theorem serve_run (cached : s.scripts = [takeScript]) (key : String) (amount : Int32) :
    s.serve now (.run takeScriptDigest key amount) = s.running.runTake now key amount := by
  simp [Server.serve, Server.running, cached, scriptDigest_takeScript]

/-- A run of the script does not report that there is no script. So the script is not
given to a server twice in a call. -/
theorem runTake_has_script {key : String} {amount : Int32} {e : ServerError}
    (failed : (s.runTake now key amount).1.checked = .error e) : e.scriptMissing = false := by
  have replies : (s.runTake now key amount).1 = .integer 0 ∨
      (s.runTake now key amount).1 = .integer 1 ∨ ∃ detail,
        (s.runTake now key amount).1 = .error ⟨"ERR", detail⟩ := by
    unfold Server.runTake
    split
    · exact .inl rfl
    split
    · unfold Server.add
      dsimp only
      split
      · exact .inr (.inr ⟨_, rfl⟩)
      · exact .inr (.inl rfl)
    · exact .inl rfl
  rcases replies with none | taken | ⟨detail, refused⟩
  · rw [none] at failed
    cases failed
  · rw [taken] at failed
    cases failed
  · rw [refused] at failed
    cases failed
    rfl

/-- The script is run once, whether or not the server had it. A server that does not
have it has run nothing when it says so. -/
theorem runTakeScript_served (stocked : s.Stocked) (key : String) (amount : Int32) :
    Dialogue.run (Server.serve now) (runTakeScript key amount) s =
      ((s.running.runTake now key amount).1.checked, (s.running.runTake now key amount).2) := by
  obtain none | cached := stocked
  · have missing : s.serve now (.run takeScriptDigest key amount) =
        (.error ⟨"NOSCRIPT", some "No matching script. Please use EVAL."⟩, s) := by
      simp [Server.serve, none]
    have loaded : s.serve now (.load takeScript) =
        (.string (scriptDigest takeScript), { s with scripts := [takeScript] }) := by
      simp [Server.serve, none]
    have ran : Dialogue.run (Server.serve now) (call (.run takeScriptDigest key amount))
          { s with scripts := [takeScript] } =
        ((s.running.runTake now key amount).1.checked, (s.running.runTake now key amount).2) :=
      run_call (serve_run rfl key amount)
    have absent : ServerError.scriptMissing
        ⟨"NOSCRIPT", some "No matching script. Please use EVAL."⟩ = true := rfl
    simp only [runTakeScript, run_bind, run_call missing, checked_error, absent, if_true,
      run_call loaded, checked_string, ran]
  · have ran : Dialogue.run (Server.serve now) (call (.run takeScriptDigest key amount)) s =
        ((s.running.runTake now key amount).1.checked, (s.running.runTake now key amount).2) :=
      run_call (serve_run cached key amount)
    simp only [runTakeScript, run_bind, ran]
    cases checked : (s.running.runTake now key amount).1.checked with
    | ok reply => rfl
    | error e =>
        have known := runTake_has_script checked
        simp only [known, Bool.false_eq_true, if_false, run_pure]

@[simp] theorem find?_running (s : Server) (now : Nat) (key : String) :
    s.running.find? now key = s.find? now key := rfl

/-- Stock is taken if and only if the run of the script replies with one. -/
theorem take_served (stocked : s.Stocked) (applied : Bool)
    (ran : s.running.runTake now (stockKey item) quantity =
      (.integer (if applied then 1 else 0), s')) :
    Dialogue.run (Server.serve now) (take item quantity) s = (.ok applied, s') := by
  simp only [take, run_bind, runTakeScript_served stocked, ran]
  cases applied <;> rfl

theorem take_missing (stocked : s.Stocked) (missing : s.find? now (stockKey item) = none) :
    Dialogue.run (Server.serve now) (take item quantity) s = (.ok false, s.running) := by
  apply take_served stocked false
  simp only [Server.runTake, find?_running, missing]
  rfl

section Held

variable (stocked : s.Stocked) {held : Entry} (found : s.find? now (stockKey item) = some held)
  (exact : held.amount.toInt.natAbs ≤ 9007199254740992)

include exact

/-- The script compares the numbers themselves, as long as both of them are exact in its
arithmetic. -/
theorem scriptNumber_le_iff :
    scriptNumber quantity.toInt ≤ scriptNumber held.amount.toInt ↔
      quantity.toInt ≤ held.amount.toInt := by
  have lower := quantity.le_toInt
  have upper := quantity.toInt_lt
  rw [scriptNumber_of_le exact, scriptNumber_of_le (by omega : quantity.toInt.natAbs ≤ _)]

include stocked found

/-- No stock is taken where the counter does not cover it; the counter stays as it is.
-/
theorem take_short (short : held.amount.toInt < quantity.toInt) :
    Dialogue.run (Server.serve now) (take item quantity) s = (.ok false, s.running) := by
  have less : ¬ scriptNumber quantity.toInt ≤ scriptNumber held.amount.toInt := by
    rw [scriptNumber_le_iff exact]
    exact Int.not_le.mpr short
  apply take_served stocked false
  simp only [Server.runTake, find?_running, found, if_neg less]
  rfl

/-- Where the counter covers the quantity it is lowered by it, in the same run of the
script. -/
theorem take_covered (covered : quantity.toInt ≤ held.amount.toInt) {left : Int64}
    (fits : word64? (held.amount.toInt + -quantity.toInt) = some left) :
    Dialogue.run (Server.serve now) (take item quantity) s =
      (.ok true, s.running.write (stockKey item) ⟨left, held.expiry⟩) := by
  have enough := (scriptNumber_le_iff exact).mpr covered
  have added : s.running.add now (stockKey item) (-quantity.toInt) =
      (.integer left, s.running.write (stockKey item) ⟨left, held.expiry⟩) := by
    simp only [Server.add, find?_running, found, Option.elim, fits, Option.bind]
  apply take_served stocked true
  simp only [Server.runTake, find?_running, found, if_pos enough, added]
  rfl

end Held

namespace Server

theorem add_runs (s : Server) (now : Nat) (key : String) (amount : Int) :
    (s.add now key amount).2.runs = s.runs := by
  unfold add
  dsimp only
  split <;> rfl

theorem runTake_runs (s : Server) (now : Nat) (key : String) (amount : Int32) :
    (s.runTake now key amount).2.runs = s.runs := by
  unfold runTake
  split
  · rfl
  split
  · exact s.add_runs ..
  · rfl

theorem setOnce_runs (s : Server) (now : Nat) (key : String) (seconds : Nat) :
    (s.serve now (.setOnce key seconds)).2.runs = s.runs := by
  unfold serve
  dsimp only
  split
  · rfl
  split <;> rfl

end Server

/-- A call that takes stock runs the script once, and no other call runs it. A server
without the script is told it first, and runs it then. -/
theorem handle_runs (stocked : s.Stocked) (ttl : Duration) (c : ReservationCall) :
    (Dialogue.run (Server.serve now) (handle ttl c) s).2.runs =
      s.runs + if c.isTake then 1 else 0 := by
  cases c with
  | setStock item quantity => rfl
  | take item quantity =>
      simp only [handle, take, run_bind, run_pure, runTakeScript_served stocked]
      exact s.running.runTake_runs ..
  | putBack item quantity =>
      have asked : Dialogue.run (Server.serve now) (call (.increase (stockKey item) quantity)) s =
          (_, (s.add now (stockKey item) quantity.toInt).2) := run_call rfl
      simp only [handle, putBack, run_bind, run_pure, asked]
      exact s.add_runs ..
  | mark key =>
      have asked : Dialogue.run (Server.serve now) (call (.setOnce key (markerSeconds ttl))) s =
          (_, (s.serve now (.setOnce key (markerSeconds ttl))).2) := run_call rfl
      simp only [handle, mark, run_bind, run_pure, asked]
      exact s.setOnce_runs ..

end KeyValue

end FlashSale

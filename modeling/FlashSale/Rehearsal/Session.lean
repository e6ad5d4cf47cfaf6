import FlashSale.Rehearsal.Command

/-!
# Playing a rehearsal

After every command the sale runs until all tasks wait. A task that ended in the
meantime is reported once, under its tag; a task whose tag was taken by a later one
is never reported.

Identifiers drawn at random mean nothing to a reader. An order is written by the
tag of the purchase that returned its identifier, and by a question mark if none
did.
-/

namespace FlashSale.Rehearsal

structure Session where
  sale : Sale
  mode : Mode
  watch : List String
  /-- The tasks that have not been reported, by tag. -/
  live : List (String × TaskId) := []
  /-- The tag of the purchase that returned an identifier. -/
  tags : List (Uuid × String) := []
  /-- The number of identifiers drawn so far. -/
  drawn : Nat := 0
  /-- Whether there are workers to wait for. -/
  pool : Bool := false

namespace Session

/-- The identifier that the purchase of the given number draws. -/
def draw (n : Nat) : Uuid :=
  .ofRandom (0x9b3f7a52c1e84d06a7d51c3e00000000#128 + BitVec.ofNat 128 n)

/-- How an identifier is written. -/
def idName (s : Session) (id : Uuid) : String :=
  match s.tags.lookup id with
  | some tag => "order(" ++ tag ++ ")"
  | none => if (List.range s.drawn).any fun n => draw n = id then "?" else id.toString

/-- The sale at its opening, unless the capacity of its queue is out of range. -/
def start? (setup : Setup) : Option Session := do
  let reservations : Reservations := { ttl := setup.ttl }
  if setup.mode = .pipeline then
    let sale ← Sale.pipeline? reservations {} setup.workers setup.capacity setup.commitLimit
    some { sale := sale.run, mode := setup.mode, watch := setup.watch, pool := true }
  else
    let queue ← AdmissionQueue.open? (if setup.mode = .stores then 1 else setup.capacity)
    let sale : Sale := { reservations, queue, commitLimit := setup.commitLimit }
    some { sale, mode := setup.mode, watch := setup.watch }

/-- Changes the sale and lets its tasks run. -/
def change (s : Session) (f : Sale → Sale) : Session := { s with sale := (f s.sale).run }

/-- The task with a tag. -/
def taskOf? (s : Session) (tag : String) : Option TaskId := s.live.lookup tag

def forget (s : Session) (tag : String) : Session :=
  { s with live := s.live.filter fun e => e.1 != tag }

/-- The next task to be started has the tag. -/
def watchNext (s : Session) (tag : String) : Session :=
  { s with live := (tag, s.sale.nextTask) :: (s.forget tag).live }

/-- Starts a task under a tag. -/
def begin (s : Session) (tag : String) (t : Task) : Session × Result :=
  ((s.watchNext tag).change (·.spawn t), .pending)

/-- A purchase with the next identifier. -/
def beginPurchase (s : Session) (tag : String) (r : PurchaseRequest) (web : Bool) :
    Session × Result :=
  let id := draw s.drawn
  Session.begin { s with drawn := s.drawn + 1 } tag
    (.purchase r web id .entering s.sale.now)

def setLatency (l : Latency) (call : SlowCall) (ms : Nat) : Latency :=
  match call with
  | .take => { l with take := ms }
  | .putBack => { l with putBack := ms }
  | .mark => { l with mark := ms }

def findOrder? (s : Session) : OrderRef → Option Order
  | .id id => s.sale.ledger.findOrder? id
  | .tag tag => do
    let (id, _) ← s.tags.find? fun e => e.2 = tag
    s.sale.ledger.findOrder? id

/-- Changes the reservation store. -/
def withReservations (s : Session) (f : Reservations → Reservations) : Session × Result :=
  ({ s with sale := { s.sale with reservations := f s.sale.reservations } }, .ok)

/-- Changes the ledger. -/
def withLedger (s : Session) (f : Ledger → Ledger) : Session × Result :=
  ({ s with sale := { s.sale with ledger := f s.sale.ledger } }, .ok)

/-- Carries out a command under a tag. -/
def obey (s : Session) (tag : String) : Command → Session × Result
  | .reservation call => s.begin tag (.reservation call (s.sale.now + s.sale.latency.ofCall call))
  | .stock item => (s, .stock (s.sale.reservations.stock? item))
  | .reservationsUnavailable on => s.withReservations fun r => { r with unavailable := on }
  | .failIncrements on => s.withReservations fun r => { r with failIncrements := on }
  | .slow call ms =>
    ({ s with sale := { s.sale with latency := setLatency s.sale.latency call ms } }, .ok)
  | .seed item stock =>
    match s.sale.ledger.seed s.sale.clock item stock with
    | (.overflow, ledger) => ({ s with sale := { s.sale with ledger } }, .overflow)
    | (.answer reply, ledger) =>
      ({ s with sale := { s.sale with ledger } }, .answer (.unit reply))
  | .ledger call => s.begin tag (.ledger call none)
  | .findOrder ref => (s, .order (s.findOrder? ref))
  | .countOrders item => (s, .count (s.sale.ledger.countOrders item))
  | .ledgerUnavailable on => s.withLedger fun l => { l with unavailable := on }
  | .commitDelay ms => s.withLedger fun l => { l with commitDelay := ms }
  | .faultyItem item => ({ s with sale := { s.sale with faultyItem := item } }, .ok)
  | .send order => s.begin tag (.send order)
  | .isClosed => (s, .flag s.sale.queue.isClosed)
  | .receive =>
    if s.sale.receiverHeld then s.begin tag (.receive .caller) else (s, .noReceiver)
  | .dropReceiver => (s.change Sale.dropReceiver, .ok)
  | .close => (s.change Sale.close, .ok)
  | .capacity => (s, .count s.sale.queue.capacity)
  | .purchase r => s.beginPurchase tag r false
  | .abandonOutside r =>
    let id := s.sale.nextTask
    let (s, _) := s.beginPurchase tag r false
    (s.change (·.abandon id), .pending)
  | .http r =>
    match Http.route s.sale.queue.depth s.sale.queue.capacity r with
    | .answer response => (s, .response response)
    | .purchase request => s.beginPurchase tag request true
  | .process order => s.begin tag (.settle .caller order .opening s.sale.now s.sale.now)
  | .shutdown =>
    if s.pool then
      (Session.change { s.watchNext tag with pool := false } Sale.shutdown, .pending)
    else (s, .noPipeline)
  | .startWorkers workers =>
    if s.sale.receiverHeld then
      (Session.change { s with pool := true } (·.startWorkers workers), .ok)
    else (s, .noReceiver)
  | .join => if s.pool then Session.begin { s with pool := false } tag .join else (s, .noPool)
  | .advance ms => ({ s with sale := s.sale.advance ms }, .ok)
  | .cancel tag =>
    match s.taskOf? tag with
    | none => (s, .notPending)
    | some id => ((s.forget tag).change (·.cancel id), .cancelled)

/-- The tag under which a task is to be reported. -/
def tagOf? (s : Session) (id : TaskId) : Option String :=
  (s.live.find? fun e => e.2 = id).map Prod.fst

/-- Takes the answers that have come in since the last command, each with its tag. -/
def collect (s : Session) : Session × List (String × TaskId × Answer) :=
  let reported := s.sale.answers.filterMap fun (id, a) => (s.tagOf? id).map fun tag => (tag, id, a)
  let tags := reported.filterMap fun (tag, _, a) =>
    match a with
    | .purchased _ _ (.ok id) => some (id, tag)
    | _ => none
  let live := s.live.filter fun e => !reported.any fun r => r.2.1 = e.2
  ({ s with sale := { s.sale with answers := [] }, live, tags := tags.reverse ++ s.tags }, reported)

def glimpse (s : Session) (item : String) : Glimpse where
  item
  stock := s.sale.reservations.stock? item
  inventory := s.sale.ledger.inventory.get? item
  orders := s.sale.ledger.countOrders item

/-- Plays one command and writes down what can be seen, unless the rehearsal ends with it. -/
def play (s : Session) (tag : String) (c : Command) : Option (Session × Entry) := do
  let first := s.sale.nextTask
  let (s, result) := s.obey tag c
  if result matches .overflow then none
  let (s, reported) := s.collect
  let own := reported.find? fun r => r.2.1 = first
  let entry : Entry :=
    { result :=
        match result, own with
        | .pending, some (_, _, a) => .answer a
        | result, _ => result
      done := (reported.filter fun r => r.2.1 != first).map fun (tag, _, a) => (tag, a)
      log := (s.sale.log.map (Event.line s.idName)).mergeSort (fun a b => a ≤ b)
      now := s.sale.now
      depth := if s.mode = .stores then none else some s.sale.queue.depth
      items := s.watch.map s.glimpse
      idName := s.idName }
  let forgotten := match c with
    | .abandonOutside _ => s.forget tag
    | _ => s
  some ({ forgotten with sale := { s.sale with log := [] } }, entry)

end Session

/-- The answer to a purchase over the web, its identifier written as the reader writes it. -/
def namedResponse (idName : Uuid → String) (result : Except PurchaseError Uuid) : Http.Response :=
  let r := Http.purchased result
  match result with
  | .ok id => { r with body := r.body.replace id.toString (idName id) }
  | .error _ => r

/-- Plays commands one after another; the ones without a tag are tagged by their number. -/
def playAll (s : Session) (index : Nat) : List (Option String × Command) → Option (List Entry)
  | [] => some []
  | (tag, c) :: rest => do
    let (s, entry) ← s.play (tag.getD s!"s{index}") c
    let entries ← playAll s (index + 1) rest
    some (entry :: entries)

/-- A whole rehearsal, unless it ends before its last command. -/
def run? (setup : Setup) (commands : List (Option String × Command)) : Option (List Entry) := do
  let s ← Session.start? setup
  playAll s 0 commands

end FlashSale.Rehearsal

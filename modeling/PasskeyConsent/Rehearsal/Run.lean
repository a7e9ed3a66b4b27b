import PasskeyConsent.Rehearsal.Cast
/-!
# Running a rehearsal

A rehearsal is a wallet played with a scripted cast on a clock of its own.  Every change of the wallet is one of its
moves; what is added here is the choice of moves.  Tasks take turns in the order in which they began until none can go
on, and only then the clock jumps to the next time at which something is due.  A cancelled task is stopped before
anything else that could happen to it.
-/
namespace PasskeyConsent.Rehearsal

structure Run (α : Type) where
  wallet : Wallet α
  cast : Cast
  pendingCalls : List PendingCall := []
  /-- Acknowledgements that the signing worker will send, and when if ever. -/
  pendingAcks : List (Option Nat × ControlMessage) := []
  /-- The latest endpoint of each session that the worker has. -/
  kept : Table Nat := {}
  workerRuns : Bool := true
  /-- Whether someone beside the worker can acknowledge. -/
  acksShared : Bool := false
  /-- Whether the worker takes a seed as soon as it is announced. -/
  takesSeeds : Bool := false
  /-- The latest first. -/
  records : List Record := []
  /-- The latest first. -/
  states : List (String × ConfirmState) := []

namespace Run

variable {α : Type}

/-- Bounds the moves of one turn, the rounds until nothing can go on, and the jumps of the clock. -/
def patience : Nat := 1000000

def now (r : Run α) : Nat := r.wallet.host.now

def hub (r : Run α) : Hub := r.wallet.host.hub

def note (r : Run α) (records : List Record) : Run α := { r with records := records.reverse ++ r.records }

def move? (r : Run α) (m : Move α) : Option (Happening × Run α) :=
  (r.wallet.step? m).map fun (h, wallet) => (h, { r with wallet })

def move (r : Run α) (m : Move α) : Run α := ((r.move? m).map (·.2)).getD r

/-- Someone outside the tasks uses the host. -/
def use (r : Run α) (a : Access) : a.Answer × Run α :=
  ((r.wallet.host.access r.wallet.tasks.length {} a).1, r.move (.outside a))

def start (r : Run α) (p : Program α) : Nat × Run α := (r.wallet.tasks.length, r.move (.start p))

def result? (r : Run α) (task : Nat) : Option α := (r.wallet.tasks[task]?).bind Task.result?

/-- Whether a task has broken down. -/
def brokenDown (r : Run α) : Bool := r.wallet.tasks.any fun t => t.suspension? == some (.wait .never)

/-! ## Tasks -/

def react (r : Run α) : Happening → Run α
  | .accessed _ (.enter id s) _ => { r with states := (id, s) :: r.states }
  | .called task c =>
    let (call, records, cast) := r.cast.take r.now task c
    { r with cast, pendingCalls := r.pendingCalls ++ [call] }.note records
  | _ => r

def withoutCallsOf (r : Run α) (task : Nat) : Run α :=
  { r with pendingCalls := r.pendingCalls.filter (·.task != task) }

def dueCall? (r : Run α) (task : Nat) : Option PendingCall :=
  r.pendingCalls.find? fun c => c.task == task && c.due.any (· ≤ r.now)

/-- Lets a task go on until it has to wait; whether it has gone on at all. -/
def turn : Nat → Nat → Run α → Bool × Run α
  | 0, _, r => (false, r)
  | fuel + 1, task, r =>
    match r.move? (.stop task) with
    | some (_, r) => (true, (turn fuel task (r.withoutCallsOf task)).2)
    | none =>
      match r.dueCall? task with
      | some c =>
        let r := (r.withoutCallsOf task).note c.record.toList
        (true, (turn fuel task (r.move (.answer task c.call c.answer))).2)
      | none =>
        match r.move? (.advance task) with
        | none => (false, r)
        | some (.looked _ _ none, r) => (false, r)
        | some (h, r) => (true, (turn fuel task (r.react h)).2)

/-! ## The signing worker -/

def acknowledge (r : Run α) (m : ControlMessage) : Run α := r.move (.signer (.acknowledge m))

def closeWorker (r : Run α) : Run α := { r.move (.signer .closeInbox) with workerRuns := false }

def dropEndpoint (r : Run α) (session : String) : Bool × Run α :=
  match r.kept.get? session with
  | none => (false, r)
  | some n => (true, { r.move (.signer (.dropEndpoint n)) with kept := r.kept.erase session })

def keep (r : Run α) (session : String) (box : Nat) : Run α :=
  let r := (r.dropEndpoint session).2
  { r with kept := r.kept.put session box }

/-- Takes the seed at the session's endpoint; nothing when the worker has none, and no result while it may come. -/
def take (r : Run α) (session : String) : Option (Option (Except ChannelError SeedMaterial)) × Run α :=
  match r.kept.get? session with
  | none => (none, r)
  | some n => (some (r.hub.take n).1, r.move (.signer (.take n)))

def answerAttach (r : Run α) (session : String) (box : Nat) : Run α :=
  let (cue, s) := r.cast.scripts.signer.next
  let r := { r with cast.scripts.signer := s }
  let m := cue.line.kind.message (cue.line.session.getD session)
  let acknowledged (r : Run α) : Run α :=
    { r with pendingAcks := r.pendingAcks ++ [(Cast.due r.now cue, m)] }
  match cue.line.mode with
  | .closes => (r.move (.signer (.dropEndpoint box))).closeWorker
  | .silent => r.keep session box
  | .dropsEndpoint => acknowledged (r.move (.signer (.dropEndpoint box)))
  | .acknowledges => acknowledged (r.keep session box)

def read (r : Run α) (e : Envelope) : Run α :=
  let endpoint := (e.box.bind (r.hub.boxes[·]?)).map (·.session)
  let r := (r.move (.signer .receive)).note [.signerReceived e.message endpoint]
  match e.message, e.box with
  | .attach session, some box => r.answerAttach session box
  | .seedReady session, _ =>
    if r.takesSeeds then
      let (taken, r) := r.take session
      r.note [.seed session (taken.bind id)]
    else r
  | _, _ => r

/-- One thing that the worker does, if there is one to do. -/
def pollWorker (r : Run α) : Bool × Run α :=
  match r.pendingAcks.find? (·.1.any (· ≤ r.now)) with
  | some (due, m) => (true, { r with pendingAcks := r.pendingAcks.erase (due, m) }.acknowledge m)
  | none =>
    if r.workerRuns then
      match r.hub.inbox with
      | e :: _ => (true, r.read e)
      | [] => (false, r)
    else if r.acksShared || !r.pendingAcks.isEmpty || r.hub.acks.closed then (false, r)
    else (true, r.move (.signer .closeAcks))

/-! ## The clock -/

def pollAll (r : Run α) : Bool × Run α :=
  let (moved, r) := (List.range r.wallet.tasks.length).foldl (fun (moved, r) i =>
    let (m, r) := turn patience i r
    (moved || m, r)) (false, r)
  let (m, r) := r.pollWorker
  (moved || m, r)

/-- Goes on until nothing can. -/
def settleFor : Nat → Run α → Run α
  | 0, r => r
  | fuel + 1, r =>
    let (moved, r) := r.pollAll
    if moved then settleFor fuel r else r

def settle (r : Run α) : Run α := settleFor patience r

def waitDue? : Task α → Option Nat
  | t =>
    match t.suspension? with
    | some (.wait (.ack _ due)) | some (.wait (.until due)) => some due
    | _ => none

/-- The next time at which something is due. -/
def nextTime? (r : Run α) : Option Nat :=
  let times := r.pendingCalls.filterMap (·.due) ++ r.pendingAcks.filterMap (·.1) ++ r.wallet.tasks.filterMap waitDue?
  (times.filter (r.now < ·)).min?

def passTo (r : Run α) (time : Nat) : Run α := r.move (.pass (time - r.now))

/-- Plays until a condition holds, a limit of time is reached, or nothing will ever happen again. -/
def playFor : Nat → Option Nat → (Run α → Bool) → Run α → Run α
  | 0, _, _, r => r
  | fuel + 1, limit, isOver, r =>
    let r := r.settle
    if isOver r then r
    else
      match r.nextTime?, limit with
      | none, none => r
      | none, some l => r.passTo l
      | some t, none => playFor fuel limit isOver (r.passTo t)
      | some t, some l => if t ≤ l then playFor fuel limit isOver (r.passTo t) else r.passTo l

/-- Lets some time pass. -/
def advance (r : Run α) (millis : Nat) : Run α := playFor patience (some (r.now + millis)) (fun _ => false) r

/-- Waits for tasks to finish. -/
def waitFor (r : Run α) (tasks : List Nat) (limit : Option Nat) : Run α :=
  playFor patience limit (fun r => tasks.all fun i => (r.result? i).isSome) r

/-- Runs a program to its end. -/
def perform (r : Run α) (p : Program α) : Option α × Run α :=
  let (i, r) := r.start p
  let r := r.waitFor [i] none
  (r.result? i, r)

/-- Runs programs at the same time. -/
def performAll (r : Run α) (ps : List (Program α)) : List (Option α) × Run α :=
  let (tasks, r) := ps.foldl (fun (tasks, r) p =>
    let (i, r) := r.start p
    (tasks ++ [i], r)) ([], r)
  let r := r.waitFor tasks none
  (tasks.map r.result?, r)

/-- Takes the seed at the session's endpoint, and gives up after some time. -/
def takeWithin (r : Run α) (millis : Nat) (session : String) :
    Option (Option (Except ChannelError SeedMaterial)) × Run α :=
  match r.take session with
  | (some none, r) =>
    match (r.advance millis).take session with
    | (some none, r) => (some none, ((r.kept.get? session).map fun n => r.move (.signer (.giveUp n))).getD r)
    | result => result
  | result => result

/-- Takes the records and states of a step, in the order in which they happened. -/
def collect (r : Run α) : List Record × List (String × ConfirmState) × Run α :=
  (r.records.reverse, r.states.reverse, { r with records := [], states := [] })

end Run
end PasskeyConsent.Rehearsal

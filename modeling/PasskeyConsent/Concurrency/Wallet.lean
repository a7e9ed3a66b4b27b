import PasskeyConsent.Concurrency.Effect
/-!
# Wallets

A wallet is a host and the tasks that run on it, each a program with what it holds.  A move is the smallest thing that
can happen: a task performs the effect that it has come to, a collaborator answers a call, a cancelled task is stopped
at a suspension, time passes, the signing worker does something, or someone outside the tasks uses the host.  Every
behaviour of a wallet is a sequence of moves, in any order in which each is possible.
-/
namespace PasskeyConsent

structure Task (α : Type) where
  program : Program α
  /-- Whether the call that the program has come to has been made. -/
  calling : Bool := false
  own : Holdings := {}

namespace Task

/-- What a finished task has come to. -/
def result? (t : Task α) : Option α :=
  match t.program with
  | .done a => some a
  | .step .. => none

/-- The suspension that the task has come to. -/
def suspension? (t : Task α) : Option Suspension :=
  match t.program with
  | .step (.suspend s) _ | .step (.watched _ s) _ => some s
  | _ => none

/-- The task with an answer to the suspension that it has come to. -/
def resume? (t : Task α) (s : Suspension) (x : s.Answer) : Option (Task α) :=
  match t.program with
  | .step (.suspend s') next =>
    if h : s = s' then some { t with program := next (h ▸ x), calling := false } else none
  | .step (.watched _ s') next =>
    if h : s = s' then some { t with program := next (some (h ▸ x)), calling := false } else none
  | _ => none

/-- The task stopped at the suspension that it has come to, if it watches a request that is cancelled. -/
def stop? (t : Task α) (isCancelled : String → Bool) : Option (Task α) :=
  match t.program with
  | .step (.watched id _) next =>
    if isCancelled id then some { t with program := next none, calling := false } else none
  | _ => none

end Task

/-- What the signing worker does at its end of the hub. -/
inductive SignerMove where
  | receive
  | acknowledge (m : ControlMessage)
  | closeInbox
  | closeAcks
  | take (box : Nat)
  | giveUp (box : Nat)
  | dropEndpoint (box : Nat)
deriving DecidableEq, Repr

def Hub.afterSigner (h : Hub) : SignerMove → Hub
  | .receive => (h.receive.map (·.2)).getD h
  | .acknowledge m => h.acknowledge m
  | .closeInbox => h.closeInbox
  | .closeAcks => h.closeAcks
  | .take n => (h.take n).2
  | .giveUp n => h.giveUp n
  | .dropEndpoint n => h.dropEndpoint n

inductive Move (α : Type) where
  /-- A new task begins. -/
  | start (p : Program α)
  /-- A task performs an access, makes a call or looks whether a wait is over. -/
  | advance (task : Nat)
  | answer (task : Nat) (c : Call) (x : c.Answer)
  | stop (task : Nat)
  /-- Someone outside the tasks uses the host. -/
  | outside (a : Access)
  | pass (millis : Nat)
  | setClock (t : Instant)
  | signer (m : SignerMove)

/-- What a move has done, for those who watch. -/
inductive Happening where
  | started (task : Nat)
  | accessed (task : Nat) (a : Access) (answer : a.Answer)
  | called (task : Nat) (c : Call)
  | answered (task : Nat) (c : Call) (answer : c.Answer)
  | looked (task : Nat) (w : Wait) (answer : Option w.Answer)
  | stopped (task : Nat)
  | used (a : Access) (answer : a.Answer)
  | passed (millis : Nat)
  | clockSet (t : Instant)
  | signed (m : SignerMove)

structure Wallet (α : Type) where
  host : Host
  tasks : List (Task α) := []

namespace Wallet

def setTask (w : Wallet α) (i : Nat) (t : Task α) : Wallet α := { w with tasks := w.tasks.set i t }

/-- The effect that a task has come to, as far as it needs no one else. -/
def advance? (w : Wallet α) (i : Nat) (t : Task α) : Option (Happening × Wallet α) :=
  match t.program with
  | .done _ => none
  | .step (.access a) next =>
    let (x, host, own) := w.host.access i t.own a
    some (.accessed i a x, { w with host }.setTask i { t with program := next x, own })
  | .step _ _ =>
    match t.suspension? with
    | some (.call c) => if t.calling then none else some (.called i c, w.setTask i { t with calling := true })
    | some (.wait x) =>
      let (r, host) := w.host.look i x
      let w := { w with host }
      match r with
      | none => some (.looked i x none, w)
      | some a => (t.resume? (.wait x) a).map fun t => (.looked i x (some a), w.setTask i t)
    | none => none

/-- One move, where it is possible. -/
def step? (w : Wallet α) : Move α → Option (Happening × Wallet α)
  | .start p => some (.started w.tasks.length, { w with tasks := w.tasks ++ [{ program := p }] })
  | .advance i => (w.tasks[i]?).bind (w.advance? i)
  | .answer i c x =>
    (w.tasks[i]?).bind fun t =>
      if t.calling then (t.resume? (.call c) x).map fun t => (.answered i c x, w.setTask i t) else none
  | .stop i =>
    (w.tasks[i]?).bind fun t =>
      (t.stop? w.host.isCancelled).map fun t => (.stopped i, { w with host := w.host.abandon i }.setTask i t)
  | .outside a =>
    let (x, host, _) := w.host.access w.tasks.length {} a
    some (.used a x, { w with host })
  | .pass ms => some (.passed ms, { w with host := { w.host with now := w.host.now + ms } })
  | .setClock t => some (.clockSet t, { w with host := { w.host with wallClock := t } })
  | .signer m => some (.signed m, { w with host := { w.host with hub := w.host.hub.afterSigner m } })

end Wallet
end PasskeyConsent

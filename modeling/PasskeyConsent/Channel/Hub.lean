import PasskeyConsent.Channel.Control
import PasskeyConsent.Channel.Mailbox
import PasskeyConsent.Channel.Queue
/-!
# The hub

The two ends of the channel to the signing worker: its inbox, the acknowledgements it sends back, and one sealed box
per attach, through which the seed of that session passes without entering any message.  The credential side holds a
box's opening for putting in, the worker the endpoint for taking out; the opening belongs first to the attach that made
the box, then to the table of attached sessions, and whoever drops it makes the endpoint's take fail.
-/
namespace PasskeyConsent

/-- The secrets handed to the signing worker for one session. -/
structure SeedMaterial where
  wrapKeySeed : String
  prfSecond : Option String
deriving DecidableEq, Repr

/-- Who can put the seed into a box. -/
inductive Opening where
  | attaching (task : Nat)
  | attached
  | gone
deriving DecidableEq, Repr

/-- What the worker's end of a box has come to. -/
inductive Endpoint where
  | fresh
  | taking
  | used
  | dropped
deriving DecidableEq, Repr

structure SeedBox where
  session : String
  opening : Opening
  endpoint : Endpoint := .fresh
  seed : Option SeedMaterial := none
deriving DecidableEq, Repr

/-- A message to the worker; the box is the one whose endpoint goes with it. -/
structure Envelope where
  message : ControlMessage
  box : Option Nat
deriving DecidableEq, Repr

structure Hub where
  inbox : List Envelope := []
  inboxClosed : Bool := false
  /-- Who waits for room in the inbox, first come first. -/
  sending : List Nat := []
  acks : Mailbox ControlMessage := {}
  queue : WorkerQueue := {}
  boxes : List SeedBox := []
  attached : Table Nat := {}
deriving DecidableEq, Repr

namespace Hub

/-- How many envelopes the inbox holds. -/
def inboxCapacity : Nat := 16

def signerName : String := "signer"

def unsent : ChannelError := .sendFailed signerName "channel closed"

def isAttached (h : Hub) (session : String) : Bool := h.attached.contains session

def changeBox (h : Hub) (n : Nat) (f : SeedBox → SeedBox) : Hub := { h with boxes := h.boxes.modify n f }

/-! ## Attaching -/

/-- Makes the box for an attach. -/
def openBox (h : Hub) (task : Nat) (session : String) : Nat × Hub :=
  (h.boxes.length, { h with boxes := h.boxes ++ [⟨session, .attaching task, .fresh, none⟩] })

/-- Drops the opening of a box. -/
def abandonBox (h : Hub) (n : Nat) : Hub := h.changeBox n fun b => { b with opening := .gone }

/-- Hands a box's opening to the table of attached sessions. -/
def attach (h : Hub) (session : String) (n : Nat) : Hub :=
  { h.changeBox n fun b => { b with opening := .attached } with attached := h.attached.put session n }

/-- Drops an attached session without a seed. -/
def detach (h : Hub) (session : String) : Bool × Hub :=
  match h.attached.get? session with
  | none => (false, h)
  | some n => (true, { h.abandonBox n with attached := h.attached.erase session })

/-- Puts the seed into the box of an attached session, which is attached no longer. -/
def deposit (h : Hub) (session : String) (seed : SeedMaterial) : Except ChannelError Unit × Hub :=
  match h.attached.get? session with
  | none => (.error (.notAttached session), h)
  | some n =>
    let h := { h.abandonBox n with attached := h.attached.erase session }
    match h.boxes[n]? with
    | some b =>
      if b.endpoint = .fresh ∨ b.endpoint = .taking then (.ok (), h.changeBox n fun b => { b with seed := some seed })
      else (.error (.sendFailed signerName ("endpoint for " ++ session ++ " dropped")), h)
    | none => (.error (.notAttached session), h)

/-! ## Messages -/

/-- One try to put an envelope into the inbox; nothing means waiting for room. -/
def send (h : Hub) (task : Nat) (e : Envelope) : Option (Except ChannelError Unit) × Hub :=
  let first := h.sending.isEmpty || h.sending.head? == some task
  let left := { h with sending := h.sending.filter (· != task) }
  if h.inboxClosed then (some (.error unsent), left)
  else if first && h.inbox.length < inboxCapacity then (some (.ok ()), { left with inbox := h.inbox ++ [e] })
  else if h.sending.contains task then (none, h)
  else (none, { h with sending := h.sending ++ [task] })

/-- One look for the acknowledgement of a session. -/
def lookForAck (h : Hub) (session : String) (overdue : Bool) : Option (WaitOutcome ControlMessage) × Hub :=
  let (outcome, acks) := h.acks.look (fun m => m.session == session) ⟨false, overdue⟩
  (outcome, { h with acks })

/-- What a task that is dropped in the middle of an attach or a deposit leaves behind. -/
def abandon (h : Hub) (task : Nat) : Hub :=
  { h with
    queue := h.queue.abandon task
    sending := h.sending.filter (· != task)
    boxes := h.boxes.map fun b => if b.opening = .attaching task then { b with opening := .gone } else b }

/-! ## The worker's side -/

/-- Takes the first envelope out of the inbox. -/
def receive (h : Hub) : Option (Envelope × Hub) :=
  match h.inbox with
  | [] => none
  | e :: rest => some (e, { h with inbox := rest })

def acknowledge (h : Hub) (m : ControlMessage) : Hub := { h with acks := h.acks.deliver m }

/-- The worker reads no more; what it had not read is lost. -/
def closeInbox (h : Hub) : Hub :=
  let unread := h.inbox.filterMap (·.box)
  { h with
    inbox := []
    inboxClosed := true
    boxes := h.boxes.mapIdx fun i b => if unread.contains i then { b with endpoint := .dropped } else b }

/-- No acknowledgement will come any more. -/
def closeAcks (h : Hub) : Hub := { h with acks := { h.acks with closed := true } }

def dropEndpoint (h : Hub) (n : Nat) : Hub := h.changeBox n fun b => { b with endpoint := .dropped }

/-- The session's seed asked for at the worker's end of a box; nothing means that it may still come. -/
def take (h : Hub) (n : Nat) : Option (Except ChannelError SeedMaterial) × Hub :=
  match h.boxes[n]? with
  | none => (none, h)
  | some b =>
    if b.endpoint = .used ∨ b.endpoint = .dropped then (some (.error (.seedConsumed b.session)), h)
    else
      match b.seed with
      | some s => (some (.ok s), h.changeBox n fun b => { b with endpoint := .used, seed := none })
      | none =>
        if b.opening = .gone then
          (some (.error (.notAttached b.session)), h.changeBox n fun b => { b with endpoint := .used })
        else (none, h.changeBox n fun b => { b with endpoint := .taking })

/-- Gives up a take that has not been answered; the endpoint is used up by it. -/
def giveUp (h : Hub) (n : Nat) : Hub := h.changeBox n fun b => { b with endpoint := .used }

end Hub
end PasskeyConsent

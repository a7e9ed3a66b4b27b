import PasskeyConsent.Chain.Block
import PasskeyConsent.Concurrency.Flow
import PasskeyConsent.Concurrency.Host
import PasskeyConsent.Credential.Ceremony
import PasskeyConsent.Policy.Basic
import PasskeyConsent.Request.Basic
/-!
# Effects

What a flow can do: access the host, call one of the collaborators, or wait for something of the host's that other
flows hold or bring about.  Calls and waits are the places at which other flows run and at which a watched flow can be
stopped; the answer to a watched effect is nothing when it was.
-/
namespace PasskeyConsent

/-- What the user has come to, as far as the surface knows. -/
inductive UiDecision where
  | proceed
  | cancel
deriving DecidableEq, Repr

/-- A call to a collaborator. -/
inductive Call where
  | latestBlock
  | accessKey (k : AccessKey)
  | evaluate (input : Bytes)
  | evaluateWithNewKeypair (input : Bytes)
  | authenticators (account : String)
  | currentPasskey (account : String) (known : List StoredAuthenticator)
  | assertion (options : AssertionOptions)
  | attestation (options : AttestationOptions)
  | preferences
  | mount (r : Request) (p : ConfirmationPolicy)
  /-- The user's decision, or nothing when a limit in milliseconds passes first. -/
  | decision (surface : UiHandle) (limit : Option Nat)
  | unmount (surface : UiHandle)
  | dispense (g : WarmSessionGrant) (account : String)
  | reclaim (g : WarmSessionGrant) (account : String)
  | post (message : Json)
deriving DecidableEq, Repr

@[reducible] def Call.Answer : Call → Type
  | .latestBlock => Except ChainError Block
  | .accessKey _ => Except ChainError AccessKeyInfo
  | .evaluate _ | .evaluateWithNewKeypair _ => Except FreshnessError VrfOutput
  | .authenticators _ => Except CredentialError (List StoredAuthenticator)
  | .currentPasskey .. => Except CredentialError PasskeySelection
  | .assertion _ | .attestation _ => Except CredentialError RawCredential
  | .preferences => ConfirmationPolicy
  | .mount .. => UiHandle
  | .decision .. => Option UiDecision
  | .unmount _ | .reclaim .. => Unit
  | .dispense .. => Except SessionError Unit
  | .post _ => Except ChannelError Unit

/-- Something that a flow waits for. -/
inductive Wait where
  /-- The lane of the turn's context. -/
  | turn
  /-- A worker's lane. -/
  | worker (name : String)
  /-- Room in the signing worker's inbox. -/
  | send (e : Envelope)
  /-- The acknowledgement of a session, until a time. -/
  | ack (session : String) (due : Nat)
  /-- A time. -/
  | until (time : Nat)
  /-- Nothing at all: a flow that has broken down goes no further. -/
  | never
deriving DecidableEq, Repr

@[reducible] def Wait.Answer : Wait → Type
  | .turn | .worker _ | .until _ => Unit
  | .send _ => Except ChannelError Unit
  | .ack .. => WaitOutcome ControlMessage
  | .never => Empty

/-- One look at whether a wait is over. -/
def Host.look (h : Host) (task : Nat) : (w : Wait) → Option w.Answer × Host
  | .turn =>
    let (mine, lane) := h.turnLane.ask task
    (if mine then some () else none, { h with turnLane := lane })
  | .worker name =>
    let (mine, queue) := h.hub.queue.ask name task
    (if mine then some () else none, { h with hub := { h.hub with queue } })
  | .send e =>
    let (r, hub) := h.hub.send task e
    (r, { h with hub })
  | .ack session due =>
    let (r, hub) := h.hub.lookForAck session (due ≤ h.now)
    (r, { h with hub })
  | .until time => (if time ≤ h.now then some () else none, h)
  | .never => (none, h)

/-- An effect at which the flow can be suspended. -/
inductive Suspension where
  | call (c : Call)
  | wait (w : Wait)
deriving DecidableEq, Repr

@[reducible] def Suspension.Answer : Suspension → Type
  | .call c => c.Answer
  | .wait w => w.Answer

/-- Whether a cancel ends the suspension: a flow that has broken down is not there to be stopped. -/
def Suspension.isStoppable : Suspension → Bool
  | .wait .never => false
  | _ => true

inductive Effect where
  | access (a : Access)
  | suspend (s : Suspension)
  /-- A suspension that ends without an answer when the request with the id is cancelled. -/
  | watched (id : String) (s : Suspension)
deriving DecidableEq, Repr

@[reducible] def Effect.Answer : Effect → Type
  | .access a => a.Answer
  | .suspend s => s.Answer
  | .watched _ s => Option s.Answer

/-- What is left to do on behalf of one caller. -/
abbrev Program (α : Type) := Flow Effect Effect.Answer α

namespace Program

def access (a : Access) : Program a.Answer := Flow.perform (Effect.access a)

def call (c : Call) : Program c.Answer := Flow.perform (Effect.suspend (.call c))

def wait (w : Wait) : Program w.Answer := Flow.perform (Effect.suspend (.wait w))

/-- Goes on with the value of a program that may fail, and fails as it does. -/
def attempt (p : Program (Except ε α)) : ExceptT ε Program α := ExceptT.mk p

/-- Goes on with a value that may be a failure. -/
def check (r : Except ε α) : ExceptT ε Program α := ExceptT.mk (pure r)

/-- The program, stopped with a value at the first suspension at which its request has been cancelled. -/
def watch (id : String) (stopped : α) : Program α → Program α
  | .done a => .done a
  | .step (.access a) next => .step (.access a) fun x => watch id stopped (next x)
  | .step (.suspend s) next =>
    if s.isStoppable then
      .step (.watched id s) fun
        | some x => watch id stopped (next x)
        | none => .done stopped
    else .step (.suspend s) fun x => watch id stopped (next x)
  | .step (.watched i s) next => .step (.watched i s) fun x => watch id stopped (next x)

/-- The program unless its request is cancelled: checked before it starts and at every suspension. -/
def unlessCancelled (id : String) (stopped : α) (p : Program α) : Program α := do
  if ← access (.isCancelled id) then return stopped
  watch id stopped p

/-- Work done while the worker's lane is held. -/
def dispatch (worker : String) (work : Program α) : Program α := do
  wait (.worker worker)
  let a ← work
  access (.leaveWorker worker)
  return a

end Program
end PasskeyConsent

import PasskeyConsent.Concurrency.Wallet
import PasskeyConsent.Rehearsal.Script
/-!
# The cast

The scripted collaborators: what each call is answered with and when, and what each of them writes down about the calls
it gets.  Most write when they are called; the sink writes when a message has gone through.
-/
namespace PasskeyConsent.Rehearsal

inductive Record where
  | accessKeyQuery (k : AccessKey)
  | storeQuery (account : String)
  | assertionPrompt (o : AssertionOptions)
  | attestationPrompt (o : AttestationOptions)
  | mounted (surface : Nat) (r : Request) (p : ConfirmationPolicy)
  | unmounted (surface : Nat)
  | dispensed (g : WarmSessionGrant) (account : String)
  | reclaimed (g : WarmSessionGrant) (account : String)
  | posted (message : Json)
  | signerReceived (m : ControlMessage) (endpoint : Option String)
  | seed (session : String) (taken : Option (Except ChannelError SeedMaterial))

/-- Where the answers to requests go. -/
inductive SinkKind where
  | scripted
  /-- Over a channel, which its reader may have closed. -/
  | channel (isOpen : Bool)
deriving DecidableEq

structure Cast where
  scripts : Scripts := {}
  policy : ConfirmationPolicy := {}
  sink : SinkKind := .scripted
  /-- The decision cue of each surface, in the order in which they were mounted. -/
  surfaces : List (Cue UiDecision) := []

/-- A call that has been made: its answer, and when it comes if ever. -/
structure PendingCall where
  task : Nat
  call : Call
  due : Option Nat
  answer : call.Answer
  /-- What is written down once the answer has come. -/
  record : Option Record := none

namespace Cast

def firstHeight : Nat := 1000

def due (now : Nat) (c : Cue α) : Option Nat := if c.hangs then none else some (now + c.delay)

def vrf (input : Bytes) (l : VrfLine) : VrfOutput := ⟨l.output.getD input, l.proof, l.publicKey⟩

def block (earlier : Nat) (l : BlockLine) : Block :=
  let height := l.height.getD (firstHeight + earlier)
  ⟨.ofNat height, l.hash.getD ("hash-" ++ toString height)⟩

def known (s : StoreScript) : Except CredentialError (List StoredAuthenticator) :=
  match s.listError with
  | some e => .error e
  | none => .ok s.authenticators

def select (s : StoreScript) (known : List StoredAuthenticator) : Except CredentialError PasskeySelection :=
  match s.selectError with
  | some e => .error e
  | none => .ok ⟨known.filter fun a => s.currentDevice.all (· == a.deviceNumber.toNat), s.wrongPasskey⟩

/-- The earlier of a decision and the end of the time for it. -/
def decide (now : Nat) (cue : Cue UiDecision) (limit : Option Nat) : Option Nat × Option UiDecision :=
  match due now cue, limit.map (now + ·) with
  | some t, some l => if t ≤ l then (some t, some cue.line) else (some l, none)
  | some t, none => (some t, some cue.line)
  | none, l => (l, none)

def closedSink : ChannelError := .sendFailed "confirmation_response" "channel closed"

/-- Takes a call: what it will be answered with, and what is written down of it at once. -/
def take (k : Cast) (now task : Nat) : (c : Call) → PendingCall × List Record × Cast
  | .latestBlock =>
    let (cue, s) := k.scripts.blocks.next
    (⟨task, .latestBlock, due now cue, cue.line.map (block k.scripts.blocks.calls), none⟩, [],
      { k with scripts.blocks := s })
  | .accessKey key =>
    let (cue, s) := k.scripts.accessKeys.next
    (⟨task, .accessKey key, due now cue, cue.line.map fun n => ⟨.ofNat n, 0, ""⟩, none⟩, [.accessKeyQuery key],
      { k with scripts.accessKeys := s })
  | .evaluate input =>
    let (cue, s) := k.scripts.evaluate.next
    (⟨task, .evaluate input, due now cue, cue.line.map (vrf input), none⟩, [], { k with scripts.evaluate := s })
  | .evaluateWithNewKeypair input =>
    let (cue, s) := k.scripts.keypair.next
    (⟨task, .evaluateWithNewKeypair input, due now cue, cue.line.map (vrf input), none⟩, [],
      { k with scripts.keypair := s })
  | .authenticators account =>
    (⟨task, .authenticators account, some now, known k.scripts.store, none⟩, [.storeQuery account], k)
  | .currentPasskey account list =>
    (⟨task, .currentPasskey account list, some now, select k.scripts.store list, none⟩, [], k)
  | .assertion o =>
    let (cue, s) := k.scripts.assertions.next
    (⟨task, .assertion o, due now cue, cue.line, none⟩, [.assertionPrompt o], { k with scripts.assertions := s })
  | .attestation o =>
    let (cue, s) := k.scripts.attestations.next
    (⟨task, .attestation o, due now cue, cue.line, none⟩, [.attestationPrompt o], { k with scripts.attestations := s })
  | .preferences => (⟨task, .preferences, some now, k.policy, none⟩, [], k)
  | .mount r p =>
    let (cue, s) := k.scripts.ui.next
    let n := k.surfaces.length + 1
    (⟨task, .mount r p, some now, ⟨n⟩, none⟩, [.mounted n r p],
      { k with scripts.ui := s, surfaces := k.surfaces ++ [cue] })
  | .decision surface limit =>
    let cue := (k.surfaces[surface.number - 1]?).getD { line := .proceed }
    let (t, d) := decide now cue limit
    (⟨task, .decision surface limit, t, d, none⟩, [], k)
  | .unmount surface => (⟨task, .unmount surface, some now, (), none⟩, [.unmounted surface.number], k)
  | .dispense g account =>
    let (cue, s) := k.scripts.dispense.next
    (⟨task, .dispense g account, due now cue, cue.line, none⟩, [.dispensed g account], { k with scripts.dispense := s })
  | .reclaim g account => (⟨task, .reclaim g account, some now, (), none⟩, [.reclaimed g account], k)
  | .post m =>
    match k.sink with
    | .channel true => (⟨task, .post m, some now, .ok (), some (.posted m)⟩, [], k)
    | .channel false => (⟨task, .post m, some now, .error closedSink, none⟩, [], k)
    | .scripted =>
      let (cue, s) := k.scripts.sink.next
      let k := { k with scripts.sink := s }
      match cue.line with
      | some reason => (⟨task, .post m, due now cue, .error (.sendFailed "sink" reason), none⟩, [], k)
      | none => (⟨task, .post m, due now cue, .ok (), some (.posted m)⟩, [], k)

end Cast
end PasskeyConsent.Rehearsal

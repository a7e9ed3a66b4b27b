import PasskeyConsent.Channel.Control
import PasskeyConsent.Concurrency.Effect
/-!
# Scripts

A rehearsal runs flows against collaborators that answer from a script: a list of cues that are taken in order, the
last again and again.  A cue says what to answer and how long to take for it.
-/
namespace PasskeyConsent.Rehearsal

structure Cue (α : Type) where
  delay : Nat := 0
  /-- Whether the answer never comes. -/
  hangs : Bool := false
  line : α
deriving Inhabited

structure Script (α : Type) where
  cues : List (Cue α) := []
  /-- How many cues have been taken since the script was set. -/
  taken : Nat := 0
  /-- How many calls there have been in all. -/
  calls : Nat := 0
  /-- What an empty script says. -/
  fallback : α

namespace Script

def ofLine (a : α) : Script α := { fallback := a }

/-- The next cue. -/
def next (s : Script α) : Cue α × Script α :=
  let cue := (s.cues[min s.taken (s.cues.length - 1)]?).getD { line := s.fallback }
  (cue, { s with taken := s.taken + 1, calls := s.calls + 1 })

/-- Starts over with other cues. -/
def set (s : Script α) (cues : List (Cue α)) : Script α := { s with cues, taken := 0 }

end Script

/-- A block; what is left open follows from the number of calls. -/
structure BlockLine where
  height : Option Nat := none
  hash : Option String := none

/-- An evaluation; without an output the input is put out. -/
structure VrfLine where
  output : Option Bytes := none
  proof : Bytes
  publicKey : Bytes

/-- The loaded keypair, where the script says nothing else. -/
def VrfLine.loaded : VrfLine := ⟨none, List.replicate 16 1, List.replicate 32 2⟩

/-- A new keypair, where the script says nothing else. -/
def VrfLine.fresh : VrfLine := ⟨none, List.replicate 16 3, List.replicate 32 4⟩

/-- The credential of an assertion, where the script says nothing else. -/
def plainCredential : RawCredential :=
  ⟨"cred-1", [1, 2, 3], "public-key", none, Bytes.ofText "\x7b\x7d", none, none, none, none, [],
    some ⟨some (List.replicate 32 7), some (List.replicate 32 8)⟩⟩

/-- The credential of an attestation, where the script says nothing else. -/
def plainAttestation : RawCredential := { plainCredential with attestationObject := some [0xa0] }

/-- What the signing worker does with an attach. -/
inductive SignerMode where
  | acknowledges
  | silent
  | closes
  | dropsEndpoint
deriving DecidableEq

structure SignerLine where
  mode : SignerMode := .acknowledges
  /-- The session that is acknowledged, where it is another one. -/
  session : Option String := none
  kind : ControlKind := .attachOk

/-- The local store, which always answers at once. -/
structure StoreScript where
  authenticators : List StoredAuthenticator := [⟨"cred-1", 1, []⟩]
  currentDevice : Option Nat := none
  wrongPasskey : Option String := none
  listError : Option CredentialError := none
  selectError : Option CredentialError := none

/-- The response a sink gives: a reason for a failure, or none. -/
abbrev SinkLine := Option String

structure Scripts where
  blocks : Script (Except ChainError BlockLine) := .ofLine (.ok {})
  accessKeys : Script (Except ChainError Nat) := .ofLine (.ok 100)
  evaluate : Script (Except FreshnessError VrfLine) := .ofLine (.ok .loaded)
  keypair : Script (Except FreshnessError VrfLine) := .ofLine (.ok .fresh)
  assertions : Script (Except CredentialError RawCredential) := .ofLine (.ok plainCredential)
  attestations : Script (Except CredentialError RawCredential) := .ofLine (.ok plainAttestation)
  ui : Script UiDecision := .ofLine .proceed
  dispense : Script (Except SessionError Unit) := .ofLine (.ok ())
  sink : Script SinkLine := .ofLine none
  signer : Script SignerLine := .ofLine {}
  store : StoreScript := {}

namespace Scripts

/-- The number of calls by script. -/
def calls (s : Scripts) : List (String × Nat) :=
  [("blocks", s.blocks.calls), ("accessKeys", s.accessKeys.calls), ("evaluate", s.evaluate.calls),
   ("keypair", s.keypair.calls), ("assertions", s.assertions.calls), ("attestations", s.attestations.calls),
   ("ui", s.ui.calls), ("dispense", s.dispense.calls), ("sink", s.sink.calls), ("signer", s.signer.calls)]

end Scripts
end PasskeyConsent.Rehearsal

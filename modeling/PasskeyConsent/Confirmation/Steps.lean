import PasskeyConsent.Channel.Handover
import PasskeyConsent.Credential.Collection
import PasskeyConsent.Freshness.Binding
import PasskeyConsent.Nonce.Turn
import PasskeyConsent.Redaction
/-!
# Steps of a confirmation

The steps that the flows of the operations are made of.  A step goes on or stops the request; a stop is declined with a
code and a redacted text, or fatal, which is answered with nothing.
-/
namespace PasskeyConsent

/-- What does not change while a wallet runs. -/
structure Setup where
  rpId : String
  embedding : Embedding
  /-- How long the signing worker may take to acknowledge; nothing when there is no signing worker. -/
  signer : Option Duration
deriving DecidableEq, Repr

inductive Stop where
  | declined (code : ErrorCode) (message : String)
  | fatal (e : Error)
deriving DecidableEq, Repr

namespace Stop

def decline (code : ErrorCode) (message : String) : Stop := .declined code (redact message)

/-- How a request ends that could not collect its credential. -/
def ofCredentialError (e : CredentialError) : Stop :=
  if e.isFatal then .fatal (.credential e)
  else
    match e with
    | .dismissed => decline .userCancelled e.message
    | e => decline .credentialFailed e.message

end Stop

abbrev Stage (α : Type) := ExceptT Stop Program α

namespace Stage

open Program

/-- A step whose failure stops the request. -/
def orStop (p : ExceptT ε Program α) (stop : ε → Stop) : Stage α := ExceptT.mk do
  match ← p.run with
  | .ok a => return .ok a
  | .error e => return .error (stop e)

def chainUnavailable (e : ChainError) : Stop := .decline .chainUnavailable e.message

def challengeUnavailable (e : FreshnessError) : Stop := .decline .challengeUnavailable e.message

def sessionUnavailable (e : SessionError) : Stop := .decline .warmSessionUnavailable e.message

def signerUnavailable (e : ChannelError) : Stop := .decline .signerUnavailable e.message

/-- The context of the turn, for the account that the sequencer is bound to. -/
def turnContext (account : String) : Stage BaseContext := do
  let k ← access .boundKey
  if k.map (·.account) ≠ some account then
    throw (.decline .chainUnavailable ("No access key is loaded for " ++ account))
  orStop (Turn.context false) chainUnavailable

def latestBlock : Stage Block := orStop (attempt (call .latestBlock)) chainUnavailable

def freshnessInput (setup : Setup) (account : String) (height : UInt64) (hash : String) : FreshnessInput :=
  ⟨account, setup.rpId, height, hash, none⟩

/-- Makes sure that a key has a bootstrap. -/
def bootstrap (key : String) (input : FreshnessInput) (path : Freshness.Path) : Stage Unit := do
  match ← access (.bootstrap key) with
  | some _ => return
  | none => let _ ← orStop (Freshness.bootstrap key input path) challengeUnavailable

/-- Binds to the latest block; when the chain does not tell it, to the block of the input. -/
def bindFreshness (id key : String) (input : FreshnessInput) (path : Freshness.Path) : Stage FreshnessChallenge := do
  access (.enter id .freshnessBinding)
  let input ← match ← call .latestBlock with
    | .ok block => pure { input with blockHeight := block.height, blockHash := block.hash }
    | .error _ => pure input
  orStop (Freshness.bind key input path) challengeUnavailable

def collectAssertion (setup : Setup) (id account : String) (challenge : Bytes) : Stage CollectedCredential := do
  access (.enter id .collecting)
  match ← orStop (Credential.collectAssertion setup.rpId account none challenge) Stop.ofCredentialError with
  | .collected c => return c
  | .wrongPasskey message => throw (.decline .wrongPasskey message)

def collectAttestation (setup : Setup) (id account : String) (challenge : Bytes) : Stage CollectedCredential := do
  access (.enter id .collecting)
  orStop (Credential.collectAttestation setup.rpId account challenge) Stop.ofCredentialError

/-- Sequence numbers for the request, as texts. -/
def reserveNonces (id : String) (count : Nat) : Stage (List String) := do
  access (.enter id .nonceReserving)
  let picked ← orStop (attempt (access (.reserve count))) chainUnavailable
  return picked.map toString

/-- Hands the secrets to the signing worker, where there is one. -/
def deliverSeed (setup : Setup) (id : String) (prf : PrfOutputs) : Stage Unit := do
  match setup.signer with
  | none => return
  | some timeout =>
    access (.holdChannel id)
    orStop (do Handover.attach timeout id; Handover.deposit id ⟨prf.first, prf.second⟩) signerUnavailable
    access .settleChannel

/-- Opens or renews a warm session.  One whose end the calendar does not have breaks the request down: it is no longer
pending, and nothing else happens. -/
def grantSession (id session account : String) : Stage WarmSessionGrant := do
  match ← access (.grant session account) with
  | some g => return g
  | none =>
    access (.unregister id)
    let e : Empty ← wait .never
    nomatch e

end Stage
end PasskeyConsent

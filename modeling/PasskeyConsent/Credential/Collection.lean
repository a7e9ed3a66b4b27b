import PasskeyConsent.Concurrency.Effect
/-!
# Collecting credentials

An assertion is prompted for with the account's credentials that belong to this device, narrowed by the caller's own
list when there is one; with none left there is no prompt.  A new credential is prompted for with every known one
excluded.
-/
namespace PasskeyConsent.Credential

open Program

def collectAssertion (rpId account : String) (allowed : Option (List String)) (challenge : Bytes) :
    ExceptT CredentialError Program AssertionOutcome := do
  let known ← attempt (call (.authenticators account))
  let selection ← attempt (call (.currentPasskey account known))
  match selection.wrongPasskey with
  | some message => return .wrongPasskey message
  | none =>
    let ids := (selection.authenticators.map (·.credentialId)).filter fun id => allowed.all (·.contains id)
    if ids.isEmpty then throw (.noCredentials account)
    let raw ← attempt (call (.assertion ⟨rpId, challenge, ids, PrfSalts.forAccount account⟩))
    return .collected (← check raw.collect)

def collectAttestation (rpId account : String) (challenge : Bytes) :
    ExceptT CredentialError Program CollectedCredential := do
  let known ← attempt (call (.authenticators account))
  let raw ← attempt (call (.attestation ⟨rpId, account, account, challenge, known.map (·.credentialId),
      PrfSalts.forAccount account⟩))
  check raw.collect

end PasskeyConsent.Credential

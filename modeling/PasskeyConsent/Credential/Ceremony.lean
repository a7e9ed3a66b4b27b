import PasskeyConsent.Credential.Record
import PasskeyConsent.Credential.Salts
import PasskeyConsent.Bytes.Base64url
import PasskeyConsent.Error
/-!
# Ceremonies

What the platform's authenticator is prompted with and what it gives back.  `RawCredential.collect` splits the answer
into the record that may be sent on and the PRF outputs that may not; an answer without the first PRF output is no
answer at all.
-/
namespace PasskeyConsent

structure AssertionOptions where
  rpId : String
  challenge : Bytes
  allowCredentials : List String
  prfSalts : PrfSalts
deriving DecidableEq, Repr

structure AttestationOptions where
  rpId : String
  userId : String
  userName : String
  challenge : Bytes
  excludeCredentials : List String
  prfSalts : PrfSalts
deriving DecidableEq, Repr

structure RawPrfResults where
  first : Option Bytes := none
  second : Option Bytes := none
deriving DecidableEq, Repr

/-- A credential as the platform returns it. -/
structure RawCredential where
  id : String
  rawId : Bytes
  type : String
  authenticatorAttachment : Option String
  clientDataJson : Bytes
  authenticatorData : Option Bytes
  signature : Option Bytes
  userHandle : Option Bytes
  attestationObject : Option Bytes
  transports : List String
  prf : Option RawPrfResults
deriving DecidableEq, Repr

/-- The secret outputs of a ceremony, in base64url. -/
structure PrfOutputs where
  first : String
  second : Option String
deriving DecidableEq, Repr

structure CollectedCredential where
  record : CredentialRecord
  prf : PrfOutputs
deriving DecidableEq, Repr

/-- The authenticators of an account that belong to this device, or what is wrong with them. -/
structure PasskeySelection where
  authenticators : List StoredAuthenticator
  wrongPasskey : Option String
deriving DecidableEq, Repr

inductive AssertionOutcome where
  | collected (c : CollectedCredential)
  | wrongPasskey (message : String)
deriving DecidableEq, Repr

namespace RawCredential

/-- The part of a credential that may be sent on. -/
def record (raw : RawCredential) : CredentialRecord where
  id := raw.id
  rawId := Base64url.encode raw.rawId
  type := if raw.type.isEmpty then "public-key" else raw.type
  authenticatorAttachment := raw.authenticatorAttachment
  response :=
    { clientDataJson := Base64url.encode raw.clientDataJson
      authenticatorData := raw.authenticatorData.map Base64url.encode
      signature := raw.signature.map Base64url.encode
      userHandle := raw.userHandle.map Base64url.encode
      attestationObject := raw.attestationObject.map Base64url.encode
      transports := raw.transports }

def collect (raw : RawCredential) : Except CredentialError CollectedCredential :=
  match raw.prf.bind (·.first) with
  | none => .error .missingPrfResult
  | some first =>
    .ok ⟨raw.record, ⟨Base64url.encode first, (raw.prf.bind (·.second)).map Base64url.encode⟩⟩

end RawCredential
end PasskeyConsent

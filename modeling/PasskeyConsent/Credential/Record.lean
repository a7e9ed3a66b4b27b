import PasskeyConsent.Json.Codec
/-!
# Credential records

A credential as it is sent on: every byte field in base64url, and no field for the PRF outputs, which therefore cannot
be written.  `StoredAuthenticator` is what the local store knows of a registered authenticator.
-/
namespace PasskeyConsent

structure StoredAuthenticator where
  credentialId : String
  deviceNumber : UInt32
  transports : List String
deriving DecidableEq, Repr

structure CredentialResponse where
  clientDataJson : String
  authenticatorData : Option String
  signature : Option String
  userHandle : Option String
  attestationObject : Option String
  transports : List String
deriving DecidableEq, Repr

structure CredentialRecord where
  id : String
  rawId : String
  type : String
  authenticatorAttachment : Option String
  response : CredentialResponse
deriving DecidableEq, Repr

def StoredAuthenticator.codec : Codec StoredAuthenticator :=
  .record "StoredAuthenticator"
    (.cons (.required "credentialId" .string)
      (.cons (.required "deviceNumber" .u32)
        (.cons (.withDefault "transports" (Codec.array .string) []) .nil)))
    (fun (id, n, ts, ()) => ⟨id, n, ts⟩) (fun a => (a.credentialId, a.deviceNumber, a.transports, ()))

def CredentialResponse.codec : Codec CredentialResponse :=
  .record "CredentialResponse"
    (.cons (.required "clientDataJson" .string)
      (.cons (.omitted "authenticatorData" .string)
        (.cons (.omitted "signature" .string)
          (.cons (.omitted "userHandle" .string)
            (.cons (.omitted "attestationObject" .string)
              (.cons (.omittedList "transports" .string) .nil))))))
    (fun (c, a, s, u, o, t, ()) => ⟨c, a, s, u, o, t⟩)
    (fun r => (r.clientDataJson, r.authenticatorData, r.signature, r.userHandle, r.attestationObject, r.transports, ()))

def CredentialRecord.codec : Codec CredentialRecord :=
  .record "CredentialRecord"
    (.cons (.required "id" .string)
      (.cons (.required "rawId" .string)
        (.cons (.required "type" .string)
          (.cons (.omitted "authenticatorAttachment" .string)
            (.cons (.required "response" CredentialResponse.codec) .nil)))))
    (fun (id, raw, type, a, r, ()) => ⟨id, raw, type, a, r⟩)
    (fun c => (c.id, c.rawId, c.type, c.authenticatorAttachment, c.response, ()))

end PasskeyConsent

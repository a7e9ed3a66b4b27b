import PasskeyConsent.Json.Codec
import PasskeyConsent.Bytes.Base64url
import PasskeyConsent.Bytes.Sha256
/-!
# Freshness challenges

What a challenge is bound to, the byte string that goes into the verifiable random function for it, and the challenge
in the form that is sent on.  The authenticator signs `signedBytes`: the function's raw output, or, for a text that no
output encodes to, the bytes of that text.
-/
namespace PasskeyConsent

/-- What a challenge is bound to. -/
structure FreshnessInput where
  userId : String
  rpId : String
  blockHeight : UInt64
  blockHash : String
  intentDigest : Option String
deriving DecidableEq, Repr

namespace FreshnessInput

def domain : Bytes := Bytes.ofText "passkey_confirm_vrf_challenge_v1"

/-- The byte string that is hashed: the domain and every bound field, one after another. -/
def preimage (i : FreshnessInput) : Bytes :=
  domain ++ Bytes.ofText i.userId ++ Bytes.ofText i.rpId ++ Bytes.littleEndian64 i.blockHeight.toNat ++
    Bytes.ofText i.blockHash ++ (i.intentDigest.map Bytes.ofText).getD []

/-- The input of the random function. -/
def derive (i : FreshnessInput) : Bytes := Sha256.hash i.preimage

end FreshnessInput

/-- What the verifiable random function answers. -/
structure VrfOutput where
  output : Bytes
  proof : Bytes
  publicKey : Bytes
deriving DecidableEq, Repr

structure FreshnessChallenge where
  vrfInput : String
  vrfOutput : String
  vrfProof : String
  vrfPublicKey : String
  userId : String
  rpId : String
  blockHeight : String
  blockHash : String
  intentDigest : Option String
deriving DecidableEq, Repr

namespace FreshnessChallenge

def ofOutput (i : FreshnessInput) (o : VrfOutput) : FreshnessChallenge where
  vrfInput := Base64url.encode i.derive
  vrfOutput := Base64url.encode o.output
  vrfProof := Base64url.encode o.proof
  vrfPublicKey := Base64url.encode o.publicKey
  userId := i.userId
  rpId := i.rpId
  blockHeight := toString i.blockHeight.toNat
  blockHash := i.blockHash
  intentDigest := i.intentDigest

/-- The bytes that the authenticator signs over. -/
def signedBytes (c : FreshnessChallenge) : Bytes := (Base64url.decode? c.vrfOutput).getD (Bytes.ofText c.vrfOutput)

/-- What is signed over is the function's raw output, of whatever length. -/
theorem signedBytes_ofOutput (i : FreshnessInput) (o : VrfOutput) : (ofOutput i o).signedBytes = o.output := by
  unfold signedBytes ofOutput
  rw [Base64url.decode?_encode, Option.getD_some]

def codec : Codec FreshnessChallenge :=
  .record "FreshnessChallenge"
    (.cons (.required "vrfInput" .string)
      (.cons (.required "vrfOutput" .string)
        (.cons (.required "vrfProof" .string)
          (.cons (.required "vrfPublicKey" .string)
            (.cons (.required "userId" .string)
              (.cons (.required "rpId" .string)
                (.cons (.required "blockHeight" .string)
                  (.cons (.required "blockHash" .string)
                    (.cons (.omitted "intentDigest" .string) .nil)))))))))
    (fun (i, o, p, k, u, r, height, hash, d, ()) => ⟨i, o, p, k, u, r, height, hash, d⟩)
    (fun c => (c.vrfInput, c.vrfOutput, c.vrfProof, c.vrfPublicKey, c.userId, c.rpId, c.blockHeight, c.blockHash,
      c.intentDigest, ()))

end FreshnessChallenge
end PasskeyConsent

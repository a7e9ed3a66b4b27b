import PasskeyConsent.Credential.Record
import PasskeyConsent.Freshness.Challenge
import PasskeyConsent.Calendar.Instant
import PasskeyConsent.Error
/-!
# Responses

The single answer to a request, and the parts an approval may carry.  A declined response has a text and a code and
nothing else.
-/
namespace PasskeyConsent

def ErrorCode.codec : Codec ErrorCode := .enumeration ErrorCode.table

def ErrorCode.name (c : ErrorCode) : String := ((ErrorCode.table.find? fun p => p.2 == c).map (·.1)).getD ""

/-- The key and block context for building transactions. -/
structure TransactionContext where
  publicKey : String
  accessKeyNonce : String
  nextNonce : String
  blockHeight : String
  blockHash : String
  reservedNonces : List String
deriving DecidableEq, Repr

/-- A use of a warm session, as it is told to others. -/
structure WarmSessionGrant where
  sessionId : String
  remainingUses : UInt32
  expiresAt : Instant
deriving DecidableEq, Repr

structure Response where
  requestId : String
  confirmed : Bool
  error : Option String := none
  errorCode : Option ErrorCode := none
  credential : Option CredentialRecord := none
  vrfChallenge : Option FreshnessChallenge := none
  transactionContext : Option TransactionContext := none
  prfOutput : Option String := none
  warmSession : Option WarmSessionGrant := none
deriving DecidableEq, Repr

def Response.approved (id : String) : Response := { requestId := id, confirmed := true }

def Response.declined (id : String) (code : ErrorCode) (error : String) : Response :=
  { requestId := id, confirmed := false, error := some error, errorCode := some code }

def Instant.codec : Codec Instant where
  encode t := .str t.text
  decode
    | .str span s =>
      match Instant.read s with
      | .ok t => .ok t
      | .error e => .error ⟨.other e.message, span.map (·.after)⟩
    | d => d.mismatch .timestamp

def TransactionContext.codec : Codec TransactionContext :=
  .record "TransactionContext"
    (.cons (.required "nearPublicKeyStr" .string)
      (.cons (.required "accessKeyNonce" .string)
        (.cons (.required "nextNonce" .string)
          (.cons (.required "txBlockHeight" .string)
            (.cons (.required "txBlockHash" .string) (.cons (.omittedList "reservedNonces" .string) .nil))))))
    (fun (k, a, n, height, hash, r, ()) => ⟨k, a, n, height, hash, r⟩)
    (fun c => (c.publicKey, c.accessKeyNonce, c.nextNonce, c.blockHeight, c.blockHash, c.reservedNonces, ()))

def WarmSessionGrant.codec : Codec WarmSessionGrant :=
  .record "WarmSessionGrant"
    (.cons (.required "sessionId" .string)
      (.cons (.required "remainingUses" .u32) (.cons (.required "expiresAt" Instant.codec) .nil)))
    (fun (s, n, t, ()) => ⟨s, n, t⟩) (fun g => (g.sessionId, g.remainingUses, g.expiresAt, ()))

def Response.codec : Codec Response :=
  .record "ConfirmationResponse"
    (.cons (.required "requestId" .string)
      (.cons (.required "confirmed" .boolean)
        (.cons (.omitted "error" .string)
          (.cons (.omitted "errorCode" ErrorCode.codec)
            (.cons (.omitted "credential" CredentialRecord.codec)
              (.cons (.omitted "vrfChallenge" FreshnessChallenge.codec)
                (.cons (.omitted "transactionContext" TransactionContext.codec)
                  (.cons (.omitted "prfOutput" .string)
                    (.cons (.omitted "warmSession" WarmSessionGrant.codec) .nil)))))))))
    (fun (id, ok, e, ec, c, v, t, p, w, ()) => ⟨id, ok, e, ec, c, v, t, p, w⟩)
    (fun r => (r.requestId, r.confirmed, r.error, r.errorCode, r.credential, r.vrfChallenge, r.transactionContext,
      r.prfOutput, r.warmSession, ()))

end PasskeyConsent

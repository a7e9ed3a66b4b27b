import PasskeyConsent.Request.Payload
import PasskeyConsent.Bytes.Base64url
import PasskeyConsent.Bytes.Sha256
/-!
# Digests of a request

What a signature is bound to, as byte strings and as hashes of them.  The intent digest is over the compact JSON of the
batch with the keys of every object in order, so it does not depend on the order in which the caller wrote them; the
message digest is over recipient, message and state with a zero byte between; the local challenge is over the request
and the account, for the operations that never touch the chain.
-/
namespace PasskeyConsent

/-- The value with the members of every object in key order; of two with one key the later counts. -/
def Json.canonical : Json → Json
  | .arr items => .arr (canonicalItems items)
  | .obj members => .object (canonicalMembers members)
  | j => j
where
  canonicalItems : List Json → List Json
    | [] => []
    | x :: rest => canonical x :: canonicalItems rest
  canonicalMembers : List (String × Json) → List (String × Json)
    | [] => []
    | (k, v) :: rest => (k, canonical v) :: canonicalMembers rest

namespace Digest

def intentPreimage (ts : List Transaction) : Bytes :=
  Bytes.ofText (Json.compact (.arr (ts.map fun t =>
    Json.canonical (.object [("receiverId", .str t.receiverId), ("actions", .arr t.actions)]))))

/-- The digest of a batch of transactions. -/
def intent (ts : List Transaction) : String := Base64url.encode (Sha256.hash (intentPreimage ts))

def messagePreimage (p : SignMessagePayload) : Bytes :=
  Bytes.ofText p.recipient ++ 0 :: Bytes.ofText p.message ++
    match p.state with
    | none => []
    | some s => 0 :: Bytes.ofText s

/-- The digest of a message to be signed. -/
def message (p : SignMessagePayload) : String := Base64url.encode (Sha256.hash (messagePreimage p))

def localDomain : Bytes := Bytes.ofText "passkey_confirm_local_unlock_v1"

def localPreimage (requestId account : String) : Bytes :=
  localDomain ++ Bytes.ofText requestId ++ Bytes.ofText account

/-- The challenge of an operation that never touches the chain. -/
def localChallenge (requestId account : String) : Bytes := Sha256.hash (localPreimage requestId account)

end Digest
end PasskeyConsent

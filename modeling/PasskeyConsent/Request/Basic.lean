import PasskeyConsent.Request.Digest
import PasskeyConsent.Policy.Basic
import PasskeyConsent.Error
import PasskeyConsent.Text.Blank
/-!
# Confirmation requests

A request arrives as arbitrary JSON, so that whatever is wrong with it can be answered under its own id instead of
being lost.  `Request.read` checks the envelope from the outside in: version, id, operation, payload, override, and
last that a digest the caller claims for its transactions is theirs.  An account of blanks is refused but a padded one is kept as
it is; the id is the one field that is trimmed.
-/
namespace PasskeyConsent

def schemaVersion : Nat := 2

structure Request where
  id : String
  summary : Json
  payload : Payload
  policyOverride : Option PolicyOverride
deriving DecidableEq, Repr

namespace Request

def operation (r : Request) : Operation := r.payload.operation

/-- The id that sixteen random bytes make: hexadecimal digits in five groups, with the marks of a random id. -/
def freshId (random : Bytes) : String :=
  let marked := random.zipIdx.map fun (b, i) => if i = 6 then b % 16 + 64 else if i = 8 then b % 64 + 128 else b
  let digits := (Bytes.toHex marked).toList
  Text.join "-" ([(0, 8), (8, 4), (12, 4), (16, 4), (20, 12)].map fun (start, count) =>
    String.ofList ((digits.drop start).take count))

/-- The id an envelope seems to carry, for answering one that is refused. -/
def peekId (raw : Json) : String := ((raw.get? "requestId").bind Json.asString?).getD ""

def invalid (op : Operation) (reason : String) : ValidationError := .invalidPayload op.name reason

/-- What a payload must satisfy beyond its form. -/
def checkPayload : Payload → Except ValidationError Unit
  | .signTransaction p =>
    if p.transactions.isEmpty then .error (invalid .signTransaction "txSigningRequests must not be empty")
    else
      match p.transactions.find? fun t => Text.allBlank t.receiverId with
      | some t =>
        .error (invalid .signTransaction
          ("transaction receiverId must not be empty (actions: " ++ toString t.actions.length ++ ")"))
      | none =>
        if p.authMode = .warmSession ∧ p.sessionId.all Text.allBlank then
          .error (invalid .signTransaction "warmSession signing requires sessionId")
        else .ok ()
  | .signMessage p =>
    if Text.allBlank p.recipient then .error (invalid .signMessage "recipient must not be empty") else .ok ()
  | _ => .ok ()

def readVersion (raw : Json) : Except ValidationError Unit :=
  if (raw.get? "schemaVersion").bind Json.asNat? = some schemaVersion then .ok ()
  else .error (.schemaVersion schemaVersion (((raw.get? "schemaVersion").map Json.compact).getD "none"))

def readId (raw : Json) : Except ValidationError String :=
  match (raw.get? "requestId").bind Json.asString? with
  | some s => if Text.allBlank s then .error .missingRequestId else .ok (Text.trim s)
  | none => .error .missingRequestId

def readOperation (raw : Json) : Except ValidationError Operation :=
  match (raw.get? "type").bind Json.asString? with
  | some s =>
    if Text.allBlank s then .error .missingKind
    else
      match Operation.ofName? s with
      | some op => .ok op
      | none => .error (.unsupportedKind s)
  | none => .error .missingKind

def readPayload (op : Operation) (raw : Json) : Except ValidationError Payload := do
  let j := (raw.get? "payload").getD .null
  if !j.isObject then throw (invalid op "payload must be an object")
  let p ← (Payload.decode op j).mapError fun f => invalid op f.message
  checkPayload p
  if Text.allBlank p.account then throw (invalid op "nearAccountId must not be empty")
  return p

def readOverride (op : Operation) (raw : Json) : Except ValidationError (Option PolicyOverride) :=
  match raw.get? "confirmationConfig" with
  | none | some .null => .ok none
  | some j =>
    match PolicyOverride.codec.ofJson j with
    | .ok o => .ok (some o)
    | .error f => .error (invalid op ("confirmationConfig: " ++ f.message))

/-- The digests that the caller claims for its transactions. -/
def claimedDigests (p : SignTransactionPayload) (summary : Json) : List String :=
  p.intentDigest.toList ++ ((summary.get? "intentDigest").bind Json.asString?).toList

/-- The summary as it is shown: with the digest of the transactions in it, for a request to sign them. -/
def readSummary (payload : Payload) (raw : Json) : Except ValidationError Json :=
  let summary := (raw.get? "summary").getD (.obj [])
  match payload with
  | .signTransaction p =>
    let digest := Digest.intent p.transactions
    if (claimedDigests p summary).all (· = digest) then .ok (summary.setMember "intentDigest" (.str digest))
    else .error (invalid .signTransaction "intentDigest does not match txSigningRequests")
  | _ => .ok summary

/-- Reads a request from an envelope. -/
def read (raw : Json) : Except ValidationError Request := do
  if !raw.isObject then throw (.malformed "envelope must be an object")
  readVersion raw
  let id ← readId raw
  let op ← readOperation raw
  let payload ← readPayload op raw
  let policyOverride ← readOverride op raw
  let summary ← readSummary payload raw
  return ⟨id, summary, payload, policyOverride⟩

/-- What the parts of an envelope are read to. -/
theorem parts_of_read {raw : Json} {q : Request} (h : read raw = .ok q) :
    readId raw = .ok q.id ∧ ∃ op, readOperation raw = .ok op ∧ readPayload op raw = .ok q.payload ∧
      readOverride op raw = .ok q.policyOverride := by
  unfold read at h
  cases hobject : raw.isObject with
  | false =>
    rw [hobject] at h
    cases h
  | true =>
    simp only [hobject, Bool.not_true, Bool.false_eq_true, if_false] at h
    obtain ⟨_, -, h⟩ := ok_of_bind h
    obtain ⟨id, hid, h⟩ := ok_of_bind h
    obtain ⟨op, hop, h⟩ := ok_of_bind h
    obtain ⟨payload, hpayload, h⟩ := ok_of_bind h
    obtain ⟨policyOverride, hoverride, h⟩ := ok_of_bind h
    obtain ⟨summary, -, h⟩ := ok_of_bind h
    cases h
    exact ⟨hid, op, hop, hpayload, hoverride⟩

end Request
end PasskeyConsent

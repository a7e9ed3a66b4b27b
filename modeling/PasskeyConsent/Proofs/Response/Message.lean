import PasskeyConsent.Response
import PasskeyConsent.Proofs.Json.Carrying
/-!
# Messages of responses

The message that a response is posted as, and what is found in it: the id, whether it is a confirmation, the text and
the code of a decline, the challenge, the context of transactions and the secret output stand under keys of their own,
and no other member depends on the secret output.
-/
namespace PasskeyConsent

section

open Codec PasskeyConsent.Field

/-- A challenge crosses whole: all its members are texts. -/
theorem FreshnessChallenge.carries (c : FreshnessChallenge) : codec.Carries c := by
  refine carries_record ?_ ?_ ⟨carries_text _, carries_text _, carries_text _, carries_text _, carries_text _,
    carries_text _, carries_text _, carries_text _, carries_omitted fun _ _ => carries_string _, trivial⟩ rfl
  · simp [Shape.Distinct, Shape.names, required, omitted]
  · simp [Shape.External, Shape.keys, internalKeys, required, omitted]

/-- So does the context of transactions. -/
theorem TransactionContext.carries (c : TransactionContext) : codec.Carries c := by
  refine carries_record ?_ ?_ ⟨carries_text _, carries_text _, carries_text _, carries_text _, carries_text _,
    carries_omittedList fun _ _ => carries_string _, trivial⟩ rfl
  · simp [Shape.Distinct, Shape.names, required, omittedList]
  · simp [Shape.External, Shape.keys, internalKeys, required, omittedList]

end

namespace Response

open Transferable (crossed get?_crossed_object)

/-- The response as it is posted. -/
def message (r : Response) : Json := crossed (codec.encode r)

theorem get?_message (r : Response) (key : String) :
    r.message.get? key = if internalKeys.contains key then none else ((codec.encode r).get? key).map crossed :=
  get?_crossed_object key _

@[simp] theorem message_requestId (r : Response) : r.message.get? "requestId" = some (.str r.requestId) := by
  rw [get?_message]
  simp [codec, Codec.record, Shape.get?_members_cons, internalKeys, Field.required, Field.omitted, Codec.string]
  rfl

@[simp] theorem message_confirmed (r : Response) : r.message.get? "confirmed" = some (.bool r.confirmed) := by
  rw [get?_message]
  simp [codec, Codec.record, Shape.get?_members_cons, internalKeys, Field.required, Field.omitted, Codec.boolean]
  rfl

@[simp] theorem message_error (r : Response) : r.message.get? "error" = r.error.map .str := by
  rw [get?_message]
  cases h : r.error with
  | none => simp [codec, Codec.record, Shape.get?_members_cons, internalKeys, Field.required, Field.omitted, h]
  | some s =>
    simp [codec, Codec.record, Shape.get?_members_cons, internalKeys, Field.required, Field.omitted, h]
    rfl

@[simp] theorem message_errorCode (r : Response) :
    r.message.get? "errorCode" = r.errorCode.map fun c => .str c.name := by
  rw [get?_message]
  cases h : r.errorCode with
  | none => simp [codec, Codec.record, Shape.get?_members_cons, internalKeys, Field.required, Field.omitted, h]
  | some c =>
    simp [codec, Codec.record, Shape.get?_members_cons, internalKeys, Field.required, Field.omitted, h]
    rfl

@[simp] theorem message_prfOutput (r : Response) : r.message.get? "prfOutput" = r.prfOutput.map .str := by
  rw [get?_message]
  cases h : r.prfOutput with
  | none => simp [codec, Codec.record, Shape.get?_members_cons, internalKeys, Field.required, Field.omitted, h]
  | some s =>
    simp [codec, Codec.record, Shape.get?_members_cons, internalKeys, Field.required, Field.omitted, h]
    rfl

@[simp] theorem message_vrfChallenge (r : Response) :
    r.message.get? "vrfChallenge" = r.vrfChallenge.map FreshnessChallenge.codec.encode := by
  rw [get?_message]
  cases h : r.vrfChallenge with
  | none => simp [codec, Codec.record, Shape.get?_members_cons, internalKeys, Field.required, Field.omitted, h]
  | some c =>
    simp [codec, Codec.record, Shape.get?_members_cons, internalKeys, Field.required, Field.omitted, h]
    exact c.carries.crosses

@[simp] theorem message_transactionContext (r : Response) :
    r.message.get? "transactionContext" = r.transactionContext.map TransactionContext.codec.encode := by
  rw [get?_message]
  cases h : r.transactionContext with
  | none => simp [codec, Codec.record, Shape.get?_members_cons, internalKeys, Field.required, Field.omitted, h]
  | some c =>
    simp [codec, Codec.record, Shape.get?_members_cons, internalKeys, Field.required, Field.omitted, h]
    exact c.carries.crosses

theorem message_credential_isSome (r : Response) : (r.message.get? "credential").isSome = r.credential.isSome := by
  rw [get?_message]
  cases h : r.credential <;>
  simp [codec, Codec.record, Shape.get?_members_cons, internalKeys, Field.required, Field.omitted, h]

theorem message_warmSession_isSome (r : Response) : (r.message.get? "warmSession").isSome = r.warmSession.isSome := by
  rw [get?_message]
  cases h : r.warmSession <;>
  simp [codec, Codec.record, Shape.get?_members_cons, internalKeys, Field.required, Field.omitted, h]

/-- **A decline tells four things** and nothing else. -/
theorem get?_message_declined (id : String) (code : ErrorCode) (text key : String) :
    (declined id code text).message.get? key = Json.lookup key
      [("requestId", .str id), ("confirmed", .bool false), ("error", .str text), ("errorCode", .str code.name)] := by
  by_cases hid : "requestId" = key
  · subst hid
    exact message_requestId _
  by_cases hconfirmed : "confirmed" = key
  · subst hconfirmed
    exact message_confirmed _
  by_cases herror : "error" = key
  · subst herror
    exact message_error _
  by_cases hcode : "errorCode" = key
  · subst hcode
    exact message_errorCode _
  rw [get?_message]
  simp [codec, Codec.record, Shape.get?_members_cons, declined, Field.required, Field.omitted, Json.lookup, hid,
    hconfirmed, herror, hcode]

/-- No other member depends on the secret output. -/
theorem get?_message_of_ne {key : String} (h : key ≠ "prfOutput") (r : Response) (secret : Option String) :
    { r with prfOutput := secret }.message.get? key = r.message.get? key := by
  rw [get?_message, get?_message]
  simp [codec, Codec.record, Shape.get?_members_cons, Field.required, Field.omitted, Ne.symm h]

end Response
end PasskeyConsent

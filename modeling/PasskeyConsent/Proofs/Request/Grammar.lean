import PasskeyConsent.Proofs.Json.Forms
import PasskeyConsent.Proofs.Request.Acceptance
import Mathlib.Tactic.MkIffOfInductiveProp
/-!
# The grammar of requests

What a request is read from, said without the reader: the form of each payload and of an override, field by field, and
what the envelope and its parts have to be beyond that.  The reader accepts the values of this grammar and no others, and
reads them as the grammar says (`read_eq_ok_iff`).
-/
namespace PasskeyConsent

/-! ## Forms of payloads -/

@[mk_iff]
structure TransactionForm (j : Json) (t : Transaction) : Prop where
  record : j.MakesRecord [["receiverId"], ["actions"]] false
  receiverId : Form.required .string (j.part? ["receiverId"] 0) t.receiverId
  actions : Form.orDefault (.array .any) [] (j.part? ["actions"] 1) t.actions

def authModeForm : Form SigningAuthMode := .oneOf [("webAuthn", .webAuthn), ("warmSession", .warmSession)]

def flowForm : Form DecryptFlow := .oneOf [("workerOnly", .workerOnly), ("localOnly", .localOnly)]

@[mk_iff]
structure SignTransactionForm (j : Json) (p : SignTransactionPayload) : Prop where
  record : j.MakesRecord
    [["nearAccountId"], ["txSigningRequests"], ["signingAuthMode"], ["sessionId"], ["intentDigest"]] false
  account : Form.required .string (j.part? ["nearAccountId"] 0) p.account
  transactions : Form.required (.array TransactionForm) (j.part? ["txSigningRequests"] 1) p.transactions
  authMode : Form.orDefault authModeForm .webAuthn (j.part? ["signingAuthMode"] 2) p.authMode
  sessionId : Form.orDefault (.nullable .string) none (j.part? ["sessionId"] 3) p.sessionId
  intentDigest : Form.orDefault (.nullable .string) none (j.part? ["intentDigest"] 4) p.intentDigest

@[mk_iff]
structure RegisterAccountForm (j : Json) (p : RegisterAccountPayload) : Prop where
  record : j.MakesRecord [["nearAccountId"], ["deviceNumber"]] false
  account : Form.required .string (j.part? ["nearAccountId"] 0) p.account
  deviceNumber : Form.orDefault (.nullable .u32) none (j.part? ["deviceNumber"] 1) p.deviceNumber

@[mk_iff]
structure DecryptPrivateKeyForm (j : Json) (p : DecryptPrivateKeyPayload) : Prop where
  record : j.MakesRecord [["nearAccountId"], ["flow"]] false
  account : Form.required .string (j.part? ["nearAccountId"] 0) p.account
  flow : Form.orDefault flowForm .workerOnly (j.part? ["flow"] 1) p.flow

@[mk_iff]
structure SignMessageForm (j : Json) (p : SignMessagePayload) : Prop where
  record : j.MakesRecord [["nearAccountId"], ["message"], ["recipient"], ["state"]] false
  account : Form.required .string (j.part? ["nearAccountId"] 0) p.account
  message : Form.required .string (j.part? ["message"] 1) p.message
  recipient : Form.required .string (j.part? ["recipient"] 2) p.recipient
  state : Form.orDefault (.nullable .string) none (j.part? ["state"] 3) p.state

@[mk_iff]
structure LinkDeviceForm (j : Json) (p : LinkDevicePayload) : Prop where
  record : j.MakesRecord [["nearAccountId"], ["deviceNumber"], ["txSigningRequests"]] false
  account : Form.required .string (j.part? ["nearAccountId"] 0) p.account
  deviceNumber : Form.required .u32 (j.part? ["deviceNumber"] 1) p.deviceNumber
  transactions : Form.orDefault (.array TransactionForm) [] (j.part? ["txSigningRequests"] 2) p.transactions

@[mk_iff]
structure ShowPrivateKeyForm (j : Json) (p : ShowPrivateKeyPayload) : Prop where
  record : j.MakesRecord [["nearAccountId"]] false
  account : Form.required .string (j.part? ["nearAccountId"] 0) p.account

/-- The form of the payload of each operation. -/
def PayloadForm (j : Json) : Payload → Prop
  | .signTransaction p => SignTransactionForm j p
  | .registerAccount p => RegisterAccountForm j p
  | .decryptPrivateKey p => DecryptPrivateKeyForm j p
  | .signMessage p => SignMessageForm j p
  | .linkDevice p => LinkDeviceForm j p
  | .showPrivateKey p => ShowPrivateKeyForm j p

def uiModeForm : Form UiMode := .oneOf [("skip", .skip), ("modal", .modal), ("drawer", .drawer)]

def behaviorForm : Form Behavior := .oneOf [("autoProceed", .autoProceed), ("requireClick", .requireClick)]

def themeForm : Form Theme := .oneOf [("dark", .dark), ("light", .light)]

/-- An override, which refuses what it does not know.  Its delay has two names, of which one can be given. -/
@[mk_iff]
structure OverrideForm (j : Json) (o : PolicyOverride) : Prop where
  record : j.MakesRecord [["uiMode"], ["behavior"], ["autoProceedDelay", "autoProceedDelayMs"], ["theme"]] true
  uiMode : Form.orDefault (.nullable uiModeForm) none (j.part? ["uiMode"] 0) o.uiMode
  behavior : Form.orDefault (.nullable behaviorForm) none (j.part? ["behavior"] 1) o.behavior
  autoProceedDelayMs : Form.orDefault (.nullable .u64) none (j.part? ["autoProceedDelay", "autoProceedDelayMs"] 2)
    o.autoProceedDelayMs
  theme : Form.orDefault (.nullable themeForm) none (j.part? ["theme"] 3) o.theme

/-! ## What the codecs read -/

section

open Codec PasskeyConsent.Field

theorem hasForm_transaction : Transaction.codec.HasForm TransactionForm := by
  intro j t
  refine (record_eq_ok_iff ?_ (fun _ => rfl) (fun _ => rfl)).trans ?_
  · simp [Shape.Distinct, Shape.names, Field.required, Field.withDefault]
  · simp only [transactionForm_iff, Shape.reads_cons_iff, Shape.reads_nil_iff, and_true, reads_required_iff hasForm_string,
      reads_withDefault_iff (hasForm_array hasForm_json)]
    rfl

theorem hasForm_signTransaction : SignTransactionPayload.codec.HasForm SignTransactionForm := by
  intro j p
  have hmode : SigningAuthMode.codec.HasForm authModeForm := hasForm_enumeration _
  refine (record_eq_ok_iff ?_ (fun _ => rfl) (fun _ => rfl)).trans ?_
  · simp [Shape.Distinct, Shape.names, Field.required, Field.withDefault, Field.nullable]
  · simp only [signTransactionForm_iff, Shape.reads_cons_iff, Shape.reads_nil_iff, and_true,
      reads_required_iff hasForm_string, reads_required_iff (hasForm_array hasForm_transaction),
      reads_withDefault_iff hmode, reads_nullable_iff hasForm_string]
    rfl

theorem hasForm_registerAccount : RegisterAccountPayload.codec.HasForm RegisterAccountForm := by
  intro j p
  refine (record_eq_ok_iff ?_ (fun _ => rfl) (fun _ => rfl)).trans ?_
  · simp [Shape.Distinct, Shape.names, Field.required, Field.nullable]
  · simp only [registerAccountForm_iff, Shape.reads_cons_iff, Shape.reads_nil_iff, and_true,
      reads_required_iff hasForm_string, reads_nullable_iff hasForm_u32]
    rfl

theorem hasForm_decryptPrivateKey : DecryptPrivateKeyPayload.codec.HasForm DecryptPrivateKeyForm := by
  intro j p
  have hflow : DecryptFlow.codec.HasForm flowForm := hasForm_enumeration _
  refine (record_eq_ok_iff ?_ (fun _ => rfl) (fun _ => rfl)).trans ?_
  · simp [Shape.Distinct, Shape.names, Field.required, Field.withDefault]
  · simp only [decryptPrivateKeyForm_iff, Shape.reads_cons_iff, Shape.reads_nil_iff, and_true,
      reads_required_iff hasForm_string, reads_withDefault_iff hflow]
    rfl

theorem hasForm_signMessage : SignMessagePayload.codec.HasForm SignMessageForm := by
  intro j p
  refine (record_eq_ok_iff ?_ (fun _ => rfl) (fun _ => rfl)).trans ?_
  · simp [Shape.Distinct, Shape.names, Field.required, Field.nullable]
  · simp only [signMessageForm_iff, Shape.reads_cons_iff, Shape.reads_nil_iff, and_true,
      reads_required_iff hasForm_string, reads_nullable_iff hasForm_string]
    rfl

theorem hasForm_linkDevice : LinkDevicePayload.codec.HasForm LinkDeviceForm := by
  intro j p
  refine (record_eq_ok_iff ?_ (fun _ => rfl) (fun _ => rfl)).trans ?_
  · simp [Shape.Distinct, Shape.names, Field.required, Field.withDefault]
  · simp only [linkDeviceForm_iff, Shape.reads_cons_iff, Shape.reads_nil_iff, and_true,
      reads_required_iff hasForm_string, reads_required_iff hasForm_u32,
      reads_withDefault_iff (hasForm_array hasForm_transaction)]
    rfl

theorem hasForm_showPrivateKey : ShowPrivateKeyPayload.codec.HasForm ShowPrivateKeyForm := by
  intro j p
  refine (record_eq_ok_iff ?_ (fun _ => rfl) (fun _ => rfl)).trans ?_
  · simp [Shape.Distinct, Shape.names, Field.required]
  · simp only [showPrivateKeyForm_iff, Shape.reads_cons_iff, Shape.reads_nil_iff, and_true,
      reads_required_iff hasForm_string]
    rfl

theorem hasForm_override : PolicyOverride.codec.HasForm OverrideForm := by
  intro j o
  have hmode : UiMode.codec.HasForm uiModeForm := hasForm_enumeration _
  have hbehavior : Behavior.codec.HasForm behaviorForm := hasForm_enumeration _
  have htheme : Theme.codec.HasForm themeForm := hasForm_enumeration _
  refine (strictRecord_eq_ok_iff ?_ (fun _ => rfl) (fun _ => rfl)).trans ?_
  · simp [PolicyOverride.shape, Shape.Distinct, Shape.names, Field.nullable, delayNames]
  · rw [PolicyOverride.shape]
    simp only [overrideForm_iff, Shape.reads_cons_iff, Shape.reads_nil_iff, and_true, reads_nullable_iff hmode,
      reads_nullable_iff hbehavior, reads_nullable_iff htheme]
    rw [reads_orDefault_iff (hasForm_optional hasForm_u64) rfl]
    rfl

end

/-- **What the payload of an operation is read from.** -/
theorem Payload.decode_eq_ok_iff {op : Operation} {j : Json} {p : Payload} :
    Payload.decode op j = .ok p ↔ p.operation = op ∧ PayloadForm j p := by
  cases op <;>
    simp only [Payload.decode, Codec.map_eq_ok_iff, hasForm_signTransaction _ _, hasForm_registerAccount _ _,
      hasForm_decryptPrivateKey _ _, hasForm_signMessage _ _, hasForm_linkDevice _ _, hasForm_showPrivateKey _ _] <;>
    cases p <;> simp [Payload.operation, PayloadForm]

/-! ## Requests -/

theorem Text.trim_ne_empty_iff {s : String} : trim s ≠ "" ↔ allBlank s = false := by
  refine ⟨fun h => ?_, trim_ne_empty⟩
  by_contra hblank
  refine h ?_
  have hdrop : s.toList.dropWhile isBlank = [] := by
    rw [List.dropWhile_eq_nil_iff]
    simpa [allBlank] using hblank
  rw [← String.toList_inj, toList_trim, trimList_eq, hdrop]
  rfl

namespace Request

/-- The summary of an envelope, which is empty if it has none. -/
def givenSummary (raw : Json) : Json := (raw.get? "summary").getD (.obj [])

/-- What a payload has to satisfy beyond its form, next to a summary. -/
def Admitted (summary : Json) : Payload → Prop
  | .signTransaction p =>
    p.transactions ≠ [] ∧ (∀ t ∈ p.transactions, Text.trim t.receiverId ≠ "") ∧
      (p.authMode = .warmSession → ∃ s, p.sessionId = some s ∧ Text.trim s ≠ "") ∧
      (∀ d, p.intentDigest = some d → d = Digest.intent p.transactions) ∧
      ∀ d, summary.get? "intentDigest" = some (.str d) → d = Digest.intent p.transactions
  | .signMessage p => Text.trim p.recipient ≠ ""
  | _ => True

/-- The summary of a request: the one given, with the digest of the transactions in it if it is an object and they are to
be signed. -/
def shownSummary (summary : Json) : Payload → Json
  | .signTransaction p => summary.setMember "intentDigest" (.str (Digest.intent p.transactions))
  | _ => summary

/-- What an envelope is that a request is read from. -/
structure ReadFrom (raw : Json) (q : Request) : Prop where
  object : raw.isObject = true
  version : raw.get? "schemaVersion" = some (.int 2)
  id : ∃ s, raw.get? "requestId" = some (.str s) ∧ Text.trim s ≠ "" ∧ q.id = Text.trim s
  operation : raw.get? "type" = some (.str q.payload.operation.name)
  payload : ∃ members, raw.get? "payload" = some (.obj members) ∧ PayloadForm (.obj members) q.payload
  account : Text.trim q.payload.account ≠ ""
  admitted : Admitted (givenSummary raw) q.payload
  policyOverride : Form.orDefault (.nullable OverrideForm) none (raw.get? "confirmationConfig") q.policyOverride
  summary : q.summary = shownSummary (givenSummary raw) q.payload

variable {raw : Json} {q : Request} {op : Operation} {id : String} {p : Payload}

theorem readVersion_eq_ok_iff : readVersion raw = .ok () ↔ raw.get? "schemaVersion" = some (.int 2) := by
  have hnat : (raw.get? "schemaVersion").bind Json.asNat? = some schemaVersion ↔ raw.get? "schemaVersion" = some (.int 2) := by
    rw [Option.bind_eq_some_iff]
    constructor
    · rintro ⟨j, hj, hnat⟩
      cases j with
      | int n =>
        simp only [Json.asNat?, schemaVersion] at hnat
        split at hnat
        · rw [hj, show n = 2 by have := Option.some.inj hnat; omega]
        · cases hnat
      | _ => cases hnat
    · exact fun h => ⟨_, h, rfl⟩
  rw [readVersion, ← hnat]
  split
  · rename_i h
    exact ⟨fun _ => h, fun _ => rfl⟩
  · rename_i h
    exact ⟨nofun, fun h' => absurd h' h⟩

/-- What a member is that has to be a text. -/
theorem bind_asString?_eq_some_iff {part : Option Json} {s : String} :
    part.bind Json.asString? = some s ↔ part = some (.str s) := by
  rw [Option.bind_eq_some_iff]
  constructor
  · rintro ⟨j, rfl, hs⟩
    cases j <;> cases hs
    rfl
  · exact fun h => ⟨_, h, rfl⟩

theorem readId_eq_ok_iff :
    readId raw = .ok id ↔ ∃ s, raw.get? "requestId" = some (.str s) ∧ Text.trim s ≠ "" ∧ id = Text.trim s := by
  simp only [← bind_asString?_eq_some_iff, Text.trim_ne_empty_iff, readId]
  cases (raw.get? "requestId").bind Json.asString? with
  | none => exact ⟨nofun, fun ⟨_, h, _⟩ => nomatch h⟩
  | some s =>
    cases hblank : Text.allBlank s with
    | true =>
      refine ⟨fun h => ?_, ?_⟩
      · simp only [hblank, if_true] at h
        cases h
      · rintro ⟨_, heq, hvisible, -⟩
        cases heq
        rw [hblank] at hvisible
        cases hvisible
    | false =>
      simp only [hblank, Bool.false_eq_true, if_false, Except.ok.injEq]
      constructor
      · rintro rfl
        exact ⟨s, rfl, hblank, rfl⟩
      · rintro ⟨_, heq, -, rfl⟩
        cases heq
        rfl

theorem ofName?_eq_some_iff {s : String} : Operation.ofName? s = some op ↔ s = op.name := by
  constructor
  · intro h
    have hname := List.find?_some h
    simpa using Eq.symm (beq_iff_eq.1 hname)
  · rintro rfl
    exact Operation.ofName?_name op

theorem readOperation_eq_ok_iff : readOperation raw = .ok op ↔ raw.get? "type" = some (.str op.name) := by
  rw [← bind_asString?_eq_some_iff, readOperation]
  have hname : Text.allBlank op.name = false := by cases op <;> decide
  cases (raw.get? "type").bind Json.asString? with
  | none => simp
  | some s =>
    rw [Option.some_inj]
    constructor
    · intro h
      dsimp only at h
      split at h
      · cases h
      · split at h
        · rename_i hop
          cases h
          exact ofName?_eq_some_iff.1 hop
        · cases h
    · rintro rfl
      dsimp only
      rw [hname, if_neg Bool.false_ne_true, Operation.ofName?_name]

/-- What a request to sign transactions has to satisfy beyond its form. -/
theorem checkPayload_signTransaction_iff {p : SignTransactionPayload} :
    checkPayload (.signTransaction p) = .ok () ↔
      p.transactions ≠ [] ∧ (∀ t ∈ p.transactions, Text.trim t.receiverId ≠ "") ∧
        (p.authMode = .warmSession → ∃ s, p.sessionId = some s ∧ Text.trim s ≠ "") := by
  simp only [Text.trim_ne_empty_iff, checkPayload]
  cases htransactions : p.transactions with
  | nil => simp
  | cons t ts =>
    rw [← htransactions, if_neg (by simp [htransactions])]
    cases hfind : p.transactions.find? fun t => Text.allBlank t.receiverId with
    | some t =>
      have hblank := List.find?_some hfind
      have hmem := List.mem_of_find?_eq_some hfind
      constructor
      · intro h
        cases h
      · intro h
        rw [h.2.1 t hmem] at hblank
        cases hblank
    | none =>
      have hreceivers : ∀ t ∈ p.transactions, Text.allBlank t.receiverId = false := by simpa using hfind
      have hne : p.transactions ≠ [] := by simp [htransactions]
      have hblank : p.sessionId.all Text.allBlank = true ↔ ¬ ∃ s, p.sessionId = some s ∧ Text.allBlank s = false := by
        cases p.sessionId <;> simp
      dsimp only
      split <;> rename_i hcold
      · constructor
        · intro h
          cases h
        · exact fun h => absurd (h.2.2 hcold.1) (hblank.1 hcold.2)
      · refine ⟨fun _ => ⟨hne, hreceivers, fun hmode => ?_⟩, fun _ => rfl⟩
        by_contra hsession
        exact hcold ⟨hmode, hblank.2 hsession⟩

/-- What is read as the payload of an operation: an object of its form that passes its checks. -/
theorem readPayload_eq_ok_iff :
    readPayload op raw = .ok p ↔
      (∃ members, raw.get? "payload" = some (.obj members) ∧ p.operation = op ∧ PayloadForm (.obj members) p) ∧
        checkPayload p = .ok () ∧ Text.trim p.account ≠ "" := by
  rw [Text.trim_ne_empty_iff]
  constructor
  · intro h
    refine ⟨?_, checks_of_readPayload h⟩
    unfold readPayload at h
    cases hpart : raw.get? "payload" with
    | none =>
      rw [hpart] at h
      cases h
    | some j =>
      rw [hpart] at h
      cases j with
      | obj members =>
        obtain ⟨p', hp', h⟩ := ok_of_bind h
        obtain ⟨⟨⟩, -, h⟩ := ok_of_bind h
        cases haccount : Text.allBlank p'.account with
        | true =>
          simp only [haccount] at h
          cases h
        | false =>
          simp only [haccount] at h
          cases h
          exact ⟨members, rfl, Payload.decode_eq_ok_iff.1 (mapError_eq_ok_iff.1 hp')⟩
      | _ => cases h
  · rintro ⟨⟨members, hpart, hop, hform⟩, hcheck, haccount⟩
    have hdecode := Payload.decode_eq_ok_iff.2 ⟨hop, hform⟩
    simp [readPayload, hpart, Json.isObject, hdecode, hcheck, haccount, Except.mapError, bind, Except.bind, pure,
      Except.pure]

theorem readOverride_eq_ok_iff {o : Option PolicyOverride} :
    readOverride op raw = .ok o ↔ Form.orDefault (.nullable OverrideForm) none (raw.get? "confirmationConfig") o := by
  unfold readOverride
  split
  · rename_i hpart
    simp [hpart, Form.orDefault, eq_comm]
  · rename_i hpart
    simp [hpart, Form.orDefault, Form.nullable, eq_comm]
  · rename_i j hnull hpart
    have hform : Form.orDefault (.nullable OverrideForm) none (some j) o ↔
        ∃ a, PolicyOverride.codec.ofJson j = .ok a ∧ o = some a := by
      simp [Form.orDefault, Form.nullable, hasForm_override j _, show j ≠ .null from hnull]
    rw [hpart, hform]
    cases PolicyOverride.codec.ofJson j <;> simp [eq_comm]

/-- **What the summary of a request is**, for a payload that has the form and the checks of one. -/
theorem readSummary_eq_ok_iff {s : Json} : (checkPayload p = .ok () ∧ readSummary p raw = .ok s) ↔
    Admitted (givenSummary raw) p ∧ s = shownSummary (givenSummary raw) p := by
  cases p with
  | signTransaction p =>
    have hclaimed : (claimedDigests p (givenSummary raw)).all (· = Digest.intent p.transactions) = true ↔
        (∀ d, p.intentDigest = some d → d = Digest.intent p.transactions) ∧
          ∀ d, (givenSummary raw).get? "intentDigest" = some (.str d) → d = Digest.intent p.transactions := by
      simp [claimedDigests, bind_asString?_eq_some_iff]
    have hsummary : readSummary (.signTransaction p) raw = .ok s ↔
        (claimedDigests p (givenSummary raw)).all (· = Digest.intent p.transactions) = true ∧
          s = shownSummary (givenSummary raw) (.signTransaction p) := by
      have hread : readSummary (.signTransaction p) raw =
          if (claimedDigests p (givenSummary raw)).all (· = Digest.intent p.transactions) then
            .ok (shownSummary (givenSummary raw) (.signTransaction p))
          else .error (invalid .signTransaction "intentDigest does not match txSigningRequests") := rfl
      rw [hread]
      split
      · rename_i h
        exact ⟨fun heq => ⟨h, (Except.ok.inj heq).symm⟩, fun heq => congrArg Except.ok heq.2.symm⟩
      · rename_i h
        exact ⟨nofun, fun h' => absurd h'.1 h⟩
    rw [checkPayload_signTransaction_iff, hsummary, hclaimed]
    simp only [Admitted, and_assoc]
  | signMessage p =>
    have hcheck : checkPayload (.signMessage p) = .ok () ↔ Text.trim p.recipient ≠ "" := by
      rw [Text.trim_ne_empty_iff]
      cases hblank : Text.allBlank p.recipient <;> simp [checkPayload, hblank]
    rw [hcheck]
    exact and_congr_right fun _ => ⟨fun h => (Except.ok.inj h).symm, fun h => congrArg Except.ok h.symm⟩
  | _ => exact ⟨fun h => ⟨trivial, (Except.ok.inj h.2).symm⟩, fun h => ⟨rfl, congrArg Except.ok h.2.symm⟩⟩

/-- **Which values are read as requests**, and to what. -/
theorem read_eq_ok_iff : read raw = .ok q ↔ ReadFrom raw q := by
  constructor
  · intro h
    unfold read at h
    cases hobject : raw.isObject with
    | false =>
      rw [hobject] at h
      cases h
    | true =>
      simp only [hobject, Bool.not_true, Bool.false_eq_true, if_false] at h
      obtain ⟨⟨⟩, hversion, h⟩ := ok_of_bind h
      obtain ⟨id, hid, h⟩ := ok_of_bind h
      obtain ⟨op, hop, h⟩ := ok_of_bind h
      obtain ⟨payload, hpayload, h⟩ := ok_of_bind h
      obtain ⟨policyOverride, hoverride, h⟩ := ok_of_bind h
      obtain ⟨summary, hsummary, h⟩ := ok_of_bind h
      cases h
      obtain ⟨⟨members, hpart, rfl, hform⟩, hcheck, haccount⟩ := readPayload_eq_ok_iff.1 hpayload
      obtain ⟨hadmitted, hshown⟩ := readSummary_eq_ok_iff.1 ⟨hcheck, hsummary⟩
      exact ⟨hobject, readVersion_eq_ok_iff.1 hversion, readId_eq_ok_iff.1 hid, readOperation_eq_ok_iff.1 hop,
        ⟨members, hpart, hform⟩, haccount, hadmitted, readOverride_eq_ok_iff.1 hoverride, hshown⟩
  · rintro ⟨hobject, hversion, hid, hop, ⟨members, hpart, hform⟩, haccount, hadmitted, hoverride, hshown⟩
    obtain ⟨hcheck, hsummary⟩ := readSummary_eq_ok_iff.2 ⟨hadmitted, hshown⟩
    have hpayload := readPayload_eq_ok_iff.2 ⟨⟨members, hpart, rfl, hform⟩, hcheck, haccount⟩
    simp [read, hobject, readVersion_eq_ok_iff.2 hversion, readId_eq_ok_iff.2 hid, readOperation_eq_ok_iff.2 hop, hpayload,
      readOverride_eq_ok_iff.2 hoverride, hsummary, bind, Except.bind, pure, Except.pure]

end Request
end PasskeyConsent

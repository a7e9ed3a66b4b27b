import PasskeyConsent.Chain.Client
import PasskeyConsent.Proofs.Collections.Runs
import PasskeyConsent.Proofs.Json.Carrying
import Mathlib.Tactic.MkIffOfInductiveProp
/-!
# What the replies of a node are taken for

A call succeeds by a reply of success whose body is an envelope with a result and without an error, and fails with a
reason if there is no reply, if its status is none of success, or if the node reports an error (`ChainReply.Comes`).  That
there is no such access key is told from the reason, whichever of the three has given it.  So a client that asks for an
access key gets it just from the replies that it should, while the page of a gateway, or the address of a node that cannot
be reached, is taken for the word of the chain if it reads like it (`ChainClient.access_key_classified`).
-/
namespace PasskeyConsent

/-! ## Texts of a missing key -/

namespace Text

/-- Whether a text stands somewhere in another. -/
def Mentions (part s : String) : Prop := part.toList <:+: s.toList

theorem contains_iff {part s : String} : contains part s = true ↔ Mentions part s := occurs_iff

end Text

/-- What is looked for in the reason of a failure. -/
def unknownKeyPhrases : List String := ["does not exist", "UNKNOWN_ACCESS_KEY"]

/-- Whether a text tells that there is no such access key. -/
def TellsUnknownKey (text : String) : Prop := ∃ phrase ∈ unknownKeyPhrases, Text.Mentions phrase text

theorem saysUnknownKey_iff {text : String} : saysUnknownKey text = true ↔ TellsUnknownKey text := by
  simp [saysUnknownKey, TellsUnknownKey, unknownKeyPhrases, Text.contains_iff]

section

variable {text before after : String} {c : Char}

/-- Two texts with a character between them that no phrase has tell it if one of them does. -/
theorem tellsUnknownKey_of_parts (hc : ∀ phrase ∈ unknownKeyPhrases, c ∉ phrase.toList)
    (htext : text.toList = before.toList ++ c :: after.toList) :
    TellsUnknownKey text ↔ TellsUnknownKey before ∨ TellsUnknownKey after := by
  simp only [TellsUnknownKey, Text.Mentions, htext, ← exists_or, ← and_or_left]
  exact exists_congr fun phrase => and_congr_right fun hphrase => infix_append_cons_iff (hc phrase hphrase)

/-- What stands in front of a text makes no difference if no phrase begins in it. -/
theorem tellsUnknownKey_append (hbefore : ∀ c ∈ before.toList, c ≠ 'd' ∧ c ≠ 'U') :
    TellsUnknownKey (before ++ after) ↔ TellsUnknownKey after := by
  have hheads : ∀ phrase ∈ unknownKeyPhrases, ∃ c part, phrase.toList = c :: part ∧ c ∉ before.toList := by
    simp only [unknownKeyPhrases, List.forall_mem_cons, List.not_mem_nil, false_imp_iff, implies_true, and_true]
    exact ⟨⟨'d', "oes not exist".toList, by simp, fun h => (hbefore 'd' h).1 rfl⟩,
      ⟨'U', "NKNOWN_ACCESS_KEY".toList, by simp, fun h => (hbefore 'U' h).2 rfl⟩⟩
  refine exists_congr fun phrase => and_congr_right fun hphrase => ?_
  obtain ⟨c, part, hpart, hc⟩ := hheads phrase hphrase
  rw [Text.Mentions, Text.Mentions, hpart, String.toList_append]
  exact cons_infix_append_iff hc

end

theorem isDigit_of_mem_toString {n : Nat} {c : Char} (h : c ∈ (toString n).toList) : c.isDigit = true := by
  rw [Nat.toString_eq_repr, Nat.toList_repr] at h
  exact Nat.isDigit_of_mem_toDigits (by decide) (by decide) h

/-- The line of a status does not tell it. -/
theorem not_tellsUnknownKey_statusText (status : Nat) : ¬TellsUnknownKey ("HTTP " ++ statusText status) := by
  have hline : "HTTP " ++ statusText status =
      ("HTTP " ++ toString status ++ " ") ++ (statusNames.lookup status).getD "<unknown status code>" := by
    rw [statusText]
    simp only [String.append_assoc]
  have hbefore : ∀ c ∈ ("HTTP " ++ toString status ++ " ").toList, c ≠ 'd' ∧ c ≠ 'U' := by
    intro c hc
    simp only [String.toList_append, List.mem_append] at hc
    rcases hc with (hc | hc) | hc
    · exact (by simp : ∀ c ∈ "HTTP ".toList, c ≠ 'd' ∧ c ≠ 'U') c hc
    · -- no phrase begins with a digit
      have hdigit := isDigit_of_mem_toString hc
      constructor <;> rintro rfl <;> cases hdigit
    · exact (by simp : ∀ c ∈ " ".toList, c ≠ 'd' ∧ c ≠ 'U') c hc
  have hnames : ∀ p ∈ statusNames, saysUnknownKey p.2 = false := by decide +kernel
  rw [hline, tellsUnknownKey_append hbefore, ← saysUnknownKey_iff, Bool.not_eq_true]
  cases hname : statusNames.lookup status with
  | some name =>
    obtain ⟨l₁, l₂, heq, -⟩ := List.lookup_eq_some_iff.1 hname
    exact hnames (status, name) (heq ▸ List.mem_append_right _ List.mem_cons_self)
  | none => decide

/-! ## Envelopes -/

namespace ChainEnvelope

/-- Whether an envelope has a result to give: one that is not null and tells no error itself, with no error beside it. -/
structure Yields (e : ChainEnvelope) (v : Json) : Prop where
  carried : e.result = some v
  given : v ≠ .null
  alone : ∀ error ∈ e.error, error = .null
  plain : ∀ reason, v.get? "error" ≠ some (.str reason)

/-- The error that an envelope reports: what stands beside the result, or else a text inside it. -/
inductive Reports : ChainEnvelope → String → Prop where
  | beside {result : Option Json} {error : Json} : Reports ⟨result, some error⟩ error.compact
  | inside {result : Json} {reason : String} (h : result.get? "error" = some (.str reason)) :
    Reports ⟨some result, none⟩ reason

variable {e : ChainEnvelope} {v : Json} {method reason : String}

theorem Yields.outcome (h : e.Yields v) (hnull : e.error ≠ some .null) : e.outcome method = .ok v := by
  obtain ⟨result, error⟩ := e
  obtain ⟨rfl, -, halone, hplain⟩ := h
  cases error with
  | some error => exact absurd (congrArg some (halone error rfl)) hnull
  | none =>
    rw [ChainEnvelope.outcome]
    dsimp only
    split
    · rename_i hreason
      exact absurd hreason (hplain _)
    · rfl

theorem Reports.outcome (h : e.Reports reason) : e.outcome method = .error (.requestFailed method reason) := by
  cases h with
  | beside => rfl
  | inside hreason =>
    rw [ChainEnvelope.outcome]
    dsimp only
    rw [hreason]

end ChainEnvelope

theorem Document.exists_of_toJson_null {d : Document} (h : d.toJson = .ok .null) : ∃ span, d = .null span := by
  cases d with
  | null span => exact ⟨span, rfl⟩
  | arr =>
    rw [toJson] at h
    obtain ⟨_, -, h⟩ := ok_of_bind h
    obtain ⟨_, -, h⟩ := ok_of_bind h
    obtain ⟨_, -, h⟩ := ok_of_bind h
    cases h
  | obj =>
    rw [toJson] at h
    obtain ⟨_, -, h⟩ := ok_of_bind h
    obtain ⟨_, -, h⟩ := ok_of_bind h
    obtain ⟨_, -, h⟩ := ok_of_bind h
    cases h
  | _ => cases h

/-- What a part of a record can be nothing for is no null if it is something. -/
theorem Field.ne_null_of_reads {key : String} {part : Option Document} {j : Json}
    (h : (Field.nullable key .json).Reads part (some j)) : j ≠ .null := by
  rintro rfl
  cases part with
  | none => cases h
  | some d =>
    obtain ⟨span, rfl⟩ := Document.exists_of_toJson_null (Codec.decode_of_optional h)
    cases h

/-- **Neither part of an envelope that has been read is null.** -/
theorem ChainEnvelope.ne_null_of_ofBytes {bytes : Bytes} {e : ChainEnvelope} (h : codec.ofBytes bytes = .ok e) :
    e.result ≠ some .null ∧ e.error ≠ some .null := by
  have hdecode : codec.decode (Document.ofText (Json.textOfBytes bytes)).1 = .ok e := by
    obtain ⟨e', hdecode, h⟩ := ok_of_bind h
    split at h
    · exact Except.ok.inj h ▸ hdecode
    · cases h
  obtain ⟨hresult, herror, -⟩ :=
    Codec.reads_of_record (by simp [Shape.Distinct, Shape.names, Field.nullable]) (fun _ => rfl) hdecode
  constructor
  · intro hnull
    rw [hnull] at hresult
    exact Field.ne_null_of_reads hresult rfl
  · intro hnull
    rw [hnull] at herror
    exact Field.ne_null_of_reads herror rfl

/-! ## Replies -/

namespace ChainReply

/-- Whether a reply is one of success whose body is an envelope. -/
inductive Encloses : ChainReply → ChainEnvelope → Prop where
  | intro {status : Nat} {bytes : Bytes} {e : ChainEnvelope} (hstatus : isSuccess status = true)
    (hbody : ChainEnvelope.codec.ofBytes bytes = .ok e) : Encloses (.reply status (.ok bytes)) e

/-- The reasons for which a call fails: there is no reply, or one of failure, or one that reports an error. -/
inductive Fails : ChainReply → String → Prop where
  | unanswered {reason : String} : Fails (.failure reason) reason
  | refused {status : Nat} {body : Except String Bytes} (hstatus : isSuccess status = false) :
    Fails (.reply status body) ("HTTP " ++ statusText status ++ ": " ++ pageOf body)
  | reported {r : ChainReply} {e : ChainEnvelope} {reason : String} (hencloses : r.Encloses e)
    (hreports : e.Reports reason) : Fails r reason

/-- The reasons for which no envelope is read from a reply of success: its body breaks off, or is something else. -/
inductive Unread : ChainReply → String → Prop where
  | brokenOff {status : Nat} {reason : String} (hstatus : isSuccess status = true) :
    Unread (.reply status (.error reason)) reason
  | noEnvelope {status : Nat} {bytes : Bytes} {fault : Fault} (hstatus : isSuccess status = true)
    (hbody : ChainEnvelope.codec.ofBytes bytes = .error fault) : Unread (.reply status (.ok bytes)) undecodable

/-- All that a call can come to. -/
inductive Comes (method : String) (r : ChainReply) : Except ChainError Json → Prop where
  | yielded {e : ChainEnvelope} {v : Json} (hencloses : r.Encloses e) (hyields : e.Yields v) : Comes method r (.ok v)
  | failed {reason : String} (hfails : r.Fails reason) : Comes method r (.error (.requestFailed method reason))
  | empty (hencloses : r.Encloses ⟨none, none⟩) : Comes method r (.error (.invalidResponse method "missing result"))
  | unread {reason : String} (hunread : r.Unread reason) : Comes method r (.error (.http reason))

variable {method : String} {r : ChainReply} {e : ChainEnvelope} {v : Json} {reason : String} {x : Except ChainError Json}

theorem outcome_of_encloses (h : r.Encloses e) : r.outcome method = e.outcome method := by
  obtain ⟨hstatus, hbody⟩ := h
  rw [outcome, if_pos hstatus, envelopeOf, hbody]
  rfl

theorem Encloses.ne_null (h : r.Encloses e) : e.result ≠ some .null ∧ e.error ≠ some .null := by
  obtain ⟨-, hbody⟩ := h
  exact ChainEnvelope.ne_null_of_ofBytes hbody

theorem comes_of_encloses (h : r.Encloses e) : r.Comes method (e.outcome method) := by
  obtain ⟨result, error⟩ := e
  cases error with
  | some error => exact .failed (.reported h .beside)
  | none =>
    cases result with
    | none => exact .empty h
    | some v =>
      rw [ChainEnvelope.outcome]
      dsimp only
      split
      · rename_i hreason
        exact .failed (.reported h (.inside hreason))
      · rename_i hplain
        exact .yielded h ⟨rfl, fun hnull => h.ne_null.1 (congrArg some hnull), nofun, hplain⟩

theorem comes_outcome : r.Comes method (r.outcome method) := by
  cases r with
  | failure reason => exact .failed .unanswered
  | reply status body =>
    rw [outcome]
    split
    · rename_i hstatus
      cases body with
      | error reason => exact .unread (.brokenOff hstatus)
      | ok bytes =>
        cases hbody : ChainEnvelope.codec.ofBytes bytes with
        | error fault =>
          rw [envelopeOf, hbody]
          exact .unread (.noEnvelope hstatus hbody)
        | ok e =>
          rw [envelopeOf, hbody]
          exact comes_of_encloses ⟨hstatus, hbody⟩
    · rename_i hstatus
      exact .failed (.refused (Bool.eq_false_iff.2 hstatus))

theorem Fails.outcome (h : r.Fails reason) : r.outcome method = .error (.requestFailed method reason) := by
  cases h with
  | unanswered => rfl
  | refused hstatus => rw [ChainReply.outcome, if_neg (Bool.eq_false_iff.1 hstatus)]
  | reported hencloses hreports =>
    rw [outcome_of_encloses hencloses]
    exact hreports.outcome

theorem Unread.outcome (h : r.Unread reason) : r.outcome method = .error (.http reason) := by
  cases h with
  | brokenOff hstatus =>
    rw [ChainReply.outcome, if_pos hstatus]
    rfl
  | noEnvelope hstatus hbody =>
    rw [ChainReply.outcome, if_pos hstatus, envelopeOf, hbody]
    rfl

/-- **A call comes to what its reply says**, and to nothing else. -/
theorem outcome_eq_iff : r.outcome method = x ↔ r.Comes method x := by
  constructor
  · rintro rfl
    exact comes_outcome
  · intro h
    cases h with
    | yielded hencloses hyields =>
      rw [outcome_of_encloses hencloses]
      exact hyields.outcome hencloses.ne_null.2
    | failed hfails => exact hfails.outcome
    | empty hencloses =>
      rw [outcome_of_encloses hencloses]
      rfl
    | unread hunread => exact hunread.outcome

theorem outcome_eq_ok_iff : r.outcome method = .ok v ↔ ∃ e, r.Encloses e ∧ e.Yields v := by
  rw [outcome_eq_iff]
  constructor
  · rintro (⟨hencloses, hyields⟩ | _)
    exact ⟨_, hencloses, hyields⟩
  · rintro ⟨e, hencloses, hyields⟩
    exact .yielded hencloses hyields

end ChainReply

/-! ## Access keys -/

/-- What the state of an access key is read from. -/
@[mk_iff]
structure AccessKeyForm (j : Json) (k : AccessKeyInfo) : Prop where
  record : j.MakesRecord [["nonce"], ["block_height"], ["block_hash"]] false
  nonce : Form.required .u64 (j.part? ["nonce"] 0) k.nonce
  blockHeight : Form.orDefault .u64 0 (j.part? ["block_height"] 1) k.blockHeight
  blockHash : Form.orDefault .string "" (j.part? ["block_hash"] 2) k.blockHash

section

open Codec PasskeyConsent.Field

theorem hasForm_accessKey : AccessKeyInfo.codec.HasForm AccessKeyForm := by
  intro j k
  refine (record_eq_ok_iff ?_ (fun _ => rfl) (fun _ => rfl)).trans ?_
  · simp [Shape.Distinct, Shape.names, Field.required, Field.withDefault]
  · simp only [accessKeyForm_iff, Shape.reads_cons_iff, Shape.reads_nil_iff, and_true, reads_required_iff hasForm_u64,
      reads_withDefault_iff hasForm_u64, reads_withDefault_iff hasForm_string]
    rfl

end

namespace ChainReply

variable {r : ChainReply} {account key : String} {info : AccessKeyInfo}

/-- **Which replies give an access key**, and with what state. -/
theorem accessKey_eq_ok_iff :
    r.accessKey account key = .ok info ↔ ∃ e v, r.Encloses e ∧ e.Yields v ∧ AccessKeyForm v info := by
  constructor
  · intro h
    obtain ⟨v, hv, hinfo⟩ := ok_of_bind h
    obtain ⟨e, hencloses, hyields⟩ := outcome_eq_ok_iff.1 (mapError_eq_ok_iff.1 hv)
    exact ⟨e, v, hencloses, hyields, (hasForm_accessKey v info).1 (mapError_eq_ok_iff.1 hinfo)⟩
  · rintro ⟨e, v, hencloses, hyields, hinfo⟩
    rw [accessKey, outcome_eq_ok_iff.2 ⟨e, hencloses, hyields⟩]
    exact mapError_eq_ok_iff.2 ((hasForm_accessKey v info).2 hinfo)

/-- **Which replies are taken for a missing key**: those with which a call fails for a reason that tells it. -/
theorem accessKey_eq_notFound_iff {a k : String} :
    r.accessKey account key = .error (.accessKeyNotFound a k) ↔
      (a = account ∧ k = key) ∧ ∃ reason, r.Fails reason ∧ TellsUnknownKey reason := by
  constructor
  · intro h
    have hcomes : r.Comes _ (r.outcome (ChainCall.accessKey account key).method) := comes_outcome
    rw [accessKey] at h
    generalize r.outcome (ChainCall.accessKey account key).method = x at h hcomes
    cases hcomes with
    | @yielded e v =>
      change (AccessKeyInfo.codec.ofJson v).mapError _ = _ at h
      cases hread : AccessKeyInfo.codec.ofJson v <;> rw [hread] at h <;> cases h
    | @failed reason hfails =>
      change Except.error (if saysUnknownKey reason = true then _ else _) = _ at h
      split at h
      · rename_i hsays
        cases h
        exact ⟨⟨rfl, rfl⟩, reason, hfails, saysUnknownKey_iff.1 hsays⟩
      · cases h
    | empty => cases h
    | unread => cases h
  · rintro ⟨⟨rfl, rfl⟩, reason, hfails, htells⟩
    rw [accessKey, hfails.outcome]
    show Except.error (if saysUnknownKey reason = true then _ else _) = _
    rw [if_pos (saysUnknownKey_iff.2 htells)]

/-- The replies that read like a missing key: no reply for a reason that tells it, a failure whose page tells it, and an
error of the node that does. -/
inductive SuggestsUnknownKey : ChainReply → Prop where
  | unanswered {reason : String} (htells : TellsUnknownKey reason) : SuggestsUnknownKey (.failure reason)
  | refused {status : Nat} {body : Except String Bytes} (hstatus : isSuccess status = false)
    (htells : TellsUnknownKey (pageOf body)) : SuggestsUnknownKey (.reply status body)
  | reported {r : ChainReply} {e : ChainEnvelope} {reason : String} (hencloses : r.Encloses e)
    (hreports : e.Reports reason) (htells : TellsUnknownKey reason) : SuggestsUnknownKey r

/-- Of the reason of a failure only the page matters. -/
theorem tellsUnknownKey_refusal {status : Nat} {page : String} :
    TellsUnknownKey ("HTTP " ++ statusText status ++ ": " ++ page) ↔ TellsUnknownKey page := by
  have hparts : TellsUnknownKey ("HTTP " ++ statusText status ++ ": " ++ page) ↔
      TellsUnknownKey ("HTTP " ++ statusText status) ∨ TellsUnknownKey (" " ++ page) :=
    tellsUnknownKey_of_parts (c := ':') (by decide) (by simp)
  rw [hparts, or_iff_right (not_tellsUnknownKey_statusText status)]
  exact tellsUnknownKey_append (by simp)

theorem suggestsUnknownKey_iff : r.SuggestsUnknownKey ↔ ∃ reason, r.Fails reason ∧ TellsUnknownKey reason := by
  constructor
  · rintro (htells | ⟨hstatus, htells⟩ | ⟨hencloses, hreports, htells⟩)
    · exact ⟨_, .unanswered, htells⟩
    · exact ⟨_, .refused hstatus, tellsUnknownKey_refusal.2 htells⟩
    · exact ⟨_, .reported hencloses hreports, htells⟩
  · rintro ⟨reason, ⟨⟩ | hstatus | ⟨hencloses, hreports⟩, htells⟩
    · exact .unanswered htells
    · exact .refused hstatus (tellsUnknownKey_refusal.1 htells)
    · exact .reported hencloses hreports htells

end ChainReply

/-! ## Conversations -/

namespace ChainClient

variable {c : ChainClient}

/-- **Each call is answered by its own reply**, and numbered by its place. -/
theorem getElem?_converse : ∀ {talk : List (ChainCall × ChainReply)} {c : ChainClient} {i : Nat},
    (c.converse talk)[i]? = talk[i]?.map fun (call, r) => ⟨call.request (c.nextId + i), r.answer call⟩
  | [], _, _ => rfl
  | _ :: _, _, 0 => rfl
  | (call, r) :: talk, c, i + 1 => by
    have hnext : (c.request call).2.nextId + i = c.nextId + (i + 1) := Nat.succ_add_eq_add_succ c.nextId i
    rw [converse, List.getElem?_cons_succ, List.getElem?_cons_succ, getElem?_converse, hnext]

/-- **A node that cannot be reached has no such key** if its address reads like that. -/
theorem accessKey_unreachable_iff {account key : String} :
    c.unreachable.accessKey account key = .error (.accessKeyNotFound account key) ↔
      TellsUnknownKey c.endpoint.text := by
  have hopen : TellsUnknownKey ("error sending request for url (" ++ c.endpoint.text ++ ")") ↔
      TellsUnknownKey "error sending request for url " ∨ TellsUnknownKey (c.endpoint.text ++ ")") :=
    tellsUnknownKey_of_parts (c := '(') (by decide) (by simp)
  have hclose : TellsUnknownKey (c.endpoint.text ++ ")") ↔ TellsUnknownKey c.endpoint.text ∨ TellsUnknownKey "" :=
    tellsUnknownKey_of_parts (c := ')') (by decide) (by simp)
  have hbefore : ¬TellsUnknownKey "error sending request for url " := by
    rw [← saysUnknownKey_iff]
    decide
  have hafter : ¬TellsUnknownKey "" := by
    rw [← saysUnknownKey_iff]
    decide
  have haddress : TellsUnknownKey ("error sending request for url (" ++ c.endpoint.text ++ ")") ↔
      TellsUnknownKey c.endpoint.text := by
    rw [hopen, hclose, or_iff_right hbefore, or_iff_left hafter]
  rw [ChainReply.accessKey_eq_notFound_iff, ← haddress]
  constructor
  · rintro ⟨-, reason, ⟨⟩ | _ | ⟨⟨⟩⟩, htells⟩
    exact htells
  · exact fun htells => ⟨⟨rfl, rfl⟩, _, .unanswered, htells⟩

/-- **What comes of asking for an access key.**  Wherever among a client's calls it is asked for, and whatever is replied,
the client gets it just from a reply of success that yields its state, and is told that there is no such key just if the
reply reads like that: the error that the node reports, but as well the page of any failure, and the reason for which
there is no reply at all. -/
theorem access_key_classified (c : ChainClient) {talk : List (ChainCall × ChainReply)} {i : Nat} {account key : String}
    {r : ChainReply} (h : talk[i]? = some (.accessKey account key, r)) :
    ∃ result, (c.converse talk)[i]? =
        some ⟨(ChainCall.accessKey account key).request (c.nextId + i), .accessKey result⟩ ∧
      (∀ info, result = .ok info ↔ ∃ e v, r.Encloses e ∧ e.Yields v ∧ AccessKeyForm v info) ∧
      ∀ a k, result = .error (.accessKeyNotFound a k) ↔ (a = account ∧ k = key) ∧ r.SuggestsUnknownKey := by
  refine ⟨r.accessKey account key, ?_, fun info => ChainReply.accessKey_eq_ok_iff, fun a k => ?_⟩
  · rw [getElem?_converse, h]
    rfl
  · rw [ChainReply.accessKey_eq_notFound_iff, ChainReply.suggestsUnknownKey_iff]

/-- The page of a gateway that has not reached the node. -/
def gatewayPage : ChainReply := .reply 502 (.ok (Bytes.ofText "upstream does not exist"))

/-- A reply with the state of an access key. -/
def keyState : ChainReply := .reply 200 (.ok (Bytes.ofText "\x7b\"result\":\x7b\"nonce\":7\x7d\x7d"))

def testnet : ChainClient := ⟨{ scheme := "https", host := some (.domain "rpc.testnet.near.org"), path := "/" }, 1⟩

theorem access_key_classified_keyState :
    ∃ result, (testnet.converse [(.block, gatewayPage), (.accessKey "alice.testnet" "ed25519:pk", keyState)])[1]? =
        some ⟨(ChainCall.accessKey "alice.testnet" "ed25519:pk").request 2, .accessKey result⟩ ∧
      result = .ok ⟨7, 0, ""⟩ := by
  obtain ⟨result, hanswer, hok, -⟩ := access_key_classified testnet
    (show [(ChainCall.block, gatewayPage), (.accessKey "alice.testnet" "ed25519:pk", keyState)][1]? = some _ from rfl)
  have hencloses : keyState.Encloses ⟨some (.obj [("nonce", .int 7)]), none⟩ := by
    refine ⟨rfl, ?_⟩
    rw [Codec.ofBytes, Json.textOfBytes_ofText]
    decide +kernel
  refine ⟨result, hanswer, (hok _).2 ⟨_, _, hencloses, ⟨rfl, nofun, nofun, nofun⟩, ?_⟩⟩
  exact ⟨by simp [Json.MakesRecord], ⟨.int 7, rfl, rfl⟩, .inl ⟨rfl, rfl⟩, .inl ⟨rfl, rfl⟩⟩

/-- The page of a gateway is taken for the word of the chain. -/
theorem missing_key_by_gateway_page :
    (testnet.converse [(.accessKey "alice.testnet" "ed25519:pk", gatewayPage)])[0]? =
      some ⟨(ChainCall.accessKey "alice.testnet" "ed25519:pk").request 1,
        .accessKey (.error (.accessKeyNotFound "alice.testnet" "ed25519:pk"))⟩ ∧
      ¬∃ e, gatewayPage.Encloses e := by
  have htells : TellsUnknownKey (pageOf (.ok (Bytes.ofText "upstream does not exist"))) := by
    rw [← saysUnknownKey_iff, pageOf, Bytes.shown_ofText]
    decide
  have hsuggests : gatewayPage.SuggestsUnknownKey := .refused rfl htells
  have hmissing : gatewayPage.accessKey "alice.testnet" "ed25519:pk" = _ :=
    ChainReply.accessKey_eq_notFound_iff.2 ⟨⟨rfl, rfl⟩, ChainReply.suggestsUnknownKey_iff.1 hsuggests⟩
  constructor
  · rw [getElem?_converse, ← hmissing]
    rfl
  · rintro ⟨e, ⟨hstatus⟩⟩
    cases hstatus

end ChainClient

end PasskeyConsent

import Mathlib.Data.List.DropRight
import PasskeyConsent.Request.Basic
import PasskeyConsent.Proofs.Json.Records
/-!
# Which requests are accepted

What the reader demands of an id and of the texts of a payload, from both sides: a request that has been read has them
so, and whatever is so stands in some envelope that is read (`read_envelope`).  An id is any text that is not empty and
has no blanks at its ends, an account any text that is not all blanks.
-/
namespace PasskeyConsent

/-! ## Texts without blanks at their ends -/

namespace Text

theorem trimList_eq (cs : List Char) : trimList cs = (cs.dropWhile isBlank).rdropWhile isBlank := rfl

/-- Nothing is trimmed from a list that neither begins nor ends with a blank. -/
theorem trimList_eq_self_iff {cs : List Char} (hne : cs ≠ []) :
    trimList cs = cs ↔ isBlank (cs.head hne) = false ∧ isBlank (cs.getLast hne) = false := by
  have hhead : cs.dropWhile isBlank = cs ↔ isBlank (cs.head hne) = false := by
    simp [List.head_eq_getElem, List.length_pos_iff, hne]
  have hlast : cs.rdropWhile isBlank = cs ↔ isBlank (cs.getLast hne) = false := by
    simp [hne]
  rw [trimList_eq]
  constructor
  · intro h
    -- What both trims leave is no longer than what the first of them leaves.
    have hdrop : cs.dropWhile isBlank = cs := by
      apply (List.dropWhile_suffix isBlank).eq_of_length_le
      have hle := (List.rdropWhile_prefix isBlank (cs.dropWhile isBlank)).length_le
      rwa [h] at hle
    rw [hdrop] at h
    exact ⟨hhead.1 hdrop, hlast.1 h⟩
  · rintro ⟨hh, hl⟩
    rw [hhead.2 hh, hlast.2 hl]

theorem trimList_trimList (cs : List Char) : trimList (trimList cs) = trimList cs := by
  by_cases hne : trimList cs = []
  · rw [hne]
    rfl
  · have hleading : trimList cs <+: cs.dropWhile isBlank := List.rdropWhile_prefix _ _
    have hdrop : cs.dropWhile isBlank ≠ [] := by
      intro h
      rw [h, List.prefix_nil] at hleading
      exact hne hleading
    refine (trimList_eq_self_iff hne).2 ⟨?_, ?_⟩
    · rw [hleading.head hne]
      simpa using List.head_dropWhile_not isBlank hdrop
    · have hlast := List.rdropWhile_last_not isBlank (cs.dropWhile isBlank) hne
      rwa [Bool.not_eq_true] at hlast

/-- A list that is not all blanks, cut before the first character that is none. -/
theorem exists_first_visible {cs : List Char} (h : cs.all isBlank = false) : ∃ before c after,
    cs = before ++ c :: after ∧ cs.dropWhile isBlank = c :: after ∧ isBlank c = false ∧ before.all isBlank = true := by
  have hne : cs.dropWhile isBlank ≠ [] := by
    simpa [List.dropWhile_eq_nil_iff] using h
  obtain ⟨c, after, hdrop⟩ := List.exists_cons_of_ne_nil hne
  refine ⟨cs.takeWhile isBlank, c, after, ?_, hdrop, ?_, List.all_takeWhile⟩
  · rw [← hdrop, List.takeWhile_append_dropWhile]
  · have hhead := List.head_dropWhile_not isBlank hne
    simpa [hdrop] using hhead

theorem trimList_ne_nil {cs : List Char} (h : cs.all isBlank = false) : trimList cs ≠ [] := by
  intro hnil
  obtain ⟨_, c, _, -, hdrop, hc, -⟩ := exists_first_visible h
  rw [trimList_eq, hdrop, List.rdropWhile_eq_nil_iff] at hnil
  simp [hnil c List.mem_cons_self] at hc

@[simp] theorem toList_trim (s : String) : (trim s).toList = trimList s.toList := by
  simp [trim]

theorem trim_trim (s : String) : trim (trim s) = trim s := by
  rw [← String.toList_inj]
  simp [trimList_trimList]

theorem trim_ne_empty {s : String} (h : allBlank s = false) : trim s ≠ "" := by
  rw [ne_eq, ← String.toList_inj]
  simpa using trimList_ne_nil h

theorem trim_eq_self_iff {s : String} (hne : s.toList ≠ []) :
    trim s = s ↔ isBlank (s.toList.head hne) = false ∧ isBlank (s.toList.getLast hne) = false := by
  rw [← String.toList_inj, toList_trim, trimList_eq_self_iff hne]

@[simp] theorem allBlank_append (s t : String) : allBlank (s ++ t) = (allBlank s && allBlank t) := by
  simp [allBlank]

theorem allBlank_of_trim_eq {s : String} (hne : s ≠ "") (h : trim s = s) : allBlank s = false := by
  have hne : s.toList ≠ [] := by simpa using hne
  refine List.all_eq_false.2 ⟨_, List.head_mem hne, ?_⟩
  simp [((trim_eq_self_iff hne).1 h).1]

end Text

namespace Request

variable {raw : Json} {q : Request} {id account : String}

/-! ## What a request that has been read satisfies -/

theorem id_of_readId (h : readId raw = .ok id) : id ≠ "" ∧ Text.trim id = id := by
  unfold readId at h
  split at h
  · split at h
    · cases h
    · rename_i hblank
      cases h
      exact ⟨Text.trim_ne_empty (by simpa using hblank), Text.trim_trim _⟩
  · cases h

theorem checks_of_readPayload {op : Operation} {p : Payload} (h : readPayload op raw = .ok p) :
    checkPayload p = .ok () ∧ Text.allBlank p.account = false := by
  unfold readPayload at h
  cases hobject : ((raw.get? "payload").getD .null).isObject with
  | false =>
    simp only [hobject] at h
    cases h
  | true =>
    simp only [hobject, Bool.not_true, Bool.false_eq_true, if_false] at h
    obtain ⟨p', -, h⟩ := ok_of_bind h
    obtain ⟨⟨⟩, hcheck, h⟩ := ok_of_bind h
    cases haccount : Text.allBlank p'.account with
    | true =>
      simp only [haccount] at h
      cases h
    | false =>
      simp only [haccount] at h
      cases h
      exact ⟨hcheck, haccount⟩

/-- **What a request that has been read satisfies.** -/
theorem checks_of_read (h : read raw = .ok q) :
    q.id ≠ "" ∧ Text.trim q.id = q.id ∧ checkPayload q.payload = .ok () ∧ Text.allBlank q.payload.account = false := by
  obtain ⟨hid, op, -, hpayload, -⟩ := parts_of_read h
  obtain ⟨hne, htrim⟩ := id_of_readId hid
  exact ⟨hne, htrim, checks_of_readPayload hpayload⟩

theorem recipient_of_checkPayload {p : SignMessagePayload} (h : checkPayload (.signMessage p) = .ok ()) :
    Text.allBlank p.recipient = false := by
  simp only [checkPayload] at h
  split at h
  · cases h
  · rename_i hblank
    simpa using hblank

/-! ## Envelopes that are read -/

/-- The envelope of a payload, with nothing in it that can be left out. -/
def envelope (id : String) (p : Payload) : Json :=
  .obj [("payload", p.encode), ("requestId", .str id), ("schemaVersion", .int 2), ("type", .str p.operation.name)]

theorem readOperation_envelope (p : Payload) : readOperation (envelope id p) = .ok p.operation := by
  have hname : Text.allBlank p.operation.name = false := by cases p.operation <;> decide
  show (if Text.allBlank p.operation.name then _ else _) = _
  simp [hname, Operation.ofName?_name]

theorem readPayload_envelope {p : Payload} (hdecode : Payload.decode p.operation p.encode = .ok p)
    (hcheck : checkPayload p = .ok ()) (haccount : Text.allBlank p.account = false) :
    readPayload p.operation (envelope id p) = .ok p := by
  have hobject : p.encode.isObject = true := by cases p <;> rfl
  have hmember : (envelope id p).get? "payload" = some p.encode := rfl
  simp [readPayload, hmember, hobject, hdecode, hcheck, haccount, Except.mapError, bind, Except.bind, pure, Except.pure]

/-- **An envelope is read** if the id has no blanks at its ends and the payload is read back and passes its checks. -/
theorem read_envelope {p : Payload} {summary : Json} (hne : id ≠ "") (htrim : Text.trim id = id)
    (hdecode : Payload.decode p.operation p.encode = .ok p) (hcheck : checkPayload p = .ok ())
    (haccount : Text.allBlank p.account = false) (hsummary : readSummary p (envelope id p) = .ok summary) :
    read (envelope id p) = .ok ⟨id, summary, p, none⟩ := by
  have hid : readId (envelope id p) = .ok id := by
    show (if Text.allBlank id then _ else _) = _
    simp [Text.allBlank_of_trim_eq hne htrim, htrim]
  have hpayload : readPayload p.operation (envelope id p) = .ok p := readPayload_envelope hdecode hcheck haccount
  have hversion : readVersion (envelope id p) = .ok () := rfl
  have hoverride : readOverride p.operation (envelope id p) = .ok none := rfl
  have hobject : (envelope id p).isObject = true := rfl
  simp [read, hobject, hversion, hid, readOperation_envelope, hpayload, hoverride, hsummary, bind, Except.bind, pure,
    Except.pure]

/-- What the reader demands of an id and an account. -/
structure Accepted (id account : String) : Prop where
  id_ne : id ≠ ""
  trim_id : Text.trim id = id
  account : Text.allBlank account = false

/-- **Which ids and accounts are accepted.** -/
theorem exists_read_iff :
    (∃ raw q, read raw = .ok q ∧ q.id = id ∧ q.payload.account = account) ↔ Accepted id account := by
  constructor
  · rintro ⟨raw, q, hread, rfl, rfl⟩
    obtain ⟨hne, htrim, -, haccount⟩ := checks_of_read hread
    exact ⟨hne, htrim, haccount⟩
  · rintro ⟨hne, htrim, haccount⟩
    have hback : ShowPrivateKeyPayload.codec.ReadsBack ⟨account⟩ :=
      Codec.readsBack_record ⟨List.mem_singleton_self _, nofun, trivial⟩ ⟨⟨Codec.readsBack_string _, nofun⟩, trivial⟩ rfl
    have hdecode : Payload.decode .showPrivateKey (Payload.encode (.showPrivateKey ⟨account⟩)) =
        .ok (.showPrivateKey ⟨account⟩) :=
      congrArg (Except.map Payload.showPrivateKey) hback
    have hread : read (envelope id (.showPrivateKey ⟨account⟩)) = .ok ⟨id, .obj [], .showPrivateKey ⟨account⟩, none⟩ :=
      read_envelope hne htrim hdecode rfl haccount rfl
    exact ⟨_, _, hread, rfl, rfl⟩

/-- What the reader demands of a message to be signed. -/
structure AcceptedMessage (p : SignMessagePayload) : Prop where
  account : Text.allBlank p.account = false
  recipient : Text.allBlank p.recipient = false

/-- **Which messages are accepted.** -/
theorem exists_read_signMessage_iff {p : SignMessagePayload} :
    (∃ raw q, read raw = .ok q ∧ q.payload = .signMessage p) ↔ AcceptedMessage p := by
  constructor
  · rintro ⟨raw, q, hread, hpayload⟩
    obtain ⟨-, -, hcheck, haccount⟩ := checks_of_read hread
    rw [hpayload] at hcheck haccount
    exact ⟨haccount, recipient_of_checkPayload hcheck⟩
  · rintro ⟨haccount, hrecipient⟩
    have hstate : (Codec.optional .string).ReadsBack p.state :=
      Codec.readsBack_optional fun s _ => ⟨Codec.readsBack_string s, nofun⟩
    have hback : SignMessagePayload.codec.ReadsBack p := by
      refine Codec.readsBack_record ?_ ⟨⟨Codec.readsBack_string _, nofun⟩, ⟨Codec.readsBack_string _, nofun⟩,
        ⟨Codec.readsBack_string _, nofun⟩, ⟨hstate, nofun⟩, trivial⟩ rfl
      simp [Shape.Distinct, Shape.names, Field.required, Field.nullable]
    have hdecode : Payload.decode .signMessage (Payload.encode (.signMessage p)) = .ok (.signMessage p) :=
      congrArg (Except.map Payload.signMessage) hback
    have hcheck : checkPayload (.signMessage p) = .ok () := by simp [checkPayload, hrecipient]
    have hread : read (envelope "r" (.signMessage p)) = .ok ⟨"r", .obj [], .signMessage p, none⟩ :=
      read_envelope (by decide) (by decide) hdecode hcheck haccount rfl
    exact ⟨_, _, hread, rfl⟩

end Request
end PasskeyConsent

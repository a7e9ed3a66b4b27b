import PasskeyConsent.Proofs.Bytes.Text
import PasskeyConsent.Proofs.Request.Acceptance
/-!
# What a local challenge is bound to

The challenge of an operation that never touches the chain is over the id of the request and its account, one right
behind the other.  It tells their text and not where the one ends, so that the first characters of an account can be
the last ones of another request's id.  A request shares its challenge with another one unless its text can be cut in
one place only (`local_challenge_shared`).
-/
namespace PasskeyConsent

namespace Text

/-- How many characters of a text are no blanks. -/
def visible (s : String) : Nat := s.toList.countP fun c => !isBlank c

theorem visible_pos_iff {s : String} : 0 < visible s ↔ allBlank s = false := by
  simp [visible, allBlank, List.countP_pos_iff]

/-- A text that is not all blanks, cut behind its first character that is none. -/
theorem exists_append_visible {s : String} (h : allBlank s = false) :
    ∃ before c after, s = before ++ String.singleton c ++ after ∧ isBlank c = false ∧ visible s = 1 + visible after := by
  obtain ⟨before, c, after, hs, -, hc, hbefore⟩ := exists_first_visible h
  have hcount : before.countP (fun c => !isBlank c) = 0 := by
    simpa [List.countP_eq_zero] using hbefore
  refine ⟨String.ofList before, c, String.ofList after, ?_, hc, ?_⟩
  · rw [← String.toList_inj]
    simpa using hs
  · simp [visible, hs, List.countP_append, hcount, hc, Nat.add_comm]

/-- A text that starts and ends with a character that is no blank. -/
theorem trim_append_singleton {s : String} {c : Char} (hne : s ≠ "") (h : trim s = s) (hc : isBlank c = false)
    (t : String) : trim (s ++ t ++ String.singleton c) = s ++ t ++ String.singleton c := by
  have hne : s.toList ≠ [] := by simpa using hne
  rw [trim_eq_self_iff (by simp)]
  obtain ⟨hhead, -⟩ := (trim_eq_self_iff hne).1 h
  simp [hhead, hc, hne]

end Text

namespace Digest

theorem localPreimage_eq (id account : String) : localPreimage id account = localDomain ++ Bytes.ofText (id ++ account) := by
  simp [localPreimage, Bytes.ofText_append]

/-- **Which requests have the same local challenge.** -/
theorem localPreimage_eq_iff {id account id' account' : String} :
    localPreimage id' account' = localPreimage id account ↔ id' ++ account' = id ++ account := by
  rw [localPreimage_eq, localPreimage_eq, List.append_cancel_left_eq, Bytes.ofText_inj]

end Digest

namespace Request

open Digest

variable {raw : Json} {q : Request} {id account id' account' : String}

/-- The end of an id can be taken for the beginning of the account. -/
theorem exists_shorter_id (h : Accepted id account) (hlength : id.length ≠ 1) :
    ∃ id' account', Accepted id' account' ∧ id' ++ account' = id ++ account ∧ id' ≠ id := by
  obtain ⟨hne, htrim, haccount⟩ := h
  have hid : id.toList ≠ [] := by simpa using hne
  obtain ⟨c, rest, hcs⟩ := List.exists_cons_of_ne_nil hid
  have hc : Text.isBlank c = false := by
    have hhead := ((Text.trim_eq_self_iff hid).1 htrim).1
    simpa [hcs] using hhead
  have hid : id = String.singleton c ++ String.ofList rest := by
    rw [← String.toList_inj]
    simpa using hcs
  refine ⟨String.singleton c, String.ofList rest ++ account, ⟨?_, ?_, ?_⟩, ?_, ?_⟩
  · simp
  · rw [Text.trim_eq_self_iff (by simp)]
    simp [hc]
  · simp [haccount]
  · rw [hid, String.append_assoc]
  · intro heq
    rw [← heq] at hlength
    simp at hlength

/-- The beginning of an account can be taken for the end of the id. -/
theorem exists_longer_id (h : Accepted id account) (hvisible : Text.visible account ≠ 1) :
    ∃ id' account', Accepted id' account' ∧ id' ++ account' = id ++ account ∧ id' ≠ id := by
  obtain ⟨hne, htrim, haccount⟩ := h
  obtain ⟨before, c, after, rfl, hc, hcount⟩ := Text.exists_append_visible haccount
  have hafter : Text.allBlank after = false := Text.visible_pos_iff.1 (by omega)
  refine ⟨id ++ before ++ String.singleton c, after, ⟨?_, ?_, hafter⟩, ?_, ?_⟩
  · simp
  · exact Text.trim_append_singleton hne htrim hc before
  · simp only [String.append_assoc]
  · intro heq
    have hlength := congrArg String.length heq
    simp only [String.length_append, String.length_singleton] at hlength
    omega

/-- An id of one character before an account with one character that is no blank: the text is cut in no other place. -/
theorem eq_of_append_eq (hlength : id.length = 1) (hvisible : Text.visible account = 1) (h' : Accepted id' account')
    (heq : id' ++ account' = id ++ account) : id' = id ∧ account' = account := by
  obtain ⟨hne, htrim, haccount⟩ := h'
  have hid : id'.toList ≠ [] := by simpa using hne
  obtain ⟨c, rest, hcs⟩ := List.exists_cons_of_ne_nil hid
  obtain ⟨d, hd⟩ : ∃ d, id.toList = [d] := List.length_eq_one_iff.1 (by rwa [String.length_toList])
  have hchars : id'.toList ++ account'.toList = id.toList ++ account.toList := by
    simpa using congrArg String.toList heq
  rw [hcs, hd, List.cons_append, List.cons_append, List.nil_append, List.cons_eq_cons] at hchars
  obtain ⟨rfl, hrest⟩ := hchars
  by_cases hnil : rest = []
  · subst hnil
    exact ⟨String.toList_inj.1 (hcs.trans hd.symm), String.toList_inj.1 hrest⟩
  · -- The last character of the longer id and one of the account behind it make two.
    have hlast : 0 < rest.countP fun c => !Text.isBlank c := by
      refine List.countP_pos_iff.2 ⟨rest.getLast hnil, List.getLast_mem hnil, ?_⟩
      have hend := ((Text.trim_eq_self_iff hid).1 htrim).2
      simpa [hcs, List.getLast_cons hnil] using hend
    have hbehind := Text.visible_pos_iff.2 haccount
    rw [Text.visible, ← hrest, List.countP_append, ← Text.visible] at hvisible
    omega

/-- **When the text of an id and an account can be cut in one place only.** -/
theorem only_cut_iff (h : Accepted id account) :
    (∀ id' account', Accepted id' account' → id' ++ account' = id ++ account → id' = id ∧ account' = account) ↔
      id.length = 1 ∧ Text.visible account = 1 := by
  constructor
  · intro honly
    constructor
    · by_contra hlength
      obtain ⟨id', account', h', heq, hne⟩ := exists_shorter_id h hlength
      exact hne (honly id' account' h' heq).1
    · by_contra hvisible
      obtain ⟨id', account', h', heq, hne⟩ := exists_longer_id h hvisible
      exact hne (honly id' account' h' heq).1
  · rintro ⟨hlength, hvisible⟩ id' account' h' heq
    exact eq_of_append_eq hlength hvisible h' heq

theorem accepted_of_read (h : read raw = .ok q) : Accepted q.id q.payload.account :=
  exists_read_iff.1 ⟨raw, q, h, rfl, rfl⟩

/-- **What a request shares its local challenge with**: the requests whose ids and accounts make the same text.  It
shares it with no other id or account just when its own id is one character and its account has one that is no blank. -/
theorem local_challenge_shared (hread : read raw = .ok q) :
    (∀ raw' q', read raw' = .ok q' → (localPreimage q'.id q'.payload.account = localPreimage q.id q.payload.account ↔
      q'.id ++ q'.payload.account = q.id ++ q.payload.account)) ∧
    ((∀ raw' q', read raw' = .ok q' → localPreimage q'.id q'.payload.account = localPreimage q.id q.payload.account →
      q'.id = q.id ∧ q'.payload.account = q.payload.account) ↔ q.id.length = 1 ∧ Text.visible q.payload.account = 1) := by
  refine ⟨fun _ _ _ => localPreimage_eq_iff, ?_⟩
  rw [← only_cut_iff (accepted_of_read hread)]
  constructor
  · intro h id account haccepted heq
    obtain ⟨raw', q', hread', rfl, rfl⟩ := exists_read_iff.2 haccepted
    exact h raw' q' hread' (localPreimage_eq_iff.2 heq)
  · intro h raw' q' hread' heq
    exact h q'.id q'.payload.account (accepted_of_read hread') (localPreimage_eq_iff.1 heq)

/-- A request to show the key of an account. -/
def showing (id account : String) : Request := ⟨id, .obj [], .showPrivateKey ⟨account⟩, none⟩

def showingEnvelope (id account : String) : Json := envelope id (.showPrivateKey ⟨account⟩)

theorem local_challenge_shared_alice :
    read (showingEnvelope "r12" "alice.testnet") = .ok (showing "r12" "alice.testnet") ∧
    (∀ raw' q', read raw' = .ok q' → (localPreimage q'.id q'.payload.account = localPreimage "r12" "alice.testnet" ↔
      q'.id ++ q'.payload.account = "r12alice.testnet")) ∧
    ((∀ raw' q', read raw' = .ok q' → localPreimage q'.id q'.payload.account = localPreimage "r12" "alice.testnet" →
      q'.id = "r12" ∧ q'.payload.account = "alice.testnet") ↔
        "r12".length = 1 ∧ Text.visible "alice.testnet" = 1) := by
  have hread : read (showingEnvelope "r12" "alice.testnet") = .ok (showing "r12" "alice.testnet") := by decide +kernel
  exact ⟨hread, local_challenge_shared hread⟩

/-- The key of one account is shown under the challenge of another one's. -/
theorem local_challenge_of_other_account :
    read (showingEnvelope "r12" "alice.testnet") = .ok (showing "r12" "alice.testnet") ∧
    read (showingEnvelope "r1" "2alice.testnet") = .ok (showing "r1" "2alice.testnet") ∧
    localPreimage "r12" "alice.testnet" = localPreimage "r1" "2alice.testnet" ∧ "alice.testnet" ≠ "2alice.testnet" := by
  decide +kernel

end Request
end PasskeyConsent

import PasskeyConsent.Proofs.Bytes.Text
import PasskeyConsent.Proofs.Request.Acceptance
/-!
# What the digest of a message is bound to

The digest of a message is over its recipient, its text and its state with a zero between each two, and each of the
three may hold zeros itself.  It tells the text that they make together, and not which of its zeros stand between two of
them: a zero can end the recipient if that is not all blanks, and any later one can begin the state or be a part of the
text.  So a message shares its digest with another one unless there is one zero only that can end a recipient
(`message_digest_shared`).
-/
namespace PasskeyConsent

namespace Text

/-- The zeros of a text that can end a recipient in it: those with more than blanks before them. -/
def cuts (s : String) : Nat := (s.toList.dropWhile isBlank).tail.count '\x00'

@[simp] theorem toList_zero : "\x00".toList = ['\x00'] := rfl

theorem cuts_append {s : String} (h : allBlank s = false) (t : String) :
    cuts (s ++ t) = cuts s + t.toList.count '\x00' := by
  obtain ⟨_, _, _, -, hdrop, -, -⟩ := exists_first_visible h
  simp [cuts, List.dropWhile_append, hdrop]

/-- A text with a zero, cut there. -/
theorem exists_zero {s : String} (h : s.toList.count '\x00' ≠ 0) : ∃ before after, s = before ++ "\x00" ++ after := by
  obtain ⟨before, after, hs⟩ := List.append_of_mem (List.one_le_count_iff.1 (Nat.pos_of_ne_zero h))
  refine ⟨String.ofList before, String.ofList after, ?_⟩
  rw [← String.toList_inj]
  simpa using hs

/-- A text with a zero that can end a recipient, cut there. -/
theorem exists_cut {s : String} (h : cuts s ≠ 0) :
    ∃ before after, s = before ++ "\x00" ++ after ∧ allBlank before = false := by
  have hs : s.toList.all isBlank = false := by
    by_contra hall
    have hdrop : s.toList.dropWhile isBlank = [] := by
      simpa [List.dropWhile_eq_nil_iff] using hall
    simp [cuts, hdrop] at h
  obtain ⟨blanks, c, rest, hs, hdrop, hc, -⟩ := exists_first_visible hs
  rw [cuts, hdrop, List.tail_cons] at h
  obtain ⟨before, after, rfl⟩ := List.append_of_mem (List.one_le_count_iff.1 (Nat.pos_of_ne_zero h))
  refine ⟨String.ofList (blanks ++ c :: before), String.ofList after, ?_, ?_⟩
  · rw [← String.toList_inj]
    simpa using hs
  · simp [allBlank, hc]

/-- Two lists that are cut at the last of their separators are cut alike. -/
theorem append_cons_inj_of_not_mem {α : Type} {x y u v : List α} {a : α} (hu : a ∉ u) (hv : a ∉ v)
    (h : x ++ a :: u = y ++ a :: v) : x = y ∧ u = v := by
  rcases List.append_eq_append_iff.1 h with ⟨z, rfl, hz⟩ | ⟨z, rfl, hz⟩
  · cases z with
    | nil => simpa using hz
    | cons b z =>
      rw [List.cons_append, List.cons_eq_cons] at hz
      simp [hz.2] at hu
  · cases z with
    | nil => simpa using hz.symm
    | cons b z =>
      rw [List.cons_append, List.cons_eq_cons] at hz
      simp [hz.2] at hv

end Text

namespace SignMessagePayload

open Request (AcceptedMessage)

variable {p p' : SignMessagePayload}

/-- The recipient, the message and the state as they are hashed. -/
def hashed (p : SignMessagePayload) : String :=
  p.recipient ++ "\x00" ++ p.message ++ (p.state.map ("\x00" ++ ·)).getD ""

/-- Whether two messages are for the same recipient and have the same text and state. -/
def SameMessage (p' p : SignMessagePayload) : Prop :=
  p'.recipient = p.recipient ∧ p'.message = p.message ∧ p'.state = p.state

theorem messagePreimage_eq (p : SignMessagePayload) : Digest.messagePreimage p = Bytes.ofText p.hashed := by
  have hzero : Bytes.ofText "\x00" = [0] := by decide
  cases hstate : p.state with
  | none => simp [Digest.messagePreimage, hashed, hstate, Bytes.ofText_append, hzero]
  | some s => simp [Digest.messagePreimage, hashed, hstate, Bytes.ofText_append, hzero]

/-- **Which messages are hashed alike.** -/
theorem messagePreimage_eq_iff : Digest.messagePreimage p' = Digest.messagePreimage p ↔ p'.hashed = p.hashed := by
  rw [messagePreimage_eq, messagePreimage_eq, Bytes.ofText_inj]

/-- Where a recipient can end in what is hashed: in the recipient, behind it, and at every zero behind that. -/
theorem cuts_hashed (h : AcceptedMessage p) : Text.cuts p.hashed = Text.cuts p.recipient + 1 + p.message.toList.count '\x00' +
    (p.state.map fun s => s.toList.count '\x00' + 1).getD 0 := by
  rw [hashed, String.append_assoc, String.append_assoc, Text.cuts_append h.recipient]
  cases p.state with
  | none =>
    simp
    omega
  | some s =>
    simp
    omega

/-- A state can be taken for the end of the message, a zero in the message for the beginning of a state, and one in the
recipient for its end. -/
theorem exists_other_message (h : AcceptedMessage p) (hcuts : Text.cuts p.hashed ≠ 1) :
    ∃ p' : SignMessagePayload, AcceptedMessage p' ∧ p'.hashed = p.hashed ∧ ¬ SameMessage p' p := by
  rw [cuts_hashed h] at hcuts
  obtain ⟨haccount, hrecipient⟩ := h
  cases hstate : p.state with
  | some s =>
    refine ⟨{ p with message := p.message ++ "\x00" ++ s, state := none }, ⟨haccount, hrecipient⟩, ?_, ?_⟩
    · simp [hashed, hstate, String.append_assoc]
    · simp [SameMessage, hstate]
  | none =>
    by_cases hmessage : p.message.toList.count '\x00' = 0
    · have hcut : Text.cuts p.recipient ≠ 0 := by
        intro hcut
        simp [hstate, hmessage, hcut] at hcuts
      obtain ⟨before, after, hr, hbefore⟩ := Text.exists_cut hcut
      refine ⟨{ p with recipient := before, message := after ++ "\x00" ++ p.message }, ⟨haccount, hbefore⟩, ?_, ?_⟩
      · simp [hashed, hstate, hr, String.append_assoc]
      · rintro ⟨heq, -, -⟩
        have hlength := congrArg String.length (heq.trans hr)
        have hzero : "\x00".length = 1 := rfl
        simp only [String.length_append, hzero] at hlength
        omega
    · obtain ⟨before, after, hm⟩ := Text.exists_zero hmessage
      refine ⟨{ p with message := before, state := some after }, ⟨haccount, hrecipient⟩, ?_, ?_⟩
      · simp [hashed, hstate, hm, String.append_assoc]
      · simp [SameMessage, hstate]

/-- With one zero that can end a recipient there is no state and no zero in the message. -/
theorem of_cuts_eq_one (h : AcceptedMessage p) (hcuts : Text.cuts p.hashed = 1) :
    p.state = none ∧ '\x00' ∉ p.message.toList ∧ p.hashed.toList = p.recipient.toList ++ '\x00' :: p.message.toList := by
  rw [cuts_hashed h] at hcuts
  cases hstate : p.state with
  | some s =>
    simp [hstate] at hcuts
    omega
  | none =>
    refine ⟨rfl, List.count_eq_zero.1 (by omega), ?_⟩
    simp [hashed, hstate]

/-- **When what is hashed is of one message only.** -/
theorem only_message_iff (h : AcceptedMessage p) :
    (∀ p' : SignMessagePayload, AcceptedMessage p' → p'.hashed = p.hashed → SameMessage p' p) ↔ Text.cuts p.hashed = 1 := by
  constructor
  · intro honly
    by_contra hcuts
    obtain ⟨p', h', heq, hother⟩ := exists_other_message h hcuts
    exact hother (honly p' h' heq)
  · intro hcuts p' h' heq
    obtain ⟨hstate, hmessage, htext⟩ := of_cuts_eq_one h hcuts
    obtain ⟨hstate', hmessage', htext'⟩ := of_cuts_eq_one h' (heq ▸ hcuts)
    rw [heq, htext] at htext'
    obtain ⟨hr, hm⟩ := Text.append_cons_inj_of_not_mem hmessage hmessage' htext'
    exact ⟨String.toList_inj.1 hr.symm, String.toList_inj.1 hm.symm, hstate'.trans hstate.symm⟩

end SignMessagePayload

namespace Request

open SignMessagePayload

variable {raw : Json} {q : Request} {p : SignMessagePayload}

theorem accepted_of_read_signMessage (h : read raw = .ok q) (hp : q.payload = .signMessage p) : AcceptedMessage p :=
  exists_read_signMessage_iff.1 ⟨raw, q, h, hp⟩

/-- **What a message shares its digest with**: the messages whose recipients, texts and states make the same text.  It
shares it with none that has another recipient, text or state just when there is one zero in that text that can end a
recipient. -/
theorem message_digest_shared (hread : read raw = .ok q) (hp : q.payload = .signMessage p) :
    (∀ raw' q' p', read raw' = .ok q' → q'.payload = .signMessage p' →
      (Digest.messagePreimage p' = Digest.messagePreimage p ↔ p'.hashed = p.hashed)) ∧
    ((∀ raw' q' p', read raw' = .ok q' → q'.payload = .signMessage p' →
      Digest.messagePreimage p' = Digest.messagePreimage p →
        p'.recipient = p.recipient ∧ p'.message = p.message ∧ p'.state = p.state) ↔ Text.cuts p.hashed = 1) := by
  refine ⟨fun _ _ _ _ _ => messagePreimage_eq_iff, ?_⟩
  rw [← only_message_iff (accepted_of_read_signMessage hread hp)]
  constructor
  · intro h p' haccepted heq
    obtain ⟨raw', q', hread', hp'⟩ := exists_read_signMessage_iff.2 haccepted
    exact h raw' q' p' hread' hp' (messagePreimage_eq_iff.2 heq)
  · intro h raw' q' p' hread' hp' heq
    exact h p' (accepted_of_read_signMessage hread' hp') (messagePreimage_eq_iff.1 heq)

/-- A message to a relying party with a state of its own. -/
def greeting : SignMessagePayload := ⟨"alice.testnet", "hello", "app", some "s"⟩

/-- The same with the state as a part of the message. -/
def longGreeting : SignMessagePayload := ⟨"alice.testnet", "hello\x00s", "app", none⟩

theorem message_digest_shared_greeting :
    (read (envelope "r" (.signMessage greeting)) = .ok ⟨"r", .obj [], .signMessage greeting, none⟩) ∧
    (∀ raw' q' p', read raw' = .ok q' → q'.payload = .signMessage p' →
      (Digest.messagePreimage p' = Digest.messagePreimage greeting ↔ p'.hashed = greeting.hashed)) ∧
    ((∀ raw' q' p', read raw' = .ok q' → q'.payload = .signMessage p' →
      Digest.messagePreimage p' = Digest.messagePreimage greeting →
        p'.recipient = greeting.recipient ∧ p'.message = greeting.message ∧ p'.state = greeting.state) ↔
      Text.cuts greeting.hashed = 1) := by
  have hread : read (envelope "r" (.signMessage greeting)) = .ok ⟨"r", .obj [], .signMessage greeting, none⟩ := by
    decide +kernel
  exact ⟨hread, message_digest_shared hread rfl⟩

/-- A message with a state has the digest of one without. -/
theorem message_digest_of_other_message :
    read (envelope "r" (.signMessage greeting)) = .ok ⟨"r", .obj [], .signMessage greeting, none⟩ ∧
    read (envelope "r" (.signMessage longGreeting)) = .ok ⟨"r", .obj [], .signMessage longGreeting, none⟩ ∧
    Digest.messagePreimage longGreeting = Digest.messagePreimage greeting ∧
    longGreeting.message ≠ greeting.message ∧ longGreeting.state ≠ greeting.state := by
  decide +kernel

end Request
end PasskeyConsent

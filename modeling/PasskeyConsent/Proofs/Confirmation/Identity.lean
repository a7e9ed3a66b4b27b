import PasskeyConsent.Proofs.Concurrency.Simulation
import PasskeyConsent.Proofs.Confirmation.Endings
/-!
# Under which id an envelope is answered

The id of an envelope is taken from it twice: by the reader, which trims it, and for the rejection of an envelope that
the reader refuses, which takes it as it stands.  So a padded id comes back as it was sent just when its envelope cannot
be read (`answered_under_id_iff`), and whoever waits for an answer under it has no answer to a request that was read.
-/
namespace PasskeyConsent

open Confirmation

variable {raw : Json} {id : String}

theorem Request.peekId_of_get? (h : raw.get? "requestId" = some (.str id)) : peekId raw = id := by
  unfold peekId
  rw [h]
  rfl

/-- The reader trims the id that the envelope seems to carry. -/
theorem Request.id_of_read {q : Request} (h : read raw = .ok q) : q.id = Text.trim (peekId raw) := by
  obtain ⟨hid, -⟩ := parts_of_read h
  unfold readId at hid
  unfold peekId
  split at hid
  · rename_i s hs
    rw [hs]
    split at hid
    · cases hid
    · exact (Except.ok.inj hid).symm
  · cases hid

/-- The id of an answer is the one that was read, or else the one that the envelope seems to carry. -/
theorem Response.Answers.requestId {read : Except ValidationError Request} {r : Response} (h : r.Answers raw read) :
    (∀ q, read = .ok q → r.requestId = q.id) ∧ ∀ e, read = .error e → r.requestId = Request.peekId raw := by
  cases h with
  | rejection e => exact ⟨nofun, fun _ _ => rfl⟩
  | decline q code hredacted => exact ⟨fun q' hq => Except.ok.inj hq ▸ rfl, nofun⟩
  | approval q hfits => exact ⟨fun q' hq => Except.ok.inj hq ▸ hfits.requestId, nofun⟩

/-- **Under which id an envelope is answered**, in every run of a wallet and whatever the answer is: the id of the
envelope, trimmed if the envelope is one that can be read.  It is the very id that was sent just when the envelope
cannot be read or the id has no blanks at its ends. -/
theorem answered_under_id_iff {setup : Setup} {m : Json} {w w' : Wallet (Except Error Unit)}
    {ss ss₁ ss₂ : List (Step (Except Error Unit))} {st posting : Step (Except Error Unit)} (run : Run w ss w')
    (hst : st ∈ ss) (hstart : st.move = .start (handle setup raw)) (hss : ss = ss₁ ++ posting :: ss₂)
    (hposting : posting.happening = .called st.before.tasks.length (.post m))
    (hid : raw.get? "requestId" = some (.str id)) :
    (m.get? "requestId" = some (.str id) ↔ (∃ e, Request.read raw = .error e) ∨ Text.trim id = id) ∧
      ∀ q, Request.read raw = .ok q →
        m.get? "requestId" = some (.str q.id) ∧ q.id = Text.trim (Request.peekId raw) := by
  obtain ⟨r, hanswers, rfl⟩ := run.posts_answer hst hstart hss hposting
  obtain ⟨hread, hrejected⟩ := hanswers.requestId
  have hpeek := Request.peekId_of_get? hid
  rw [Response.message_requestId]
  refine ⟨?_, fun q hq => ⟨by rw [hread q hq], Request.id_of_read hq⟩⟩
  cases hq : Request.read raw with
  | error e => exact ⟨fun _ => .inl ⟨e, rfl⟩, fun _ => by rw [hrejected e hq, hpeek]⟩
  | ok q =>
    rw [hread q hq, Request.id_of_read hq, hpeek]
    constructor
    · intro h
      exact .inr (Json.str.inj (Option.some.inj h))
    · rintro (⟨e, he⟩ | h)
      · cases he
      · rw [h]

theorem answered_under_id_iff_turnDown :
    ∃ ss w' posting, Run ⟨quietHost, []⟩ ss w' ∧ movesOf ss = .start (handle quietSetup showEnvelope) :: turnDown ∧
      posting ∈ ss ∧ ∃ m, posting.happening = .called 0 (.post m) ∧ showEnvelope.get? "requestId" = some (.str "r") ∧
      (m.get? "requestId" = some (.str "r") ↔ (∃ e, Request.read showEnvelope = .error e) ∨ Text.trim "r" = "r") ∧
      ∀ q, Request.read showEnvelope = .ok q →
        m.get? "requestId" = some (.str q.id) ∧ q.id = Text.trim (Request.peekId showEnvelope) := by
  obtain ⟨ss, w', st, ss₁, posting, ss₂, run, hmoves, hst, hstart, hfirst, hss, hposting⟩ :=
    exists_run_posting (h := quietHost) (handle quietSetup showEnvelope) turnDown
      (m := (Response.declined "r" .userCancelled "User rejected the confirmation").message) (by decide +kernel)
  have hid : showEnvelope.get? "requestId" = some (.str "r") := by decide +kernel
  exact ⟨ss, w', posting, run, hmoves, hss ▸ List.mem_append_right _ List.mem_cons_self, _, hposting, hid,
    answered_under_id_iff run hst hstart hss (hfirst.symm ▸ hposting) hid⟩

/-! A request with a padded id, turned down by its user. -/

def paddedEnvelope : Json :=
  .obj [("payload", .obj [("nearAccountId", .str "a")]), ("requestId", .str " r "), ("schemaVersion", .int 2),
    ("type", .str "showPrivateKey")]

/-- It is answered under another id than it was sent with. -/
theorem answered_under_trimmed_id :
    ∃ ss w' posting, Run ⟨quietHost, []⟩ ss w' ∧ movesOf ss = .start (handle quietSetup paddedEnvelope) :: turnDown ∧
      posting ∈ ss ∧ ∃ m, posting.happening = .called 0 (.post m) ∧
      paddedEnvelope.get? "requestId" = some (.str " r ") ∧ m.get? "requestId" = some (.str "r") ∧
      (Request.read paddedEnvelope).toOption.map (·.id) = some "r" ∧ Request.peekId paddedEnvelope = " r " := by
  obtain ⟨ss, w', st, ss₁, posting, ss₂, run, hmoves, -, -, -, hss, hposting⟩ :=
    exists_run_posting (h := quietHost) (handle quietSetup paddedEnvelope) turnDown
      (m := (Response.declined "r" .userCancelled "User rejected the confirmation").message) (by decide +kernel)
  exact ⟨ss, w', posting, run, hmoves, hss ▸ List.mem_append_right _ List.mem_cons_self, _, hposting,
    by decide +kernel, Response.message_requestId _, by decide +kernel, by decide +kernel⟩

end PasskeyConsent

import PasskeyConsent.Proofs.Concurrency.Simulation
import PasskeyConsent.Proofs.Confirmation.Endings
/-!
# The texts of declines

Redacting the text of a decline once more changes nothing if its request was read, whichever collaborator has failed
and whatever it has said.  The rejection of an envelope that cannot be read says why not in the words of the reader,
with what these quote of the envelope, and is not redacted (`decline_redacted_iff`).
-/
namespace PasskeyConsent

open Confirmation

theorem Response.Answers.declined {raw : Json} {read : Except ValidationError Request} {r : Response}
    (h : r.Answers raw read) (hdeclined : r.confirmed = false) :
    ∃ text, r.error = some text ∧ (∀ e, read = .error e → text = e.message) ∧
      ∀ q, read = .ok q → redact text = text := by
  cases h with
  | rejection e => exact ⟨e.message, rfl, fun e' he => Except.error.inj he ▸ rfl, nofun⟩
  | decline q code hredacted => exact ⟨_, rfl, nofun, fun _ _ => hredacted⟩
  | approval q hfits =>
    rw [hfits.confirmed] at hdeclined
    cases hdeclined

/-- **The text of a decline**, in every run of a wallet, whatever the collaborators answer: it is the reader's if the
envelope cannot be read, and nothing is left in it to be redacted just when that is so of the reader's. -/
theorem decline_redacted_iff {setup : Setup} {raw m : Json} {w w' : Wallet (Except Error Unit)}
    {ss ss₁ ss₂ : List (Step (Except Error Unit))} {st posting : Step (Except Error Unit)} (run : Run w ss w')
    (hst : st ∈ ss) (hstart : st.move = .start (handle setup raw)) (hss : ss = ss₁ ++ posting :: ss₂)
    (hposting : posting.happening = .called st.before.tasks.length (.post m))
    (hdeclined : m.get? "confirmed" = some (.bool false)) :
    ∃ text, m.get? "error" = some (.str text) ∧ (∀ e, Request.read raw = .error e → text = e.message) ∧
      (redact text = text ↔ ∀ e, Request.read raw = .error e → redact e.message = e.message) := by
  obtain ⟨r, hanswers, rfl⟩ := run.posts_answer hst hstart hss hposting
  rw [Response.message_confirmed] at hdeclined
  obtain ⟨text, herror, hrejected, hread⟩ := hanswers.declined (Json.bool.inj (Option.some.inj hdeclined))
  refine ⟨text, by rw [Response.message_error, herror]; rfl, hrejected, fun h e he => hrejected e he ▸ h, fun h => ?_⟩
  cases hq : Request.read raw with
  | error e =>
    rw [hrejected e hq]
    exact h e hq
  | ok q => exact hread q hq

theorem decline_redacted_iff_turnDown :
    ∃ ss w' posting, Run ⟨quietHost, []⟩ ss w' ∧ movesOf ss = .start (handle quietSetup showEnvelope) :: turnDown ∧
      posting ∈ ss ∧ ∃ m text, posting.happening = .called 0 (.post m) ∧ m.get? "error" = some (.str text) ∧
      (∀ e, Request.read showEnvelope = .error e → text = e.message) ∧
      (redact text = text ↔ ∀ e, Request.read showEnvelope = .error e → redact e.message = e.message) := by
  obtain ⟨ss, w', st, ss₁, posting, ss₂, run, hmoves, hst, hstart, hfirst, hss, hposting⟩ :=
    exists_run_posting (h := quietHost) (handle quietSetup showEnvelope) turnDown
      (m := (Response.declined "r" .userCancelled "User rejected the confirmation").message) (by decide +kernel)
  obtain ⟨text, htext⟩ := decline_redacted_iff run hst hstart hss (hfirst.symm ▸ hposting)
    (Response.message_confirmed _)
  exact ⟨ss, w', posting, run, hmoves, hss ▸ List.mem_append_right _ List.mem_cons_self, _, text, hposting, htext⟩

/-! An envelope of an operation that does not exist, named like a secret that is given away. -/

def blabbingEnvelope : Json :=
  .obj [("payload", .obj [("nearAccountId", .str "a")]), ("requestId", .str "r"), ("schemaVersion", .int 2),
    ("type", .str "token=abc")]

/-- The rejection tells the secret, and redacting it would not. -/
theorem rejection_unredacted :
    ∃ ss w' posting, Run ⟨quietHost, []⟩ ss w' ∧
      movesOf ss = [.start (handle quietSetup blabbingEnvelope), .advance 0] ∧ posting ∈ ss ∧
      ∃ m, posting.happening = .called 0 (.post m) ∧ m.get? "confirmed" = some (.bool false) ∧
        m.get? "error" = some (.str "unsupported confirmation type: token=abc") ∧
        redact "unsupported confirmation type: token=abc" = "unsupported confirmation type: token=[REDACTED]" := by
  obtain ⟨ss, w', st, ss₁, posting, ss₂, run, hmoves, -, -, -, hss, hposting⟩ :=
    exists_run_posting (h := quietHost) (handle quietSetup blabbingEnvelope) [.advance 0]
      (m := (rejection blabbingEnvelope (.unsupportedKind "token=abc")).message) (by decide +kernel)
  exact ⟨ss, w', posting, run, hmoves, hss ▸ List.mem_append_right _ List.mem_cons_self, _, hposting,
    Response.message_confirmed _, Response.message_error _, by decide +kernel⟩

end PasskeyConsent

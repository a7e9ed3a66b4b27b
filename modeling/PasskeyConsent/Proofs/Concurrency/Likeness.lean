import PasskeyConsent.Proofs.Channel.Seeds
import PasskeyConsent.Proofs.Confirmation.Topics
import PasskeyConsent.Proofs.Response.Message
/-!
# Alike programs

Two programs are alike if they do the same as long as what authenticators give them differs only in the secret outputs:
they make the same accesses and calls in the same order, except for the seeds that they deposit and the messages that
they post.  `Alike.bind` composes alike programs, and a program that prompts for no credential is like itself
(`alike_of_topics`).
-/
namespace PasskeyConsent

variable {α β γ δ ε : Type}

/-- What the first secret outputs of two credentials have in common. -/
abbrev Likeness := Bytes → Bytes → Prop

/-- Two credentials that differ in their secret outputs alone.  Both have a first one or neither has. -/
structure RawCredential.Alike (F : Likeness) (raw raw' : RawCredential) : Prop where
  shown : { raw with prf := none } = { raw' with prf := none }
  first : Option.Rel F (raw.prf.bind (·.first)) (raw'.prf.bind (·.first))

/-- Two collected credentials with the same record. -/
structure CollectedCredential.Alike (F : Likeness) (c c' : CollectedCredential) : Prop where
  record : c.record = c'.record
  first : ∃ b b', F b b' ∧ c.prf.first = Base64url.encode b ∧ c'.prf.first = Base64url.encode b'

/-- Two responses that are the same and tell no secret output, or two approvals that differ only in what they tell; of a
request that shows its secret output the approvals do. -/
inductive Response.Alike (F : Likeness) (shows : Prop) : Response → Response → Prop
  | same {r : Response} (hsecret : r.prfOutput = none) (hdeclined : shows → r.confirmed = false) : Alike F shows r r
  | shown {r : Response} (hshows : shows) (hconfirmed : r.confirmed = true) {b b' : Bytes} (h : F b b') :
    Alike F shows { r with prfOutput := some (Base64url.encode b) } { r with prfOutput := some (Base64url.encode b') }

/-- The messages of two such responses. -/
def MessagesAlike (F : Likeness) (shows : Prop) (m m' : Json) : Prop :=
  ∃ r r' : Response, r.Alike F shows r' ∧ m = r.message ∧ m' = r'.message

/-- Alike results, or the same failure. -/
inductive ResultsAlike (Q : α → β → Prop) : Except ε α → Except ε β → Prop
  | ok {a : α} {b : β} (h : Q a b) : ResultsAlike Q (.ok a) (.ok b)
  | error (e : ε) : ResultsAlike Q (.error e) (.error e)

theorem RawCredential.Alike.collect {F : Likeness} {raw raw' : RawCredential} (h : raw.Alike F raw') :
    ResultsAlike (CollectedCredential.Alike F) raw.collect raw'.collect := by
  have hrecord : raw.record = raw'.record := by
    show RawCredential.record { raw with prf := none } = RawCredential.record { raw' with prf := none }
    rw [h.shown]
  have hfirst := h.first
  unfold RawCredential.collect
  generalize raw.prf.bind (·.first) = first, raw'.prf.bind (·.first) = first' at hfirst ⊢
  cases hfirst with
  | none => exact .error _
  | @some b b' hb => exact .ok ⟨hrecord, b, b', hb, rfl, rfl⟩

def Call.AnswersAlike (F : Likeness) : (c : Call) → c.Answer → c.Answer → Prop
  | .assertion _, x, x' | .attestation _, x, x' => ResultsAlike (RawCredential.Alike F) x x'
  | _, x, x' => x = x'

def Suspension.AnswersAlike (F : Likeness) : (s : Suspension) → s.Answer → s.Answer → Prop
  | .call c, x, x' => c.AnswersAlike F x x'
  | .wait _, x, x' => x = x'

def Suspension.posts : Suspension → Bool
  | .call (.post _) => true
  | _ => false

/-- Whether an effect posts a message. -/
def Effect.posts : Effect → Bool
  | .access _ => false
  | .suspend s | .watched _ s => s.posts

def Effect.AnswersAlike (F : Likeness) : (e : Effect) → e.Answer → e.Answer → Prop
  | .access _, x, x' => x = x'
  | .suspend s, x, x' => s.AnswersAlike F x x'
  | .watched _ s, x, x' => Option.Rel (s.AnswersAlike F) x x'

namespace Program

/-- **Alike programs**, with alike messages `M` and alike results `Q`. -/
inductive Alike (F : Likeness) (M : Json → Json → Prop) (Q : α → β → Prop) : Program α → Program β → Prop
  | done {a : α} {b : β} (h : Q a b) : Alike F M Q (.done a) (.done b)
  | step (e : Effect) (he : e.posts = false) {next : e.Answer → Program α} {next' : e.Answer → Program β}
    (h : ∀ x x', e.AnswersAlike F x x' → Alike F M Q (next x) (next' x')) : Alike F M Q (.step e next) (.step e next')
  | deposit (session : String) (seed seed' : SeedMaterial) {next : Except ChannelError Unit → Program α}
    {next' : Except ChannelError Unit → Program β} (h : ∀ x, Alike F M Q (next x) (next' x)) :
    Alike F M Q (.step (.access (.deposit session seed)) next) (.step (.access (.deposit session seed')) next')
  | post {m m' : Json} (hm : M m m') {next : Except ChannelError Unit → Program α}
    {next' : Except ChannelError Unit → Program β} (h : ∀ x, Alike F M Q (next x) (next' x)) :
    Alike F M Q (.step (.suspend (.call (.post m))) next) (.step (.suspend (.call (.post m'))) next')

variable {F : Likeness} {M : Json → Json → Prop} {Q : α → β → Prop}

theorem Alike.mono {p : Program α} {p' : Program β} {M' : Json → Json → Prop} {Q' : α → β → Prop}
    (h : Alike F M Q p p') (hM : ∀ m m', M m m' → M' m m') (hQ : ∀ a b, Q a b → Q' a b) : Alike F M' Q' p p' := by
  induction h with
  | done h => exact .done (hQ _ _ h)
  | step e he _ ih => exact .step e he ih
  | deposit session seed seed' _ ih => exact .deposit session seed seed' ih
  | post hm _ ih => exact .post (hM _ _ hm) ih

theorem Alike.imp {p : Program α} {p' : Program β} {Q' : α → β → Prop} (h : Alike F M Q p p')
    (hQ : ∀ a b, Q a b → Q' a b) : Alike F M Q' p p' := h.mono (fun _ _ => id) hQ

/-- **Alike programs compose.** -/
theorem Alike.bind {p : Program α} {p' : Program β} {f : α → Program γ} {f' : β → Program δ} {R : γ → δ → Prop}
    (h : Alike F M Q p p') (hf : ∀ a b, Q a b → Alike F M R (f a) (f' b)) : Alike F M R (p >>= f) (p' >>= f') := by
  show Alike F M R (p.andThen f) (p'.andThen f')
  induction h with
  | done h => exact hf _ _ h
  | step e he _ ih => exact .step e he ih
  | deposit session seed seed' _ ih => exact .deposit session seed seed' ih
  | post hm _ ih => exact .post hm ih

theorem Alike.bindExcept {p : ExceptT ε Program α} {p' : ExceptT ε Program β} {f : α → ExceptT ε Program γ}
    {f' : β → ExceptT ε Program δ} {R : γ → δ → Prop} (h : Alike F M (ResultsAlike Q) p.run p'.run)
    (hf : ∀ a b, Q a b → Alike F M (ResultsAlike R) (f a).run (f' b).run) :
    Alike F M (ResultsAlike R) (p >>= f).run (p' >>= f').run := by
  refine h.bind fun r r' hr => ?_
  cases hr with
  | ok h => exact hf _ _ h
  | error e => exact .done (.error e)

theorem Alike.mapExcept {p : ExceptT ε Program α} {p' : ExceptT ε Program β} {f : α → γ} {f' : β → δ} {R : γ → δ → Prop}
    (h : Alike F M (ResultsAlike Q) p.run p'.run) (hf : ∀ a b, Q a b → R (f a) (f' b)) :
    Alike F M (ResultsAlike R) (f <$> p).run (f' <$> p').run := by
  refine h.bind fun r r' hr => ?_
  cases hr with
  | ok h => exact .done (.ok (hf _ _ h))
  | error e => exact .done (.error e)

theorem Alike.orStop {p : ExceptT ε Program α} {p' : ExceptT ε Program β} {stop : ε → Stop}
    (h : Alike F M (ResultsAlike Q) p.run p'.run) :
    Alike F M (ResultsAlike Q) (Stage.orStop p stop).run (Stage.orStop p' stop).run := by
  refine h.bind fun r r' hr => ?_
  cases hr with
  | ok h => exact .done (.ok h)
  | error e => exact .done (.error _)

/-- Alike programs that post nothing are alike when they are watched. -/
theorem Alike.watch {p : Program α} {p' : Program β} (h : Alike F (fun _ _ => False) Q p p') (id : String) {stopped : α}
    {stopped' : β} (hstopped : Q stopped stopped') : Alike F M Q (p.watch id stopped) (p'.watch id stopped') := by
  induction h with
  | done h => exact .done h
  | step e he _ ih =>
    cases e with
    | access a => exact .step (.access a) he ih
    | suspend s =>
      unfold Program.watch
      split
      · refine .step (.watched id s) he fun x x' hx => ?_
        cases hx with
        | some hx => exact ih _ _ hx
        | none => exact .done hstopped
      · exact .step (.suspend s) he ih
    | watched i s => exact .step (.watched i s) he ih
  | deposit session seed seed' _ ih => exact .deposit session seed seed' ih
  | post hm => exact hm.elim

/-- The topics that have nothing to do with prompting for a credential or answering. -/
def plainTopics : List Topic :=
  [.clock, .key, .binding, .turn, .chain, .reservation, .release, .session, .freshness, .handover, .registry, .cancellation, .state,
    .surface, .holdings, .preferences, .breakdown]

theorem eq_of_answersAlike {e : Effect} (he : plainTopics.contains e.topic = true) :
    e.posts = false ∧ ∀ {x x' : e.Answer}, e.AnswersAlike F x x' → x = x' := by
  cases e with
  | access a => exact ⟨rfl, id⟩
  | suspend s =>
    cases s with
    | call c => cases c <;> first | exact ⟨rfl, id⟩ | exact absurd he Bool.false_ne_true
    | wait w => exact ⟨rfl, id⟩
  | watched => exact absurd he Bool.false_ne_true

/-- A program that prompts for no credential and answers nothing is like itself. -/
theorem alike_of_topics {topics : List Topic} {R : α → Prop} {p : Program α} (h : p.KeepsTo topics R)
    (ht : topics ⊆ plainTopics) : Alike F M Eq p p := by
  induction p with
  | done a => exact .done rfl
  | step e next ih =>
    have hplain : plainTopics.contains e.topic = true := List.contains_iff_mem.2 (ht (List.contains_iff_mem.1 h.1))
    obtain ⟨hposts, heq⟩ := eq_of_answersAlike (F := F) hplain
    refine .step e hposts fun x x' hx => ?_
    cases heq hx
    exact ih x (h.2 x)

/-- The same for one that may fail. -/
theorem alikeExcept_of_topics {topics : List Topic} {R : Except ε α → Prop} {p : ExceptT ε Program α}
    (h : p.run.KeepsTo topics R) (ht : topics ⊆ plainTopics) : Alike F M (ResultsAlike Eq) p.run p.run := by
  refine (alike_of_topics h ht).imp fun r r' hr => ?_
  cases hr
  cases r with
  | ok a => exact .ok rfl
  | error e => exact .error e

end Program
end PasskeyConsent

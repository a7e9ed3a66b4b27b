import PasskeyConsent.Proofs.Concurrency.Simulation
import PasskeyConsent.Proofs.Confirmation.Topics
import PasskeyConsent.Proofs.Json.Members
/-!
# What is shown changes nothing else

The summary of a request goes to the surface and to nobody else.  So it can be left out of every call that mounts one:
a wallet without summaries does what the wallet does (`Wallet.Goes.bare`), and posts the same messages.  Two runs that
are the same without summaries are therefore the same in all that the requests tell (`Run.messages_of_bare`), as are
two runs in which envelopes that can be read differ in their summaries alone (`Run.messages_of_restates`).
-/
namespace PasskeyConsent

open Program Confirmation

variable {α β ε : Type}

/-! ## Programs without summaries -/

def Call.bare : Call → Call
  | .mount r policy => .mount { r with summary := .null } policy
  | c => c

theorem Call.answer_bare (c : Call) : c.bare.Answer = c.Answer := by
  cases c <;> rfl

def Suspension.bare : Suspension → Suspension
  | .call c => .call c.bare
  | .wait w => .wait w

theorem Suspension.answer_bare (s : Suspension) : s.bare.Answer = s.Answer := by
  cases s with
  | call c => exact c.answer_bare
  | wait w => rfl

theorem Suspension.isStoppable_bare (s : Suspension) : s.bare.isStoppable = s.isStoppable := by
  cases s <;> rfl

def Effect.bare : Effect → Effect
  | .access a => .access a
  | .suspend s => .suspend s.bare
  | .watched id s => .watched id s.bare

theorem Effect.answer_bare (e : Effect) : e.bare.Answer = e.Answer := by
  cases e with
  | access a => rfl
  | suspend s => exact s.answer_bare
  | watched id s => exact congrArg Option s.answer_bare

namespace Program

/-- The program that mounts its surfaces without summaries. -/
def bare : Program α → Program α
  | .done a => .done a
  | .step e next => .step e.bare fun x => bare (next (cast e.answer_bare x))

theorem bare_bind (p : Program α) (f : α → Program β) : bare (p >>= f) = bare p >>= fun a => bare (f a) := by
  show bare (p.andThen f) = (bare p).andThen fun a => bare (f a)
  induction p with
  | done a => rfl
  | step e next ih => exact congrArg (Flow.step e.bare) (funext fun x => ih (cast e.answer_bare x))

theorem cast_some {γ δ : Type} (h : γ = δ) (x : γ) : cast (congrArg Option h) (some x) = some (cast h x) := by
  subst h
  rfl

theorem cast_none {γ δ : Type} (h : γ = δ) : cast (congrArg Option h) none = none := by
  subst h
  rfl

/-- What follows a watched suspension: the rest if it is answered, and the value to stop with if not. -/
theorem watch_suspend {s : Suspension} (hs : s.isStoppable = true) (id : String) (stopped : α)
    (next : s.Answer → Program α) :
    watch id stopped (.step (.suspend s) next) =
      .step (.watched id s) fun x : Option s.Answer => x.elim (.done stopped) fun x => watch id stopped (next x) := by
  rw [watch, if_pos hs]
  congr
  funext x
  cases x <;> rfl

theorem watch_suspend_of_not_stoppable {s : Suspension} (hs : s.isStoppable = false) (id : String) (stopped : α)
    (next : s.Answer → Program α) :
    watch id stopped (.step (.suspend s) next) = .step (.suspend s) fun x => watch id stopped (next x) := by
  rw [watch, if_neg (hs ▸ Bool.false_ne_true)]

theorem bare_watch (id : String) (stopped : α) (p : Program α) :
    bare (p.watch id stopped) = (bare p).watch id stopped := by
  induction p with
  | done a => rfl
  | step e next ih =>
    cases e with
    | access a => exact congrArg (Flow.step (Effect.access a)) (funext fun x => ih x)
    | suspend s =>
      have hbare : bare (.step (.suspend s) next) =
          .step (.suspend s.bare) fun x => bare (next (cast s.answer_bare x)) := rfl
      rw [hbare]
      cases hs : s.isStoppable with
      | true =>
        rw [watch_suspend hs, watch_suspend (s.isStoppable_bare.trans hs)]
        refine congrArg (Flow.step (Effect.watched id s.bare)) (funext fun x => ?_)
        have helim {x x' : Option s.Answer} (hx : x = x') :
            bare (x.elim (.done stopped) fun x => watch id stopped (next x)) =
              x'.elim (.done stopped) fun x => watch id stopped (bare (next x)) := by
          subst hx
          cases x with
          | none => rfl
          | some x => exact ih x
        cases x with
        | none => exact helim (cast_none s.answer_bare)
        | some x => exact helim (cast_some s.answer_bare x)
      | false =>
        rw [watch_suspend_of_not_stoppable hs, watch_suspend_of_not_stoppable (s.isStoppable_bare.trans hs)]
        exact congrArg (Flow.step (Effect.suspend s.bare)) (funext fun x => ih _)
    | watched i s => exact congrArg (Flow.step (Effect.watched i s.bare)) (funext fun x => ih _)

end Program

/-! ## Requests without summaries -/

namespace Program

theorem bare_bind_congr {p p' : Program α} {f f' : α → Program β} (hp : p.bare = p'.bare)
    (hf : ∀ a, (f a).bare = (f' a).bare) : (p >>= f).bare = (p' >>= f').bare := by
  rw [bare_bind, bare_bind, hp, funext hf]

theorem bare_run_bind_congr {p p' : ExceptT ε Program α} {f f' : α → ExceptT ε Program β}
    (hp : p.run.bare = p'.run.bare) (hf : ∀ a, (f a).run.bare = (f' a).run.bare) :
    (p >>= f).run.bare = (p' >>= f').run.bare := by
  refine bare_bind_congr hp fun r => ?_
  cases r with
  | error e => rfl
  | ok a => exact hf a

end Program

section

variable (setup : Setup) (q : Request) (s : Json) (policy : ConfirmationPolicy)

theorem awaitUser_bare : (awaitUser { q with summary := s } policy).run.bare = (awaitUser q policy).run.bare := by
  have hmount : (liftM (call (.mount { q with summary := s } policy)) : Stage UiHandle).run.bare =
      (liftM (call (.mount q policy)) : Stage UiHandle).run.bare := rfl
  refine bare_run_bind_congr rfl fun _ => bare_run_bind_congr hmount fun surface => ?_
  refine bare_run_bind_congr rfl fun _ => bare_run_bind_congr rfl fun decision => ?_
  rcases decision with _ | _ | _ <;> rfl

theorem run_bare : (run setup { q with summary := s } policy).run.bare = (run setup q policy).run.bare := by
  unfold run
  split
  · exact bare_run_bind_congr (awaitUser_bare q s policy) fun _ => rfl
  · rfl

/-- **Without summaries a request is handled as with any other summary.** -/
theorem handleRequest_bare : (handleRequest setup { q with summary := s }).bare = (handleRequest setup q).bare := by
  refine bare_bind_congr rfl fun _ => bare_bind_congr rfl fun fresh => ?_
  cases fresh with
  | false => rfl
  | true =>
    refine bare_bind_congr rfl fun stored => bare_bind_congr rfl fun _ => bare_bind_congr ?_ fun outcome => rfl
    refine bare_bind_congr rfl fun stopped => ?_
    cases stopped with
    | true => rfl
    | false =>
      refine (bare_watch q.id cancelled _).trans (Eq.trans ?_ (bare_watch q.id cancelled _).symm)
      exact congrArg (watch q.id cancelled) (run_bare setup q s _)

end

/-! ## Wallets without summaries -/

def Task.bare (t : Task α) : Task α := { t with program := t.program.bare }

def Wallet.bare (w : Wallet α) : Wallet α := { w with tasks := w.tasks.map Task.bare }

def Move.bare : Move α → Move α
  | .start p => .start p.bare
  | .answer i c x => .answer i c.bare (cast c.answer_bare.symm x)
  | m => m

def Happening.bare : Happening → Happening
  | .called i c => .called i c.bare
  | .answered i c x => .answered i c.bare (cast c.answer_bare.symm x)
  | h => h

def Step.bare (st : Step α) : Step α := ⟨st.before.bare, st.move.bare, st.happening.bare, st.after.bare⟩

namespace Task

theorem suspension?_bare {t : Task α} {s : Suspension} (h : t.suspension? = some s) :
    t.bare.suspension? = some s.bare := by
  obtain ⟨p, calling, own⟩ := t
  rcases suspension?_eq_some h with ⟨next, rfl⟩ | ⟨id, next, rfl⟩
  · rfl
  · rfl

theorem resume?_bare {t u : Task α} {s : Suspension} {x : s.Answer} (h : t.resume? s x = some u) :
    t.bare.resume? s.bare (cast s.answer_bare.symm x) = some u.bare := by
  have hx : cast s.answer_bare (cast s.answer_bare.symm x) = x := by rw [cast_cast, cast_eq]
  obtain ⟨p, calling, own⟩ := t
  rcases resume?_suspend h with ⟨next, rfl, rfl⟩ | ⟨id, next, rfl, rfl⟩
  · refine (resume?_of_suspend _ calling own _).trans ?_
    exact congrArg (fun x => some (Task.mk (Program.bare (next x)) false own)) hx
  · refine (resume?_of_watched id _ calling own _).trans ?_
    have hsome := (Program.cast_some s.answer_bare _).trans (congrArg some hx)
    exact congrArg (fun x => some (Task.mk (Program.bare (next x)) false own)) hsome

theorem stop?_bare {t u : Task α} {isCancelled : String → Bool} (h : t.stop? isCancelled = some u) :
    t.bare.stop? isCancelled = some u.bare := by
  obtain ⟨p, calling, own⟩ := t
  obtain ⟨id, s, next, rfl, hid, rfl⟩ := stop?_eq_some h
  refine (if_pos hid).trans ?_
  exact congrArg (fun x => some (Task.mk (Program.bare (next x)) false own)) (Program.cast_none s.answer_bare)

end Task

namespace Wallet

variable {w w' : Wallet α}

theorem task_bare {i : Nat} {t : Task α} (h : w.tasks[i]? = some t) : w.bare.tasks[i]? = some t.bare := by
  show (w.tasks.map Task.bare)[i]? = _
  rw [List.getElem?_map, h]
  rfl

theorem setTask_bare (w : Wallet α) (i : Nat) (t : Task α) : (w.setTask i t).bare = w.bare.setTask i t.bare := by
  unfold setTask bare
  rw [List.map_set]

theorem length_bare (w : Wallet α) : w.bare.tasks.length = w.tasks.length := List.length_map _

/-- **A wallet without summaries does what the wallet does.** -/
theorem Goes.bare {m : Move α} {h : Happening} (g : w.Goes m h w') : w.bare.Goes m.bare h.bare w'.bare := by
  cases g with
  | start p =>
    have hstart := Goes.start (w := w.bare) p.bare
    rw [length_bare] at hstart
    have hafter : Wallet.bare { w with tasks := w.tasks ++ [{ program := p }] } =
        { w.bare with tasks := w.bare.tasks ++ [{ program := p.bare }] } := by
      unfold Wallet.bare
      rw [List.map_append]
      rfl
    rw [hafter]
    exact hstart
  | @access i t a next ht hp =>
    obtain ⟨p, calling, own⟩ := t
    cases hp
    rw [setTask_bare]
    exact .access (task_bare ht) rfl
  | @call i t c ht hs hc =>
    rw [setTask_bare]
    exact .call (task_bare ht) (Task.suspension?_bare hs) hc
  | @look i t u ht hs hl => exact .look (task_bare ht) (Task.suspension?_bare hs) hl
  | @wait i t u v x ht hl hr =>
    rw [setTask_bare]
    exact .wait (task_bare ht) hl (Task.resume?_bare hr)
  | @answer i t u c x ht hc hr =>
    rw [setTask_bare]
    exact .answer (task_bare ht) hc (Task.resume?_bare hr)
  | @stop i t u ht hs =>
    rw [setTask_bare]
    exact .stop (task_bare ht) (Task.stop?_bare hs)
  | outside a =>
    have houtside := Goes.outside (w := w.bare) a
    rw [length_bare] at houtside
    exact houtside
  | pass ms => exact .pass ms
  | setClock t => exact .setClock t
  | signer m => exact .signer m

end Wallet

/-! ## Runs without summaries -/

theorem Happening.message?_bare (i : Nat) (h : Happening) : h.bare.message? i = h.message? i := by
  cases h with
  | called j c => cases c <;> rfl
  | _ => rfl

theorem messagesOf_bare (i : Nat) (ss : List (Step α)) : messagesOf i (ss.map Step.bare) = messagesOf i ss := by
  unfold messagesOf
  rw [List.filterMap_map]
  exact List.filterMap_congr fun st _ => Happening.message?_bare i st.happening

theorem movesOf_bare (ss : List (Step α)) : movesOf (ss.map Step.bare) = (movesOf ss).map Move.bare := by
  unfold movesOf
  rw [List.map_map, List.map_map]
  rfl

namespace Run

variable {w w₁ w₂ : Wallet α} {ss ss' : List (Step α)}

theorem bare (run : Run w ss w₁) : Run w.bare (ss.map Step.bare) w₁.bare := by
  induction run with
  | nil w => exact .nil w.bare
  | cons first rest ih => exact .cons (Wallet.Goes.of_step? first).bare.step? ih

/-- **Runs that are the same without summaries post the same messages.** -/
theorem messages_of_bare (run : Run w ss w₁) (run' : Run w ss' w₂)
    (h : (movesOf ss).map Move.bare = (movesOf ss').map Move.bare) (i : Nat) : messagesOf i ss = messagesOf i ss' := by
  have hmoves : List.Forall₂ Move.Fits (movesOf (ss.map Step.bare)) (movesOf (ss'.map Step.bare)) := by
    rw [movesOf_bare, movesOf_bare, h]
    exact List.forall₂_same.2 fun m _ => .same m
  have hsame : ss.map Step.bare = ss'.map Step.bare := run.bare.eq_of_fits run'.bare hmoves
  rw [← messagesOf_bare i ss, hsame, messagesOf_bare]

end Run

/-! ## Envelopes with other summaries -/

/-- Two values have the same members but for one. -/
def Json.SameBut (key : String) (j j' : Json) : Prop := ∀ k, k ≠ key → j.get? k = j'.get? k

theorem Json.sameBut_member (key : String) (v v' : Json) (ms₁ ms₂ : List (String × Json)) :
    (Json.obj (ms₁ ++ (key, v) :: ms₂)).SameBut key (.obj (ms₁ ++ (key, v') :: ms₂)) := by
  intro k hk
  show lookup k _ = lookup k _
  rw [lookup_append, lookup_append, lookup, lookup, if_neg hk.symm, if_neg hk.symm]

namespace Request

variable {raw raw' : Json} {q q' : Request}

/-- Envelopes that are the same but for the summary are read to requests that are. -/
theorem eq_of_read_of_sameBut (hraw : raw.SameBut "summary" raw') (hq : read raw = .ok q) (hq' : read raw' = .ok q') :
    q' = { q with summary := q'.summary } := by
  obtain ⟨hid, op, hop, hpayload, hoverride⟩ := parts_of_read hq
  obtain ⟨hid', op', hop', hpayload', hoverride'⟩ := parts_of_read hq'
  unfold readId at hid hid'
  unfold readOperation at hop hop'
  unfold readPayload at hpayload hpayload'
  unfold readOverride at hoverride hoverride'
  rw [hraw _ (by decide)] at hid hop hpayload hoverride
  rw [hid'] at hid
  rw [hop'] at hop
  cases hop
  rw [hpayload'] at hpayload
  rw [hoverride'] at hoverride
  obtain ⟨id, summary, payload, policyOverride⟩ := q
  obtain ⟨id', summary', payload', policyOverride'⟩ := q'
  cases hid
  cases hpayload
  cases hoverride
  rfl

end Request

/-- A move is the same but for summaries: of an envelope that can be read, and of a surface that is shown for one. -/
inductive Move.Restates (setup : Setup) : Move (Except Error Unit) → Move (Except Error Unit) → Prop
  | same (m : Move (Except Error Unit)) : Restates setup m m
  | start {raw raw' : Json} {q q' : Request} (hraw : raw.SameBut "summary" raw') (hq : Request.read raw = .ok q)
    (hq' : Request.read raw' = .ok q') : Restates setup (.start (handle setup raw)) (.start (handle setup raw'))
  | mount (i : Nat) (q : Request) (s : Json) (policy : ConfirmationPolicy) (surface : UiHandle) :
    Restates setup (.answer i (.mount q policy) surface) (.answer i (.mount { q with summary := s } policy) surface)

theorem Move.Restates.bare_eq {setup : Setup} {m m' : Move (Except Error Unit)} (h : Restates setup m m') :
    m.bare = m'.bare := by
  cases h with
  | same => rfl
  | start hraw hq hq' =>
    rw [handle_of_read hq, handle_of_read hq', Request.eq_of_read_of_sameBut hraw hq hq']
    exact congrArg Move.start (handleRequest_bare setup _ _).symm
  | mount => rfl

/-- **What the requests tell does not depend on their summaries**, where all else is the same. -/
theorem Run.messages_of_restates {setup : Setup} {w w₁ w₂ : Wallet (Except Error Unit)}
    {ss ss' : List (Step (Except Error Unit))} (run : Run w ss w₁) (run' : Run w ss' w₂)
    (h : List.Forall₂ (Move.Restates setup) (movesOf ss) (movesOf ss')) (i : Nat) :
    messagesOf i ss = messagesOf i ss' := by
  refine run.messages_of_bare run' ?_ i
  generalize movesOf ss = ms at h ⊢
  generalize movesOf ss' = ms' at h ⊢
  induction h with
  | nil => rfl
  | cons hm _ ih => exact congrArg₂ List.cons hm.bare_eq ih

end PasskeyConsent

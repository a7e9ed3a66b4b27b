import PasskeyConsent.Proofs.Confirmation.Onward
import PasskeyConsent.Proofs.Confirmation.Tenure
/-!
# Heeding a cancel

A cancel dooms a request wherever it is suspended before it begins to respond: `Heedful` says so of a program, and
`Doomed` that from there on a request that is cancelled only declines.  Both are kept by every step of a task that heeds
cancels (`Task.Notices.heedful`, `Task.Notices.doomed`), and a cancel stays as long as the id is not given up
(`Wallet.Goes.staysCancelled`).
-/
namespace PasskeyConsent

open Observer Program Confirmation

variable {α β : Type}

/-- The event by which a request begins to respond. -/
def Event.responds : Event → Bool
  | .accessed (.enter _ .responding) _ => true
  | _ => false

/-- Whether a task has begun to respond. -/
def isResponding (task : Nat) (ss : List (Step α)) : Bool := (historyOf task ss).any Event.responds

theorem isResponding_append (i : Nat) (ss₁ ss₂ : List (Step α)) :
    isResponding i (ss₁ ++ ss₂) = (isResponding i ss₁ || isResponding i ss₂) := by
  unfold isResponding
  rw [historyOf_append, List.any_append]

/-! ## Programs -/

/-- A suspension that is not the posting of a confirmation. -/
def Suspension.Declines : Suspension → Prop
  | .call (.post m) => m.get? "confirmed" = some (.bool false)
  | _ => True

/-- An effect that is not watched and does not post a confirmation. -/
def Effect.Declines : Effect → Prop
  | .access _ => True
  | .suspend u => u.Declines
  | .watched .. => False

theorem Effect.IsSilent.declines {e : Effect} (h : e.IsSilent) : e.Declines := by
  cases e with
  | access => trivial
  | suspend u =>
    cases u with
    | call c =>
      cases c
      case post => exact absurd rfl h.1
      all_goals trivial
    | wait => trivial
  | watched => exact h.2 rfl

/-- What an access may answer while a request is cancelled: asked whether it is, that it is. -/
def Access.Admits (id : String) : (a : Access) → a.Answer → Prop
  | .isCancelled id', gone => id' = id → gone = true
  | _, _ => True

namespace Program

variable {id : String} {E : Effect → Prop} {R : α → Prop}

/-- From here on, if the request is cancelled, it only declines: it is stopped wherever it is watched. -/
def Doomed (id : String) : Program α → Prop
  | .done _ => True
  | .step (.access a) next => ∀ x, a.Admits id x → Doomed id (next x)
  | .step (.suspend u) next => u.Declines ∧ ∀ x, Doomed id (next x)
  | .step (.watched id' u) next => id' = id ∧ u.Declines ∧ Doomed id (next none)

/-- Wherever the request is suspended before it begins to respond, a cancel dooms it. -/
def Heedful (id : String) : Program α → Prop
  | .done _ => True
  | .step (.access a) next => ∀ x, Event.responds (.accessed a x) = false → Heedful id (next x)
  | .step (.suspend u) next => (u.Declines ∧ ∀ x, Doomed id (next x)) ∧ ∀ x, Heedful id (next x)
  | .step (.watched id' u) next => (id' = id ∧ u.Declines ∧ Doomed id (next none)) ∧ ∀ x, Heedful id (next x)

theorem Doomed.of_declines {p : Program α} (h : p.Only Effect.Declines R) : p.Doomed id := by
  induction p with
  | done a => trivial
  | step e next ih =>
    obtain ⟨he, hnext⟩ := h
    cases e with
    | access a => exact fun x _ => ih x (hnext x)
    | suspend u => exact ⟨he, fun x => ih x (hnext x)⟩
    | watched id' u => exact he.elim

theorem Heedful.of_declines {p : Program α} (h : p.Only Effect.Declines R) : p.Heedful id := by
  induction p with
  | done a => trivial
  | step e next ih =>
    obtain ⟨he, hnext⟩ := h
    cases e with
    | access a => exact fun x _ => ih x (hnext x)
    | suspend u => exact ⟨⟨he, fun x => .of_declines (hnext x)⟩, fun x => ih x (hnext x)⟩
    | watched id' u => exact he.elim

/-- **A watched program is heedful**, if it answers nothing itself and what follows declines once it is stopped. -/
theorem Heedful.watch {p : Program α} {stopped : α} {f : α → Program β} (h : p.Only Effect.IsSilent R)
    (hdoomed : (f stopped).Doomed id) (hstopped : (f stopped).Heedful id) (hf : ∀ a, R a → (f a).Heedful id) :
    (p.watch id stopped >>= f).Heedful id := by
  show Heedful id ((p.watch id stopped).andThen f)
  induction p with
  | done a => exact hf a h
  | step e next ih =>
    obtain ⟨he, hnext⟩ := h
    cases e with
    | access a => exact fun x _ => ih x (hnext x)
    | suspend u =>
      have hdeclines : u.Declines := he.declines
      unfold Program.watch
      split
      · refine ⟨⟨rfl, hdeclines, hdoomed⟩, fun x => ?_⟩
        cases x with
        | none => exact hstopped
        | some x => exact ih x (hnext x)
      · -- A program that has broken down is never answered.
        rename_i hu
        cases u with
        | call c => exact absurd rfl hu
        | wait w =>
          cases w with
          | never => exact ⟨⟨trivial, fun x => Empty.elim x⟩, fun x => Empty.elim x⟩
          | _ => exact absurd rfl hu
    | watched id' u => exact absurd rfl he.2

end Program

theorem conclude_declines (setup : Setup) (id : String) (stop : Stop) :
    (conclude setup id (.error stop)).Only Effect.Declines anyResult := by
  have hback (own : Holdings) : (rollBack setup own).Only Effect.Declines anyResult :=
    Only.mono (silent_of_topics (keepsTo_rollBack setup own) (by decide)) (fun _ he => he.declines) fun _ hr => hr
  cases stop with
  | declined code message =>
    refine Only.access trivial fun _ => Only.access trivial fun own => Only.bind (hback own) fun _ _ => ?_
    refine Only.call (Response.message_confirmed _) fun x => ?_
    cases x with
    | ok => exact trivial
    | error e => exact trivial
  | fatal e =>
    exact Only.access trivial fun _ => Only.access trivial fun own => Only.bind (hback own) fun _ _ => trivial

/-- **A request heeds a cancel** until it begins to respond. -/
theorem handleRequest_heedful (setup : Setup) (r : Request) : (handleRequest setup r).Heedful r.id := by
  have hdeclines (stop : Stop) : (conclude setup r.id (.error stop) >>= fun result => do
      access (.unregister r.id)
      return result).Only Effect.Declines anyResult :=
    Only.bind (conclude_declines setup r.id stop) fun _ _ => Only.access trivial fun _ => trivial
  intro _ _ allowed _
  cases allowed with
  | false => trivial
  | true =>
    refine ⟨⟨trivial, fun stored _ _ gone hgone => ?_⟩, fun stored _ _ gone _ => ?_⟩
    · cases hgone rfl
      exact .of_declines (hdeclines _)
    · cases gone with
      | true => exact .of_declines (hdeclines _)
      | false =>
        refine Heedful.watch (Only.mono (run_goesOn setup r _) (fun _ => Effect.isSilent_of_isOnward) fun _ hr => hr)
          (.of_declines (hdeclines _)) (.of_declines (hdeclines _)) fun outcome _ => ?_
        cases outcome with
        | ok r' => exact fun _ hresponds => nomatch hresponds
        | error stop => exact .of_declines (hdeclines stop)

/-! ## Tasks -/

/-- The request that a task watches where it stands. -/
def Task.watched? (t : Task α) : Option String :=
  match t.program with
  | .step (.watched id _) _ => some id
  | _ => none

/-- The event by which a suspension ends with an answer. -/
def Event.resumes : Event → Bool
  | .answered .. | .waited .. => true
  | _ => false

/-- Whether a step heeds cancels: a task that watches a cancelled request does not get an answer. -/
def Step.heeds (st : Step α) : Bool :=
  match st.happening with
  | .answered i .. | .looked i _ (some _) => !((st.before.tasks[i]?).bind Task.watched?).any st.before.host.isCancelled
  | _ => true

variable {id : String} {t t' : Task α} {e : Event}

theorem Step.not_cancelled_of_heeds {st : Step α} {i : Nat} (h : st.heeds = true) (he : st.happening.event? i = some e)
    (hresumes : e.resumes = true) (ht : st.before.tasks[i]? = some t) (hw : t.watched? = some id) :
    st.before.host.isCancelled id = false := by
  have hhappening := Happening.eq_of_event? he
  unfold Step.heeds at h
  rw [hhappening] at h
  cases e with
  | answered c x => simpa [Event.happening, ht, hw] using h
  | waited u x => simpa [Event.happening, ht, hw] using h
  | _ => cases hresumes

namespace Task

theorem Notices.heedful (h : t.Notices e t') (ht : t.program.Heedful id) (he : e.responds = false) :
    t'.program.Heedful id := by
  cases h with
  | access => exact ht _ he
  | call | callWatched => exact ht
  | answer c x | wait u x => exact ht.2 x
  | answerWatched _ c x | waitWatched _ u x => exact ht.2 (some x)
  | stop => exact ht.2 none

theorem doomed_of_heedful (h : t.program.Heedful id) (hs : t.suspension?.isSome = true) : t.program.Doomed id := by
  obtain ⟨u, hu⟩ := Option.isSome_iff_exists.1 hs
  obtain ⟨program, calling, own⟩ := t
  rcases suspension?_eq_some hu with ⟨next, hp⟩ | ⟨id', next, hp⟩ <;> cases hp
  · exact h.1
  · exact h.1

/-- **What a doomed task does** while it heeds that its request is cancelled: it declines, and stays doomed. -/
theorem Notices.doomed (h : t.Notices e t') (ht : t.program.Doomed id)
    (htold : ∀ a x, e = .accessed a x → a.Admits id x) (hheeds : t.watched? = some id → e.resumes = false) :
    (∀ m, e = .called (.post m) → m.get? "confirmed" = some (.bool false)) ∧ t'.program.Doomed id := by
  cases h with
  | access => exact ⟨nofun, ht _ (htold _ _ rfl)⟩
  | call c =>
    refine ⟨fun m hm => ?_, ht⟩
    cases hm
    exact ht.1
  | callWatched id' c =>
    refine ⟨fun m hm => ?_, ht⟩
    cases hm
    exact ht.2.1
  | answer c x | wait u x => exact ⟨nofun, ht.2 x⟩
  | answerWatched id' c x =>
    obtain ⟨rfl, -⟩ := ht
    exact nomatch hheeds rfl
  | waitWatched id' u x =>
    obtain ⟨rfl, -⟩ := ht
    exact nomatch hheeds rfl
  | stop => exact ⟨nofun, ht.2.2⟩

end Task

/-! ## The host -/

theorem Host.isCancelled_contains {h : Host} (hc : h.isCancelled id = true) : h.pending.contains id = true := by
  unfold isCancelled at hc
  unfold Table.contains
  cases hget : h.pending.get? id with
  | none =>
    rw [hget] at hc
    cases hc
  | some b => rfl

/-- Only giving up the id takes a cancel back. -/
theorem Host.access_isCancelled {h : Host} (hc : h.isCancelled id = true) (task : Nat) (own : Holdings) {a : Access}
    (ha : a ≠ .unregister id) : (h.access task own a).2.1.isCancelled id = true := by
  have change := h.access_changes task own a
  generalize (h.access task own a).2.1 = h' at change ⊢
  cases change with
  | register id' hnew =>
    have hne : id ≠ id' := by
      rintro rfl
      rw [Host.isCancelled_contains hc] at hnew
      cases hnew
    unfold isCancelled
    dsimp only
    rw [Table.get?_put_of_ne _ hne]
    exact hc
  | unregister id' =>
    have hne : id ≠ id' := fun hid => ha (by rw [hid])
    unfold isCancelled
    dsimp only
    rw [Table.get?_erase_of_ne _ hne]
    exact hc
  | cancel id' =>
    unfold isCancelled
    dsimp only
    by_cases hid : id = id'
    · rw [hid, Table.get?_put_self]
      rfl
    · rw [Table.get?_put_of_ne _ hid]
      exact hc
  | _ => exact hc

theorem Host.look_pending (h : Host) (task : Nat) (u : Wait) : (h.look task u).2.pending = h.pending := by
  cases u <;> rfl

namespace Wallet

variable {w w' : Wallet α} {m : Move α} {happening : Happening} {i : Nat}

theorem Goes.told {a : Access} {x : a.Answer} (g : w.Goes m (.accessed i a x) w') (hc : w.host.isCancelled id = true) :
    a.Admits id x := by
  obtain ⟨task, own, hanswer, -⟩ := g.exists_access rfl
  cases a with
  | isCancelled id' =>
    rintro rfl
    exact hanswer.symm.trans hc
  | _ => trivial

theorem Goes.tasks_of_used {a : Access} {x : a.Answer} (g : w.Goes m (.used a x) w') : w'.tasks = w.tasks := by
  cases g with
  | outside => rfl

theorem Goes.cancelled (g : w.Goes m (.used (.cancel id) true) w') :
    w'.host.isCancelled id = true ∧ w'.tasks = w.tasks := by
  obtain ⟨_, _, htrue, hhost⟩ := g.exists_access rfl
  refine ⟨?_, g.tasks_of_used⟩
  rw [← hhost]
  simp only [Host.access, Host.cancel] at htrue ⊢
  split
  · unfold Host.isCancelled
    dsimp only
    rw [Table.get?_put_self]
    rfl
  · rename_i hnot
    rw [if_neg hnot] at htrue
    cases htrue

/-- A cancel is accepted just when the id runs. -/
theorem Goes.cancel_answer (g : w.Goes (.outside (.cancel id)) happening w') :
    happening = .used (.cancel id) (w.host.pending.contains id) := by
  cases g with
  | outside =>
    simp only [Host.access, Host.cancel]
    cases w.host.pending.contains id <;> rfl

/-- **A cancel stays**, unless the id is given up. -/
theorem Goes.staysCancelled (g : w.Goes m happening w') (hc : w.host.isCancelled id = true)
    (hkept : ∀ i, happening ≠ .accessed i (.unregister id) ()) (hout : ∀ a, m = .outside a → a.isOffered = true) :
    w'.host.isCancelled id = true := by
  have hlook {u : Wait} {j : Nat} : (w.host.look j u).2.isCancelled id = true := by
    unfold Host.isCancelled
    rw [Host.look_pending]
    exact hc
  cases g with
  | @access j t a next ht hp =>
    refine Host.access_isCancelled hc j t.own ?_
    rintro rfl
    exact hkept j rfl
  | look | wait => exact hlook
  | outside a =>
    refine Host.access_isCancelled hc _ _ ?_
    rintro rfl
    cases hout _ rfl
  | start | call | answer | stop | pass | setClock | signer => exact hc

end Wallet

/-- A request stays heedful until it begins to respond. -/
theorem Run.heedful {w w' : Wallet α} {ss : List (Step α)} {i : Nat} (run : Run w ss w') (ht : w.tasks[i]? = some t)
    (h : t.program.Heedful id) (hnot : isResponding i ss = false) :
    ∃ t', w'.tasks[i]? = some t' ∧ t'.program.Heedful id := by
  induction run generalizing t with
  | nil => exact ⟨t, ht, h⟩
  | cons first rest ih =>
    unfold isResponding at hnot
    rcases (Wallet.Goes.of_step? first).task ht with ⟨hnone, ht'⟩ | ⟨e, t', hsome, hnotices, ht'⟩
    · rw [historyOf_cons_none hnone] at hnot
      exact ih ht' h hnot
    · rw [historyOf_cons_some hsome, List.any_cons, Bool.or_eq_false_iff] at hnot
      exact ih ht' (hnotices.heedful h hnot.1) hnot.2

end PasskeyConsent

import PasskeyConsent.Proofs.Concurrency.Run
/-!
# Contracts

What a program can be held to, whatever everyone else does.  An observer follows one task: it keeps a record of the
task's events and says which of them it allows.  `Observer.Meets` is the weakest precondition of a program for an
observer: every event is allowed, and the program ends only where its postcondition holds, for every answer that a host
or a collaborator can give.  Its condition `stop` is what holds wherever the program can be stopped, so the contract of
a watched program follows from that of the program (`meets_watch`).

`meets_bind` composes contracts, `meets_of_only` passes over a program whose effects the observer ignores, and
`Run.follows` carries a contract to every run.
-/
namespace PasskeyConsent

universe u

variable {α β ε σ : Type}

/-- Someone who follows the events of one task. -/
structure Observer (σ : Type) where
  after : σ → Event → σ
  allows : σ → Event → Prop

/-- Whether some host answers an access so, to a task with these holdings. -/
def Access.CanAnswer (a : Access) (own : Holdings) (x : a.Answer) : Prop :=
  ∃ (h : Host) (task : Nat), (h.access task own a).1 = x

theorem Host.canAnswer (h : Host) (task : Nat) (own : Holdings) (a : Access) :
    a.CanAnswer own (h.access task own a).1 := ⟨h, task, rfl⟩

theorem Access.canAnswer_holdings {own x : Holdings} (h : Access.CanAnswer .holdings own x) : x = own := by
  obtain ⟨_, _, rfl⟩ := h
  rfl

/-- What holds of a result that may be a failure. -/
def Ends {τ : Sort u} (P : α → τ) (F : ε → τ) : Except ε α → τ
  | .ok a => P a
  | .error e => F e

namespace Observer

/-- The record after a history. -/
def seen (o : Observer σ) (s : σ) (h : History) : σ := h.foldl o.after s

@[simp] theorem seen_nil (o : Observer σ) (s : σ) : o.seen s [] = s := rfl

@[simp] theorem seen_cons (o : Observer σ) (s : σ) (e : Event) (h : History) :
    o.seen s (e :: h) = o.seen (o.after s e) h := rfl

theorem seen_append (o : Observer σ) (s : σ) (h₁ h₂ : History) :
    o.seen s (h₁ ++ h₂) = o.seen (o.seen s h₁) h₂ := List.foldl_append

/-- One who writes some events down has the history as far as it is of those. -/
theorem seen_filter {o : Observer History} {f : Event → Bool}
    (hafter : ∀ h e, o.after h e = if f e then h ++ [e] else h) (h₁ h₂ : History) :
    o.seen h₁ h₂ = h₁ ++ h₂.filter f := by
  induction h₂ generalizing h₁ with
  | nil => exact (List.append_nil h₁).symm
  | cons e h₂ ih =>
    rw [seen_cons, ih, hafter]
    cases he : f e with
    | true =>
      rw [if_pos rfl, List.filter_cons_of_pos he, List.append_assoc]
      rfl
    | false => rw [if_neg Bool.false_ne_true, List.filter_cons_of_neg (he ▸ Bool.false_ne_true)]

/-- What is in a list of the record was there before, or has come in by an event. -/
theorem mem_seen {o : Observer σ} {f : σ → List β} {came : Event → β → Prop}
    (hafter : ∀ s e b, b ∈ f (o.after s e) → b ∈ f s ∨ came e b) {s : σ} {h : History} {b : β}
    (hb : b ∈ f (o.seen s h)) : b ∈ f s ∨ ∃ e ∈ h, came e b := by
  induction h generalizing s with
  | nil => exact .inl hb
  | cons e h ih =>
    rcases ih hb with hb | ⟨e', he', hcame⟩
    · exact (hafter s e b hb).imp_right fun hcame => ⟨e, List.mem_cons_self, hcame⟩
    · exact .inr ⟨e', List.mem_cons_of_mem e he', hcame⟩

/-- What every event keeps of the record is kept by every history. -/
theorem seen_keeps {o : Observer σ} {P : σ → Prop} (hafter : ∀ s e, P s → P (o.after s e)) {s : σ} (hs : P s)
    (h : History) : P (o.seen s h) := by
  induction h generalizing s with
  | nil => exact hs
  | cons e h ih => exact ih (hafter s e hs)

/-- Every answer to a call that has been made is allowed, and what follows it is as `k` says. -/
def Answered (o : Observer σ) (c : Call) (k : c.Answer → σ → Prop) (s : σ) : Prop :=
  ∀ x, o.allows s (.answered c x) ∧ k x (o.after s (.answered c x))

/-- A suspension may be stopped where it stands, also while a call is made; its answers are allowed. -/
def Suspended (o : Observer σ) (stop : σ → Prop) : (u : Suspension) → (u.Answer → σ → Prop) → σ → Prop
  | .call c, k, s => stop s ∧ o.allows s (.called c) ∧ stop (o.after s (.called c)) ∧
      o.Answered c k (o.after s (.called c))
  | .wait w, k, s => (w ≠ .never → stop s) ∧ ∀ x, o.allows s (.waited w x) ∧ k x (o.after s (.waited w x))

/-- **The weakest precondition** of a program, for what must hold wherever it can be stopped and where it ends. -/
def Meets (o : Observer σ) (stop : Holdings → σ → Prop) :
    Program α → (α → Holdings → σ → Prop) → Holdings → σ → Prop
  | .done a, post, own, s => post a own s
  | .step (.access a) next, post, own, s => ∀ x, a.CanAnswer own x →
      o.allows s (.accessed a x) ∧ o.Meets stop (next x) post (a.hold x own) (o.after s (.accessed a x))
  | .step (.suspend u) next, post, own, s => o.Suspended (stop own) u (fun x s => o.Meets stop (next x) post own s) s
  | .step (.watched _ u) next, post, own, s =>
    (o.allows s .stopped ∧ o.Meets stop (next none) post own (o.after s .stopped)) ∧
    o.Suspended (fun s => o.allows s .stopped ∧ o.Meets stop (next none) post own (o.after s .stopped)) u
      (fun x s => o.Meets stop (next (some x)) post own s) s

/-- Nothing is asked of the places where a program can be stopped. -/
def anywhere : Holdings → σ → Prop := fun _ _ => True

variable {o : Observer σ} {stop stop' : Holdings → σ → Prop}

/-! ## Rules -/

theorem Suspended.mono {p p' : σ → Prop} (hp : ∀ s, p s → p' s) {u : Suspension} {k k' : u.Answer → σ → Prop}
    (hk : ∀ x s, k x s → k' x s) {s : σ} (h : o.Suspended p u k s) : o.Suspended p' u k' s := by
  cases u with
  | call c =>
    obtain ⟨h₁, h₂, h₃, h₄⟩ := h
    exact ⟨hp _ h₁, h₂, hp _ h₃, fun x => ⟨(h₄ x).1, hk x _ (h₄ x).2⟩⟩
  | wait w => exact ⟨fun hw => hp _ (h.1 hw), fun x => ⟨(h.2 x).1, hk x _ (h.2 x).2⟩⟩

theorem Meets.mono {p : Program α} {post post' : α → Holdings → σ → Prop} {own : Holdings} {s : σ}
    (h : o.Meets stop p post own s) (hstop : ∀ own s, stop own s → stop' own s)
    (hpost : ∀ a own s, post a own s → post' a own s) : o.Meets stop' p post' own s := by
  induction p generalizing own s with
  | done a => exact hpost a own s h
  | step e next ih =>
    cases e with
    | access a => exact fun x hx => ⟨(h x hx).1, ih x (h x hx).2⟩
    | suspend u => exact Suspended.mono (hstop own) (fun x s hs => ih x hs) h
    | watched id u =>
      have hnone (s : σ) : o.allows s .stopped ∧ o.Meets stop (next none) post own (o.after s .stopped) →
          o.allows s .stopped ∧ o.Meets stop' (next none) post' own (o.after s .stopped) :=
        fun hs => ⟨hs.1, ih none hs.2⟩
      exact ⟨hnone s h.1, Suspended.mono hnone (fun x s hs => ih (some x) hs) h.2⟩

theorem Meets.imp {p : Program α} {post post' : α → Holdings → σ → Prop} {own : Holdings} {s : σ}
    (h : o.Meets stop p post own s) (hpost : ∀ a own s, post a own s → post' a own s) : o.Meets stop p post' own s :=
  h.mono (fun _ _ => id) hpost

/-- **Contracts compose**: the first program ends where the second one's contract begins. -/
theorem meets_bind {p : Program α} {f : α → Program β} {post : β → Holdings → σ → Prop} {own : Holdings} {s : σ}
    (h : o.Meets stop p (fun a own s => o.Meets stop (f a) post own s) own s) : o.Meets stop (p >>= f) post own s := by
  show o.Meets stop (p.andThen f) post own s
  induction p generalizing own s with
  | done a => exact h
  | step e next ih =>
    cases e with
    | access a => exact fun x hx => ⟨(h x hx).1, ih x (h x hx).2⟩
    | suspend u => exact Suspended.mono (fun _ => id) (fun x s hs => ih x hs) h
    | watched id u =>
      have hnone (s : σ) : (o.allows s .stopped ∧ o.Meets stop (next none)
          (fun a own s => o.Meets stop (f a) post own s) own (o.after s .stopped)) →
          o.allows s .stopped ∧ o.Meets stop ((next none).andThen f) post own (o.after s .stopped) :=
        fun hs => ⟨hs.1, ih none hs.2⟩
      exact ⟨hnone s h.1, Suspended.mono hnone (fun x s hs => ih (some x) hs) h.2⟩

/-- The same for programs that may fail: a failure is the failure of the whole. -/
theorem meets_bindExcept {p : ExceptT ε Program α} {f : α → ExceptT ε Program β} {P : β → Holdings → σ → Prop}
    {F : ε → Holdings → σ → Prop} {own : Holdings} {s : σ}
    (h : o.Meets stop p.run (Ends (fun a own s => o.Meets stop (f a).run (Ends P F) own s) F) own s) :
    o.Meets stop (p >>= f).run (Ends P F) own s := by
  refine meets_bind (Meets.imp h fun r own s hr => ?_)
  cases r with
  | ok a => exact hr
  | error e => exact hr

/-- The same, with the contract of the first given. -/
theorem Meets.thenExcept {p : ExceptT ε Program α} {f : α → ExceptT ε Program β} {P : α → Holdings → σ → Prop}
    {Q : β → Holdings → σ → Prop} {F : ε → Holdings → σ → Prop} {own : Holdings} {s : σ}
    (h : o.Meets stop p.run (Ends P F) own s) (hf : ∀ a own s, P a own s → o.Meets stop (f a).run (Ends Q F) own s) :
    o.Meets stop (p >>= f).run (Ends Q F) own s := by
  refine meets_bindExcept (Meets.imp h fun r own s hr => ?_)
  cases r with
  | ok a => exact hf a own s hr
  | error e => exact hr

theorem Meets.mapExcept {p : ExceptT ε Program α} {f : α → β} {P : α → Holdings → σ → Prop}
    {Q : β → Holdings → σ → Prop} {F : ε → Holdings → σ → Prop} {own : Holdings} {s : σ}
    (h : o.Meets stop p.run (Ends P F) own s) (hf : ∀ a own s, P a own s → Q (f a) own s) :
    o.Meets stop (f <$> p).run (Ends Q F) own s := by
  refine meets_bind (Meets.imp h fun r own s hr => ?_)
  cases r with
  | ok a => exact hf a own s hr
  | error e => exact hr

theorem meets_access {a : Access} {f : a.Answer → Program β} {post : β → Holdings → σ → Prop} {own : Holdings} {s : σ}
    (h : ∀ x, a.CanAnswer own x →
      o.allows s (.accessed a x) ∧ o.Meets stop (f x) post (a.hold x own) (o.after s (.accessed a x))) :
    o.Meets stop (Program.access a >>= f) post own s := h

theorem meets_call {c : Call} {f : c.Answer → Program β} {post : β → Holdings → σ → Prop} {own : Holdings} {s : σ}
    (h : o.Suspended (stop own) (.call c) (fun x s => o.Meets stop (f x) post own s) s) :
    o.Meets stop (Program.call c >>= f) post own s := h

theorem meets_wait {w : Wait} {f : w.Answer → Program β} {post : β → Holdings → σ → Prop} {own : Holdings} {s : σ}
    (h : o.Suspended (stop own) (.wait w) (fun x s => o.Meets stop (f x) post own s) s) :
    o.Meets stop (Program.wait w >>= f) post own s := h

theorem meets_liftAccess {a : Access} {f : a.Answer → ExceptT ε Program β} {post : Except ε β → Holdings → σ → Prop}
    {own : Holdings} {s : σ} (h : ∀ x, a.CanAnswer own x →
      o.allows s (.accessed a x) ∧ o.Meets stop (f x).run post (a.hold x own) (o.after s (.accessed a x))) :
    o.Meets stop ((liftM (Program.access a) : ExceptT ε Program a.Answer) >>= f).run post own s := h

theorem meets_liftCall {c : Call} {f : c.Answer → ExceptT ε Program β} {post : Except ε β → Holdings → σ → Prop}
    {own : Holdings} {s : σ}
    (h : o.Suspended (stop own) (.call c) (fun x s => o.Meets stop (f x).run post own s) s) :
    o.Meets stop ((liftM (Program.call c) : ExceptT ε Program c.Answer) >>= f).run post own s := h

/-- **A watched program** ends as the program does or, stopped, wherever the program may be stopped. -/
theorem meets_watch {p : Program α} {id : String} {stopped : α} {post : α → Holdings → σ → Prop} {own : Holdings}
    {s : σ} (h : o.Meets stop p post own s)
    (hstop : ∀ own s, stop own s → o.allows s .stopped ∧ post stopped own (o.after s .stopped)) :
    o.Meets anywhere (p.watch id stopped) post own s := by
  induction p generalizing own s with
  | done a => exact h
  | step e next ih =>
    cases e with
    | access a => exact fun x hx => ⟨(h x hx).1, ih x (h x hx).2⟩
    | suspend u =>
      unfold Program.watch
      split
      · rename_i hu
        have hnow : stop own s := by
          cases u with
          | call c => exact h.1
          | wait w => exact h.1 (by rintro rfl; exact absurd hu (by decide))
        exact ⟨hstop own s hnow, Suspended.mono (hstop own) (fun x s hs => ih x hs) h⟩
      · exact Suspended.mono (fun _ _ => trivial) (fun x s hs => ih x hs) h
    | watched i u =>
      have hnone (s : σ) : o.allows s .stopped ∧ o.Meets stop (next none) post own (o.after s .stopped) →
          o.allows s .stopped ∧ o.Meets anywhere (Program.watch id stopped (next none)) post own (o.after s .stopped) :=
        fun hs => ⟨hs.1, ih none hs.2⟩
      exact ⟨hnone s h.1, Suspended.mono hnone (fun x s hs => ih (some x) hs) h.2⟩

/-! ## Programs that an observer ignores -/

/-- The effects whose events are allowed and leave the record as it is. -/
def Ignores (o : Observer σ) : Effect → Prop
  | .access a => ∀ x own s, a.hold x own = own ∧ o.allows s (.accessed a x) ∧ o.after s (.accessed a x) = s
  | .suspend (.call c) => ∀ s, (o.allows s (.called c) ∧ o.after s (.called c) = s) ∧
      ∀ x, o.allows s (.answered c x) ∧ o.after s (.answered c x) = s
  | .suspend (.wait w) => ∀ x s, o.allows s (.waited w x) ∧ o.after s (.waited w x) = s
  | .watched .. => False

/-- The effects whose events are allowed and leave the record as it is, whatever becomes of the holdings. -/
def Overlooks (o : Observer σ) : Effect → Prop
  | .access a => ∀ x s, o.allows s (.accessed a x) ∧ o.after s (.accessed a x) = s
  | .suspend (.call c) => ∀ s, (o.allows s (.called c) ∧ o.after s (.called c) = s) ∧
      ∀ x, o.allows s (.answered c x) ∧ o.after s (.answered c x) = s
  | .suspend (.wait w) => ∀ x s, o.allows s (.waited w x) ∧ o.after s (.waited w x) = s
  | .watched .. => False

end Observer

namespace Program

/-- All effects of a program are as `E` says, and all its results as `R` says. -/
def Only (E : Effect → Prop) (R : α → Prop) : Program α → Prop
  | .done a => R a
  | .step e next => E e ∧ ∀ x, Only E R (next x)

variable {E E' : Effect → Prop}

theorem Only.mono {R R' : α → Prop} {p : Program α} (h : p.Only E R) (hE : ∀ e, E e → E' e) (hR : ∀ a, R a → R' a) :
    p.Only E' R' := by
  induction p with
  | done a => exact hR a h
  | step e next ih => exact ⟨hE e h.1, fun x => ih x (h.2 x)⟩

theorem Only.bind {R : α → Prop} {R' : β → Prop} {p : Program α} {f : α → Program β} (h : p.Only E R)
    (hf : ∀ a, R a → (f a).Only E R') : (p >>= f).Only E R' := by
  show Program.Only E R' (p.andThen f)
  induction p with
  | done a => exact hf a h
  | step e next ih => exact ⟨h.1, fun x => ih x (h.2 x)⟩

theorem Only.bindExcept {P : α → Prop} {Q : β → Prop} {F : ε → Prop} {p : ExceptT ε Program α}
    {f : α → ExceptT ε Program β} (h : p.run.Only E (Ends P F))
    (hf : ∀ a, P a → (f a).run.Only E (Ends Q F)) : (p >>= f).run.Only E (Ends Q F) := by
  refine Only.bind h fun r hr => ?_
  cases r with
  | ok a => exact hf a hr
  | error e => exact hr

theorem Only.watch {R : α → Prop} {p : Program α} (h : p.Only E R) {id : String} {stopped : α} (hstopped : R stopped)
    (hE : ∀ u, E (.suspend u) → E (.watched id u)) : (p.watch id stopped).Only E R := by
  induction p with
  | done a => exact h
  | step e next ih =>
    obtain ⟨he, hnext⟩ := h
    cases e with
    | access a => exact ⟨he, fun x => ih x (hnext x)⟩
    | suspend u =>
      unfold Program.watch
      split
      · refine ⟨hE u he, fun x => ?_⟩
        cases x with
        | none => exact hstopped
        | some x => exact ih x (hnext x)
      · exact ⟨he, fun x => ih x (hnext x)⟩
    | watched i u => exact ⟨he, fun x => ih x (hnext x)⟩

theorem Only.access {R : β → Prop} {a : Access} {f : a.Answer → Program β} (h : E (.access a))
    (hf : ∀ x, (f x).Only E R) : (access a >>= f).Only E R := ⟨h, hf⟩

theorem Only.call {R : β → Prop} {c : Call} {f : c.Answer → Program β} (h : E (.suspend (.call c)))
    (hf : ∀ x, (f x).Only E R) : (call c >>= f).Only E R := ⟨h, hf⟩

theorem Only.wait {R : β → Prop} {w : Wait} {f : w.Answer → Program β} (h : E (.suspend (.wait w)))
    (hf : ∀ x, (f x).Only E R) : (wait w >>= f).Only E R := ⟨h, hf⟩

theorem Only.liftAccess {R : Except ε β → Prop} {a : Access} {f : a.Answer → ExceptT ε Program β} (h : E (.access a))
    (hf : ∀ x, (f x).run.Only E R) : ((liftM (Program.access a) : ExceptT ε Program a.Answer) >>= f).run.Only E R :=
  ⟨h, hf⟩

theorem Only.liftCall {R : Except ε β → Prop} {c : Call} {f : c.Answer → ExceptT ε Program β}
    (h : E (.suspend (.call c))) (hf : ∀ x, (f x).run.Only E R) :
    ((liftM (Program.call c) : ExceptT ε Program c.Answer) >>= f).run.Only E R := ⟨h, hf⟩

end Program

namespace Observer

variable {o : Observer σ} {stop : Holdings → σ → Prop}

/-- **What an observer ignores can be passed over**: neither record nor holdings change. -/
theorem meets_of_only {R : α → Prop} {p : Program α} {post : α → Holdings → σ → Prop} {own : Holdings} {s : σ}
    (h : p.Only o.Ignores R) (hstop : stop own s) (hpost : ∀ a, R a → post a own s) : o.Meets stop p post own s := by
  induction p with
  | done a => exact hpost a h
  | step e next ih =>
    obtain ⟨he, hnext⟩ := h
    cases e with
    | access a =>
      intro x _
      obtain ⟨hown, hallowed, hs⟩ := he x own s
      rw [hown, hs]
      exact ⟨hallowed, ih x (hnext x)⟩
    | suspend u =>
      cases u with
      | call c =>
        obtain ⟨⟨hallowed, hs⟩, hx⟩ := he s
        refine ⟨hstop, hallowed, by rw [hs]; exact hstop, fun x => ?_⟩
        rw [hs, (hx x).2]
        exact ⟨(hx x).1, ih x (hnext x)⟩
      | wait w =>
        refine ⟨fun _ => hstop, fun x => ?_⟩
        rw [(he x s).2]
        exact ⟨(he x s).1, ih x (hnext x)⟩
    | watched id u => exact he.elim

theorem meets_of_overlooked {R : α → Prop} {p : Program α} {post : α → Holdings → σ → Prop} {own : Holdings} {s : σ}
    (h : p.Only o.Overlooks R) (hstop : ∀ own, stop own s) (hpost : ∀ a own, R a → post a own s) :
    o.Meets stop p post own s := by
  induction p generalizing own with
  | done a => exact hpost a own h
  | step e next ih =>
    obtain ⟨he, hnext⟩ := h
    cases e with
    | access a =>
      intro x _
      rw [(he x s).2]
      exact ⟨(he x s).1, ih x (hnext x)⟩
    | suspend u =>
      cases u with
      | call c =>
        obtain ⟨⟨hallowed, hs⟩, hx⟩ := he s
        refine ⟨hstop own, hallowed, by rw [hs]; exact hstop own, fun x => ?_⟩
        rw [hs, (hx x).2]
        exact ⟨(hx x).1, ih x (hnext x)⟩
      | wait w =>
        refine ⟨fun _ => hstop own, fun x => ?_⟩
        rw [(he x s).2]
        exact ⟨(he x s).1, ih x (hnext x)⟩
    | watched id u => exact he.elim

/-- One who allows everything asks nothing. -/
theorem meets_of_allows (hallows : ∀ s e, o.allows s e) (p : Program α) (own : Holdings) (s : σ) :
    o.Meets anywhere p (fun _ _ _ => True) own s := by
  induction p generalizing own s with
  | done a => trivial
  | step e next ih =>
    have hsuspended (u : Suspension) (k : u.Answer → Program α) {stop : σ → Prop} (hstop : ∀ s, stop s)
        (hk : ∀ x own s, o.Meets anywhere (k x) (fun _ _ _ => True) own s) (s : σ) :
        o.Suspended stop u (fun x s => o.Meets anywhere (k x) (fun _ _ _ => True) own s) s := by
      cases u with
      | call c => exact ⟨hstop _, hallows _ _, hstop _, fun x => ⟨hallows _ _, hk x own _⟩⟩
      | wait w => exact ⟨fun _ => hstop _, fun x => ⟨hallows _ _, hk x own _⟩⟩
    cases e with
    | access a => exact fun x _ => ⟨hallows _ _, ih x _ _⟩
    | suspend u => exact hsuspended u next (fun _ => trivial) ih s
    | watched id u =>
      exact ⟨⟨hallows _ _, ih none own _⟩, hsuspended u (fun x => next (some x))
        (fun s => ⟨hallows _ _, ih none own _⟩) (fun x => ih (some x)) s⟩

/-- The one who writes everything down. -/
def recorder : Observer History where
  after h e := h ++ [e]
  allows _ _ := True

theorem recorder_seen (h₁ h₂ : History) : recorder.seen h₁ h₂ = h₁ ++ h₂ := by
  rw [seen_filter (f := fun _ => true) (fun _ _ => rfl), List.filter_eq_self.2 fun _ _ => rfl]

/-! ## Tasks and runs -/

/-- A task is held to a contract: its program meets it or, while a call is made, meets it from the answer on. -/
def Follows (o : Observer σ) (post : α → Holdings → σ → Prop) (t : Task α) (s : σ) : Prop :=
  if t.calling then
    match t.program with
    | .step (.suspend (.call c)) next => o.Answered c (fun x s => o.Meets anywhere (next x) post t.own s) s
    | .step (.watched _ (.call c)) next =>
      (o.allows s .stopped ∧ o.Meets anywhere (next none) post t.own (o.after s .stopped)) ∧
      o.Answered c (fun x s => o.Meets anywhere (next (some x)) post t.own s) s
    | _ => False
  else o.Meets anywhere t.program post t.own s

theorem Follows.of_meets {p : Program α} {post : α → Holdings → σ → Prop} {s : σ}
    (h : o.Meets anywhere p post {} s) : o.Follows post { program := p } s := h

/-- **A task's step is allowed and keeps the contract.** -/
theorem Follows.notices {post : α → Holdings → σ → Prop} {t t' : Task α} {e : Event} {s : σ}
    (h : o.Follows post t s) (ht : t.Notices e t') : o.allows s e ∧ o.Follows post t' (o.after s e) := by
  cases ht with
  | access host i a next calling own =>
    cases calling with
    | true => exact h.elim
    | false => exact h _ (host.canAnswer i own a)
  | call c next own => exact ⟨h.2.1, h.2.2.2⟩
  | callWatched id c next own => exact ⟨h.2.2.1, h.2.2.2.1, h.2.2.2.2⟩
  | answer c x next own => exact h x
  | answerWatched id c x next own => exact h.2 x
  | wait w x next calling own =>
    cases calling with
    | true => exact h.elim
    | false => exact h.2 x
  | waitWatched id w x next calling own =>
    cases calling with
    | true => exact h.elim
    | false => exact h.2.2 x
  | stop id u next calling own =>
    cases calling with
    | false => exact h.1
    | true =>
      cases u with
      | call c => exact h.1
      | wait w => exact h.elim

/-- Every answer to a wait at which a task stands is allowed. -/
theorem Follows.waits {post : α → Holdings → σ → Prop} {t : Task α} {s : σ} {u : Wait} (h : o.Follows post t s)
    (hs : t.suspension? = some (.wait u)) (x : u.Answer) : o.allows s (.waited u x) := by
  obtain ⟨program, calling, own⟩ := t
  rcases Task.suspension?_eq_some hs with ⟨next, hp⟩ | ⟨id, next, hp⟩
  · cases hp
    cases calling with
    | true => exact h.elim
    | false => exact (h.2 x).1
  · cases hp
    cases calling with
    | true => exact h.elim
    | false => exact (h.2.2 x).1

theorem Follows.result {post : α → Holdings → σ → Prop} {t : Task α} {s : σ} (h : o.Follows post t s) {a : α}
    (ha : t.result? = some a) : post a t.own s := by
  obtain ⟨program, calling, own⟩ := t
  cases Task.result?_eq_some ha
  cases calling with
  | true => exact h.elim
  | false => exact h

end Observer

namespace Run

variable {o : Observer σ} {post : α → Holdings → σ → Prop} {w w' : Wallet α} {i : Nat} {t : Task α} {s : σ}

/-- **A contract is kept along every run.** -/
theorem follows {ss : List (Step α)} (run : Run w ss w') (ht : w.tasks[i]? = some t) (h : o.Follows post t s) :
    ∃ t', w'.tasks[i]? = some t' ∧ o.Follows post t' (o.seen s (historyOf i ss)) := by
  induction run generalizing t s with
  | nil => exact ⟨t, ht, h⟩
  | cons first rest ih =>
    rcases (Wallet.Goes.of_step? first).task ht with ⟨hnone, ht'⟩ | ⟨e, t', hsome, hnotices, ht'⟩
    · rw [historyOf_cons_none hnone]
      exact ih ht' h
    · rw [historyOf_cons_some hsome]
      exact ih ht' (h.notices hnotices).2

/-- **Every event of a run is allowed** by those that follow its task. -/
theorem allowed {ss₁ ss₂ : List (Step α)} {st : Step α} {e : Event} (run : Run w (ss₁ ++ st :: ss₂) w')
    (ht : w.tasks[i]? = some t) (h : o.Follows post t s) (he : st.happening.event? i = some e) :
    o.allows (o.seen s (historyOf i ss₁)) e := by
  obtain ⟨before, now, -⟩ := run.cut
  obtain ⟨t₁, ht₁, h₁⟩ := before.follows ht h
  rcases (Wallet.Goes.of_step? now).task ht₁ with ⟨hnone, -⟩ | ⟨e', t', hsome, hnotices, -⟩
  · rw [hnone] at he
    cases he
  · rw [hsome] at he
    cases he
    exact (h₁.notices hnotices).1

theorem result {ss : List (Step α)} (run : Run w ss w') (ht : w.tasks[i]? = some t) (h : o.Follows post t s) {a : α}
    (ha : w'.result? i = some a) : ∃ own, post a own (o.seen s (historyOf i ss)) := by
  obtain ⟨t', ht', h'⟩ := run.follows ht h
  obtain ⟨u, hu, hr⟩ := Option.bind_eq_some_iff.1 ha
  rw [ht'] at hu
  cases hu
  exact ⟨t'.own, h'.result hr⟩

end Run

/-! ## Invariants over all tasks -/

namespace Observer

/-- The records of all tasks after a happening. -/
def afterAll (o : Observer σ) (recs : Nat → σ) (h : Happening) : Nat → σ := fun i =>
  match h.event? i with
  | some e => o.after (recs i) e
  | none => recs i

theorem afterAll_self (o : Observer σ) (recs : Nat → σ) (i : Nat) (e : Event) :
    o.afterAll recs (e.happening i) i = o.after (recs i) e := by
  unfold afterAll
  rw [Event.event?_happening]

theorem afterAll_of_ne (o : Observer σ) (recs : Nat → σ) {i j : Nat} (h : i ≠ j) (e : Event) :
    o.afterAll recs (e.happening i) j = recs j := by
  unfold afterAll
  rw [Event.event?_happening_of_ne h]

theorem afterAll_none (o : Observer σ) (recs : Nat → σ) {h : Happening} (hnone : ∀ i, h.event? i = none) :
    o.afterAll recs h = recs := by
  funext i
  unfold afterAll
  rw [hnone]

section

variable (o : Observer σ) (start : σ) (ss : List (Step α)) {s : Step α} {i : Nat}

theorem seen_snoc_some {e : Event} (he : s.happening.event? i = some e) :
    o.seen start (historyOf i (ss ++ [s])) = o.after (o.seen start (historyOf i ss)) e := by
  rw [historyOf_append, seen_append, historyOf_cons_some he]
  rfl

theorem seen_snoc_none (he : s.happening.event? i = none) :
    o.seen start (historyOf i (ss ++ [s])) = o.seen start (historyOf i ss) := by
  rw [historyOf_append, seen_append, historyOf_cons_none he]
  rfl

end

theorem seen_snoc (o : Observer σ) (start : σ) (ss : List (Step α)) (s : Step α) :
    (fun i => o.seen start (historyOf i (ss ++ [s]))) =
      o.afterAll (fun i => o.seen start (historyOf i ss)) s.happening := by
  funext i
  unfold afterAll
  cases he : s.happening.event? i with
  | none => exact o.seen_snoc_none start ss he
  | some e => exact o.seen_snoc_some start ss he

/-- Every task is held to the contract from its own record on, and those to come have not begun one. -/
def FollowsAll (o : Observer σ) (post : α → Holdings → σ → Prop) (start : σ) (w : Wallet α) (recs : Nat → σ) : Prop :=
  ∀ i, (∀ t, w.tasks[i]? = some t → o.Follows post t (recs i)) ∧ (w.tasks[i]? = none → recs i = start)

variable {o : Observer σ} {post : α → Holdings → σ → Prop} {start : σ} {w w' : Wallet α} {recs : Nat → σ}

theorem FollowsAll.allows (h : o.FollowsAll post start w recs) {m : Move α} {happening : Happening}
    (g : w.Goes m happening w') {i : Nat} {e : Event} (he : happening.event? i = some e) : o.allows (recs i) e := by
  obtain ⟨t, t', ht, hnotices, -⟩ := g.noticed he
  exact (((h i).1 t ht).notices hnotices).1

theorem FollowsAll.step (h : o.FollowsAll post start w recs) {m : Move α} {happening : Happening}
    (g : w.Goes m happening w') (hstart : ∀ p, m = .start p → o.Meets anywhere p post {} start) :
    o.FollowsAll post start w' (o.afterAll recs happening) := by
  intro i
  unfold afterAll
  cases ht : w.tasks[i]? with
  | none =>
    obtain ⟨hnone, hnew⟩ := g.newTask ht
    rw [hnone]
    refine ⟨fun t ht' => ?_, fun _ => (h i).2 ht⟩
    obtain ⟨p, hp, rfl⟩ := hnew t ht'
    show o.Follows post _ (recs i)
    rw [(h i).2 ht]
    exact .of_meets (hstart p hp)
  | some t =>
    rcases g.task ht with ⟨hnone, ht'⟩ | ⟨e, t', hsome, hnotices, ht'⟩
    · rw [hnone]
      refine ⟨fun u hu => ?_, fun hu => ?_⟩
      · rw [ht'] at hu
        cases hu
        exact (h i).1 t ht
      · rw [ht'] at hu
        cases hu
    · rw [hsome]
      refine ⟨fun u hu => ?_, fun hu => ?_⟩
      · rw [ht'] at hu
        cases hu
        exact (((h i).1 t ht).notices hnotices).2
      · rw [ht'] at hu
        cases hu

end Observer

namespace Run

variable {o : Observer σ} {post : α → Holdings → σ → Prop} {start : σ} {w w' : Wallet α} {ss ss₁ ss₂ : List (Step α)}

/-- The contract of every program that is started in a run. -/
abbrev Starts (o : Observer σ) (post : α → Holdings → σ → Prop) (start : σ) (ss : List (Step α)) : Prop :=
  ∀ st ∈ ss, ∀ p, st.move = .start p → o.Meets Observer.anywhere p post {} start

/-- **Every contract is kept** in a run of a wallet that had no tasks. -/
theorem followsAll (run : Run w ss w') (hempty : w.tasks = []) (hstart : Starts o post start ss) :
    o.FollowsAll post start w' fun i => o.seen start (historyOf i ss) := by
  refine run.along (I := fun done w => o.FollowsAll post start w fun i => o.seen start (historyOf i done))
    (fun i => ⟨fun t ht => ?_, fun _ => rfl⟩) fun done st rest hss _ hgoes hthere => ?_
  · rw [hempty] at ht
    cases ht
  · rw [o.seen_snoc]
    exact hthere.step hgoes (hstart st (hss ▸ List.mem_append_right _ List.mem_cons_self))

theorem allowedAll (run : Run w (ss₁ ++ st :: ss₂) w') (hempty : w.tasks = [])
    (hstart : Starts o post start (ss₁ ++ st :: ss₂)) {i : Nat} {e : Event} (he : st.happening.event? i = some e) :
    o.allows (o.seen start (historyOf i ss₁)) e := by
  obtain ⟨before, now, -⟩ := run.cut
  exact (before.followsAll hempty fun st hst => hstart st (List.mem_append_left _ hst)).allows
    (Wallet.Goes.of_step? now) he

/-- So is every answer that a task might find when it looks whether a wait is over. -/
theorem allowed_look (run : Run w (ss₁ ++ st :: ss₂) w') (hempty : w.tasks = [])
    (hstart : Starts o post start (ss₁ ++ st :: ss₂)) {i : Nat} {u : Wait} {x : Option u.Answer}
    (hnow : st.happening = .looked i u x) (y : u.Answer) :
    o.allows (o.seen start (historyOf i ss₁)) (.waited u y) := by
  obtain ⟨before, now, -⟩ := run.cut
  have g := Wallet.Goes.of_step? now
  rw [hnow] at g
  obtain ⟨⟨t, ht, hs⟩, -⟩ := g.of_looked
  have follows := before.followsAll hempty fun st hst => hstart st (List.mem_append_left _ hst)
  exact ((follows i).1 t ht).waits hs y

/-- **An invariant of the wallet and the records of its tasks** holds along every run, if every move keeps it that the
tasks' contracts allow.  It may speak of the steps done so far. -/
theorem invariant {I : List (Step α) → Wallet α → (Nat → σ) → Prop} (run : Run w ss w') (hempty : w.tasks = [])
    (hstart : Starts o post start ss) (hinit : I [] w fun _ => start)
    (hstep : ∀ done, ∀ st ∈ ss, ∀ recs, st.before.Goes st.move st.happening st.after →
      (∀ i e, st.happening.event? i = some e → o.allows (recs i) e) → I done st.before recs →
      I (done ++ [st]) st.after (o.afterAll recs st.happening)) :
    I ss w' fun i => o.seen start (historyOf i ss) := by
  refine run.along (I := fun done w => I done w fun i => o.seen start (historyOf i done)) hinit
    fun done st rest hss before hgoes hinv => ?_
  have hfollows := before.followsAll hempty fun st' hst' => hstart st' (hss ▸ List.mem_append_left _ hst')
  have hst : st ∈ ss := hss ▸ List.mem_append_right _ List.mem_cons_self
  rw [o.seen_snoc]
  exact hstep done st hst _ hgoes (fun _ _ he => hfollows.allows hgoes he) hinv

end Run
end PasskeyConsent

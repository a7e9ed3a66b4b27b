import PasskeyConsent.Proofs.Concurrency.Contract
/-!
# Contracts and effects

A contract need not be proved in one piece.  What every effect of a program keeps holds wherever the program stands
(`Meets.keep`), and a contract is one of another observer of the same record that allows whatever the program's effects
can bring about (`Meets.transfer`); both are cases of `Meets.carry`.
-/
namespace PasskeyConsent

variable {α σ : Type}

/-- The events that can come of an effect. -/
inductive Effect.Yields : Effect → Event → Prop
  | access (a : Access) (x : a.Answer) : Yields (.access a) (.accessed a x)
  | call (c : Call) : Yields (.suspend (.call c)) (.called c)
  | answer (c : Call) (x : c.Answer) : Yields (.suspend (.call c)) (.answered c x)
  | wait (w : Wait) (x : w.Answer) : Yields (.suspend (.wait w)) (.waited w x)
  | stop (id : String) (u : Suspension) : Yields (.watched id u) .stopped
  | watched {id : String} {u : Suspension} {e : Event} (h : Yields (.suspend u) e) : Yields (.watched id u) e

theorem Program.only_of_forall {E : Effect → Prop} {R : α → Prop} (hE : ∀ e, E e) (hR : ∀ a, R a) {p : Program α} :
    p.Only E R := by
  induction p with
  | done a => exact hR a
  | step e next ih => exact ⟨hE e, ih⟩

/-- What is so of a program's effects and results by two accounts is so by both together. -/
theorem Program.Only.and {E E' : Effect → Prop} {R R' : α → Prop} {p : Program α} (h : p.Only E R) (h' : p.Only E' R') :
    p.Only (fun e => E e ∧ E' e) fun a => R a ∧ R' a := by
  induction p with
  | done a => exact ⟨h, h'⟩
  | step e next ih => exact ⟨⟨h.1, h'.1⟩, fun x => ih x (h.2 x) (h'.2 x)⟩

namespace Observer

variable {o o' : Observer σ} {stop : Holdings → σ → Prop} {post : α → Holdings → σ → Prop} {R : α → Prop}
  {p : Program α} {own : Holdings} {s : σ} {P : σ → Prop}

/-- Where `P` holds, the second observer allows every event of an effect that the first one allows, and `P` is kept. -/
def Carries (o o' : Observer σ) (P : σ → Prop) (e : Effect) : Prop :=
  ∀ event, e.Yields event → ∀ s, P s → o.allows s event → o'.allows s event ∧ P (o.after s event)

theorem Suspended.carry (hafter : o'.after = o.after) {u : Suspension} (hu : o.Carries o' P (.suspend u))
    {h h' : σ → Prop} {k k' : u.Answer → σ → Prop} (hh : ∀ s, P s → h s → h' s) (hk : ∀ x s, P s → k x s → k' x s)
    (hs : P s) (hsuspended : o.Suspended h u k s) : o'.Suspended h' u k' s := by
  cases u with
  | call c =>
    obtain ⟨hnow, hallowed, hcalled, hanswered⟩ := hsuspended
    obtain ⟨hallowed', hs'⟩ := hu _ (.call c) s hs hallowed
    refine ⟨hh s hs hnow, hallowed', ?_, fun x => ?_⟩
    · rw [hafter]
      exact hh _ hs' hcalled
    · obtain ⟨hanswer', hs''⟩ := hu _ (.answer c x) _ hs' (hanswered x).1
      rw [hafter]
      exact ⟨hanswer', hk x _ hs'' (hanswered x).2⟩
  | wait w =>
    refine ⟨fun hw => hh s hs (hsuspended.1 hw), fun x => ?_⟩
    obtain ⟨hwait', hs'⟩ := hu _ (.wait w x) s hs (hsuspended.2 x).1
    rw [hafter]
    exact ⟨hwait', hk x _ hs' (hsuspended.2 x).2⟩

/-- **A contract is carried over** to an observer of the same record, together with what the effects keep. -/
theorem Meets.carry (hafter : o'.after = o.after) (hp : p.Only (o.Carries o' P) R) (h : o.Meets stop p post own s)
    (hs : P s) : o'.Meets (fun own s => stop own s ∧ P s) p (fun a own s => post a own s ∧ P s) own s := by
  induction p generalizing own s with
  | done a => exact ⟨h, hs⟩
  | step e next ih =>
    obtain ⟨he, hnext⟩ := hp
    cases e with
    | access a =>
      intro x hx
      obtain ⟨hallowed, hmeets⟩ := h x hx
      obtain ⟨hallowed', hs'⟩ := he _ (.access a x) s hs hallowed
      refine ⟨hallowed', ?_⟩
      rw [hafter]
      exact ih x (hnext x) hmeets hs'
    | suspend u =>
      exact Suspended.carry hafter he (fun _ hs hstop => ⟨hstop, hs⟩) (fun x _ hs hx => ih x (hnext x) hx hs) hs h
    | watched id u =>
      have hnone (s : σ) (hs : P s) (h : o.allows s .stopped ∧ o.Meets stop (next none) post own (o.after s .stopped)) :
          o'.allows s .stopped ∧ o'.Meets (fun own s => stop own s ∧ P s) (next none)
            (fun a own s => post a own s ∧ P s) own (o'.after s .stopped) := by
        obtain ⟨hallowed', hs'⟩ := he _ (.stop id u) s hs h.1
        refine ⟨hallowed', ?_⟩
        rw [hafter]
        exact ih none (hnext none) h.2 hs'
      have hu : o.Carries o' P (.suspend u) := fun event hevent => he event (.watched hevent)
      exact ⟨hnone s hs h.1,
        Suspended.carry hafter hu hnone (fun x _ hs hx => ih (some x) (hnext (some x)) hx hs) hs h.2⟩

/-- **What every effect of a program keeps** holds wherever the program stands. -/
theorem Meets.keep (hp : p.Only (fun e => ∀ event, e.Yields event → ∀ s, P s → P (o.after s event)) R)
    (h : o.Meets stop p post own s) (hs : P s) :
    o.Meets (fun own s => stop own s ∧ P s) p (fun a own s => post a own s ∧ P s) own s := by
  refine Meets.carry rfl (hp.mono (fun e he event hevent s hs hallowed => ?_) fun _ hr => hr) h hs
  exact ⟨hallowed, he event hevent s hs⟩

/-- **A contract is one of every observer** of the same record that allows what the program's effects bring about. -/
theorem Meets.transfer (hafter : o'.after = o.after)
    (hp : p.Only (fun e => ∀ event, e.Yields event → ∀ s, o.allows s event → o'.allows s event) R)
    (h : o.Meets stop p post own s) : o'.Meets stop p post own s := by
  have hcarries : p.Only (o.Carries o' fun _ => True) R :=
    hp.mono (fun e he event hevent s _ hallowed => ⟨he event hevent s hallowed, trivial⟩) fun _ hr => hr
  exact (Meets.carry hafter hcarries h trivial).mono (fun _ _ h => h.1) fun _ _ _ h => h.1

/-- One who allows whatever a program's effects can bring about asks nothing of it. -/
theorem meets_of_allowed (hp : p.Only (fun e => ∀ event, e.Yields event → ∀ s, o.allows s event) R) (own : Holdings)
    (s : σ) : o.Meets anywhere p (fun _ _ _ => True) own s := by
  let free : Observer σ := { after := o.after, allows := fun _ _ => True }
  have hall : free.Meets anywhere p (fun _ _ _ => True) own s := meets_of_allows (fun _ _ => trivial) p own s
  have hafter : o.after = free.after := rfl
  exact hall.transfer hafter (hp.mono (fun e he event hevent s _ => he event hevent s) fun _ hr => hr)

/-- What is true of the record is true wherever a program stands, if each of its effects brings about only what is
allowed then and keeps it. -/
theorem meets_of_kept
    (hp : p.Only (fun e => ∀ event, e.Yields event → ∀ s, P s → o.allows s event ∧ P (o.after s event)) R)
    (own : Holdings) (hs : P s) : o.Meets (fun _ s => P s) p (fun _ _ s => P s) own s := by
  let free : Observer σ := { after := o.after, allows := fun _ _ => True }
  have hall : free.Meets anywhere p (fun _ _ _ => True) own s := meets_of_allows (fun _ _ => trivial) p own s
  have hafter : o.after = free.after := rfl
  have hcarries : p.Only (free.Carries o P) R :=
    hp.mono (fun e he event hevent s hs _ => he event hevent s hs) fun _ hr => hr
  exact (hall.carry hafter hcarries hs).mono (fun _ _ h => h.2) fun _ _ _ h => h.2

end Observer

/-! ## Tasks that are started in a run -/

/-- What is so of every effect of a task's program stays so. -/
theorem Task.Notices.only {t t' : Task α} {e : Event} {E : Effect → Prop} {R : α → Prop} (h : t.Notices e t')
    (ht : t.program.Only E R) : t'.program.Only E R := by
  cases h with
  | call | callWatched => exact ht
  | _ => exact ht.2 _

namespace Run

variable {o : Observer σ} {post : α → Holdings → σ → Prop} {w w' : Wallet α} {ss ss₁ ss₂ : List (Step α)}
  {st noticed : Step α} {p : Program α} {start : σ} {i : Nat} {e : Event}

theorem only {t : Task α} {E : Effect → Prop} {R : α → Prop} (run : Run w ss w') (ht : w.tasks[i]? = some t)
    (h : t.program.Only E R) : ∃ t', w'.tasks[i]? = some t' ∧ t'.program.Only E R := by
  refine run.along (I := fun _ w => ∃ t, w.tasks[i]? = some t ∧ t.program.Only E R) ⟨t, ht, h⟩ fun _ _ _ _ _ g hthere => ?_
  obtain ⟨t, ht, h⟩ := hthere
  rcases g.task ht with ⟨-, ht'⟩ | ⟨e, t', -, hnotices, ht'⟩
  · exact ⟨t, ht', h⟩
  · exact ⟨t', ht', hnotices.only h⟩

/-- What is so of all programs that are started is so of all that is left to do. -/
theorem onlyAll {E : Effect → Prop} {R : α → Prop} (run : Run w ss w') (hempty : w.tasks = [])
    (hstart : ∀ st ∈ ss, ∀ p, st.move = .start p → p.Only E R) :
    ∀ (i : Nat) (t : Task α), w'.tasks[i]? = some t → t.program.Only E R := by
  refine run.along (I := fun _ w => ∀ (i : Nat) (t : Task α), w.tasks[i]? = some t → t.program.Only E R)
    (fun i t ht => ?_) fun done st rest hss _ g hthere i t' ht' => ?_
  · rw [hempty] at ht
    cases ht
  · cases ht : st.before.tasks[i]? with
    | none =>
      obtain ⟨p, hp, rfl⟩ := (g.newTask ht).2 t' ht'
      exact hstart st (hss ▸ List.mem_append_right _ List.mem_cons_self) p hp
    | some t =>
      rcases g.task ht with ⟨-, hsame⟩ | ⟨e, u, -, hnotices, hu⟩
      · rw [Option.some.inj (ht'.symm.trans hsame)]
        exact hthere i t ht
      · rw [Option.some.inj (ht'.symm.trans hu)]
        exact hnotices.only (hthere i t ht)

/-- Nothing is noticed by a task before it is started. -/
theorem started_before (run : Run w (ss₁ ++ noticed :: ss₂) w') (hst : st ∈ ss₁ ++ noticed :: ss₂)
    (he : noticed.happening.event? st.before.tasks.length = some e) : st ∈ ss₁ := by
  refine (List.mem_append.1 hst).resolve_right fun hlater => ?_
  obtain ⟨-, now, after⟩ := run.cut
  have hnone : noticed.before.tasks[st.before.tasks.length]? = none :=
    List.getElem?_eq_none (Run.count_le (.cons now after) hlater)
  rw [((Wallet.Goes.of_step? now).newTask hnone).1] at he
  cases he

/-- **Every event of a task that was started in a run is allowed**, wherever the run has got to. -/
theorem allowed_since_start (run : Run w ss w') (hst : st ∈ ss) (hstart : st.move = .start p)
    (hi : st.before.tasks.length = i) (hp : o.Meets Observer.anywhere p post {} start)
    (hss : ss = ss₁ ++ noticed :: ss₂) (he : noticed.happening.event? i = some e) :
    o.allows (o.seen start (historyOf i ss₁)) e := by
  subst hi hss
  obtain ⟨pre, rest, rfl⟩ := List.append_of_mem (run.started_before hst he)
  obtain ⟨-, -, hhistory⟩ := run.cut.1.since_start hstart
  rw [List.append_assoc, List.cons_append] at run
  obtain ⟨after, hthere, -⟩ := run.since_start hstart
  rw [hhistory]
  exact after.allowed hthere (.of_meets hp) he

/-- What a task that was started in a run comes to is as its contract says. -/
theorem result_since_start {a : α} (run : Run w ss w') (hst : st ∈ ss) (hstart : st.move = .start p)
    (hi : st.before.tasks.length = i) (hp : o.Meets Observer.anywhere p post {} start) (ha : w'.result? i = some a) :
    ∃ own, post a own (o.seen start (historyOf i ss)) := by
  subst hi
  obtain ⟨pre, rest, rfl⟩ := List.append_of_mem hst
  obtain ⟨after, hthere, hhistory⟩ := run.since_start hstart
  rw [hhistory]
  exact after.result hthere (.of_meets hp) ha

/-- What is so of every effect of a program is so of what is left of it, wherever the run has got to. -/
theorem only_since_start {E : Effect → Prop} {R : α → Prop} (run : Run w ss w') (hst : st ∈ ss)
    (hstart : st.move = .start p) (hi : st.before.tasks.length = i) (hp : p.Only E R) (hss : ss = ss₁ ++ noticed :: ss₂)
    (he : noticed.happening.event? i = some e) : ∃ t, noticed.before.tasks[i]? = some t ∧ t.program.Only E R := by
  subst hi hss
  obtain ⟨pre, rest, rfl⟩ := List.append_of_mem (run.started_before hst he)
  obtain ⟨after, hthere, -⟩ := run.cut.1.since_start hstart
  exact after.only hthere hp

end Run
end PasskeyConsent

import Mathlib.Control.Monad.Basic
import PasskeyConsent.Concurrency.Wallet
/-!
# Runs

A run is a sequence of moves, each made where the one before has led; it is the list of its steps, so that a statement
can speak of the wallet before and after each.  What one task notices of a run is its own history, which is free of the
task's number.

`Wallet.Goes` says once what a move can do, and `Goes.task` what it can do to one task: nothing, or a step that the
task could make on any host (`Task.Notices`).  Nothing later opens `Wallet.step?`.  `Host.Changes` says once which part
of the host an access changes; that the other parts stay as they are is read off it.
-/
namespace PasskeyConsent

variable {α : Type}

/-! ## What a task notices -/

/-- What a task notices of a run: what it does itself, the answers it gets, and that it is stopped. -/
inductive Event where
  | accessed (a : Access) (answer : a.Answer)
  | called (c : Call)
  | answered (c : Call) (answer : c.Answer)
  | waited (w : Wait) (answer : w.Answer)
  | stopped

abbrev History := List Event

/-- What a task notices of a happening.  A look that finds a wait not over yet is nothing to it. -/
def Happening.event? (task : Nat) : Happening → Option Event
  | .accessed i a x => if i = task then some (.accessed a x) else none
  | .called i c => if i = task then some (.called c) else none
  | .answered i c x => if i = task then some (.answered c x) else none
  | .looked i w (some x) => if i = task then some (.waited w x) else none
  | .stopped i => if i = task then some .stopped else none
  | .started _ | .looked _ _ none | .used .. | .passed _ | .clockSet _ | .signed _ => none

/-- The happening that a task notices as an event. -/
def Event.happening (task : Nat) : Event → Happening
  | accessed a x => .accessed task a x
  | called c => .called task c
  | answered c x => .answered task c x
  | waited w x => .looked task w (some x)
  | stopped => .stopped task

theorem Happening.eq_of_event? {task : Nat} {h : Happening} {e : Event} (he : h.event? task = some e) :
    h = e.happening task := by
  unfold event? at he
  split at he
  all_goals first
    | cases he
    | split at he
      · rename_i hi
        cases he
        rw [hi]
        rfl
      · cases he

@[simp] theorem Event.event?_happening (task : Nat) (e : Event) : (e.happening task).event? task = some e := by
  cases e <;> exact if_pos rfl

theorem Happening.event?_of_eq {task : Nat} {h : Happening} {e : Event} (hh : h = e.happening task) :
    h.event? task = some e := by
  rw [hh, Event.event?_happening]

theorem Event.event?_happening_of_ne {i j : Nat} (h : i ≠ j) (e : Event) : (e.happening i).event? j = none := by
  cases e <;> exact if_neg h

/-- An access together with its answer. -/
structure Use where
  access : Access
  answer : access.Answer

/-- The access that has happened, by a task or by someone outside. -/
def Happening.use? : Happening → Option Use
  | .accessed _ a x | .used a x => some ⟨a, x⟩
  | _ => none

/-- What an access by a task leaves of its holdings. -/
def Access.hold : (a : Access) → a.Answer → Holdings → Holdings
  | .reserve _, .ok picked, own => { own with nonces := own.nonces ++ picked }
  | .consume _ account, .ok g, own => { own with warmUse := some (g, account) }
  | .settleUse, _, own => { own with warmUse := none }
  | .holdChannel session, _, own => { own with channel := some session }
  | .settleChannel, _, own => { own with channel := none }
  | .holdSurface surface, _, own => { own with surface := some surface }
  | _, _, own => own

theorem Host.access_hold (h : Host) (task : Nat) (own : Holdings) (a : Access) :
    (h.access task own a).2.2 = a.hold (h.access task own a).1 own := by
  cases a with
  | reserve count => simp only [Host.access]; cases h.sequencer.reserve count <;> rfl
  | markBroadcast text => simp only [Host.access]; cases h.sequencer.markBroadcast text <;> rfl
  | grant session account => simp only [Host.access]; cases h.ledger.grant h.wallClock session account <;> rfl
  | consume session account =>
    simp only [Host.access]
    rcases h.ledger.consume h.wallClock session account with ⟨_ | _, l⟩ <;> rfl
  | register id => simp only [Host.access]; cases h.pending.contains id <;> rfl
  | _ => rfl

/-- **What an access does to the host**: nothing, or a change of one part of it.  What becomes of the sequencer and the
ledger is left to their own theories. -/
inductive Host.Changes (h : Host) (task : Nat) : Access → Host → Prop
  | nothing (a : Access) : Changes h task a h
  | sequencer (a : Access) (s : Sequencer) : Changes h task a { h with sequencer := s }
  | ledger (a : Access) (l : Ledger) : Changes h task a { h with ledger := l }
  | keepTurn (c : BaseContext) : Changes h task (.keepTurn c) { h with turn := some ⟨c, h.now⟩ }
  | dropTurn : Changes h task .dropTurn { h with turn := none }
  | leaveTurn : Changes h task .leaveTurn { h with turnLane := h.turnLane.leave task }
  | keepBootstrap (key : String) (c : FreshnessChallenge) :
    Changes h task (.keepBootstrap key c) { h with bootstraps := h.bootstraps.put key c }
  | forgetBootstrap (key : String) : Changes h task (.forgetBootstrap key) { h with bootstraps := h.bootstraps.erase key }
  | leaveWorker (worker : String) :
    Changes h task (.leaveWorker worker) { h with hub := { h.hub with queue := h.hub.queue.leave worker task } }
  | openBox (session : String) : Changes h task (.openBox session) { h with hub := (h.hub.openBox task session).2 }
  | abandonBox (n : Nat) : Changes h task (.abandonBox n) { h with hub := h.hub.abandonBox n }
  | attach (session : String) (n : Nat) : Changes h task (.attach session n) { h with hub := h.hub.attach session n }
  | detach (session : String) : Changes h task (.detach session) { h with hub := (h.hub.detach session).2 }
  | deposit (session : String) (seed : SeedMaterial) :
    Changes h task (.deposit session seed) { h with hub := (h.hub.deposit session seed).2 }
  | register (id : String) (hnew : h.pending.contains id = false) :
    Changes h task (.register id) { h with pending := h.pending.put id false }
  | unregister (id : String) : Changes h task (.unregister id) { h with pending := h.pending.erase id }
  | cancel (id : String) (hruns : h.pending.contains id = true) :
    Changes h task (.cancel id) { h with pending := h.pending.put id true }

theorem Host.access_changes (h : Host) (task : Nat) (own : Holdings) (a : Access) :
    h.Changes task a (h.access task own a).2.1 := by
  cases a with
  | reserve count =>
    simp only [Host.access]
    split
    · exact .nothing _
    · exact .sequencer _ _
  | markBroadcast text =>
    simp only [Host.access]
    split
    · exact .nothing _
    · exact .sequencer _ _
  | grant session account =>
    simp only [Host.access]
    split
    · exact .nothing _
    · exact .ledger _ _
  | consume session account => simp only [Host.access]; split <;> exact .ledger _ _
  | register id =>
    simp only [Host.access]
    split
    · exact .nothing _
    · rename_i hnew
      exact .register id (Bool.eq_false_iff.2 hnew)
  | cancel id =>
    simp only [Host.access, Host.cancel]
    split
    · rename_i hruns
      exact .cancel id hruns
    · exact .nothing _
  | _ => constructor

/-- What a task does next on its own: an access as some host answers it, a call, or an answer. -/
inductive Task.Notices : Task α → Event → Task α → Prop
  | access (h : Host) (i : Nat) (a : Access) (next : a.Answer → Program α) (calling : Bool) (own : Holdings) :
    Notices ⟨.step (.access a) next, calling, own⟩ (.accessed a (h.access i own a).1)
      ⟨next (h.access i own a).1, calling, a.hold (h.access i own a).1 own⟩
  | call (c : Call) (next : c.Answer → Program α) (own : Holdings) :
    Notices ⟨.step (.suspend (.call c)) next, false, own⟩ (.called c) ⟨.step (.suspend (.call c)) next, true, own⟩
  | callWatched (id : String) (c : Call) (next : Option c.Answer → Program α) (own : Holdings) :
    Notices ⟨.step (.watched id (.call c)) next, false, own⟩ (.called c)
      ⟨.step (.watched id (.call c)) next, true, own⟩
  | answer (c : Call) (x : c.Answer) (next : c.Answer → Program α) (own : Holdings) :
    Notices ⟨.step (.suspend (.call c)) next, true, own⟩ (.answered c x) ⟨next x, false, own⟩
  | answerWatched (id : String) (c : Call) (x : c.Answer) (next : Option c.Answer → Program α) (own : Holdings) :
    Notices ⟨.step (.watched id (.call c)) next, true, own⟩ (.answered c x) ⟨next (some x), false, own⟩
  | wait (w : Wait) (x : w.Answer) (next : w.Answer → Program α) (calling : Bool) (own : Holdings) :
    Notices ⟨.step (.suspend (.wait w)) next, calling, own⟩ (.waited w x) ⟨next x, false, own⟩
  | waitWatched (id : String) (w : Wait) (x : w.Answer) (next : Option w.Answer → Program α) (calling : Bool)
      (own : Holdings) :
    Notices ⟨.step (.watched id (.wait w)) next, calling, own⟩ (.waited w x) ⟨next (some x), false, own⟩
  | stop (id : String) (s : Suspension) (next : Option s.Answer → Program α) (calling : Bool) (own : Holdings) :
    Notices ⟨.step (.watched id s) next, calling, own⟩ .stopped ⟨next none, false, own⟩

namespace Task

theorem resume?_suspend {t t' : Task α} {s : Suspension} {x : s.Answer} (h : t.resume? s x = some t') :
    (∃ next, t.program = .step (.suspend s) next ∧ t' = ⟨next x, false, t.own⟩) ∨
    ∃ id next, t.program = .step (.watched id s) next ∧ t' = ⟨next (some x), false, t.own⟩ := by
  unfold resume? at h
  split at h
  · rename_i s' next hp
    split at h
    · rename_i hs
      subst hs
      exact .inl ⟨next, hp, (Option.some.inj h).symm⟩
    · cases h
  · rename_i id s' next hp
    split at h
    · rename_i hs
      subst hs
      exact .inr ⟨id, next, hp, (Option.some.inj h).symm⟩
    · cases h
  · cases h

theorem suspension?_of_resume? {t t' : Task α} {s : Suspension} {x : s.Answer} (h : t.resume? s x = some t') :
    t.suspension? = some s := by
  unfold suspension?
  rcases resume?_suspend h with ⟨next, hp, -⟩ | ⟨id, next, hp, -⟩ <;> rw [hp]

theorem suspension?_eq_some {t : Task α} {s : Suspension} (h : t.suspension? = some s) :
    (∃ next, t.program = .step (.suspend s) next) ∨ ∃ id next, t.program = .step (.watched id s) next := by
  unfold suspension? at h
  split at h
  · rename_i s' next hp
    cases h
    exact .inl ⟨next, hp⟩
  · rename_i id s' next hp
    cases h
    exact .inr ⟨id, next, hp⟩
  · cases h

theorem resume?_of_suspension? {t : Task α} {s : Suspension} (h : t.suspension? = some s) (x : s.Answer) :
    ∃ t', t.resume? s x = some t' := by
  unfold resume?
  rcases suspension?_eq_some h with ⟨next, hp⟩ | ⟨id, next, hp⟩ <;> rw [hp] <;> exact ⟨_, dif_pos rfl⟩

theorem stop?_eq_some {t t' : Task α} {isCancelled : String → Bool} (h : t.stop? isCancelled = some t') :
    ∃ id s next, t.program = .step (.watched id s) next ∧ isCancelled id = true ∧ t' = ⟨next none, false, t.own⟩ := by
  unfold stop? at h
  split at h
  · rename_i id s next hp
    split at h
    · rename_i hc
      exact ⟨id, s, next, hp, hc, (Option.some.inj h).symm⟩
    · cases h
  · cases h

theorem result?_eq_some {t : Task α} {a : α} (h : t.result? = some a) : t.program = .done a := by
  unfold result? at h
  split at h
  · rename_i b hp
    rw [hp, Option.some.inj h]
  · cases h

end Task

/-! ## What a move does -/

/-- Everything a move can do, with the conditions under which it can. -/
inductive Wallet.Goes (w : Wallet α) : Move α → Happening → Wallet α → Prop
  | start (p : Program α) :
    Goes w (.start p) (.started w.tasks.length) { w with tasks := w.tasks ++ [{ program := p }] }
  | access {i : Nat} {t : Task α} {a : Access} {next : a.Answer → Program α} (ht : w.tasks[i]? = some t)
      (hp : t.program = .step (.access a) next) :
    Goes w (.advance i) (.accessed i a (w.host.access i t.own a).1)
      ({ w with host := (w.host.access i t.own a).2.1 }.setTask i
        { t with program := next (w.host.access i t.own a).1, own := (w.host.access i t.own a).2.2 })
  | call {i : Nat} {t : Task α} {c : Call} (ht : w.tasks[i]? = some t) (hs : t.suspension? = some (.call c))
      (hc : t.calling = false) :
    Goes w (.advance i) (.called i c) (w.setTask i { t with calling := true })
  | look {i : Nat} {t : Task α} {u : Wait} (ht : w.tasks[i]? = some t) (hs : t.suspension? = some (.wait u))
      (hl : (w.host.look i u).1 = none) :
    Goes w (.advance i) (.looked i u none) { w with host := (w.host.look i u).2 }
  | wait {i : Nat} {t t' : Task α} {u : Wait} {x : u.Answer} (ht : w.tasks[i]? = some t)
      (hl : (w.host.look i u).1 = some x) (hr : t.resume? (.wait u) x = some t') :
    Goes w (.advance i) (.looked i u (some x)) ({ w with host := (w.host.look i u).2 }.setTask i t')
  | answer {i : Nat} {t t' : Task α} {c : Call} {x : c.Answer} (ht : w.tasks[i]? = some t) (hc : t.calling = true)
      (hr : t.resume? (.call c) x = some t') :
    Goes w (.answer i c x) (.answered i c x) (w.setTask i t')
  | stop {i : Nat} {t t' : Task α} (ht : w.tasks[i]? = some t) (hs : t.stop? w.host.isCancelled = some t') :
    Goes w (.stop i) (.stopped i) ({ w with host := w.host.abandon i }.setTask i t')
  | outside (a : Access) :
    Goes w (.outside a) (.used a (w.host.access w.tasks.length {} a).1)
      { w with host := (w.host.access w.tasks.length {} a).2.1 }
  | pass (ms : Nat) : Goes w (.pass ms) (.passed ms) { w with host := { w.host with now := w.host.now + ms } }
  | setClock (t : Instant) : Goes w (.setClock t) (.clockSet t) { w with host := { w.host with wallClock := t } }
  | signer (m : SignerMove) :
    Goes w (.signer m) (.signed m) { w with host := { w.host with hub := w.host.hub.afterSigner m } }

namespace Wallet

theorem Goes.of_advance? {w w' : Wallet α} {i : Nat} {t : Task α} {h : Happening} (ht : w.tasks[i]? = some t)
    (hstep : w.advance? i t = some (h, w')) : w.Goes (.advance i) h w' := by
  unfold advance? at hstep
  split at hstep
  · cases hstep
  · rename_i a next hp
    cases hstep
    exact .access ht hp
  · split at hstep
    · rename_i c hs
      split at hstep
      · cases hstep
      · rename_i hc
        cases hstep
        exact .call ht hs (by simpa using hc)
    · rename_i u hs
      simp only at hstep
      split at hstep
      · rename_i hl
        cases hstep
        exact .look ht hs hl
      · rename_i x hl
        obtain ⟨t', hr, heq⟩ := Option.map_eq_some_iff.1 hstep
        cases heq
        exact .wait ht hl hr
    · cases hstep

theorem Goes.of_step? {w w' : Wallet α} {m : Move α} {h : Happening} (hstep : w.step? m = some (h, w')) :
    w.Goes m h w' := by
  cases m with
  | start p => cases hstep; exact .start p
  | advance i =>
    obtain ⟨t, ht, hstep⟩ := Option.bind_eq_some_iff.1 hstep
    exact .of_advance? ht hstep
  | answer i c x =>
    obtain ⟨t, ht, hstep⟩ := Option.bind_eq_some_iff.1 hstep
    split at hstep
    · rename_i hc
      obtain ⟨t', hr, heq⟩ := Option.map_eq_some_iff.1 hstep
      cases heq
      exact .answer ht hc hr
    · cases hstep
  | stop i =>
    obtain ⟨t, ht, hstep⟩ := Option.bind_eq_some_iff.1 hstep
    obtain ⟨t', hs, heq⟩ := Option.map_eq_some_iff.1 hstep
    cases heq
    exact .stop ht hs
  | outside a => cases hstep; exact .outside a
  | pass ms => cases hstep; exact .pass ms
  | setClock t => cases hstep; exact .setClock t
  | signer m => cases hstep; exact .signer m

/-- Whatever can be done is done by the move. -/
theorem Goes.step? {w w' : Wallet α} {m : Move α} {h : Happening} (g : w.Goes m h w') : w.step? m = some (h, w') := by
  cases g with
  | start p => rfl
  | @access i t a next ht hp =>
    obtain ⟨program, calling, own⟩ := t
    cases hp
    show (w.tasks[i]?).bind _ = _
    rw [ht]
    rfl
  | @call i t c ht hs hc =>
    obtain ⟨program, calling, own⟩ := t
    cases hc
    show (w.tasks[i]?).bind _ = _
    rw [ht]
    rcases Task.suspension?_eq_some hs with ⟨next, hp⟩ | ⟨id, next, hp⟩ <;> cases hp <;> rfl
  | @look i t u ht hs hl =>
    obtain ⟨program, calling, own⟩ := t
    show (w.tasks[i]?).bind _ = _
    rw [ht]
    rcases Task.suspension?_eq_some hs with ⟨next, hp⟩ | ⟨id, next, hp⟩ <;> cases hp <;>
    · simp only [Option.bind_some, advance?, Task.suspension?, hl]
  | @wait i t t' u x ht hl hr =>
    show (w.tasks[i]?).bind _ = _
    rw [ht]
    obtain ⟨program, calling, own⟩ := t
    rcases Task.resume?_suspend hr with ⟨next, hp, -⟩ | ⟨id, next, hp, -⟩ <;> cases hp <;>
    · simp only [Option.bind_some, advance?, Task.suspension?, hl, hr]
      rfl
  | @answer i t t' c x ht hc hr =>
    show (w.tasks[i]?).bind _ = _
    rw [ht]
    dsimp only [Option.bind_some]
    rw [if_pos hc, hr]
    rfl
  | @stop i t t' ht hs =>
    show (w.tasks[i]?).bind _ = _
    rw [ht]
    dsimp only [Option.bind_some]
    rw [hs]
    rfl
  | outside a => rfl
  | pass ms => rfl
  | setClock t => rfl
  | signer m => rfl

@[simp] theorem setTask_host (w : Wallet α) (i : Nat) (t : Task α) : (w.setTask i t).host = w.host := rfl

theorem setTask_self {w : Wallet α} {i : Nat} {t t' : Task α} (ht : w.tasks[i]? = some t) :
    (w.setTask i t').tasks[i]? = some t' := by
  obtain ⟨hi, -⟩ := List.getElem?_eq_some_iff.1 ht
  simp [setTask, hi]

theorem setTask_of_ne {w : Wallet α} {i j : Nat} (h : i ≠ j) (t : Task α) :
    (w.setTask i t).tasks[j]? = w.tasks[j]? := by
  simp [setTask, h]

/-- Of the step that one task makes the others notice nothing. -/
theorem setTask_notices {w w₁ : Wallet α} (hw : w₁.tasks = w.tasks) {i j : Nat} {t u u' : Task α} {e : Event}
    (ht : w.tasks[i]? = some t) (hu : w.tasks[j]? = some u) (hnotices : u.Notices e u') :
    ((e.happening j).event? i = none ∧ (w₁.setTask j u').tasks[i]? = some t) ∨
    ∃ e' t', (e.happening j).event? i = some e' ∧ t.Notices e' t' ∧ (w₁.setTask j u').tasks[i]? = some t' := by
  by_cases hj : j = i
  · subst hj
    cases ht.symm.trans hu
    exact .inr ⟨e, u', Event.event?_happening j e, hnotices, setTask_self (hw ▸ ht)⟩
  · refine .inl ⟨Event.event?_happening_of_ne hj e, ?_⟩
    rw [setTask_of_ne hj, hw, ht]

/-- **What a move does to one task**: nothing, or a step that the task could make on some host. -/
theorem Goes.task {w w' : Wallet α} {m : Move α} {h : Happening} (g : w.Goes m h w') {i : Nat} {t : Task α}
    (ht : w.tasks[i]? = some t) :
    (h.event? i = none ∧ w'.tasks[i]? = some t) ∨
    ∃ e t', h.event? i = some e ∧ t.Notices e t' ∧ w'.tasks[i]? = some t' := by
  cases g with
  | start p =>
    obtain ⟨hi, -⟩ := List.getElem?_eq_some_iff.1 ht
    exact .inl ⟨rfl, by rw [List.getElem?_append_left hi, ht]⟩
  | @access j u a next hu hp =>
    obtain ⟨program, calling, own⟩ := u
    cases hp
    rw [Host.access_hold]
    exact setTask_notices (e := .accessed a _) rfl ht hu (.access w.host j a next calling own)
  | @call j u c hu hs hc =>
    refine setTask_notices (e := .called c) rfl ht hu ?_
    obtain ⟨program, calling, own⟩ := u
    cases hc
    rcases Task.suspension?_eq_some hs with ⟨next, hp⟩ | ⟨id, next, hp⟩ <;> cases hp
    · exact .call c next own
    · exact .callWatched id c next own
  | look hu hs hl => exact .inl ⟨rfl, ht⟩
  | @wait j u u' v x hu hl hr =>
    refine setTask_notices (e := .waited v x) rfl ht hu ?_
    obtain ⟨program, calling, own⟩ := u
    rcases Task.resume?_suspend hr with ⟨next, hp, rfl⟩ | ⟨id, next, hp, rfl⟩ <;> cases hp
    · exact .wait v x next calling own
    · exact .waitWatched id v x next calling own
  | @answer j u u' c x hu hc hr =>
    refine setTask_notices (e := .answered c x) rfl ht hu ?_
    obtain ⟨program, calling, own⟩ := u
    cases hc
    rcases Task.resume?_suspend hr with ⟨next, hp, rfl⟩ | ⟨id, next, hp, rfl⟩ <;> cases hp
    · exact .answer c x next own
    · exact .answerWatched id c x next own
  | @stop j u u' hu hs =>
    refine setTask_notices (e := .stopped) rfl ht hu ?_
    obtain ⟨id, s, next, hp, -, rfl⟩ := Task.stop?_eq_some hs
    obtain ⟨program, calling, own⟩ := u
    cases hp
    exact .stop id s next calling own
  | outside a => exact .inl ⟨rfl, ht⟩
  | pass ms => exact .inl ⟨rfl, ht⟩
  | setClock t => exact .inl ⟨rfl, ht⟩
  | signer m => exact .inl ⟨rfl, ht⟩

/-- A task that is not there yet notices nothing, and comes only by being started. -/
theorem Goes.newTask {w w' : Wallet α} {m : Move α} {h : Happening} (g : w.Goes m h w') {i : Nat}
    (ht : w.tasks[i]? = none) :
    h.event? i = none ∧ ∀ t, w'.tasks[i]? = some t → ∃ p, m = .start p ∧ t = { program := p } := by
  have unchanged {j : Nat} {u : Task α} (hu : w.tasks[j]? = some u) : j ≠ i := by
    rintro rfl
    rw [ht] at hu
    cases hu
  have none_of_eq {v : Wallet α} (hv : v.tasks[i]? = w.tasks[i]?) :
      ∀ t, v.tasks[i]? = some t → ∃ p, m = .start p ∧ t = { program := p } := by
    intro t h
    rw [hv, ht] at h
    cases h
  cases g with
  | start p =>
    refine ⟨rfl, fun t h => ⟨p, rfl, ?_⟩⟩
    have hi := List.getElem?_eq_none_iff.1 ht
    rw [List.getElem?_append_right hi] at h
    obtain ⟨hlt, rfl⟩ := List.getElem?_eq_some_iff.1 h
    simp
  | access hu hp => exact ⟨if_neg (unchanged hu), none_of_eq (setTask_of_ne (unchanged hu) _)⟩
  | call hu hs hc => exact ⟨if_neg (unchanged hu), none_of_eq (setTask_of_ne (unchanged hu) _)⟩
  | look hu hs hl => exact ⟨rfl, none_of_eq rfl⟩
  | wait hu hl hr => exact ⟨if_neg (unchanged hu), none_of_eq (setTask_of_ne (unchanged hu) _)⟩
  | answer hu hc hr => exact ⟨if_neg (unchanged hu), none_of_eq (setTask_of_ne (unchanged hu) _)⟩
  | stop hu hs => exact ⟨if_neg (unchanged hu), none_of_eq (setTask_of_ne (unchanged hu) _)⟩
  | outside a => exact ⟨rfl, none_of_eq rfl⟩
  | pass ms => exact ⟨rfl, none_of_eq rfl⟩
  | setClock t => exact ⟨rfl, none_of_eq rfl⟩
  | signer m => exact ⟨rfl, none_of_eq rfl⟩

/-- Who notices something is there, and takes the step. -/
theorem Goes.noticed {w w' : Wallet α} {m : Move α} {h : Happening} (g : w.Goes m h w') {i : Nat} {e : Event}
    (he : h.event? i = some e) : ∃ t t', w.tasks[i]? = some t ∧ t.Notices e t' ∧ w'.tasks[i]? = some t' := by
  cases ht : w.tasks[i]? with
  | none =>
    rw [(g.newTask ht).1] at he
    cases he
  | some t =>
    rcases g.task ht with ⟨hnone, -⟩ | ⟨e', t', hsome, hnotices, ht'⟩
    · rw [hnone] at he
      cases he
    · rw [hsome] at he
      cases he
      exact ⟨t, t', rfl, hnotices, ht'⟩

theorem Goes.host_of_called {w w' : Wallet α} {m : Move α} {i : Nat} {c : Call}
    (g : w.Goes m (.called i c) w') : w'.host = w.host := by
  cases g with
  | call => rfl

theorem Goes.host_of_answered {w w' : Wallet α} {m : Move α} {i : Nat} {c : Call} {x : c.Answer}
    (g : w.Goes m (.answered i c x) w') : w'.host = w.host := by
  cases g with
  | answer => rfl

theorem Goes.eq_answer_of_answered {w w' : Wallet α} {m : Move α} {i : Nat} {c : Call} {x : c.Answer}
    (g : w.Goes m (.answered i c x) w') : m = .answer i c x := by
  cases g with
  | answer => rfl

/-- A move that uses the host is an access to it, and changes nothing else of it. -/
theorem Goes.exists_access {w w' : Wallet α} {m : Move α} {h : Happening} (g : w.Goes m h w') {a : Access} {x : a.Answer}
    (hu : h.use? = some ⟨a, x⟩) :
    ∃ task own, (w.host.access task own a).1 = x ∧ (w.host.access task own a).2.1 = w'.host := by
  cases g with
  | @access i t _ next ht hp =>
    cases hu
    exact ⟨i, t.own, rfl, rfl⟩
  | outside =>
    cases hu
    exact ⟨_, _, rfl, rfl⟩
  | _ => cases hu

/-- A task that looks whether a wait is over stands at it, and the host says what it finds. -/
theorem Goes.of_looked {w w' : Wallet α} {m : Move α} {i : Nat} {u : Wait} {x : Option u.Answer}
    (g : w.Goes m (.looked i u x) w') :
    (∃ t, w.tasks[i]? = some t ∧ t.suspension? = some (.wait u)) ∧ (w.host.look i u).1 = x ∧
      w'.host = (w.host.look i u).2 := by
  cases g with
  | look ht hs hl => exact ⟨⟨_, ht, hs⟩, hl, rfl⟩
  | wait ht hl hr => exact ⟨⟨_, ht, Task.suspension?_of_resume? hr⟩, hl, rfl⟩

/-- Tasks only come. -/
theorem Goes.count_le {w w' : Wallet α} {m : Move α} {h : Happening} (g : w.Goes m h w') :
    w.tasks.length ≤ w'.tasks.length := by
  cases g with
  | start p =>
    show w.tasks.length ≤ (w.tasks ++ [_]).length
    rw [List.length_append]
    exact Nat.le_add_right _ _
  | access | call | wait | answer | stop => exact Nat.le_of_eq (List.length_set ..).symm
  | look | outside | pass | setClock | signer => exact Nat.le_refl _

def result? (w : Wallet α) (task : Nat) : Option α := (w.tasks[task]?).bind Task.result?

end Wallet

/-! ## Runs -/

/-- One move of a run: the wallet before it, what it does, and the wallet after it. -/
structure Step (α : Type) where
  before : Wallet α
  move : Move α
  happening : Happening
  after : Wallet α

inductive Run : Wallet α → List (Step α) → Wallet α → Prop
  | nil (w : Wallet α) : Run w [] w
  | cons {w w' w'' : Wallet α} {m : Move α} {h : Happening} {steps : List (Step α)} (first : w.step? m = some (h, w'))
      (rest : Run w' steps w'') : Run w (⟨w, m, h, w'⟩ :: steps) w''

/-- The steps of a sequence of moves, where each is possible, and the wallet that they lead to. -/
def Wallet.trace? : Wallet α → List (Move α) → Option (List (Step α) × Wallet α)
  | w, [] => some ([], w)
  | w, m :: ms => (w.step? m).bind fun (h, w') => (w'.trace? ms).map fun (ss, w'') => (⟨w, m, h, w'⟩ :: ss, w'')

theorem Run.of_trace? : ∀ {ms : List (Move α)} {w w' : Wallet α} {ss : List (Step α)},
    w.trace? ms = some (ss, w') → Run w ss w'
  | [], w, _, _, h => by cases h; exact .nil w
  | m :: ms, w, _, _, h => by
    obtain ⟨⟨h₁, w₁⟩, hstep, h⟩ := Option.bind_eq_some_iff.1 h
    obtain ⟨⟨ss, w₂⟩, hrest, heq⟩ := Option.map_eq_some_iff.1 h
    cases heq
    exact .cons hstep (Run.of_trace? hrest)

theorem Wallet.moves_of_trace? : ∀ {ms : List (Move α)} {w w' : Wallet α} {ss : List (Step α)},
    w.trace? ms = some (ss, w') → ss.map (·.move) = ms
  | [], _, _, _, h => by cases h; rfl
  | m :: ms, w, _, _, h => by
    obtain ⟨⟨h₁, w₁⟩, hstep, h⟩ := Option.bind_eq_some_iff.1 h
    obtain ⟨⟨ss, w₂⟩, hrest, heq⟩ := Option.map_eq_some_iff.1 h
    cases heq
    rw [List.map_cons, Wallet.moves_of_trace? hrest]

/-- Moves that bring a task to its end are a run that does. -/
theorem Run.of_moves {w : Wallet α} {ms : List (Move α)} {i : Nat} {a : α}
    (h : (w.trace? ms).bind (·.2.result? i) = some a) :
    ∃ ss w', Run w ss w' ∧ ss.map (·.move) = ms ∧ w'.result? i = some a := by
  obtain ⟨⟨ss, w'⟩, htrace, hresult⟩ := Option.bind_eq_some_iff.1 h
  exact ⟨ss, w', .of_trace? htrace, Wallet.moves_of_trace? htrace, hresult⟩

/-- What is picked out of a list stands in it. -/
theorem exists_of_filterMap_eq {β γ : Type} {f : β → Option γ} {l : List β} {l₁ l₂ : List γ} {c : γ}
    (h : l.filterMap f = l₁ ++ c :: l₂) :
    ∃ before b after, l = before ++ b :: after ∧ before.filterMap f = l₁ ∧ f b = some c ∧ after.filterMap f = l₂ := by
  obtain ⟨before, rest, rfl, hbefore, hrest⟩ := List.filterMap_eq_append_iff.1 h
  obtain ⟨skipped, b, after, rfl, hskip, hb, hafter⟩ := List.filterMap_eq_cons_iff.1 hrest
  refine ⟨before ++ skipped, b, after, (List.append_assoc ..).symm, ?_, hb, hafter⟩
  rw [List.filterMap_append, hbefore, List.filterMap_eq_nil_iff.2 hskip, List.append_nil]

/-- What a task notices of the steps of a run. -/
def historyOf (task : Nat) (steps : List (Step α)) : History := steps.filterMap (·.happening.event? task)

theorem historyOf_append (task : Nat) (ss₁ ss₂ : List (Step α)) :
    historyOf task (ss₁ ++ ss₂) = historyOf task ss₁ ++ historyOf task ss₂ := List.filterMap_append

theorem historyOf_cons_none {task : Nat} {s : Step α} (h : s.happening.event? task = none) (ss : List (Step α)) :
    historyOf task (s :: ss) = historyOf task ss := List.filterMap_cons_none h

theorem historyOf_cons_some {task : Nat} {s : Step α} {e : Event} (h : s.happening.event? task = some e)
    (ss : List (Step α)) : historyOf task (s :: ss) = e :: historyOf task ss := List.filterMap_cons_some h

theorem filterMap_snoc {β γ : Type} (f : β → Option γ) (l : List β) (x : β) :
    (l ++ [x]).filterMap f = l.filterMap f ++ (f x).toList := by
  rw [List.filterMap_append]
  cases h : f x with
  | none => rw [List.filterMap_cons_none h]; rfl
  | some y => rw [List.filterMap_cons_some h]; rfl

theorem snoc_eq_append_cons {β : Type} {l l₁ l₂ : List β} {x y : β} (h : l ++ [x] = l₁ ++ y :: l₂) :
    l = l₁ ∧ x = y ∧ l₂ = [] ∨ ∃ l₃, l₂ = l₃ ++ [x] ∧ l = l₁ ++ y :: l₃ := by
  rcases List.eq_nil_or_concat l₂ with rfl | ⟨l₃, z, rfl⟩
  · obtain ⟨hl, hx⟩ := List.append_inj' h rfl
    exact .inl ⟨hl, (List.cons.inj hx).1, rfl⟩
  · rw [List.concat_eq_append, ← List.cons_append, ← List.append_assoc] at h
    obtain ⟨hl, hz⟩ := List.append_inj' h rfl
    cases hz
    exact .inr ⟨l₃, List.concat_eq_append, hl⟩

/-- The uses of the host in a run, in order. -/
def usesOf (ss : List (Step α)) : List Use := ss.filterMap (·.happening.use?)

theorem usesOf_snoc (ss : List (Step α)) (st : Step α) :
    usesOf (ss ++ [st]) = usesOf ss ++ st.happening.use?.toList := filterMap_snoc _ ss st

namespace Run

theorem append {w₁ w₂ w₃ : Wallet α} {ss₁ ss₂ : List (Step α)} (r₁ : Run w₁ ss₁ w₂) (r₂ : Run w₂ ss₂ w₃) :
    Run w₁ (ss₁ ++ ss₂) w₃ := by
  induction r₁ with
  | nil => exact r₂
  | cons first _ ih => exact .cons first (ih r₂)

/-- A run is cut at any of its steps. -/
theorem cut {w w' : Wallet α} {ss₁ ss₂ : List (Step α)} {s : Step α} (r : Run w (ss₁ ++ s :: ss₂) w') :
    Run w ss₁ s.before ∧ s.before.step? s.move = some (s.happening, s.after) ∧ Run s.after ss₂ w' := by
  induction ss₁ generalizing w with
  | nil =>
    cases r with
    | cons first rest => exact ⟨.nil w, first, rest⟩
  | cons s₁ ss₁ ih =>
    cases r with
    | cons first rest =>
      obtain ⟨before, now, after⟩ := ih rest
      exact ⟨.cons first before, now, after⟩

/-- Or between two of them. -/
theorem split {w w' : Wallet α} {ss₁ ss₂ : List (Step α)} (r : Run w (ss₁ ++ ss₂) w') :
    ∃ between, Run w ss₁ between ∧ Run between ss₂ w' := by
  cases ss₂ with
  | nil => exact ⟨w', List.append_nil ss₁ ▸ r, .nil w'⟩
  | cons s ss₂ =>
    obtain ⟨before, now, after⟩ := r.cut
    exact ⟨s.before, before, .cons now after⟩

theorem goes {w w' : Wallet α} {ss : List (Step α)} (run : Run w ss w') {st : Step α} (hst : st ∈ ss) :
    st.before.Goes st.move st.happening st.after := by
  obtain ⟨ss₁, ss₂, rfl⟩ := List.append_of_mem hst
  exact .of_step? run.cut.2.1

/-- A task that has noticed nothing is as it was. -/
theorem task_of_silent {w w' : Wallet α} {ss : List (Step α)} (r : Run w ss w') {i : Nat} {t : Task α}
    (ht : w.tasks[i]? = some t) (h : historyOf i ss = []) : w'.tasks[i]? = some t := by
  induction r with
  | nil => exact ht
  | cons first rest ih =>
    rcases (Wallet.Goes.of_step? first).task ht with ⟨hnone, ht'⟩ | ⟨e, t', hsome, -, -⟩
    · rw [historyOf_cons_none hnone] at h
      exact ih ht' h
    · rw [historyOf_cons_some hsome] at h
      cases h

/-- A task that is not there yet has noticed nothing. -/
theorem silent_of_none {w w' : Wallet α} {ss : List (Step α)} (r : Run w ss w') {i : Nat}
    (h : w'.tasks[i]? = none) : historyOf i ss = [] ∧ w.tasks[i]? = none := by
  induction r with
  | nil => exact ⟨rfl, h⟩
  | @cons w w₁ _ _ _ _ first rest ih =>
    obtain ⟨hrest, h₁⟩ := ih h
    have hgoes := Wallet.Goes.of_step? first
    have hw : w.tasks[i]? = none := by
      cases ht : w.tasks[i]? with
      | none => rfl
      | some t =>
        rcases hgoes.task ht with ⟨-, ht'⟩ | ⟨-, t', -, -, ht'⟩ <;>
        · rw [ht'] at h₁
          cases h₁
    exact ⟨by rw [historyOf_cons_none (hgoes.newTask hw).1, hrest], hw⟩

/-- A task from the moment it is started on. -/
theorem since_start {w w' : Wallet α} {ss₁ ss₂ : List (Step α)} {s : Step α} {p : Program α}
    (r : Run w (ss₁ ++ s :: ss₂) w') (h : s.move = .start p) :
    Run s.after ss₂ w' ∧ s.after.tasks[s.before.tasks.length]? = some { program := p } ∧
      historyOf s.before.tasks.length (ss₁ ++ s :: ss₂) = historyOf s.before.tasks.length ss₂ := by
  obtain ⟨before, now, after⟩ := r.cut
  have hnone : s.before.tasks[s.before.tasks.length]? = none := List.getElem?_eq_none (Nat.le_refl _)
  have hgoes := Wallet.Goes.of_step? now
  refine ⟨after, ?_, ?_⟩
  · rw [h] at hgoes
    generalize s.happening = happening, s.after = w₁ at hgoes
    cases hgoes with
    | start => exact List.getElem?_concat_length
  · rw [historyOf_append, (before.silent_of_none hnone).1, historyOf_cons_none (hgoes.newTask hnone).1, List.nil_append]

/-- What a task has come to is settled by the last thing it notices. -/
theorem result_of_last {w w' : Wallet α} {ss₁ ss₂ : List (Step α)} {s : Step α} {i : Nat} {e : Event}
    (r : Run w (ss₁ ++ s :: ss₂) w') (he : s.happening.event? i = some e) (h : historyOf i ss₂ = []) :
    s.after.result? i = w'.result? i := by
  obtain ⟨-, now, after⟩ := r.cut
  obtain ⟨-, t', -, -, ht'⟩ := (Wallet.Goes.of_step? now).noticed he
  unfold Wallet.result?
  rw [ht', after.task_of_silent ht' h]

theorem count_le {w w' : Wallet α} {ss : List (Step α)} (run : Run w ss w') {st : Step α} (hst : st ∈ ss) :
    w.tasks.length ≤ st.before.tasks.length := by
  induction run with
  | nil => cases hst
  | cons first rest ih =>
    cases hst with
    | head => exact Nat.le_refl _
    | tail _ hst => exact Nat.le_trans (Wallet.Goes.of_step? first).count_le (ih hst)

/-- Whatever is started later is another task. -/
theorem count_lt {w w₁ w' : Wallet α} {ss : List (Step α)} {h : Happening} {p : Program α}
    (first : w.step? (.start p) = some (h, w₁)) (rest : Run w₁ ss w') {st : Step α} (hst : st ∈ ss) :
    w.tasks.length < st.before.tasks.length := by
  cases first
  refine Nat.lt_of_lt_of_le ?_ (rest.count_le hst)
  show w.tasks.length < (w.tasks ++ [_]).length
  rw [List.length_append]
  exact Nat.lt_succ_self _

/-- Every task is started once. -/
theorem start_unique {w w' : Wallet α} {ss : List (Step α)} (run : Run w ss w') {st st' : Step α} (hst : st ∈ ss)
    (hst' : st' ∈ ss) {p p' : Program α} (hp : st.move = .start p) (hp' : st'.move = .start p')
    (h : st.before.tasks.length = st'.before.tasks.length) : p = p' := by
  induction run with
  | nil => cases hst
  | cons first rest ih =>
    cases hst with
    | head =>
      cases hp
      cases hst' with
      | head => exact Move.start.inj hp'
      | tail _ hst' => exact absurd h (Nat.ne_of_lt (count_lt first rest hst'))
    | tail _ hst =>
      cases hst' with
      | head =>
        cases hp'
        exact absurd h (Nat.ne_of_gt (count_lt first rest hst))
      | tail _ hst' => exact ih hst hst'

theorem snoc {w w' w'' : Wallet α} {ss : List (Step α)} {m : Move α} {h : Happening} (r : Run w ss w')
    (last : w'.step? m = some (h, w'')) : Run w (ss ++ [⟨w', m, h, w''⟩]) w'' := r.append (.cons last (.nil w''))

/-- **What holds at the start of a run and is kept by each of its steps** holds at its end.  What is kept may speak of
the steps done so far. -/
theorem along {I : List (Step α) → Wallet α → Prop} {w w' : Wallet α} {ss : List (Step α)} (run : Run w ss w')
    (hinit : I [] w)
    (hstep : ∀ done st rest, ss = done ++ st :: rest → Run w done st.before →
      st.before.Goes st.move st.happening st.after → I done st.before → I (done ++ [st]) st.after) : I ss w' := by
  suffices general : ∀ {w₁ : Wallet α} {todo : List (Step α)}, Run w₁ todo w' →
      ∀ done, ss = done ++ todo → Run w done w₁ → I done w₁ → I ss w' from
    general run [] rfl (.nil w) hinit
  clear run hinit
  intro w₁ todo hrun
  induction hrun with
  | nil w₁ =>
    intro done hss _ hinv
    rw [hss, List.append_nil]
    exact hinv
  | @cons w₁ w₂ w' m h todo first rest ih =>
    intro done hss before hinv
    have hthere := hstep done ⟨w₁, m, h, w₂⟩ todo hss before (.of_step? first) hinv
    exact ih _ (by rw [hss, List.append_cons]) (before.snoc first) hthere

/-- Every event of a task's history is noticed at a step of the run. -/
theorem step_of_event {task : Nat} {ss : List (Step α)} {h₁ h₂ : History} {e : Event}
    (h : historyOf task ss = h₁ ++ e :: h₂) :
    ∃ ss₁ s ss₂, ss = ss₁ ++ s :: ss₂ ∧ historyOf task ss₁ = h₁ ∧ s.happening.event? task = some e ∧
      historyOf task ss₂ = h₂ := exists_of_filterMap_eq h

/-- So is every event of what is picked out of the history. -/
theorem step_of_filter {task : Nat} {ss : List (Step α)} {f : Event → Bool} (h₁ : History) {h₂ : History} {e : Event}
    (h : (historyOf task ss).filter f = h₁ ++ e :: h₂) :
    ∃ ss₁ s ss₂, ss = ss₁ ++ s :: ss₂ ∧ (historyOf task ss₁).filter f = h₁ ∧ s.happening = e.happening task ∧
      (historyOf task ss₂).filter f = h₂ := by
  obtain ⟨l₁, rest, hhistory, hl₁, hrest⟩ := List.filter_eq_append_iff.1 h
  obtain ⟨skipped, l₂, rfl, hskip, -, hl₂⟩ := List.filter_eq_cons_iff.1 hrest
  rw [← List.append_assoc] at hhistory
  obtain ⟨ss₁, s, ss₂, rfl, hbefore, hs, hafter⟩ := step_of_event hhistory
  refine ⟨ss₁, s, ss₂, rfl, ?_, Happening.eq_of_event? hs, ?_⟩
  · rw [hbefore, List.filter_append, hl₁, List.filter_eq_nil_iff.2 hskip, List.append_nil]
  · rw [hafter, hl₂]

end Run
end PasskeyConsent

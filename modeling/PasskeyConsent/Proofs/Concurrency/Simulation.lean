import Mathlib.Data.List.Forall2
import PasskeyConsent.Proofs.Concurrency.Likeness
/-!
# Alike runs

Two wallets are alike if their hosts are the same up to seeds and their tasks run alike programs.  Every move of one is
matched by a move of the other that differs at most in secret outputs and in the message it names
(`Wallet.Alike.goes`); so a run goes through with other secret outputs as well, with alike messages (`Run.alike`), and
in one way only (`Run.eq_of_fits`).
-/
namespace PasskeyConsent

variable {α : Type}

/-! ## Alike hosts -/

namespace Host

variable {h h' : Host}

theorem deposit_alike (hh : h.blind = h'.blind) (task : Nat) (own : Holdings) (session : String)
    (seed seed' : SeedMaterial) :
    (h.access task own (.deposit session seed)).1 = (h'.access task own (.deposit session seed')).1 ∧
    (h.access task own (.deposit session seed)).2.1.blind =
      (h'.access task own (.deposit session seed')).2.1.blind := by
  have hl := h.blind_deposit task own session seed
  have hr := h'.blind_deposit task own session seed'
  rw [hh, hr] at hl
  exact ⟨(congrArg (·.1) hl).symm, (congrArg (·.2.1) hl).symm⟩

theorem access_alike (hh : h.blind = h'.blind) (task : Nat) (own : Holdings) (a : Access) :
    (h.access task own a).1 = (h'.access task own a).1 ∧
    (h.access task own a).2.1.blind = (h'.access task own a).2.1.blind := by
  by_cases ha : ∃ session seed, a = .deposit session seed
  · obtain ⟨session, seed, rfl⟩ := ha
    exact deposit_alike hh task own session seed seed
  · have hne (session : String) (seed : SeedMaterial) : a ≠ .deposit session seed := fun h => ha ⟨session, seed, h⟩
    have hl := h.blind_access task own hne
    have hr := h'.blind_access task own hne
    rw [hh, hr] at hl
    exact ⟨(congrArg (·.1) hl).symm, (congrArg (·.2.1) hl).symm⟩

theorem look_alike (hh : h.blind = h'.blind) (task : Nat) (u : Wait) :
    (h.look task u).1 = (h'.look task u).1 ∧ (h.look task u).2.blind = (h'.look task u).2.blind := by
  have hl := h.blind_look task u
  have hr := h'.blind_look task u
  rw [hh, hr] at hl
  exact ⟨(congrArg (·.1) hl).symm, (congrArg (·.2) hl).symm⟩

theorem abandon_alike (hh : h.blind = h'.blind) (task : Nat) : (h.abandon task).blind = (h'.abandon task).blind := by
  rw [← h.blind_abandon, ← h'.blind_abandon, hh]

theorem afterSigner_alike (hh : h.blind = h'.blind) (m : SignerMove) :
    Host.blind { h with hub := h.hub.afterSigner m } = Host.blind { h' with hub := h'.hub.afterSigner m } := by
  have hblind (h : Host) : Host.blind { h with hub := h.hub.afterSigner m } =
      { h.blind with hub := h.blind.hub.afterSigner m } := by
    rw [Host.blind_hub, h.hub.blind_afterSigner m]
    rfl
  rw [hblind, hblind, hh]

theorem isCancelled_alike (hh : h.blind = h'.blind) : h.isCancelled = h'.isCancelled := by
  show h.blind.isCancelled = h'.blind.isCancelled
  rw [hh]

end Host

/-! ## Alike wallets -/

/-- Two tasks with alike programs, which post messages that are alike in the sense of `M`. -/
structure Task.Alike (F : Likeness) (M : Json → Json → Prop) (t t' : Task α) : Prop where
  program : Program.Alike F M Eq t.program t'.program
  calling : t.calling = t'.calling
  own : t.own = t'.own

/-- The secret outputs that each task is given and the messages that it posts may be alike in a sense of their own. -/
structure Wallet.Alike (F : Nat → Likeness) (M : Nat → Json → Json → Prop) (w w' : Wallet α) : Prop where
  host : w.host.blind = w'.host.blind
  count : w.tasks.length = w'.tasks.length
  tasks : ∀ (i : Nat) (t t' : Task α), w.tasks[i]? = some t → w'.tasks[i]? = some t' → t.Alike (F i) (M i) t'

/-- The message that a task posts at a happening. -/
def Happening.message? (task : Nat) : Happening → Option Json
  | .called i (.post m) => if i = task then some m else none
  | _ => none

/-- The same tasks post alike messages. -/
def Happening.Alike (M : Nat → Json → Json → Prop) (h h' : Happening) : Prop :=
  ∀ i, Option.Rel (M i) (h.message? i) (h'.message? i)

def Move.isAnswer : Move α → Bool
  | .answer .. => true
  | _ => false

/-- Two moves that differ only in secret outputs, and in which message the sink answers. -/
inductive Move.Alike (F : Nat → Likeness) : Move α → Move α → Prop
  | answer (i : Nat) (c : Call) {x x' : c.Answer} (h : c.AnswersAlike (F i) x x') :
    Alike F (.answer i c x) (.answer i c x')
  | posted (i : Nat) (m m' : Json) (x : Except ChannelError Unit) :
    Alike F (.answer i (.post m) x) (.answer i (.post m') x)
  | other {m : Move α} (h : m.isAnswer = false) : Alike F m m

/-- Two moves that are the same up to which message the sink answers. -/
inductive Move.Fits : Move α → Move α → Prop
  | posted (i : Nat) (m m' : Json) (x : Except ChannelError Unit) :
    Fits (.answer i (.post m) x) (.answer i (.post m') x)
  | same (m : Move α) : Fits m m

section

variable {F : Nat → Likeness} {M : Nat → Json → Json → Prop}

namespace Wallet.Alike

variable {w w' w₁ : Wallet α} {i : Nat} {t t' : Task α}

theorem task (alike : w.Alike F M w') (ht : w.tasks[i]? = some t) :
    ∃ t', w'.tasks[i]? = some t' ∧ t.Alike (F i) (M i) t' := by
  obtain ⟨hi, -⟩ := List.getElem?_eq_some_iff.1 ht
  obtain ⟨t', ht'⟩ : ∃ t', w'.tasks[i]? = some t' := ⟨_, List.getElem?_eq_getElem (alike.count ▸ hi)⟩
  exact ⟨t', ht', alike.tasks i t t' ht ht'⟩

theorem setTask (alike : w.Alike F M w') {u u' : Task α} (ht : w.tasks[i]? = some t) (ht' : w'.tasks[i]? = some t')
    (hu : u.Alike (F i) (M i) u') {h h' : Host} (hh : h.blind = h'.blind) :
    Wallet.Alike F M ({ w with host := h }.setTask i u) ({ w' with host := h' }.setTask i u') := by
  have hself (w : Wallet α) (h : Host) {t u : Task α} (ht : w.tasks[i]? = some t) :
      ({ w with host := h }.setTask i u).tasks[i]? = some u := Wallet.setTask_self (w := { w with host := h }) ht
  refine ⟨hh, ?_, fun j v v' hv hv' => ?_⟩
  · show (w.tasks.set i u).length = (w'.tasks.set i u').length
    rw [List.length_set, List.length_set, alike.count]
  · by_cases hij : i = j
    · subst hij
      rw [hself w h ht] at hv
      rw [hself w' h' ht'] at hv'
      cases hv
      cases hv'
      exact hu
    · rw [Wallet.setTask_of_ne hij] at hv hv'
      exact alike.tasks j v v' hv hv'

theorem withHost (alike : w.Alike F M w') {h h' : Host} (hh : h.blind = h'.blind) :
    Wallet.Alike F M { w with host := h } { w' with host := h' } := ⟨hh, alike.count, alike.tasks⟩

theorem start (alike : w.Alike F M w') {p : Program α}
    (hp : Program.Alike (F w.tasks.length) (M w.tasks.length) Eq p p) :
    Wallet.Alike F M { w with tasks := w.tasks ++ [{ program := p }] }
      { w' with tasks := w'.tasks ++ [{ program := p }] } := by
  refine ⟨alike.host, ?_, fun j v v' hv hv' => ?_⟩
  · show (w.tasks ++ [_]).length = (w'.tasks ++ [_]).length
    rw [List.length_append, List.length_append, alike.count]
  · have hv : (w.tasks ++ [{ program := p }])[j]? = some v := hv
    have hv' : (w'.tasks ++ [{ program := p }])[j]? = some v' := hv'
    by_cases hj : j < w.tasks.length
    · rw [List.getElem?_append_left hj] at hv
      rw [List.getElem?_append_left (alike.count ▸ hj)] at hv'
      exact alike.tasks j v v' hv hv'
    · have hj := Nat.le_of_not_lt hj
      rw [List.getElem?_append_right hj] at hv
      rw [List.getElem?_append_right (alike.count ▸ hj), ← alike.count, hv] at hv'
      cases hv'
      obtain ⟨hlt, rfl⟩ := List.getElem?_eq_some_iff.1 hv
      have hlast : j = w.tasks.length := by
        rw [List.length_singleton] at hlt
        omega
      subst hlast
      refine ⟨?_, rfl, rfl⟩
      rw [List.getElem_singleton]
      exact hp

end Wallet.Alike

end

/-! ## Alike moves -/

namespace Task

variable {F : Likeness} {M : Json → Json → Prop}

/-- Alike tasks have come to the same suspension, which is not a post, or to posting alike messages. -/
theorem Alike.suspension {t t' : Task α} (alike : t.Alike F M t') {s : Suspension} (hs : t.suspension? = some s) :
    (s.posts = false ∧ t'.suspension? = some s) ∨
    ∃ m m', M m m' ∧ s = .call (.post m) ∧ t'.suspension? = some (.call (.post m')) := by
  obtain ⟨p, calling, own⟩ := t
  obtain ⟨p', calling', own'⟩ := t'
  have hp := alike.program
  rcases suspension?_eq_some hs with ⟨next, rfl⟩ | ⟨id, next, rfl⟩
  · cases hp with
    | step e he h => exact .inl ⟨he, rfl⟩
    | post hm h => exact .inr ⟨_, _, hm, rfl, rfl⟩
  · cases hp with
    | step e he h => exact .inl ⟨he, rfl⟩

theorem resume?_of_suspend {s : Suspension} (next : s.Answer → Program α) (calling : Bool) (own : Holdings)
    (x : s.Answer) : (Task.mk (.step (.suspend s) next) calling own).resume? s x = some ⟨next x, false, own⟩ :=
  dif_pos rfl

theorem resume?_of_watched {s : Suspension} (id : String) (next : Option s.Answer → Program α) (calling : Bool)
    (own : Holdings) (x : s.Answer) :
    (Task.mk (.step (.watched id s) next) calling own).resume? s x = some ⟨next (some x), false, own⟩ := dif_pos rfl

/-- Alike answers make alike tasks go on alike. -/
theorem Alike.resume {t t' u : Task α} (alike : t.Alike F M t') {s : Suspension} (hposts : s.posts = false)
    {x x' : s.Answer} (hx : s.AnswersAlike F x x') (hr : t.resume? s x = some u) :
    ∃ u', t'.resume? s x' = some u' ∧ u.Alike F M u' := by
  obtain ⟨p, calling, own⟩ := t
  obtain ⟨p', calling', own'⟩ := t'
  have hp := alike.program
  rcases resume?_suspend hr with ⟨next, rfl, rfl⟩ | ⟨id, next, rfl, rfl⟩
  · cases hp with
    | @step _ _ _ next' h => exact ⟨_, resume?_of_suspend next' calling' own' x', h x x' hx, rfl, alike.own⟩
    | post hm h => cases hposts
  · cases hp with
    | @step _ _ _ next' h => exact ⟨_, resume?_of_watched id next' calling' own' x', h _ _ (.some hx), rfl, alike.own⟩

/-- So does an answer of the sink, whichever of two alike messages it answers. -/
theorem Alike.resumePost {t t' u : Task α} (alike : t.Alike F M t') {m : Json} {x : Except ChannelError Unit}
    (hr : t.resume? (.call (.post m)) x = some u) :
    ∃ m' u', t'.resume? (.call (.post m')) x = some u' ∧ u.Alike F M u' := by
  obtain ⟨p, calling, own⟩ := t
  obtain ⟨p', calling', own'⟩ := t'
  have hp := alike.program
  rcases resume?_suspend hr with ⟨next, rfl, rfl⟩ | ⟨id, next, rfl, rfl⟩
  · cases hp with
    | step e he h => cases he
    | @post _ m' hm _ next' h =>
      exact ⟨m', _, resume?_of_suspend (s := .call (.post m')) next' calling' own' x, h x, rfl, alike.own⟩
  · cases hp with
    | step e he h => cases he

theorem Alike.stop {t t' u : Task α} (alike : t.Alike F M t') {isCancelled : String → Bool}
    (hs : t.stop? isCancelled = some u) : ∃ u', t'.stop? isCancelled = some u' ∧ u.Alike F M u' := by
  obtain ⟨p, calling, own⟩ := t
  obtain ⟨p', calling', own'⟩ := t'
  have hp := alike.program
  obtain ⟨id, s, next, rfl, hid, rfl⟩ := stop?_eq_some hs
  cases hp with
  | step e he h => exact ⟨_, if_pos hid, h _ _ .none, rfl, alike.own⟩

end Task

namespace Wallet.Alike

variable {F : Nat → Likeness} {M : Nat → Json → Json → Prop} {w w' w₁ : Wallet α} {m m' : Move α} {h : Happening}

theorem silent {h h' : Happening} (hh : ∀ i, h.message? i = none) (hh' : ∀ i, h'.message? i = none) :
    Happening.Alike M h h' := by
  intro i
  rw [hh, hh']
  exact .none

/-- An access is matched by the same access, or by the deposit of another seed. -/
theorem access (alike : w.Alike F M w') {i : Nat} {t : Task α} {a : Access} {next : a.Answer → Program α}
    (ht : w.tasks[i]? = some t) (hp : t.program = .step (.access a) next) :
    ∃ a' x' w₁', w'.Goes (.advance i) (.accessed i a' x') w₁' ∧
      Wallet.Alike F M ({ w with host := (w.host.access i t.own a).2.1 }.setTask i
        { t with program := next (w.host.access i t.own a).1, own := (w.host.access i t.own a).2.2 }) w₁' := by
  obtain ⟨t', ht', htask⟩ := alike.task ht
  obtain ⟨p, calling, own⟩ := t
  obtain ⟨p', calling', own'⟩ := t'
  cases hp
  have hown : own = own' := htask.own
  subst hown
  have hprogram := htask.program
  dsimp only at hprogram ⊢
  cases hprogram with
  | @step _ _ _ next' h =>
    obtain ⟨hx, hhost⟩ := Host.access_alike alike.host i own a
    have hnext : Task.Alike (F i) (M i) ⟨next (w.host.access i own a).1, calling, (w.host.access i own a).2.2⟩
        ⟨next' (w'.host.access i own a).1, calling', (w'.host.access i own a).2.2⟩ := by
      refine ⟨h _ _ hx, htask.calling, ?_⟩
      dsimp only
      rw [Host.access_hold, Host.access_hold, hx]
    exact ⟨a, _, _, .access ht' rfl, alike.setTask ht ht' hnext hhost⟩
  | @deposit session seed seed' next next' h =>
    obtain ⟨hx, hhost⟩ := Host.deposit_alike alike.host i own session seed seed'
    have hnext : Task.Alike (F i) (M i) ⟨next (w.host.access i own (.deposit session seed)).1, calling, own⟩
        ⟨next' (w'.host.access i own (.deposit session seed')).1, calling', own⟩ :=
      ⟨hx ▸ h _, htask.calling, rfl⟩
    exact ⟨.deposit session seed', _, _, .access ht' rfl, alike.setTask ht ht' hnext hhost⟩

/-- A call is matched by the same call, or by the post of an alike message. -/
theorem call (alike : w.Alike F M w') {i : Nat} {t : Task α} {c : Call} (ht : w.tasks[i]? = some t)
    (hs : t.suspension? = some (.call c)) (hc : t.calling = false) :
    ∃ c' w₁', w'.Goes (.advance i) (.called i c') w₁' ∧ Wallet.Alike F M (w.setTask i { t with calling := true }) w₁' ∧
      Happening.Alike M (.called i c) (.called i c') := by
  obtain ⟨t', ht', htask⟩ := alike.task ht
  have hc' : t'.calling = false := htask.calling ▸ hc
  have hcalling : Task.Alike (F i) (M i) { t with calling := true } { t' with calling := true } :=
    ⟨htask.program, rfl, htask.own⟩
  have hthere : Wallet.Alike F M (w.setTask i { t with calling := true }) (w'.setTask i { t' with calling := true }) :=
    alike.setTask ht ht' hcalling alike.host
  rcases htask.suspension hs with ⟨hposts, hs'⟩ | ⟨m, m', hm, heq, hs'⟩
  · have hsilent (j : Nat) : Happening.message? j (.called i c) = none := by
      cases c <;> first | rfl | cases hposts
    exact ⟨c, _, .call ht' hs' hc', hthere, silent hsilent hsilent⟩
  · cases heq
    refine ⟨.post m', _, .call ht' hs' hc', hthere, fun j => ?_⟩
    show Option.Rel (M j) (if i = j then some m else none) (if i = j then some m' else none)
    split
    · rename_i hij
      exact .some (hij ▸ hm)
    · exact .none

/-- An answer is matched by an alike answer, to the call that the task has made. -/
theorem answer (alike : w.Alike F M w') {i : Nat} {t u : Task α} {c : Call} {x : c.Answer}
    (hm : Move.Alike F (.answer i c x) m') (ht : w.tasks[i]? = some t) (hc : t.calling = true)
    (hr : t.resume? (.call c) x = some u) :
    ∃ m'' c' x' w₁', Move.Fits m' m'' ∧ w'.Goes m'' (.answered i c' x') w₁' ∧ Wallet.Alike F M (w.setTask i u) w₁' := by
  obtain ⟨t', ht', htask⟩ := alike.task ht
  have hc' : t'.calling = true := htask.calling ▸ hc
  have hposted {m : Json} {x : Except ChannelError Unit} (m₁ : Json) (hr : t.resume? (.call (.post m)) x = some u) :
      ∃ m'' c' x' w₁', Move.Fits (.answer i (.post m₁) x) m'' ∧ w'.Goes m'' (.answered i c' x') w₁' ∧
        Wallet.Alike F M (w.setTask i u) w₁' := by
    obtain ⟨m', u', hr', hu⟩ := htask.resumePost hr
    exact ⟨_, _, _, _, .posted i m₁ m' x, .answer ht' hc' hr', alike.setTask ht ht' hu alike.host⟩
  cases hm with
  | @answer _ _ _ x' hx =>
    by_cases hpost : ∃ m, c = .post m
    · obtain ⟨m, rfl⟩ := hpost
      cases hx
      exact hposted m hr
    · have hposts : Suspension.posts (.call c) = false := by
        cases c <;> first | rfl | exact absurd ⟨_, rfl⟩ hpost
      obtain ⟨u', hr', hu⟩ := htask.resume hposts hx hr
      exact ⟨_, c, x', _, .same _, .answer ht' hc' hr', alike.setTask ht ht' hu alike.host⟩
  | posted _ m m₁ x => exact hposted m₁ hr
  | other hm => cases hm

/-- **Every move is matched**, with alike messages. -/
theorem goes (alike : w.Alike F M w') (hm : Move.Alike F m m') (g : w.Goes m h w₁)
    (hstart : ∀ p, m = .start p → Program.Alike (F w.tasks.length) (M w.tasks.length) Eq p p) :
    ∃ m'' h' w₁', Move.Fits m' m'' ∧ w'.Goes m'' h' w₁' ∧ w₁.Alike F M w₁' ∧ Happening.Alike M h h' := by
  -- Of a move that is no answer there is only one that is alike.
  have hsame (hanswer : m.isAnswer = false) : m' = m := by
    cases hm with
    | answer | posted => cases hanswer
    | other => rfl
  cases g with
  | start p =>
    cases hsame rfl
    exact ⟨_, _, _, .same _, .start p, alike.start (hstart p rfl), silent (fun _ => rfl) fun _ => rfl⟩
  | @access i t a next ht hp =>
    cases hsame rfl
    obtain ⟨a', x', w₁', hgoes, hthere⟩ := alike.access ht hp
    exact ⟨_, _, w₁', .same _, hgoes, hthere, silent (fun _ => rfl) fun _ => rfl⟩
  | @call i t c ht hs hc =>
    cases hsame rfl
    obtain ⟨c', w₁', hgoes, hthere, hmessages⟩ := alike.call ht hs hc
    exact ⟨_, _, w₁', .same _, hgoes, hthere, hmessages⟩
  | @look i t u ht hs hl =>
    cases hsame rfl
    obtain ⟨t', ht', htask⟩ := alike.task ht
    obtain ⟨hx, hhost⟩ := Host.look_alike alike.host i u
    have hs' : t'.suspension? = some (.wait u) :=
      ((htask.suspension hs).resolve_right fun ⟨_, _, _, h, _⟩ => by cases h).2
    exact ⟨_, _, _, .same _, .look ht' hs' (hx ▸ hl), alike.withHost hhost, silent (fun _ => rfl) fun _ => rfl⟩
  | @wait i t u v x ht hl hr =>
    cases hsame rfl
    obtain ⟨t', ht', htask⟩ := alike.task ht
    obtain ⟨hx, hhost⟩ := Host.look_alike alike.host i v
    obtain ⟨u', hr', hu⟩ : ∃ u', t'.resume? (.wait v) x = some u' ∧ u.Alike (F i) (M i) u' :=
      htask.resume rfl rfl hr
    exact ⟨_, _, _, .same _, .wait ht' (hx ▸ hl) hr', alike.setTask ht ht' hu hhost,
      silent (fun _ => rfl) fun _ => rfl⟩
  | @answer i t u c x ht hc hr =>
    obtain ⟨m'', c', x', w₁', hfits, hgoes, hthere⟩ := alike.answer hm ht hc hr
    exact ⟨m'', _, w₁', hfits, hgoes, hthere, silent (fun _ => rfl) fun _ => rfl⟩
  | @stop i t u ht hs =>
    cases hsame rfl
    obtain ⟨t', ht', htask⟩ := alike.task ht
    obtain ⟨u', hs', hu⟩ := htask.stop hs
    rw [Host.isCancelled_alike alike.host] at hs'
    exact ⟨_, _, _, .same _, .stop ht' hs', alike.setTask ht ht' hu (Host.abandon_alike alike.host i),
      silent (fun _ => rfl) fun _ => rfl⟩
  | outside a =>
    cases hsame rfl
    have hhost := (Host.access_alike alike.host w.tasks.length {} a).2
    rw [alike.count] at hhost ⊢
    exact ⟨_, _, _, .same _, .outside a, alike.withHost hhost, silent (fun _ => rfl) fun _ => rfl⟩
  | pass ms =>
    cases hsame rfl
    have hhost : Host.blind { w.host with now := w.host.now + ms } =
        Host.blind { w'.host with now := w'.host.now + ms } :=
      congrArg (fun h : Host => { h with now := h.now + ms }) alike.host
    exact ⟨_, _, _, .same _, .pass ms, alike.withHost hhost, silent (fun _ => rfl) fun _ => rfl⟩
  | setClock t =>
    cases hsame rfl
    have hhost : Host.blind { w.host with wallClock := t } = Host.blind { w'.host with wallClock := t } :=
      congrArg (fun h : Host => { h with wallClock := t }) alike.host
    exact ⟨_, _, _, .same _, .setClock t, alike.withHost hhost, silent (fun _ => rfl) fun _ => rfl⟩
  | signer p =>
    cases hsame rfl
    exact ⟨_, _, _, .same _, .signer p, alike.withHost (Host.afterSigner_alike alike.host p),
      silent (fun _ => rfl) fun _ => rfl⟩

end Wallet.Alike

/-! ## Runs -/

section

variable {F : Nat → Likeness} {M : Nat → Json → Json → Prop}

/-- The moves of a run. -/
def movesOf (ss : List (Step α)) : List (Move α) := ss.map (·.move)

theorem forall_move {P : Move α → Prop} {ss : List (Step α)} {ms : List (Move α)} (hmoves : movesOf ss = ms)
    (h : ∀ m ∈ ms, P m) : ∀ st ∈ ss, P st.move := by
  subst hmoves
  exact fun st hst => h _ (List.mem_map_of_mem hst)

/-- The messages that a task posts in a run, in order. -/
def messagesOf (task : Nat) (ss : List (Step α)) : List Json := ss.filterMap (·.happening.message? task)

theorem Happening.eq_of_message? {task : Nat} {h : Happening} {m : Json} (hm : h.message? task = some m) :
    h = .called task (.post m) := by
  unfold message? at hm
  split at hm
  · split at hm
    · rename_i hi
      rw [hi, Option.some.inj hm]
    · cases hm
  · cases hm

theorem exists_posting {task : Nat} {ss : List (Step α)} {m : Json} (h : m ∈ messagesOf task ss) :
    ∃ ss₁ st ss₂, ss = ss₁ ++ st :: ss₂ ∧ st.happening = .called task (.post m) := by
  obtain ⟨st, hst, hm⟩ := List.mem_filterMap.1 h
  obtain ⟨ss₁, ss₂, rfl⟩ := List.append_of_mem hst
  exact ⟨ss₁, st, ss₂, rfl, Happening.eq_of_message? hm⟩

/-- What the moves of a run bring a program to post that is started first. -/
theorem exists_run_posting {h : Host} (p : Program α) (ms : List (Move α)) {m : Json}
    (htold : ((Wallet.mk h []).trace? (.start p :: ms)).map (fun r => messagesOf 0 r.1) = some [m]) :
    ∃ ss w' st ss₁ posting ss₂, Run ⟨h, []⟩ ss w' ∧ movesOf ss = .start p :: ms ∧ st ∈ ss ∧ st.move = .start p ∧
      st.before.tasks.length = 0 ∧ ss = ss₁ ++ posting :: ss₂ ∧ posting.happening = .called 0 (.post m) := by
  obtain ⟨⟨ss, w'⟩, htrace, hmessages⟩ := Option.map_eq_some_iff.1 htold
  have hmoves : movesOf ss = .start p :: ms := Wallet.moves_of_trace? htrace
  have run := Run.of_trace? htrace
  obtain ⟨ss₁, posting, ss₂, hss, hposting⟩ := exists_posting (hmessages ▸ List.mem_singleton_self m)
  cases run with
  | nil => cases hmoves
  | cons first rest =>
    exact ⟨_, w', _, ss₁, posting, ss₂, .cons first rest, hmoves, List.mem_cons_self, (List.cons.inj hmoves).1, rfl,
      hss, hposting⟩

theorem messagesOf_alike {ss ss' : List (Step α)}
    (h : List.Forall₂ (fun st st' => Happening.Alike M st.happening st'.happening) ss ss') (i : Nat) :
    List.Forall₂ (M i) (messagesOf i ss) (messagesOf i ss') := List.rel_filterMap (fun _ _ hst => hst i) h

namespace Run

variable {w w' w₁ w₁' w₂' : Wallet α} {ss ss' ss'' : List (Step α)} {ms : List (Move α)}

/-- **A run goes through with other secret outputs**, with alike messages. -/
theorem alike (run : Run w ss w₁) (hms : List.Forall₂ (Move.Alike F) (movesOf ss) ms)
    (hstart : ∀ st ∈ ss, ∀ p, st.move = .start p →
      Program.Alike (F st.before.tasks.length) (M st.before.tasks.length) Eq p p) (halike : w.Alike F M w') :
    ∃ ss' w₁', Run w' ss' w₁' ∧ List.Forall₂ Move.Fits ms (movesOf ss') ∧
      List.Forall₂ (fun st st' => Happening.Alike M st.happening st'.happening) ss ss' := by
  induction run generalizing w' ms with
  | nil =>
    cases hms with
    | nil => exact ⟨[], w', .nil w', .nil, .nil⟩
  | cons first rest ih =>
    cases hms with
    | cons hm hms =>
      obtain ⟨m'', h', w₂', hfits, hgoes, hthere, hhappening⟩ :=
        halike.goes hm (.of_step? first) (hstart _ List.mem_cons_self)
      obtain ⟨ss', w₁', run', hfits', hhappenings⟩ :=
        ih hms (fun st hst => hstart st (List.mem_cons_of_mem _ hst)) hthere
      exact ⟨⟨w', m'', h', w₂'⟩ :: ss', w₁', .cons hgoes.step? run', .cons hfits hfits', .cons hhappening hhappenings⟩

/-- Two possible moves that are the same up to which message the sink answers are the same. -/
theorem eq_of_step? {m m' : Move α} {h h' : Happening} (hfits : Move.Fits m m') (hm : w.step? m = some (h, w₁))
    (hm' : w.step? m' = some (h', w₁')) : m = m' := by
  cases hfits with
  | same => rfl
  | posted i m m' x =>
    cases Wallet.Goes.of_step? hm with
    | answer ht hc hr =>
      cases Wallet.Goes.of_step? hm' with
      | answer ht' hc' hr' =>
        rw [ht] at ht'
        cases ht'
        rcases Task.resume?_suspend hr with ⟨next, hp, -⟩ | ⟨id, next, hp, -⟩ <;>
          rcases Task.resume?_suspend hr' with ⟨next', hp', -⟩ | ⟨id', next', hp', -⟩ <;>
          · rw [hp] at hp'
            cases hp' <;> rfl

/-- A run is settled by its moves, up to which messages the sink answers. -/
theorem eq_of_fits (run : Run w ss w₁) (run' : Run w ss' w₁')
    (hfits : List.Forall₂ Move.Fits (movesOf ss) (movesOf ss')) : ss = ss' := by
  induction run generalizing ss' with
  | nil =>
    cases run' with
    | nil => rfl
    | cons => cases hfits
  | cons first rest ih =>
    cases run' with
    | nil => cases hfits
    | cons first' rest' =>
      cases hfits with
      | cons hm hms =>
        cases eq_of_step? hm first first'
        rw [first] at first'
        cases first'
        rw [ih rest' hms]

end Run

end
end PasskeyConsent

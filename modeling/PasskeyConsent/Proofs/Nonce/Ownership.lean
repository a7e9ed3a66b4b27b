import PasskeyConsent.Proofs.Nonce.Lag
/-!
# Who holds a number

A number is reserved without the name of its holder, so whoever releases it releases it for all.  Clients that release
only what they hold do each other no harm as long as no number is given out twice.  Two things let a number slip out of
the reserved ones behind its holder's back, so that it may be given out again: a reset, and an answer of the chain that
passes it, followed by one that falls back behind it (`Slips`).  There is no third way: a release that takes a number
from another client takes one that was given out again after it had slipped (`given_again_of_released_from_other`).
-/
namespace PasskeyConsent

variable {α : Type}

/-- A use of the host and whose it is: a task's, or that of someone outside. -/
structure Dealing where
  client : Option Nat
  use : Use

def Happening.dealing? : Happening → Option Dealing
  | .accessed i a x => some ⟨some i, a, x⟩
  | .used a x => some ⟨none, a, x⟩
  | _ => none

/-- The uses of the host in a run, in order, each with its client. -/
def dealings (ss : List (Step α)) : List Dealing := ss.filterMap (·.happening.dealing?)

theorem Happening.use?_eq (h : Happening) : h.use? = h.dealing?.map (·.use) := by cases h <;> rfl

/-- The client was given `n` and has not released it since. -/
def HeldBy (ds : List Dealing) (client : Option Nat) (n : Nat) : Prop :=
  ∃ ds₁ u ds₂, ds = ds₁ ++ ⟨client, u⟩ :: ds₂ ∧ u.Reserves n ∧ ∀ d ∈ ds₂, d.client = client → ¬ d.use.Releases n

/-- Every client releases only what it holds, so each number that it was given at most once. -/
def Disciplined (ds : List Dealing) : Prop :=
  ∀ ds₁ d ds₂, ds = ds₁ ++ d :: ds₂ → ∀ n, d.use.Releases n → HeldBy ds₁ d.client n

/-- In the course of these uses `n` may have slipped out of the reserved numbers: the sequencer was reset, or the chain
answered less than `n` after it had answered that `n` was used. -/
def Slips (us : List Use) (n : Nat) : Prop :=
  (∃ u ∈ us, u.Resets) ∨ ∃ a b, [b, a].Sublist (absorbed us) ∧ n ≤ b ∧ a < n

/-- The number was given out, slipped, and was given out again. -/
def GivenAgain (ds : List Dealing) (n : Nat) : Prop :=
  ∃ ds₁ d ds₂ e ds₃, ds = ds₁ ++ d :: ds₂ ++ e :: ds₃ ∧ d.use.Reserves n ∧ e.use.Reserves n ∧
    Slips (ds₂.map (·.use)) n

section

variable {ds : List Dealing} {d : Dealing} {client : Option Nat} {us : List Use} {u : Use} {n : Nat}

theorem HeldBy.of_snoc (h : HeldBy (ds ++ [d]) client n) :
    d.client = client ∧ d.use.Reserves n ∨ HeldBy ds client n ∧ (d.client = client → ¬ d.use.Releases n) := by
  obtain ⟨ds₁, u, ds₂, heq, hu, hkept⟩ := h
  rcases snoc_eq_append_cons heq with ⟨-, rfl, -⟩ | ⟨ds₃, rfl, hds⟩
  · exact .inl ⟨rfl, hu⟩
  · obtain ⟨hbefore, hlast⟩ := List.forall_mem_append.1 hkept
    exact .inr ⟨⟨ds₁, u, ds₃, hds, hu, hbefore⟩, hlast d (List.mem_singleton_self d)⟩

theorem disciplined_snoc :
    Disciplined (ds ++ [d]) ↔ Disciplined ds ∧ ∀ n, d.use.Releases n → HeldBy ds d.client n := by
  constructor
  · intro h
    refine ⟨fun ds₁ e ds₂ heq => h ds₁ e (ds₂ ++ [d]) ?_, h ds d [] rfl⟩
    rw [heq, List.append_assoc]
    rfl
  · rintro ⟨hbefore, hlast⟩ ds₁ e ds₂ heq
    rcases snoc_eq_append_cons heq with ⟨rfl, rfl, -⟩ | ⟨ds₃, -, hds⟩
    · exact hlast
    · exact hbefore ds₁ e ds₃ hds

theorem Disciplined.of_not_releases (h : ∀ d ∈ ds, ∀ n, ¬ d.use.Releases n) : Disciplined ds := by
  intro ds₁ d ds₂ heq n hn
  have hd : d ∈ ds := heq ▸ List.mem_append_right _ List.mem_cons_self
  exact absurd hn (h d hd n)

theorem Slips.snoc (h : Slips us n) (u : Use) : Slips (us ++ [u]) n := by
  rcases h with ⟨r, hr, hreset⟩ | ⟨a, b, hsub, hb, ha⟩
  · exact .inl ⟨r, List.mem_append_left _ hr, hreset⟩
  · refine .inr ⟨a, b, ?_, hb, ha⟩
    rw [absorbed_snoc]
    exact hsub.trans (List.sublist_append_left _ _)

theorem GivenAgain.snoc (h : GivenAgain ds n) (d : Dealing) : GivenAgain (ds ++ [d]) n := by
  obtain ⟨ds₁, e, ds₂, f, ds₃, rfl, he, hf, hslips⟩ := h
  exact ⟨ds₁, e, ds₂, f, ds₃ ++ [d], by simp, he, hf, hslips⟩

end

namespace Sequencer

variable {s s' : Sequencer} {ds : List Dealing} {d : Dealing} {us : List Use} {u : Use} {n : Nat}

/-- What has become of a number since it was given out: it is reserved, or has slipped, or it is passed for good, as a
broadcast or by an answer of the chain. -/
def Keeps (s : Sequencer) (us : List Use) (n : Nat) : Prop :=
  n ∈ s.reserved ∨ Slips us n ∨
    s.Passed n ∧ ((∃ floor, s.floor = some floor ∧ n ≤ floor) ∨ ∃ a ∈ absorbed us, n ≤ a)

theorem Takes.reserve_of_reserves (t : s.Takes u s') (hu : u.Reserves n) :
    ∃ count picked, s.reserve count = .ok (picked, s') ∧ n ∈ picked := by
  have hreset : ¬ u.Resets := by
    obtain ⟨a, x⟩ := u
    cases a <;> first | exact hu.elim | exact id
  cases t.serves hreset with
  | reserve h => exact ⟨_, _, h, hu⟩
  | other hreserves => exact absurd hu (hreserves n)
  | release | releaseText | releaseAll | mark | absorb => exact hu.elim

theorem Takes.mem_reserved (t : s.Takes u s') (hu : u.Reserves n) : n ∈ s'.reserved := by
  obtain ⟨count, picked, h, hn⟩ := t.reserve_of_reserves hu
  obtain ⟨-, -, -, -, -, rfl⟩ := reserve_eq_ok h
  exact mem_foldr_insertSorted.2 (.inl hn)

/-- What is given out although it is kept has slipped. -/
theorem Keeps.slips_of_reserves (h : s.Keeps us n) (t : s.Takes u s') (hu : u.Reserves n) : Slips us n := by
  obtain ⟨count, picked, hreserve, hn⟩ := t.reserve_of_reserves hu
  obtain ⟨start, -, -, -, hpicked, -⟩ := reserve_eq_ok hreserve
  rcases h with hmem | hslips | ⟨hpassed, -⟩
  · exact absurd hmem (hpicked n hn).2.2
  · exact hslips
  · exact absurd hn (hpassed.not_mem_picked hreserve)

theorem mem_release {m : Nat} (h : n ∈ s.reserved) (hne : m ≠ n) : n ∈ (s.release m).reserved :=
  List.mem_filter.2 ⟨h, bne_iff_ne.2 (Ne.symm hne)⟩

/-- A number that is reserved stays so unless it is released, or is passed for good. -/
theorem Serves.keeps_of_mem (h : s.Serves u s') (hu : ¬ u.Releases n) (hn : n ∈ s.reserved) (us : List Use) :
    s'.Keeps (us ++ [u]) n := by
  cases h with
  | reserve h =>
    obtain ⟨-, -, -, -, -, rfl⟩ := reserve_eq_ok h
    exact .inl (mem_foldr_insertSorted.2 (.inr hn))
  | release m => exact .inl (mem_release hn hu)
  | releaseText text =>
    unfold Sequencer.releaseText
    split
    · rename_i m hread
      have hne : m ≠ n := fun heq => hu (heq ▸ hread)
      exact .inl (mem_release hn hne)
    · exact .inl hn
  | releaseAll => exact absurd trivial hu
  | mark h =>
    obtain ⟨m, -, hlt, rfl⟩ := markBroadcast_eq_ok h
    by_cases hnm : m = n
    · have hfloor : n ≤ max (s.floor.getD m) m := hnm ▸ Nat.le_max_right _ _
      exact .inr (.inr ⟨Passed.mark hlt (.inr hnm.symm) _ _, .inl ⟨_, rfl, hfloor⟩⟩)
    · exact .inl (mem_release hn hnm)
  | absorb a x =>
    by_cases hle : n ≤ a
    · have ha : a ∈ absorbed (us ++ [⟨.absorb a, x⟩]) := by
        rw [absorbed_snoc]
        exact List.mem_append_right _ (List.mem_singleton_self a)
      exact .inr (.inr ⟨passed_absorb (.inl hle), .inr ⟨a, ha, hle⟩⟩)
    · exact .inl (List.mem_filter.2 ⟨hn, decide_eq_true (Nat.lt_of_not_le hle)⟩)
  | other => exact .inl hn

/-- A number up to the floor stays up to the floor, and passed. -/
theorem Serves.floor (h : s.Serves u s') {floor : Nat} (hfloor : s.floor = some floor) (hn : n ≤ floor) :
    ∃ floor', s'.floor = some floor' ∧ n ≤ floor' := by
  cases h with
  | reserve h =>
    obtain ⟨-, -, -, -, -, rfl⟩ := reserve_eq_ok h
    exact ⟨floor, hfloor, hn⟩
  | releaseText text =>
    unfold Sequencer.releaseText
    split
    · exact ⟨floor, hfloor, hn⟩
    · exact ⟨floor, hfloor, hn⟩
  | mark h =>
    obtain ⟨m, -, -, rfl⟩ := markBroadcast_eq_ok h
    refine ⟨_, rfl, ?_⟩
    rw [hfloor]
    exact Nat.le_trans hn (Nat.le_max_left _ _)
  | release | releaseAll | absorb | other => exact ⟨floor, hfloor, hn⟩

/-- A number that is passed for good stays so, unless an answer of the chain falls back behind it. -/
theorem Serves.keeps_of_passed (h : s.Serves u s') (hpassed : s.Passed n)
    (hwhy : (∃ floor, s.floor = some floor ∧ n ≤ floor) ∨ ∃ a ∈ absorbed us, n ≤ a) : s'.Keeps (us ++ [u]) n := by
  cases ha : u.absorbed? with
  | none =>
    refine .inr (.inr ⟨h.passed ha hpassed, ?_⟩)
    rcases hwhy with ⟨floor, hfloor, hn⟩ | ⟨b, hb, hn⟩
    · exact .inl (h.floor hfloor hn)
    · exact .inr ⟨b, Kept.mem_absorbed_snoc hb, hn⟩
  | some a =>
    obtain ⟨x, rfl⟩ := Use.eq_of_absorbed? ha
    have hlast : absorbed (us ++ [⟨.absorb a, x⟩]) = absorbed us ++ [a] := absorbed_snoc us _
    cases h with
    | absorb =>
      rcases hwhy with ⟨floor, hfloor, hn⟩ | ⟨b, hb, hn⟩
      · exact .inr (.inr ⟨passed_absorb (.inr ⟨floor, hfloor, hn⟩), .inl ⟨floor, hfloor, hn⟩⟩)
      · by_cases hle : n ≤ a
        · exact .inr (.inr ⟨passed_absorb (.inl hle),
            .inr ⟨a, hlast ▸ List.mem_append_right _ (List.mem_singleton_self a), hle⟩⟩)
        · -- The chain has answered `b`, which passes the number, and falls back behind it now.
          refine .inr (.inl (.inr ⟨a, b, ?_, hn, Nat.lt_of_not_le hle⟩))
          rw [hlast]
          exact (List.singleton_sublist.2 hb).append (List.Sublist.refl [a])
    | other _ hretires => exact absurd (Nat.le_refl a) (hretires a)

/-- **Who does not release a number leaves it kept.** -/
theorem Keeps.takes (h : s.Keeps us n) (t : s.Takes u s') (hu : ¬ u.Releases n) : s'.Keeps (us ++ [u]) n := by
  by_cases hreset : u.Resets
  · exact .inr (.inl (.inl ⟨u, List.mem_append_right _ (List.mem_singleton_self u), hreset⟩))
  · rcases h with hn | hslips | ⟨hpassed, hwhy⟩
    · exact (t.serves hreset).keeps_of_mem hu hn us
    · exact .inr (.inl (hslips.snoc u))
    · exact (t.serves hreset).keeps_of_passed hpassed hwhy

/-! ## One holder -/

/-- **A number that was not given out again** has one holder at most, and is kept for it. -/
structure Owned (ds : List Dealing) (s : Sequencer) (n : Nat) : Prop where
  unique : ∀ c c', HeldBy ds c n → HeldBy ds c' n → c = c'
  kept : ∀ ds₁ c u ds₂, ds = ds₁ ++ ⟨c, u⟩ :: ds₂ → u.Reserves n → (∀ d ∈ ds₂, d.client = c → ¬ d.use.Releases n) →
    s.Keeps (ds₂.map (·.use)) n

namespace Owned

theorem nil (s : Sequencer) (n : Nat) : Owned [] s n where
  unique c c' := by rintro ⟨ds₁, u, ds₂, h, -⟩; cases ds₁ <;> cases h
  kept ds₁ c u ds₂ h := by cases ds₁ <;> cases h

/-- Who is given a number that another client holds is given it again. -/
theorem givenAgain (owned : Owned ds s n) (t : s.Takes d.use s') (hd : d.use.Reserves n) {c : Option Nat}
    (hc : HeldBy ds c n) : GivenAgain (ds ++ [d]) n := by
  obtain ⟨ds₁, u, ds₂, rfl, hu, hkept⟩ := hc
  have hslips := (owned.kept ds₁ c u ds₂ rfl hu hkept).slips_of_reserves t hd
  exact ⟨ds₁, ⟨c, u⟩, ds₂, d, [], by simp, hu, hd, hslips⟩

theorem step (owned : Owned ds s n) (t : s.Takes d.use s') (hd : ∀ n, d.use.Releases n → HeldBy ds d.client n)
    (hagain : ¬ GivenAgain (ds ++ [d]) n) : Owned (ds ++ [d]) s' n := by
  constructor
  · intro c c' hc hc'
    rcases hc.of_snoc with ⟨rfl, hnow⟩ | ⟨hbefore, -⟩
    · rcases hc'.of_snoc with ⟨rfl, -⟩ | ⟨hbefore', -⟩
      · rfl
      · exact absurd (owned.givenAgain t hnow hbefore') hagain
    · rcases hc'.of_snoc with ⟨rfl, hnow'⟩ | ⟨hbefore', -⟩
      · exact absurd (owned.givenAgain t hnow' hbefore) hagain
      · exact owned.unique c c' hbefore hbefore'
  · intro ds₁ c u ds₂ heq hu hkept
    rcases snoc_eq_append_cons heq with ⟨-, rfl, rfl⟩ | ⟨ds₃, rfl, rfl⟩
    · exact .inl (t.mem_reserved hu)
    · obtain ⟨hbefore, hlast⟩ := List.forall_mem_append.1 hkept
      have hnot : ¬ d.use.Releases n := by
        intro hreleases
        have hmine : HeldBy (ds₁ ++ ⟨c, u⟩ :: ds₃) c n := ⟨ds₁, u, ds₃, rfl, hu, hbefore⟩
        have hsame : d.client = c := owned.unique _ _ (hd n hreleases) hmine
        exact hlast d (List.mem_singleton_self d) hsame hreleases
      rw [List.map_append]
      exact (owned.kept ds₁ c u ds₃ rfl hu hbefore).takes t hnot

end Owned
end Sequencer

/-! ## Along a run -/

variable {w w' : Wallet α} {ss ss₁ ss₂ : List (Step α)} {st : Step α}

theorem dealings_snoc (ss : List (Step α)) (st : Step α) :
    dealings (ss ++ [st]) = dealings ss ++ st.happening.dealing?.toList := filterMap_snoc _ ss st

theorem dealings_append_cons (ss₁ ss₂ : List (Step α)) {st : Step α} {d : Dealing}
    (hd : st.happening.dealing? = some d) : dealings (ss₁ ++ st :: ss₂) = dealings ss₁ ++ d :: dealings ss₂ := by
  unfold dealings
  rw [List.filterMap_append]
  exact congrArg (dealings ss₁ ++ ·) (List.filterMap_cons_some hd)

theorem Run.owned (run : Run w ss w') (disciplined : Disciplined (dealings ss)) {n : Nat}
    (hagain : ¬ GivenAgain (dealings ss) n) : Sequencer.Owned (dealings ss) w'.host.sequencer n := by
  refine run.along (I := fun done w => Disciplined (dealings done) → ¬ GivenAgain (dealings done) n →
    Sequencer.Owned (dealings done) w.host.sequencer n) (fun _ _ => .nil _ n) ?_ disciplined hagain
  intro done st rest _ _ hgoes ih hdone hnot
  rw [dealings_snoc] at hdone hnot ⊢
  cases hd : st.happening.dealing? with
  | none =>
    rw [hd] at hdone hnot
    have hsame := hgoes.sequencer_eq (by rw [Happening.use?_eq, hd]; rfl)
    simp only [Option.toList_none, List.append_nil] at hdone hnot ⊢
    rw [hsame]
    exact ih hdone hnot
  | some d =>
    rw [hd] at hdone hnot
    have htakes := hgoes.takes (u := d.use) (by rw [Happening.use?_eq, hd]; rfl)
    obtain ⟨hbefore, hlast⟩ := disciplined_snoc.1 hdone
    have howned := ih hbefore fun h => hnot (h.snoc d)
    exact howned.step htakes hlast hnot

/-- **A release takes a number from another client only where it was given out again** after it had slipped: while every
client releases only what it holds, whoever binds the sequencer, whatever the chain answers and whatever is marked. -/
theorem given_again_of_released_from_other (run : Run w ss w') (disciplined : Disciplined (dealings ss))
    (hss : ss = ss₁ ++ st :: ss₂) {d : Dealing} (hd : st.happening.dealing? = some d) {n : Nat}
    (hn : d.use.Releases n) {other : Option Nat} (hother : other ≠ d.client) (hheld : HeldBy (dealings ss₁) other n) :
    GivenAgain (dealings ss₁) n := by
  subst hss
  obtain ⟨before, -, -⟩ := run.cut
  have hdealings := dealings_append_cons ss₁ ss₂ hd
  have hmine : HeldBy (dealings ss₁) d.client n := disciplined _ d _ hdealings n hn
  have hbefore : Disciplined (dealings ss₁) := by
    intro ds₁ e ds₂ heq
    exact disciplined ds₁ e (ds₂ ++ d :: dealings ss₂) (by rw [hdealings, heq]; simp)
  by_cases hagain : GivenAgain (dealings ss₁) n
  · exact hagain
  · exact absurd ((before.owned hbefore hagain).unique _ _ hheld hmine) hother

/-! Two tasks borrow a number, one after the other, and the first gives it back while the second still has it. -/

theorem Use.not_releases_of_topic {u : Use} (h : u.access.topic ≠ .release) (n : Nat) : ¬ u.Releases n := by
  obtain ⟨a, x⟩ := u
  cases a <;> first | exact absurd rfl h | exact id

def borrow : Program (Except Error Unit) := do
  let _ ← (Turn.context true).run
  let r ← Program.access (.reserve 1)
  match r with
  | .ok picked => Confirmation.releaseAll picked
  | .error _ => pure ()
  return .ok ()

def rebind (k : AccessKey) : Program (Except Error Unit) := do
  Turn.bindTo k
  return .ok ()

/-- The moves up to the moment at which both have borrowed, with what another task does in between. -/
def borrowTwice (other : Program (Except Error Unit)) (meanwhile : List (Move (Except Error Unit))) (k : AccessKey) :
    List (Move (Except Error Unit)) :=
  [Move.start borrow, Move.start other, Move.start borrow] ++ fetching 0 ⟨"a", "k"⟩ 4 ++
  List.replicate 4 (Move.advance 0) ++ meanwhile ++ fetching 2 k 4 ++ List.replicate 4 (Move.advance 2)

/-- What a task that fetches the context of a turn has to do with the host. -/
def fetched (task : Nat) (k : AccessKey) (accessNonce : Nat) : List Dealing :=
  [⟨some task, .youngTurn, none⟩, ⟨some task, .boundKey, some k⟩, ⟨some task, .absorb accessNonce, accessNonce + 1⟩,
    ⟨some task, .keepTurn ⟨k.publicKey, accessNonce, accessNonce + 1, 7, "b"⟩, ()⟩, ⟨some task, .leaveTurn, ()⟩]

theorem borrowTwice_run {ms : List (Move (Except Error Unit))} {ss : List (Step (Except Error Unit))}
    {w w' : Wallet (Except Error Unit)} {ds₁ ds₂ : List Dealing}
    (htrace : (Wallet.mk boundHost []).trace? ms = some (ss, w))
    (hgive : w.step? (.advance 0) = some (.accessed 0 (.release 5) (), w'))
    (hdealings : dealings ss = ds₁ ++ ⟨some 0, .reserve 1, .ok [5]⟩ :: ds₂ ++ [⟨some 2, .reserve 1, .ok [5]⟩])
    (hnone : ∀ d ∈ dealings ss, d.use.access.topic ≠ .release) :
    ∃ st, Run ⟨boundHost, []⟩ (ss ++ [st]) w' ∧ ss.map (·.move) = ms ∧ st.before = w ∧ st.after = w' ∧
      st.happening.dealing? = some ⟨some 0, .release 5, ()⟩ ∧ Disciplined (dealings (ss ++ [st])) ∧
      HeldBy (dealings ss) (some 2) 5 := by
  have hreserves : (⟨.reserve 1, .ok [5]⟩ : Use).Reserves 5 := List.mem_singleton_self 5
  have hmine : HeldBy (dealings ss) (some 0) 5 := by
    refine ⟨ds₁, _, ds₂ ++ [⟨some 2, .reserve 1, .ok [5]⟩], by rw [hdealings]; simp, hreserves, fun d hd _ => ?_⟩
    apply Use.not_releases_of_topic
    apply hnone
    rw [hdealings, List.append_assoc]
    exact List.mem_append_right _ (List.mem_cons_of_mem _ hd)
  refine ⟨⟨w, .advance 0, _, w'⟩, (Run.of_trace? htrace).snoc hgive, Wallet.moves_of_trace? htrace, rfl, rfl, rfl, ?_, ?_⟩
  · rw [dealings_snoc]
    refine disciplined_snoc.2 ⟨.of_not_releases fun d hd => Use.not_releases_of_topic (hnone d hd), ?_⟩
    rintro n rfl
    exact hmine
  · exact ⟨_, _, [], hdealings, hreserves, fun d hd => absurd hd List.not_mem_nil⟩

/-- In between the chain answers 9, and then 4 again. -/
theorem given_again_of_released_from_other_lag :
    ∃ ss st, ∃ w' : Wallet (Except Error Unit), Run ⟨boundHost, []⟩ (ss ++ [st]) w' ∧
      ss.map (·.move) = borrowTwice lookUp (fetching 1 ⟨"a", "k"⟩ 9 ++ List.replicate 3 (Move.advance 1)) ⟨"a", "k"⟩ ∧
      Disciplined (dealings (ss ++ [st])) ∧ st.happening.dealing? = some ⟨some 0, .release 5, ()⟩ ∧
      HeldBy (dealings ss) (some 2) 5 ∧ GivenAgain (dealings ss) 5 := by
  obtain ⟨ss, w, w', htrace, hgive, hdealings⟩ : ∃ ss w w', (Wallet.mk boundHost []).trace?
        (borrowTwice lookUp (fetching 1 ⟨"a", "k"⟩ 9 ++ List.replicate 3 (Move.advance 1)) ⟨"a", "k"⟩) = some (ss, w) ∧
      w.step? (.advance 0) = some (.accessed 0 (.release 5) (), w') ∧
      dealings ss = fetched 0 ⟨"a", "k"⟩ 4 ++ ⟨some 0, .reserve 1, .ok [5]⟩ ::
        (fetched 1 ⟨"a", "k"⟩ 9 ++ fetched 2 ⟨"a", "k"⟩ 4) ++ [⟨some 2, .reserve 1, .ok [5]⟩] :=
    ⟨_, _, _, rfl, rfl, rfl⟩
  have hnone : ∀ d ∈ dealings ss, d.use.access.topic ≠ .release := by
    rw [hdealings]
    decide
  obtain ⟨st, run, hmoves, -, -, hrelease, disciplined, hheld⟩ := borrowTwice_run htrace hgive hdealings hnone
  exact ⟨ss, st, w', run, hmoves, disciplined, hrelease, hheld,
    given_again_of_released_from_other run disciplined rfl hrelease rfl (by decide) hheld⟩

/-- In between the sequencer is bound to another key: the number is taken from the one who has it. -/
theorem released_from_other :
    ∃ ss st, ∃ w' : Wallet (Except Error Unit), Run ⟨boundHost, []⟩ (ss ++ [st]) w' ∧
      ss.map (·.move) = borrowTwice (rebind ⟨"b", "l"⟩) (List.replicate 4 (Move.advance 1)) ⟨"b", "l"⟩ ∧
      Disciplined (dealings (ss ++ [st])) ∧ st.happening.dealing? = some ⟨some 0, .release 5, ()⟩ ∧
      HeldBy (dealings ss) (some 2) 5 ∧ 5 ∈ st.before.host.sequencer.reserved ∧
      5 ∉ st.after.host.sequencer.reserved := by
  obtain ⟨ss, w, w', htrace, hgive, hdealings, hbefore, hafter⟩ : ∃ ss w w', (Wallet.mk boundHost []).trace?
        (borrowTwice (rebind ⟨"b", "l"⟩) (List.replicate 4 (Move.advance 1)) ⟨"b", "l"⟩) = some (ss, w) ∧
      w.step? (.advance 0) = some (.accessed 0 (.release 5) (), w') ∧
      dealings ss = fetched 0 ⟨"a", "k"⟩ 4 ++ ⟨some 0, .reserve 1, .ok [5]⟩ ::
        ([⟨some 1, .bindKey ⟨"b", "l"⟩, true⟩, ⟨some 1, .dropTurn, ()⟩, ⟨some 1, .leaveTurn, ()⟩] ++
          fetched 2 ⟨"b", "l"⟩ 4) ++ [⟨some 2, .reserve 1, .ok [5]⟩] ∧
      w.host.sequencer.reserved = [5] ∧ w'.host.sequencer.reserved = [] := ⟨_, _, _, rfl, rfl, rfl, rfl, rfl⟩
  have hnone : ∀ d ∈ dealings ss, d.use.access.topic ≠ .release := by
    rw [hdealings]
    decide
  obtain ⟨st, run, hmoves, rfl, rfl, hrelease, disciplined, hheld⟩ := borrowTwice_run htrace hgive hdealings hnone
  refine ⟨ss, st, _, run, hmoves, disciplined, hrelease, hheld, ?_, ?_⟩
  · rw [hbefore]
    exact List.mem_singleton_self 5
  · rw [hafter]
    exact List.not_mem_nil

end PasskeyConsent

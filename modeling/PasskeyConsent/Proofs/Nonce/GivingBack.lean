import PasskeyConsent.Proofs.Nonce.Ownership
import PasskeyConsent.Proofs.Text.Numeral
/-!
# Giving back what was reserved

Clients that only borrow reserve numbers and release, one by one, numbers that they were given.  What they do changes
nothing of a sequencer but the reserved numbers, and of these it keeps all that were reserved before, in their order
(`Lent`).  Whatever is reserved besides is outstanding, so when all is given back the sequencer is what it was
(`reserved_iff_outstanding`).

The sequencer does not know who holds a number.  A client may release a number twice, and if another client has been
given it in between, the second release takes it from that one (`released_twice`).
-/
namespace PasskeyConsent

open Text (maxU64)

variable {α : Type}

/-! ## Borrowing -/

/-- The access gives out numbers or takes one back, or leaves the sequencer alone. -/
def Access.Lends : Access → Prop
  | .bindKey _ | .unbindKey | .absorb _ | .releaseAll | .markBroadcast _ => False
  | _ => True

/-- The client has been given `n`, whatever it has done with it since. -/
def GivenTo (ds : List Dealing) (client : Option Nat) (n : Nat) : Prop :=
  ∃ d ∈ ds, d.client = client ∧ d.use.Reserves n

/-- Clients only borrow, and release nothing but what they were given: each number as often as they like. -/
structure Borrowing (ds : List Dealing) : Prop where
  lends : ∀ d ∈ ds, d.use.access.Lends
  own : ∀ ds₁ d ds₂, ds = ds₁ ++ d :: ds₂ → ∀ n, d.use.Releases n → GivenTo ds₁ d.client n

/-- Nobody releases a number while another client holds it. -/
def Considerate (ds : List Dealing) : Prop :=
  ∀ ds₁ d ds₂, ds = ds₁ ++ d :: ds₂ → ∀ n, d.use.Releases n → ∀ other, HeldBy ds₁ other n → other = d.client

section

variable {ds : List Dealing} {d : Dealing} {client : Option Nat} {us : List Use} {u : Use} {n : Nat}

theorem borrowing_snoc : Borrowing (ds ++ [d]) ↔
    Borrowing ds ∧ d.use.access.Lends ∧ ∀ n, d.use.Releases n → GivenTo ds d.client n := by
  constructor
  · intro h
    obtain ⟨hbefore, hlast⟩ := List.forall_mem_append.1 h.lends
    refine ⟨⟨hbefore, fun ds₁ e ds₂ heq => h.own ds₁ e (ds₂ ++ [d]) ?_⟩, hlast d (List.mem_singleton_self d),
      h.own ds d [] rfl⟩
    rw [heq, List.append_assoc]
    rfl
  · rintro ⟨hbefore, hlends, hown⟩
    refine ⟨List.forall_mem_append.2 ⟨hbefore.lends, List.forall_mem_singleton.2 hlends⟩, fun ds₁ e ds₂ heq => ?_⟩
    rcases snoc_eq_append_cons heq with ⟨rfl, rfl, -⟩ | ⟨ds₃, -, hds⟩
    · exact hown
    · exact hbefore.own ds₁ e ds₃ hds

theorem outstanding_snoc : Outstanding (us ++ [u]) n ↔ u.Reserves n ∨ Outstanding us n ∧ ¬ u.Releases n := by
  refine ⟨Outstanding.of_snoc, ?_⟩
  rintro (hu | ⟨⟨us₁, v, us₂, rfl, hv, hkept⟩, hu⟩)
  · exact ⟨us, u, [], rfl, hu, fun _ hv => absurd hv List.not_mem_nil⟩
  · exact ⟨us₁, v, us₂ ++ [u], by simp, hv, List.forall_mem_append.2 ⟨hkept, List.forall_mem_singleton.2 hu⟩⟩

/-- What a client holds is outstanding, unless another one has released it. -/
theorem Considerate.outstanding (considerate : Considerate ds) (h : HeldBy ds client n) :
    Outstanding (ds.map (·.use)) n := by
  obtain ⟨ds₁, u, ds₂, rfl, hu, hkept⟩ := h
  refine ⟨ds₁.map (·.use), u, ds₂.map (·.use), by simp, hu, fun v hv hreleases => ?_⟩
  obtain ⟨d, hd, rfl⟩ := List.mem_map.1 hv
  obtain ⟨ds₃, ds₄, rfl⟩ := List.append_of_mem hd
  have hheld : HeldBy (ds₁ ++ ⟨client, u⟩ :: ds₃) client n :=
    ⟨ds₁, u, ds₃, rfl, hu, fun e he => hkept e (List.mem_append_left _ he)⟩
  have hmine : client = d.client := considerate (ds₁ ++ ⟨client, u⟩ :: ds₃) d ds₄ (by simp) n hreleases client hheld
  exact hkept d hd hmine.symm hreleases

/-- What is outstanding is held by the client that was given it last. -/
theorem exists_heldBy_of_outstanding (h : Outstanding (ds.map (·.use)) n) : ∃ client, HeldBy ds client n := by
  obtain ⟨us₁, u, us₂, heq, hu, hkept⟩ := h
  obtain ⟨ds₁, rest, rfl, -, hrest⟩ := List.map_eq_append_iff.1 heq
  obtain ⟨d, ds₂, rfl, rfl, rfl⟩ := List.map_eq_cons_iff.1 hrest
  exact ⟨d.client, ds₁, d.use, ds₂, rfl, hu, fun e he _ => hkept e.use (List.mem_map_of_mem he)⟩

end

/-! ## What lending changes -/

namespace Sequencer

/-- How a sequencer lends: it gives out numbers that are free, takes one back, or does nothing. -/
inductive LendsTo (s : Sequencer) (u : Use) : Sequencer → Prop
  | give {picked : List Nat} (hreserves : ∀ n, u.Reserves n ↔ n ∈ picked) (hreleases : ∀ n, ¬ u.Releases n)
    (hfree : ∀ n ∈ picked, n < maxU64 ∧ n ∉ s.reserved) :
    LendsTo s u { s with reserved := picked.foldr insertSorted s.reserved }
  | takeBack {n : Nat} (hreserves : ∀ m, ¬ u.Reserves m) (hreleases : ∀ m, u.Releases m ↔ m = n) :
    LendsTo s u (s.release n)
  | nothing (hreserves : ∀ n, ¬ u.Reserves n) (hreleases : ∀ n, ¬ u.Releases n) : LendsTo s u s

end Sequencer

theorem Host.access_lends (h : Host) (task : Nat) (own : Holdings) {a : Access} (ha : a.Lends) :
    h.sequencer.LendsTo ⟨a, (h.access task own a).1⟩ (h.access task own a).2.1.sequencer := by
  cases a with
  | bindKey | unbindKey | absorb | releaseAll | markBroadcast => exact ha.elim
  | reserve count =>
    simp only [Host.access]
    cases hreserve : h.sequencer.reserve count with
    | error e => exact .nothing (fun _ => id) fun _ => id
    | ok r =>
      obtain ⟨picked, s⟩ := r
      obtain ⟨start, -, -, -, hpicked, rfl⟩ := Sequencer.reserve_eq_ok hreserve
      exact .give (fun _ => Iff.rfl) (fun _ => id) fun n hn => (hpicked n hn).2
  | release n => exact .takeBack (fun _ => id) fun m => eq_comm
  | releaseText text =>
    show h.sequencer.LendsTo _ (h.sequencer.releaseText text)
    unfold Sequencer.releaseText
    cases hread : Text.readU64 text with
    | ok n =>
      refine .takeBack (fun _ => id) fun m => ?_
      show Text.readU64 text = .ok m ↔ m = n
      rw [hread, Except.ok.injEq, eq_comm]
    | error e =>
      refine .nothing (fun _ => id) fun m hm => ?_
      have hm : Text.readU64 text = .ok m := hm
      rw [hread] at hm
      cases hm
  | grant session account => simp only [Host.access]; split <;> exact .nothing (fun _ => id) fun _ => id
  | consume session account => simp only [Host.access]; split <;> exact .nothing (fun _ => id) fun _ => id
  | register name => simp only [Host.access]; split <;> exact .nothing (fun _ => id) fun _ => id
  | cancel name => simp only [Host.access, Host.cancel]; split <;> exact .nothing (fun _ => id) fun _ => id
  | _ => exact .nothing (fun _ => id) fun _ => id

namespace Sequencer

/-- What is inserted that was not picked out is left out again. -/
theorem filter_insertSorted {p : Nat → Bool} {n : Nat} (hn : p n = false) : ∀ l : List Nat,
    (insertSorted n l).filter p = l.filter p
  | [] => List.filter_cons_of_neg (by rw [hn]; exact Bool.false_ne_true)
  | m :: l => by
    unfold insertSorted
    split
    · exact List.filter_cons_of_neg (by rw [hn]; exact Bool.false_ne_true)
    · split
      · rfl
      · rw [List.filter_cons, List.filter_cons, filter_insertSorted hn l]

theorem filter_foldr_insertSorted {p : Nat → Bool} {l : List Nat} : ∀ {picked : List Nat},
    (∀ n ∈ picked, p n = false) → (picked.foldr insertSorted l).filter p = l.filter p
  | [], _ => rfl
  | n :: picked, h => by
    obtain ⟨hn, hpicked⟩ := List.forall_mem_cons.1 h
    rw [List.foldr_cons, filter_insertSorted hn, filter_foldr_insertSorted hpicked]

/-- What has become of a sequencer that lends: it has gained the numbers that are outstanding, and nothing else. -/
structure Lent (ds : List Dealing) (s s' : Sequencer) : Prop where
  same : s' = { s with reserved := s'.reserved }
  mem : ∀ n, n ∈ s'.reserved ↔ n ∈ s.reserved ∨ Outstanding (ds.map (·.use)) n
  /-- What was reserved before still is, in its order. -/
  kept : s'.reserved.filter s.reserved.contains = s.reserved
  given : ∀ d ∈ ds, ∀ n, d.use.Reserves n → n < maxU64 ∧ n ∉ s.reserved

namespace Lent

variable {ds : List Dealing} {d : Dealing} {s s₁ s₂ : Sequencer}

theorem nil (s : Sequencer) : Lent [] s s where
  same := rfl
  mem n := by
    refine ⟨.inl, fun h => h.resolve_right ?_⟩
    rintro ⟨us₁, u, us₂, heq, -⟩
    cases us₁ <;> cases heq
  kept := List.filter_eq_self.2 fun _ hn => List.contains_iff_mem.2 hn
  given d hd := absurd hd List.not_mem_nil

/-- **Every use that only lends keeps it**, as long as nobody releases what was never given. -/
theorem step (lent : Lent ds s s₁) (lends : s₁.LendsTo d.use s₂)
    (hown : ∀ n, d.use.Releases n → GivenTo ds d.client n) : Lent (ds ++ [d]) s s₂ := by
  have hsnoc (n : Nat) : Outstanding ((ds ++ [d]).map (·.use)) n ↔
      d.use.Reserves n ∨ Outstanding (ds.map (·.use)) n ∧ ¬ d.use.Releases n := by
    rw [List.map_append]
    exact outstanding_snoc
  cases lends with
  | @give picked hreserves hreleases hfree =>
    have hnew : ∀ n ∈ picked, n ∉ s.reserved := fun n hn hold => (hfree n hn).2 ((lent.mem n).2 (.inl hold))
    refine ⟨by rw [lent.same], fun n => ?_, ?_, List.forall_mem_append.2 ⟨lent.given, List.forall_mem_singleton.2 ?_⟩⟩
    · rw [hsnoc, hreserves, and_iff_left (hreleases n), Sequencer.mem_foldr_insertSorted, lent.mem n]
      exact or_left_comm
    · have hout : ∀ n ∈ picked, s.reserved.contains n = false := fun n hn =>
        Bool.eq_false_iff.2 fun hold => hnew n hn (List.contains_iff_mem.1 hold)
      rw [filter_foldr_insertSorted hout, lent.kept]
    · intro n hn
      have hn := (hreserves n).1 hn
      exact ⟨(hfree n hn).1, hnew n hn⟩
  | @takeBack n hreserves hreleases =>
    obtain ⟨e, he, -, hgiven⟩ := hown n ((hreleases n).2 rfl)
    obtain ⟨-, hnew⟩ := lent.given e he n hgiven
    refine ⟨by rw [lent.same]; rfl, fun m => ?_, ?_, List.forall_mem_append.2 ⟨lent.given, List.forall_mem_singleton.2 ?_⟩⟩
    · have hold : m ∈ s.reserved → m ≠ n := fun hm heq => hnew (heq ▸ hm)
      rw [hsnoc, or_iff_right (hreserves m), hreleases m]
      show m ∈ s₁.reserved.filter (· != n) ↔ _
      rw [List.mem_filter, lent.mem m, bne_iff_ne, or_and_right, and_iff_left_of_imp hold]
    · show (s₁.reserved.filter (· != n)).filter s.reserved.contains = s.reserved
      have hswap : (fun m => s.reserved.contains m && m != n) = fun m => m != n && s.reserved.contains m := by
        funext m
        exact Bool.and_comm _ _
      rw [List.filter_filter, hswap, ← List.filter_filter, lent.kept]
      exact List.filter_eq_self.2 fun m hm => bne_iff_ne.2 fun heq => hnew (heq ▸ hm)
    · exact fun m hm => absurd hm (hreserves m)
  | nothing hreserves hreleases =>
    refine ⟨lent.same, fun n => ?_, lent.kept, List.forall_mem_append.2 ⟨lent.given, List.forall_mem_singleton.2 ?_⟩⟩
    · rw [hsnoc, and_iff_left (hreleases n), lent.mem n, or_iff_right (hreserves n)]
    · exact fun n hn => absurd hn (hreserves n)

/-- **What has all been given back leaves nothing behind.** -/
theorem eq_of_none (lent : Lent ds s s₁) (hnone : ∀ n, ¬ Outstanding (ds.map (·.use)) n) : s₁ = s := by
  have hreserved : s₁.reserved = s.reserved := by
    rw [← lent.kept]
    refine (List.filter_eq_self.2 fun n hn => List.contains_iff_mem.2 ?_).symm
    exact ((lent.mem n).1 hn).resolve_right (hnone n)
  rw [lent.same, hreserved]

end Lent
end Sequencer

/-! ## Along a run -/

variable {w w' : Wallet α} {ss : List (Step α)}

theorem uses_dealings (ss : List (Step α)) : (dealings ss).map (·.use) = usesOf ss := by
  have huse : (fun st : Step α => st.happening.dealing?.map (·.use)) = fun st => st.happening.use? := by
    funext st
    exact st.happening.use?_eq.symm
  rw [dealings, List.map_filterMap, huse]
  rfl

theorem Wallet.Goes.lends {m : Move α} {h : Happening} (g : w.Goes m h w') {u : Use} (hu : h.use? = some u)
    (hlends : u.access.Lends) : w.host.sequencer.LendsTo u w'.host.sequencer := by
  obtain ⟨a, x⟩ := u
  obtain ⟨task, own, rfl, hhost⟩ := g.exists_access hu
  rw [← hhost]
  exact w.host.access_lends task own hlends

theorem Run.lent (run : Run w ss w') (borrowing : Borrowing (dealings ss)) :
    Sequencer.Lent (dealings ss) w.host.sequencer w'.host.sequencer := by
  refine run.along (I := fun done w₁ => Borrowing (dealings done) →
    Sequencer.Lent (dealings done) w.host.sequencer w₁.host.sequencer) (fun _ => .nil _) ?_ borrowing
  intro done st rest _ _ hgoes ih hdone
  rw [dealings_snoc] at hdone ⊢
  cases hd : st.happening.dealing? with
  | none =>
    rw [hd] at hdone
    have hsame := hgoes.sequencer_eq (by rw [Happening.use?_eq, hd]; rfl)
    simp only [Option.toList_none, List.append_nil] at hdone ⊢
    rw [hsame]
    exact ih hdone
  | some d =>
    rw [hd] at hdone
    obtain ⟨hbefore, hlends, hown⟩ := borrowing_snoc.1 hdone
    exact (ih hbefore).step (hgoes.lends (by rw [Happening.use?_eq, hd]; rfl) hlends) hown

/-- **Giving back undoes reserving.**  While clients only borrow, each any number of times and in any order among them,
the key, the next number and the floor stay, and what is reserved besides the numbers from before is what is
outstanding: given out and released by nobody since.  As long as nobody releases what another client holds, that is
what the clients hold; and when they hold nothing, the sequencer is what it was and gives out the same numbers.  Every
number that is given out is released by its decimal form. -/
theorem reserved_iff_outstanding (run : Run w ss w') (borrowing : Borrowing (dealings ss)) :
    w'.host.sequencer = { w.host.sequencer with reserved := w'.host.sequencer.reserved } ∧
    (∀ n, n ∈ w'.host.sequencer.reserved ↔ n ∈ w.host.sequencer.reserved ∨ Outstanding (usesOf ss) n) ∧
    (Considerate (dealings ss) → ∀ n, n ∈ w'.host.sequencer.reserved ↔
      n ∈ w.host.sequencer.reserved ∨ ∃ client, HeldBy (dealings ss) client n) ∧
    ((∀ client n, ¬ HeldBy (dealings ss) client n) → w'.host.sequencer = w.host.sequencer ∧
      ∀ count, w'.host.sequencer.reserve count = w.host.sequencer.reserve count) ∧
    ∀ u ∈ usesOf ss, ∀ n, u.Reserves n → ∀ m, (⟨.releaseText (toString n), ()⟩ : Use).Releases m ↔ m = n := by
  have lent := run.lent borrowing
  refine ⟨lent.same, uses_dealings ss ▸ lent.mem, fun considerate n => ?_, fun hnone => ?_, fun u hu n hn m => ?_⟩
  · rw [lent.mem n]
    refine or_congr_right ⟨exists_heldBy_of_outstanding, ?_⟩
    rintro ⟨client, hheld⟩
    exact considerate.outstanding hheld
  · have hsame : w'.host.sequencer = w.host.sequencer := by
      refine lent.eq_of_none fun n hn => ?_
      obtain ⟨client, hheld⟩ := exists_heldBy_of_outstanding hn
      exact hnone client n hheld
    exact ⟨hsame, fun count => by rw [hsame]⟩
  · rw [← uses_dealings] at hu
    obtain ⟨d, hd, rfl⟩ := List.mem_map.1 hu
    have hread : Text.readU64 (toString n) = .ok n := Text.readNumeral_toString (Nat.le_of_lt (lent.given d hd n hn).1)
    show Text.readU64 (toString n) = .ok m ↔ m = n
    rw [hread, Except.ok.injEq, eq_comm]

/-! Two clients borrow, and each gives back twice what it was given. -/

theorem Borrowing.nil : Borrowing [] where
  lends _ hd := absurd hd List.not_mem_nil
  own ds₁ d ds₂ heq := by cases ds₁ <;> cases heq

theorem Borrowing.append {ds es : List Dealing} (borrowing : Borrowing ds)
    (h : ∀ d ∈ es, d.use.access.Lends ∧ ∀ n, d.use.Releases n → GivenTo ds d.client n) : Borrowing (ds ++ es) := by
  refine ⟨List.forall_mem_append.2 ⟨borrowing.lends, fun d hd => (h d hd).1⟩, fun ds₁ d ds₂ heq n hn => ?_⟩
  rcases List.append_eq_append_iff.1 heq with ⟨before, rfl, hes⟩ | ⟨after, hds, hrest⟩
  · have hd : d ∈ es := hes ▸ List.mem_append_right _ List.mem_cons_self
    obtain ⟨e, he, hgiven⟩ := (h d hd).2 n hn
    exact ⟨e, List.mem_append_left _ he, hgiven⟩
  · cases after with
    | nil =>
      have hd : d ∈ es := (show d :: ds₂ = es from hrest) ▸ List.mem_cons_self
      rw [List.append_nil] at hds
      exact hds ▸ (h d hd).2 n hn
    | cons e after =>
      obtain ⟨rfl, -⟩ := List.cons_eq_cons.1 hrest
      exact borrowing.own ds₁ d after hds n hn

/-- What was given out before and is given back afterwards is held by nobody. -/
theorem not_heldBy_append {ds es : List Dealing}
    (hback : ∀ d ∈ ds, ∀ n, d.use.Reserves n → ∃ e ∈ es, e.client = d.client ∧ e.use.Releases n)
    (hes : ∀ e ∈ es, ∀ n, ¬ e.use.Reserves n) {client : Option Nat} {n : Nat} : ¬ HeldBy (ds ++ es) client n := by
  rintro ⟨ds₁, u, ds₂, heq, hu, hkept⟩
  rcases List.append_eq_append_iff.1 heq with ⟨before, -, rfl⟩ | ⟨after, rfl, hrest⟩
  · exact hes ⟨client, u⟩ (List.mem_append_right _ List.mem_cons_self) n hu
  · cases after with
    | nil =>
      have hd : ⟨client, u⟩ ∈ es := (show ⟨client, u⟩ :: ds₂ = es from hrest) ▸ List.mem_cons_self
      exact hes _ hd n hu
    | cons d after =>
      obtain ⟨rfl, rfl⟩ := List.cons_eq_cons.1 hrest
      obtain ⟨e, he, hclient, hreleases⟩ := hback ⟨client, u⟩ (List.mem_append_right _ List.mem_cons_self) n hu
      exact hkept e (List.mem_append_right _ he) hclient hreleases

def lendingHost : Host := { quietHost with sequencer := { key := some ⟨"a", "k"⟩, reserved := [6], next := some 5 } }

def borrowAndGiveBackTwice (count : Nat) : Program (Except Error Unit) := do
  match ← Program.access (.reserve count) with
  | .ok picked =>
    Confirmation.releaseAll picked
    Confirmation.releaseAll picked
  | .error _ => pure ()
  return .ok ()

def bothBorrow : List (Move (Except Error Unit)) :=
  [Move.start (borrowAndGiveBackTwice 2), Move.start (borrowAndGiveBackTwice 1), Move.advance 0, Move.advance 1,
    Move.advance 0, Move.advance 1, Move.advance 1] ++ List.replicate 3 (Move.advance 0)

theorem reserved_iff_outstanding_bothBorrow :
    ∃ ss, ∃ w' : Wallet (Except Error Unit), Run ⟨lendingHost, []⟩ ss w' ∧ ss.map (·.move) = bothBorrow ∧
      Borrowing (dealings ss) ∧ (∀ client n, ¬ HeldBy (dealings ss) client n) ∧
      w'.host.sequencer = lendingHost.sequencer := by
  obtain ⟨ss, w', htrace, hdealings⟩ : ∃ ss w', (Wallet.mk lendingHost []).trace? bothBorrow = some (ss, w') ∧
      dealings ss = [⟨some 0, .reserve 2, .ok [5, 7]⟩, ⟨some 1, .reserve 1, .ok [8]⟩] ++
        [⟨some 0, .release 5, ()⟩, ⟨some 1, .release 8, ()⟩, ⟨some 1, .release 8, ()⟩, ⟨some 0, .release 7, ()⟩,
          ⟨some 0, .release 5, ()⟩, ⟨some 0, .release 7, ()⟩] := ⟨_, _, rfl, rfl⟩
  have borrowing : Borrowing (dealings ss) := by
    rw [hdealings]
    refine (Borrowing.nil.append ?_).append ?_
    · simp [Access.Lends, Use.Releases]
    · simp [Access.Lends, Use.Releases, GivenTo, Use.Reserves]
  have hnone : ∀ client n, ¬ HeldBy (dealings ss) client n := by
    intro client n
    rw [hdealings]
    apply not_heldBy_append
    · simp [Use.Reserves, Use.Releases]
    · simp [Use.Reserves]
  have run : Run ⟨lendingHost, []⟩ ss w' := Run.of_trace? htrace
  exact ⟨ss, w', run, Wallet.moves_of_trace? htrace, borrowing, hnone,
    ((reserved_iff_outstanding run borrowing).2.2.2.1 hnone).1⟩

/-- Between the two times that the first client releases its number, the second is given it: it is taken from the one
who holds it. -/
theorem released_twice :
    ∃ ss, ∃ w' : Wallet (Except Error Unit), Run ⟨lendingHost, []⟩ ss w' ∧
      ss.map (·.move) = [Move.start (borrowAndGiveBackTwice 1), Move.start (borrowAndGiveBackTwice 1), Move.advance 0,
        Move.advance 0, Move.advance 1, Move.advance 0] ∧
      Borrowing (dealings ss) ∧ HeldBy (dealings ss) (some 1) 5 ∧ 5 ∉ w'.host.sequencer.reserved := by
  obtain ⟨ss, w', htrace, hdealings, hreserved⟩ : ∃ ss w', (Wallet.mk lendingHost []).trace?
        [Move.start (borrowAndGiveBackTwice 1), Move.start (borrowAndGiveBackTwice 1), Move.advance 0,
          Move.advance 0, Move.advance 1, Move.advance 0] = some (ss, w') ∧
      dealings ss = [⟨some 0, .reserve 1, .ok [5]⟩] ++ [⟨some 0, .release 5, ()⟩, ⟨some 1, .reserve 1, .ok [5]⟩,
        ⟨some 0, .release 5, ()⟩] ∧ w'.host.sequencer.reserved = [6] := ⟨_, _, rfl, rfl, rfl⟩
  have borrowing : Borrowing (dealings ss) := by
    rw [hdealings]
    refine (Borrowing.nil.append ?_).append ?_
    · simp [Access.Lends, Use.Releases]
    · simp [Access.Lends, Use.Releases, GivenTo, Use.Reserves]
  have hheld : HeldBy (dealings ss) (some 1) 5 := by
    rw [hdealings]
    exact ⟨[⟨some 0, .reserve 1, .ok [5]⟩, ⟨some 0, .release 5, ()⟩], _, [⟨some 0, .release 5, ()⟩], rfl,
      List.mem_singleton_self 5, by simp⟩
  exact ⟨ss, w', Run.of_trace? htrace, Wallet.moves_of_trace? htrace, borrowing, hheld, by rw [hreserved]; decide⟩

end PasskeyConsent

import PasskeyConsent.Proofs.Concurrency.Run
import PasskeyConsent.Proofs.Nonce.Sequencer
/-!
# Histories of a sequencer

A history is the list of the uses of a host in the order in which they happened, whoever made them.  A number that is
given out stays reserved until it is released, or until it is retired: marked as broadcast, or not above an access
nonce that was absorbed.  What keeps a retired number from coming back is the next number, which lies beyond it, and
what keeps the next number there when the chain answers again is the floor, or that the chain does not answer less
(`Kept.retired`).
-/
namespace PasskeyConsent

namespace Use

/-- The use reserves `n`. -/
def Reserves (n : Nat) : Use → Prop
  | ⟨.reserve _, .ok picked⟩ => n ∈ picked
  | _ => False

/-- The use releases `n`, alone or with all others. -/
def Releases (n : Nat) : Use → Prop
  | ⟨.release m, _⟩ => m = n
  | ⟨.releaseText text, _⟩ => Text.readU64 text = .ok n
  | ⟨.releaseAll, _⟩ => True
  | _ => False

/-- The use marks `n` as broadcast or takes in an answer of the chain that is not below it. -/
def Retires (n : Nat) : Use → Prop
  | ⟨.markBroadcast text, .ok ()⟩ => Text.readU64 text = .ok n
  | ⟨.absorb accessNonce, _⟩ => n ≤ accessNonce
  | _ => False

def absorbed? : Use → Option Nat
  | ⟨.absorb accessNonce, _⟩ => some accessNonce
  | _ => none

end Use

/-- The access nonces that were taken in. -/
def absorbed (us : List Use) : List Nat := us.filterMap Use.absorbed?

/-- The number was retired. -/
def Retired (us : List Use) (n : Nat) : Prop := ∃ u ∈ us, u.Retires n

/-- The number was reserved and has not been released since. -/
def Outstanding (us : List Use) (n : Nat) : Prop :=
  ∃ us₁ u us₂, us = us₁ ++ u :: us₂ ∧ u.Reserves n ∧ ∀ v ∈ us₂, ¬ v.Releases n

theorem absorbed_snoc (us : List Use) (u : Use) : absorbed (us ++ [u]) = absorbed us ++ u.absorbed?.toList :=
  filterMap_snoc _ us u

theorem retired_snoc {us : List Use} {u : Use} {n : Nat} : Retired (us ++ [u]) n ↔ Retired us n ∨ u.Retires n := by
  constructor
  · rintro ⟨v, hv, hn⟩
    rcases List.mem_append.1 hv with hv | hv
    · exact .inl ⟨v, hv, hn⟩
    · exact .inr (List.mem_singleton.1 hv ▸ hn)
  · rintro (⟨v, hv, hn⟩ | hn)
    · exact ⟨v, List.mem_append_left _ hv, hn⟩
    · exact ⟨u, List.mem_append_right _ (List.mem_singleton_self u), hn⟩

theorem Outstanding.of_snoc {us : List Use} {u : Use} {n : Nat} (h : Outstanding (us ++ [u]) n) :
    u.Reserves n ∨ Outstanding us n ∧ ¬ u.Releases n := by
  obtain ⟨us₁, v, us₂, heq, hv, hkept⟩ := h
  rcases snoc_eq_append_cons heq with ⟨-, rfl, -⟩ | ⟨us₃, rfl, hus⟩
  · exact .inl hv
  · obtain ⟨hbefore, hlast⟩ := List.forall_mem_append.1 hkept
    exact .inr ⟨⟨us₁, v, us₃, hus, hv, hbefore⟩, hlast u (List.mem_singleton_self u)⟩

namespace Sequencer

/-- How a sequencer serves a use, with the answers that it gives. -/
inductive Serves (s : Sequencer) : Use → Sequencer → Prop
  | reserve {count : Nat} {picked : List Nat} {s' : Sequencer} (h : s.reserve count = .ok (picked, s')) :
    Serves s ⟨.reserve count, .ok picked⟩ s'
  | release (n : Nat) : Serves s ⟨.release n, ()⟩ (s.release n)
  | releaseText (text : String) : Serves s ⟨.releaseText text, ()⟩ (s.releaseText text)
  | releaseAll : Serves s ⟨.releaseAll, ()⟩ s.releaseAll
  | mark {text : String} {s' : Sequencer} (h : s.markBroadcast text = .ok s') :
    Serves s ⟨.markBroadcast text, .ok ()⟩ s'
  | absorb (accessNonce x : Nat) : Serves s ⟨.absorb accessNonce, x⟩ (s.absorb accessNonce)
  | other {u : Use} (hreserves : ∀ n, ¬ u.Reserves n) (hretires : ∀ n, ¬ u.Retires n) : Serves s u s

/-- How it serves a history. -/
inductive Served : Sequencer → List Use → Sequencer → Prop
  | nil (s : Sequencer) : Served s [] s
  | cons {s s' s'' : Sequencer} {u : Use} {us : List Use} (first : s.Serves u s') (rest : Served s' us s'') :
    Served s (u :: us) s''

theorem Served.append {s s' s'' : Sequencer} {us vs : List Use} (h : Served s us s') (h' : Served s' vs s'') :
    Served s (us ++ vs) s'' := by
  induction h with
  | nil => exact h'
  | cons first _ ih => exact .cons first (ih h')

theorem Served.cut {s s' : Sequencer} {us₁ us₂ : List Use} {u : Use} (h : Served s (us₁ ++ u :: us₂) s') :
    ∃ s₁ s₂, Served s us₁ s₁ ∧ s₁.Serves u s₂ := by
  induction us₁ generalizing s with
  | nil =>
    cases h with
    | cons first rest => exact ⟨_, _, .nil s, first⟩
  | cons v us₁ ih =>
    cases h with
    | cons first rest =>
      obtain ⟨s₁, s₂, before, now⟩ := ih rest
      exact ⟨s₁, s₂, .cons first before, now⟩

end Sequencer

/-! ## The invariant -/

/-- **What a sequencer keeps of its history**: it has passed the numbers that are retired, for good, and all others that
are outstanding are reserved. -/
structure Kept (us : List Use) (s : Sequencer) : Prop where
  retired : ∀ n, Retired us n →
    s.Passed n ∧ ((∃ floor, s.floor = some floor ∧ n ≤ floor) ∨ ∃ a ∈ absorbed us, n ≤ a)
  outstanding : ∀ n, Outstanding us n → n ∈ s.reserved ∨ Retired us n

namespace Kept

variable {us : List Use} {u : Use} {s s' : Sequencer}

theorem nil (s : Sequencer) : Kept [] s where
  retired n := by rintro ⟨u, hu, -⟩; cases hu
  outstanding n := by rintro ⟨us₁, u, us₂, h, -⟩; cases us₁ <;> cases h

theorem mem_absorbed_snoc {a : Nat} (h : a ∈ absorbed us) : a ∈ absorbed (us ++ [u]) := by
  rw [absorbed_snoc]
  exact List.mem_append_left _ h

/-- What only changes the reserved numbers. -/
theorem of_reserved (kept : Kept us s) (hnext : s'.next = s.next) (hfloor : s'.floor = s.floor)
    (hretires : ∀ n, ¬ u.Retires n) (hreserves : ∀ n, u.Reserves n → n ∈ s'.reserved)
    (hreserved : ∀ n, ¬ u.Releases n → n ∈ s.reserved → n ∈ s'.reserved) : Kept (us ++ [u]) s' where
  retired n hn := by
    obtain ⟨hpassed, hwhy⟩ := kept.retired n ((retired_snoc.1 hn).resolve_right (hretires n))
    refine ⟨hpassed.of_next_eq hnext, ?_⟩
    rcases hwhy with ⟨floor, hf, hle⟩ | ⟨a, ha, hle⟩
    · exact .inl ⟨floor, hfloor.trans hf, hle⟩
    · exact .inr ⟨a, mem_absorbed_snoc ha, hle⟩
  outstanding n hn := by
    rcases hn.of_snoc with hn | ⟨hn, hnot⟩
    · exact .inl (hreserves n hn)
    · rcases kept.outstanding n hn with hmem | hmem
      · exact .inl (hreserved n hnot hmem)
      · exact .inr (retired_snoc.2 (.inl hmem))

/-- Marking retires the one number that it takes from the reserved ones, and raises the floor to it. -/
theorem mark (kept : Kept us s) {text : String} (h : s.markBroadcast text = .ok s') :
    Kept (us ++ [⟨.markBroadcast text, .ok ()⟩]) s' := by
  obtain ⟨m, hread, hlt, rfl⟩ := Sequencer.markBroadcast_eq_ok h
  have hfloor : m ≤ max (s.floor.getD m) m := Nat.le_max_right _ _
  refine ⟨fun n hn => ?_, fun n hn => ?_⟩
  · rcases retired_snoc.1 hn with hn | hn
    · obtain ⟨hpassed, hwhy⟩ := kept.retired n hn
      refine ⟨Sequencer.Passed.mark hlt (.inl hpassed) _ _, ?_⟩
      rcases hwhy with ⟨floor, hf, hle⟩ | ⟨a, ha, hle⟩
      · refine .inl ⟨_, rfl, ?_⟩
        rw [hf]
        exact Nat.le_trans hle (Nat.le_max_left _ _)
      · exact .inr ⟨a, mem_absorbed_snoc ha, hle⟩
    · have hnm : m = n := Except.ok.inj (hread.symm.trans hn)
      exact ⟨Sequencer.Passed.mark hlt (.inr hnm.symm) _ _, .inl ⟨_, rfl, hnm ▸ hfloor⟩⟩
  · rcases hn.of_snoc with hn | ⟨hn, -⟩
    · exact hn.elim
    · rcases kept.outstanding n hn with hmem | hmem
      · by_cases hnm : n = m
        · exact .inr (retired_snoc.2 (.inr (hnm ▸ hread)))
        · exact .inl (List.mem_filter.2 ⟨hmem, bne_iff_ne.2 hnm⟩)
      · exact .inr (retired_snoc.2 (.inl hmem))

/-- Absorbing an answer retires the numbers that it drops, and goes back behind none that is retired. -/
theorem absorb (kept : Kept us s) {accessNonce x : Nat} (hmono : ∀ a ∈ absorbed us, a ≤ accessNonce) :
    Kept (us ++ [⟨.absorb accessNonce, x⟩]) (s.absorb accessNonce) := by
  have hlast : accessNonce ∈ absorbed (us ++ [⟨.absorb accessNonce, x⟩]) := by
    rw [absorbed_snoc]
    exact List.mem_append_right _ (List.mem_singleton_self accessNonce)
  refine ⟨fun n hn => ?_, fun n hn => ?_⟩
  · rcases retired_snoc.1 hn with hn | hn
    · rcases (kept.retired n hn).2 with ⟨floor, hf, hle⟩ | ⟨a, ha, hle⟩
      · exact ⟨Sequencer.passed_absorb (.inr ⟨floor, hf, hle⟩), .inl ⟨floor, hf, hle⟩⟩
      · have hle' : n ≤ accessNonce := Nat.le_trans hle (hmono a ha)
        exact ⟨Sequencer.passed_absorb (.inl hle'), .inr ⟨accessNonce, hlast, hle'⟩⟩
    · exact ⟨Sequencer.passed_absorb (.inl hn), .inr ⟨accessNonce, hlast, hn⟩⟩
  · rcases hn.of_snoc with hn | ⟨hn, -⟩
    · exact hn.elim
    · rcases kept.outstanding n hn with hmem | hmem
      · by_cases hle : n ≤ accessNonce
        · exact .inr (retired_snoc.2 (.inr hle))
        · exact .inl (List.mem_filter.2 ⟨hmem, decide_eq_true (Nat.lt_of_not_le hle)⟩)
      · exact .inr (retired_snoc.2 (.inl hmem))

/-- **Every use keeps it**, as long as the chain's answers do not decrease. -/
theorem serve (kept : Kept us s) (h : s.Serves u s') (hmono : (absorbed (us ++ [u])).Pairwise (· ≤ ·)) :
    Kept (us ++ [u]) s' := by
  have hrelease (n m : Nat) (hne : n ≠ m) (hmem : m ∈ s.reserved) : m ∈ (s.release n).reserved :=
    List.mem_filter.2 ⟨hmem, bne_iff_ne.2 (Ne.symm hne)⟩
  cases h with
  | reserve h =>
    obtain ⟨-, -, -, -, -, rfl⟩ := Sequencer.reserve_eq_ok h
    exact kept.of_reserved rfl rfl (fun _ => id) (fun _ hn => Sequencer.mem_foldr_insertSorted.2 (.inl hn))
      fun _ _ hn => Sequencer.mem_foldr_insertSorted.2 (.inr hn)
  | release n => exact kept.of_reserved rfl rfl (fun _ => id) (fun _ => False.elim) (hrelease n)
  | releaseText text =>
    unfold Sequencer.releaseText
    split
    · rename_i n hread
      refine kept.of_reserved rfl rfl (fun _ => id) (fun _ => False.elim) fun m hm => hrelease n m ?_
      rintro rfl
      exact hm hread
    · exact kept.of_reserved rfl rfl (fun _ => id) (fun _ => False.elim) fun _ _ => id
  | releaseAll => exact kept.of_reserved rfl rfl (fun _ => id) (fun _ => False.elim) fun _ hn => absurd trivial hn
  | mark h => exact kept.mark h
  | absorb accessNonce x =>
    rw [absorbed_snoc] at hmono
    exact kept.absorb fun a ha => (List.pairwise_append.1 hmono).2.2 a ha accessNonce (List.mem_singleton_self _)
  | other hreserves hretires =>
    exact kept.of_reserved rfl rfl hretires (fun n hn => absurd hn (hreserves n)) fun _ _ => id

end Kept

namespace Sequencer

theorem Served.kept {s s' : Sequencer} {us : List Use} (h : Served s us s') (hmono : (absorbed us).Pairwise (· ≤ ·)) :
    Kept us s' := by
  suffices general : ∀ done, Kept done s → (absorbed (done ++ us)).Pairwise (· ≤ ·) → Kept (done ++ us) s' from
    general [] (.nil s) hmono
  clear hmono
  induction h with
  | nil => exact fun done kept _ => by rwa [List.append_nil]
  | @cons s s₁ s' u us first rest ih =>
    intro done kept hmono
    rw [List.append_cons] at hmono ⊢
    refine ih _ (kept.serve first (hmono.sublist ?_)) hmono
    exact (List.sublist_append_left _ _).filterMap _

/-- **A sequencer gives out no number twice** unless it was released in between, and none that is retired: its history
is arbitrary, except that the access nonces it takes in do not decrease. -/
theorem Served.fresh {s s' : Sequencer} {us us₁ us₂ : List Use} {u : Use} (h : Served s us s')
    (hmono : (absorbed us).Pairwise (· ≤ ·)) (huses : us = us₁ ++ u :: us₂) {n : Nat} (hn : u.Reserves n) :
    ¬ Retired us₁ n ∧ ¬ Outstanding us₁ n := by
  subst huses
  obtain ⟨s₁, s₂, before, now⟩ := h.cut
  have kept := before.kept (hmono.sublist ((List.sublist_append_left _ _).filterMap _))
  cases now with
  | reserve h =>
    have hretired : ¬ Retired us₁ n := fun hr => (kept.retired n hr).1.not_mem_picked h hn
    refine ⟨hretired, fun ho => ?_⟩
    obtain ⟨start, -, -, -, hpicked, -⟩ := reserve_eq_ok h
    exact (hpicked n hn).2.2 ((kept.outstanding n ho).resolve_right hretired)
  | other hreserves => exact absurd hn (hreserves n)
  | release | releaseText | releaseAll | mark | absorb => exact hn.elim

end Sequencer
end PasskeyConsent

import PasskeyConsent.Nonce.Sequencer
/-!
# What the sequencer does

One lemma for each operation.  A scan gives out numbers in increasing order, from its start on and below the greatest,
none of them reserved; the other operations only ever shrink the reserved numbers, and each says how far the next
number and the floor move.
-/
namespace PasskeyConsent.Sequencer

open Text (maxU64)

theorem mem_insertSorted {m n : Nat} : ∀ {l : List Nat}, m ∈ insertSorted n l ↔ m = n ∨ m ∈ l
  | [] => by rw [insertSorted, List.mem_singleton, List.mem_nil_iff, or_false]
  | k :: l => by
    unfold insertSorted
    split
    · exact List.mem_cons
    · split
      · rename_i h
        subst h
        exact ⟨.inr, fun h => h.elim (fun h => h ▸ List.mem_cons_self) id⟩
      · rw [List.mem_cons, mem_insertSorted, List.mem_cons]
        exact or_left_comm

theorem mem_foldr_insertSorted {m : Nat} {l : List Nat} : ∀ {picked : List Nat},
    m ∈ picked.foldr insertSorted l ↔ m ∈ picked ∨ m ∈ l
  | [] => by rw [List.foldr_nil, List.mem_nil_iff, false_or]
  | n :: picked => by
    rw [List.foldr_cons, mem_insertSorted, mem_foldr_insertSorted, List.mem_cons, or_assoc]

/-- **What a scan gives out.** -/
theorem scan_eq_some {reserved : List Nat} : ∀ {steps count start : Nat} {picked : List Nat},
    scan reserved steps count start = some picked →
      picked.length = count ∧ picked.Pairwise (· < ·) ∧ ∀ n ∈ picked, start ≤ n ∧ n < maxU64 ∧ n ∉ reserved
  | _, 0, _, picked, h => by
    have hp : picked = [] := by rw [scan] at h; exact (Option.some.inj h).symm
    subst hp
    exact ⟨rfl, .nil, fun _ hn => absurd hn List.not_mem_nil⟩
  | 0, _ + 1, _, _, h => by cases h
  | steps + 1, count + 1, start, picked, h => by
    rw [scan] at h
    split at h
    · rename_i hstart
      split at h
      · obtain ⟨hlength, hpairwise, hmem⟩ := scan_eq_some h
        refine ⟨hlength, hpairwise, fun n hn => ?_⟩
        obtain ⟨hle, hrest⟩ := hmem n hn
        exact ⟨Nat.le_of_succ_le hle, hrest⟩
      · rename_i hfree
        obtain ⟨rest, hrest, rfl⟩ := Option.map_eq_some_iff.1 h
        obtain ⟨hlength, hpairwise, hmem⟩ := scan_eq_some hrest
        refine ⟨by rw [List.length_cons, hlength], .cons (fun n hn => (hmem n hn).1) hpairwise, fun n hn => ?_⟩
        rcases List.mem_cons.1 hn with rfl | hn
        · exact ⟨Nat.le_refl n, hstart, fun h => hfree (List.contains_iff_mem.2 h)⟩
        · obtain ⟨hle, hrest⟩ := hmem n hn
          exact ⟨Nat.le_of_succ_le hle, hrest⟩
    · cases h

/-- A scan passes over no number that is free. -/
theorem exists_mem_scan_le {reserved : List Nat} {m : Nat} (hm : m ∉ reserved) : ∀ {steps count start : Nat}
    {picked : List Nat}, scan reserved steps count start = some picked → 0 < count → start ≤ m → ∃ n ∈ picked, n ≤ m
  | _, 0, _, _, _, hcount, _ => absurd hcount (Nat.lt_irrefl 0)
  | 0, _ + 1, _, _, h, _, _ => by cases h
  | steps + 1, count + 1, start, picked, h, hcount, hstart => by
    rw [scan] at h
    split at h
    · split at h
      · rename_i htaken
        have hne : start ≠ m := by
          rintro rfl
          exact hm (List.contains_iff_mem.1 htaken)
        exact exists_mem_scan_le hm h hcount (Nat.lt_of_le_of_ne hstart hne)
      · obtain ⟨rest, -, rfl⟩ := Option.map_eq_some_iff.1 h
        exact ⟨start, List.mem_cons_self, hstart⟩
    · cases h

/-- **What reserving does**: it gives out numbers in increasing order that were free, and keeps them as reserved. -/
theorem reserve_eq_ok {s s' : Sequencer} {count : Nat} {picked : List Nat} (h : s.reserve count = .ok (picked, s')) :
    ∃ start, s.next = some start ∧ picked.length = count ∧ picked.Pairwise (· < ·) ∧
      (∀ n ∈ picked, start ≤ n ∧ n < maxU64 ∧ n ∉ s.reserved) ∧
      s' = { s with reserved := picked.foldr insertSorted s.reserved } := by
  unfold reserve at h
  split at h
  · cases h
  · rename_i start hnext
    split at h
    · cases h
    · rename_i picked' hscan
      cases h
      obtain ⟨hlength, hpairwise, hmem⟩ := scan_eq_some hscan
      exact ⟨start, hnext, hlength, hpairwise, hmem, rfl⟩

/-- A number that is free and not before the next one is not passed over. -/
theorem reserve_le_of_free {s s' : Sequencer} {count start m : Nat} {picked : List Nat}
    (h : s.reserve count = .ok (picked, s')) (hcount : 0 < count) (hnext : s.next = some start) (hm : start ≤ m)
    (hfree : m ∉ s.reserved) : ∃ n ∈ picked, n ≤ m := by
  unfold reserve at h
  rw [hnext] at h
  dsimp only at h
  split at h
  · cases h
  · rename_i hscan
    cases h
    exact exists_mem_scan_le hfree hscan hcount hm

/-- For want of a context reserving fails just when there is no next number. -/
theorem reserve_notInitialized_iff {s : Sequencer} {count : Nat} :
    (s.reserve count).map Prod.fst = .error .notInitialized ↔ s.next = none := by
  unfold reserve
  split
  · rename_i hnext
    exact ⟨fun _ => hnext, fun _ => rfl⟩
  · rename_i start hnext
    rw [hnext]
    split
    · exact ⟨nofun, nofun⟩
    · exact ⟨nofun, nofun⟩

theorem reserve_nodup {s s' : Sequencer} {count : Nat} {picked : List Nat} (h : s.reserve count = .ok (picked, s')) :
    picked.Nodup := by
  obtain ⟨-, -, -, hpairwise, -⟩ := reserve_eq_ok h
  exact hpairwise.imp Nat.ne_of_lt

/-- **What marking does**: the number is reserved no more, the floor is at least that number, the next one above it. -/
theorem markBroadcast_eq_ok {s s' : Sequencer} {text : String} (h : s.markBroadcast text = .ok s') :
    ∃ n, Text.readU64 text = .ok n ∧ n < maxU64 ∧
      s' = { s.release n with
        floor := some (max (s.floor.getD n) n)
        next := s.next.map fun next => if next ≤ n then n + 1 else next } := by
  unfold markBroadcast at h
  split at h
  · cases h
  · rename_i n hread
    split at h
    · rename_i hlt
      cases h
      exact ⟨n, hread, hlt, rfl⟩
    · cases h

theorem le_successor {m n : Nat} (h : n ≤ m) : n < successor m ∨ successor m = maxU64 := by
  unfold successor
  by_cases hmax : m + 1 ≤ maxU64
  · rw [Nat.min_eq_left hmax]
    exact .inl (Nat.lt_succ_of_le h)
  · exact .inr (Nat.min_eq_right (Nat.le_of_not_le hmax))

theorem successor_le_iff {m n : Nat} (hm : m < maxU64) : successor n ≤ m ↔ n < m := by
  unfold successor
  omega

theorem nextAfter_le (s : Sequencer) (accessNonce : Nat) : s.nextAfter accessNonce ≤ maxU64 := by
  have hsuccessor (n : Nat) : successor n ≤ maxU64 := Nat.min_le_right _ _
  unfold nextAfter
  split
  · split
    · exact hsuccessor _
    · exact hsuccessor _
  · exact hsuccessor _

/-- The number after the chain's answer is beyond that answer. -/
theorem successor_le_nextAfter (s : Sequencer) (accessNonce : Nat) :
    successor accessNonce ≤ s.nextAfter accessNonce := by
  unfold nextAfter
  split
  · rename_i floor _
    split
    · rename_i hle
      have hmax : successor accessNonce ≤ maxU64 := Nat.min_le_right _ _
      exact Nat.le_min.2 ⟨Nat.le_succ_of_le hle, hmax⟩
    · exact Nat.le_refl _
  · exact Nat.le_refl _

/-- It is beyond the floor, too. -/
theorem successor_floor_le_nextAfter {s : Sequencer} {floor : Nat} (h : s.floor = some floor) (accessNonce : Nat) :
    successor floor ≤ s.nextAfter accessNonce := by
  unfold nextAfter
  rw [h]
  dsimp only
  split
  · exact Nat.le_refl _
  · rename_i hlt
    exact Nat.le_trans (Nat.min_le_left _ _) (Nat.succ_le_of_lt (Nat.lt_of_not_le hlt))

/-- And it is the least such number. -/
theorem nextAfter_le_iff {s : Sequencer} {accessNonce m : Nat} :
    s.nextAfter accessNonce ≤ m ↔ successor accessNonce ≤ m ∧ ∀ floor, s.floor = some floor → successor floor ≤ m := by
  refine ⟨fun h => ⟨Nat.le_trans (s.successor_le_nextAfter accessNonce) h, fun floor hfloor =>
    Nat.le_trans (successor_floor_le_nextAfter hfloor accessNonce) h⟩, fun ⟨hnonce, hfloor⟩ => ?_⟩
  unfold nextAfter
  split
  · rename_i floor heq
    split
    · exact hfloor floor heq
    · exact hnonce
  · exact hnonce

/-! ## Numbers that are passed -/

/-- The next number lies beyond `n`, or there is none left: `n` will not be given out. -/
def Passed (s : Sequencer) (n : Nat) : Prop := ∀ next, s.next = some next → n < next ∨ next = maxU64

theorem Passed.not_mem_picked {s s' : Sequencer} {count n : Nat} {picked : List Nat} (hn : s.Passed n)
    (h : s.reserve count = .ok (picked, s')) : n ∉ picked := by
  intro hmem
  obtain ⟨start, hnext, -, -, hpicked, -⟩ := reserve_eq_ok h
  obtain ⟨hle, hlt, -⟩ := hpicked n hmem
  rcases hn start hnext with hbeyond | hnone
  · exact Nat.not_lt_of_le hle hbeyond
  · exact Nat.not_lt_of_le hle (hnone ▸ hlt)

theorem Passed.of_next_eq {s s' : Sequencer} {n : Nat} (hn : s.Passed n) (h : s'.next = s.next) : s'.Passed n := by
  intro next hnext
  rw [h] at hnext
  exact hn next hnext

theorem Passed.of_le {s : Sequencer} {m n : Nat} (hm : s.Passed m) (h : n ≤ m) : s.Passed n :=
  fun next hnext => (hm next hnext).imp_left (Nat.lt_of_le_of_lt h)

/-- Marking passes the number and goes back behind none. -/
theorem Passed.mark {s : Sequencer} {m n : Nat} (hm : m < maxU64) (hn : s.Passed n ∨ n = m) (reserved : List Nat)
    (floor : Option Nat) :
    Passed { s with reserved, floor, next := s.next.map fun next => if next ≤ m then m + 1 else next } n := by
  intro next' hnext'
  obtain ⟨next, hnext, rfl⟩ := Option.map_eq_some_iff.1 hnext'
  by_cases hle : next ≤ m
  · rw [if_pos hle]
    rcases hn with hn | rfl
    · rcases hn next hnext with hbeyond | hnone
      · exact .inl (by omega)
      · exact absurd (hnone ▸ hle) (Nat.not_le_of_lt hm)
    · exact .inl (Nat.lt_succ_self n)
  · rw [if_neg hle]
    rcases hn with hn | rfl
    · exact hn next hnext
    · exact .inl (Nat.lt_of_not_le hle)

/-- The chain's answer passes all that it has used, and all up to the floor. -/
theorem passed_absorb {s : Sequencer} {accessNonce n : Nat}
    (hn : n ≤ accessNonce ∨ ∃ floor, s.floor = some floor ∧ n ≤ floor) : (s.absorb accessNonce).Passed n := by
  intro next hnext
  cases hnext
  have hmax := s.nextAfter_le accessNonce
  have beyond {m : Nat} (hle : n ≤ m) (hm : successor m ≤ s.nextAfter accessNonce) :
      n < s.nextAfter accessNonce ∨ s.nextAfter accessNonce = maxU64 := by
    rcases le_successor hle with hlt | hlast
    · exact .inl (Nat.lt_of_lt_of_le hlt hm)
    · exact .inr (Nat.le_antisymm hmax (hlast ▸ hm))
  rcases hn with hle | ⟨floor, hfloor, hle⟩
  · exact beyond hle (s.successor_le_nextAfter accessNonce)
  · exact beyond hle (successor_floor_le_nextAfter hfloor accessNonce)

end PasskeyConsent.Sequencer

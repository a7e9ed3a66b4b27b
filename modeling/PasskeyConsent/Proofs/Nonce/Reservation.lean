import PasskeyConsent.Concurrency.Host
import PasskeyConsent.Proofs.Nonce.Sequencer
import PasskeyConsent.Proofs.Text.Numeral
/-!
# What a reservation gives out

A reservation looks for free numbers from the next one on, one after another, and the number of its steps is limited.
The limit is never felt: a step that finds no free number passes a reserved one, and there are only so many of these
(`scan_eq`).  So a reservation gives out the first numbers that are free, as many as are wanted, and fails just when
there are fewer (`access_reserve_smallest`).
-/
namespace PasskeyConsent

open Text (maxU64)

namespace Sequencer

/-- The numbers that are not reserved, from `start` on and below the greatest, in increasing order. -/
def freeFrom (reserved : List Nat) (start : Nat) : List Nat :=
  (List.range' start (maxU64 - start)).filter fun n => !reserved.contains n

variable {reserved : List Nat} {start : Nat}

theorem freeFrom_of_le (h : maxU64 ≤ start) : freeFrom reserved start = [] := by
  rw [freeFrom, Nat.sub_eq_zero_of_le h]
  rfl

theorem freeFrom_of_lt (h : start < maxU64) :
    freeFrom reserved start =
      if reserved.contains start then freeFrom reserved (start + 1) else start :: freeFrom reserved (start + 1) := by
  obtain ⟨k, hk⟩ : ∃ k, maxU64 - start = k + 1 := ⟨maxU64 - start - 1, by omega⟩
  have hrest : maxU64 - (start + 1) = k := by omega
  rw [freeFrom, freeFrom, hk, hrest, List.range'_succ, List.filter_cons]
  cases reserved.contains start <;> rfl

/-- What a scan has still to pass. -/
theorem countP_le_eq (reserved : List Nat) (start : Nat) :
    reserved.countP (start ≤ ·) = reserved.countP (start + 1 ≤ ·) + reserved.count start := by
  induction reserved with
  | nil => rfl
  | cons n reserved ih =>
    simp only [List.countP_cons, List.count_cons, ih, decide_eq_true_eq, beq_iff_eq]
    split <;> split <;> split <;> omega

/-- **A scan finds the first free numbers** if its steps are enough to pass all reserved ones besides. -/
theorem scan_eq : ∀ {steps count start : Nat}, count + reserved.countP (start ≤ ·) ≤ steps →
    scan reserved steps count start =
      if count ≤ (freeFrom reserved start).length then some ((freeFrom reserved start).take count) else none
  | _, 0, _, _ => by rw [scan, if_pos (Nat.zero_le _), List.take_zero]
  | 0, count + 1, _, h => by omega
  | steps + 1, count + 1, start, h => by
    have hpass := countP_le_eq reserved start
    rw [scan]
    by_cases hlt : start < maxU64
    · rw [if_pos hlt, freeFrom_of_lt hlt]
      cases hreserved : reserved.contains start with
      | true =>
        have hpos : 0 < reserved.count start := List.count_pos_iff.2 (List.contains_iff_mem.1 hreserved)
        rw [if_pos rfl, if_pos rfl, scan_eq (by omega)]
      | false =>
        rw [if_neg Bool.false_ne_true, if_neg Bool.false_ne_true, scan_eq (by omega)]
        by_cases hcount : count ≤ (freeFrom reserved (start + 1)).length
        · simp [hcount]
        · simp [hcount]
    · rw [if_neg hlt, freeFrom_of_le (Nat.le_of_not_lt hlt)]
      rfl

theorem lt_of_mem_freeFrom {n : Nat} (h : n ∈ freeFrom reserved start) : n < maxU64 := by
  have hrange := List.mem_range'_1.1 (List.mem_filter.1 h).1
  omega

theorem pairwise_insertSorted {n : Nat} : ∀ {l : List Nat}, l.Pairwise (· < ·) → (insertSorted n l).Pairwise (· < ·)
  | [], _ => List.pairwise_singleton _ n
  | m :: l, h => by
    obtain ⟨hm, hl⟩ := List.pairwise_cons.1 h
    unfold insertSorted
    split
    · rename_i hlt
      exact .cons (List.forall_mem_cons.2 ⟨hlt, fun k hk => Nat.lt_trans hlt (hm k hk)⟩) h
    · split
      · exact h
      · rename_i hle hne
        refine .cons (fun k hk => ?_) (pairwise_insertSorted hl)
        rcases mem_insertSorted.1 hk with rfl | hk
        · omega
        · exact hm k hk

theorem pairwise_foldr_insertSorted {l : List Nat} (h : l.Pairwise (· < ·)) : ∀ picked : List Nat,
    (picked.foldr insertSorted l).Pairwise (· < ·)
  | [] => h
  | _ :: picked => pairwise_insertSorted (pairwise_foldr_insertSorted h picked)

variable {s : Sequencer}

/-- **A reservation takes the first free numbers**, or fails for want of them. -/
theorem reserve_eq (hnext : s.next = some start) (count : Nat) :
    s.reserve count =
      if (freeFrom s.reserved start).length < count then .error exhausted
      else
        let picked := (freeFrom s.reserved start).take count
        .ok (picked, { s with reserved := picked.foldr insertSorted s.reserved }) := by
  have hsteps : count + s.reserved.countP (start ≤ ·) ≤ count + s.reserved.length :=
    Nat.add_le_add_left List.countP_le_length count
  have hscan := scan_eq hsteps
  unfold reserve
  rw [hnext]
  dsimp only
  by_cases hfew : (freeFrom s.reserved start).length < count
  · rw [if_neg (Nat.not_le_of_lt hfew)] at hscan
    rw [hscan, if_pos hfew]
  · rw [if_pos (Nat.le_of_not_lt hfew)] at hscan
    rw [hscan, if_neg hfew]

end Sequencer

open Sequencer

/-- **What a reservation gives out**: the first numbers that are free from the next one on, as many as are wanted, and
nothing else changes than that they are reserved and held.  Where there is no next number, or fewer are free below the
greatest of all, it fails and changes nothing.  The decimal forms are read as the numbers. -/
theorem Host.access_reserve_smallest (h : Host) (task : Nat) (own : Holdings) (count : Nat) :
    match h.sequencer.next with
    | none => h.access task own (.reserve count) = (.error .notInitialized, h, own)
    | some start =>
      if (freeFrom h.sequencer.reserved start).length < count then
        h.access task own (.reserve count) = (.error exhausted, h, own)
      else ∃ picked reserved, picked = (freeFrom h.sequencer.reserved start).take count ∧
        h.access task own (.reserve count) =
          (.ok picked, { h with sequencer := { h.sequencer with reserved } }, { own with nonces := own.nonces ++ picked }) ∧
        (∀ n, n ∈ reserved ↔ n ∈ h.sequencer.reserved ∨ n ∈ picked) ∧
        (h.sequencer.reserved.Pairwise (· < ·) → reserved.Pairwise (· < ·)) ∧
        ∀ n ∈ picked, Text.readU64 (toString n) = .ok n := by
  cases hnext : h.sequencer.next with
  | none => simp only [Host.access, reserve, hnext]
  | some start =>
    have hreserve := reserve_eq hnext count
    dsimp only
    split
    · rename_i hfew
      rw [if_pos hfew] at hreserve
      simp only [Host.access, hreserve]
    · rename_i henough
      rw [if_neg henough] at hreserve
      let picked := (freeFrom h.sequencer.reserved start).take count
      refine ⟨picked, picked.foldr insertSorted h.sequencer.reserved, rfl, ?_, fun n => ?_, fun hsorted => ?_, fun n hn => ?_⟩
      · simp only [Host.access, hreserve, picked]
      · rw [mem_foldr_insertSorted, Or.comm]
      · exact pairwise_foldr_insertSorted hsorted picked
      · have hlt := lt_of_mem_freeFrom (List.mem_of_mem_take hn)
        exact Text.readNumeral_toString (Nat.le_of_lt hlt)

end PasskeyConsent

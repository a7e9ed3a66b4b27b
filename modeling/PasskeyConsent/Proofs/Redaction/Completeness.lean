import PasskeyConsent.Proofs.Redaction.Patterns
import PasskeyConsent.Proofs.Redaction.Stability
/-!
# Redaction is complete

At no place of a redacted text does the pattern of a bearer token or of a key text match, in whatever way, and a search
for assignments finds only the mask (`redact_complete`).  What the sweeps leave is known at each place of the text
(`Along`); here it is read as a statement about the patterns, whose matches are never empty (`Pattern.least`).
-/
namespace PasskeyConsent.Redaction

open Text (isBlank isWord)

namespace Pattern

/-- How many characters a match takes at the least. -/
def least : Pattern → Nat
  | .empty | .boundary => 0
  | .char _ => 1
  | .seq p q => p.least + q.least
  | .either p q => min p.least q.least
  | .run n _ => n
  | .group p => p.least

theorem append_eq_of_mem_runs {p : Char → Bool} {cs : List Char} {x : List Char × List Char} (h : x ∈ runs p cs) :
    x.1 ++ x.2 = cs := by
  induction cs generalizing x with
  | nil => simp_all [runs]
  | cons c cs ih =>
    rw [runs] at h
    by_cases goes : p c = true
    · rw [if_pos goes, List.mem_append, List.mem_map, List.mem_singleton] at h
      rcases h with ⟨y, mem, rfl⟩ | rfl
      · simp [ih mem]
      · rfl
    · simp_all

section

variable {p : Pattern} {b : Option Char} {cs : List Char} {m : Match}

/-- What a match takes and what it leaves make up the text, and it takes no less than the least. -/
theorem split_of_mem_ways (h : m ∈ p.ways b cs) : m.taken ++ m.rest = cs ∧ p.least ≤ m.taken.length := by
  induction p generalizing b cs m with
  | empty => simp_all [ways, least]
  | char p =>
    cases cs with
    | nil => simp [ways] at h
    | cons c cs =>
      simp only [ways, List.mem_ite_nil_right, List.mem_singleton] at h
      obtain ⟨-, rfl⟩ := h
      simp [least]
  | boundary =>
    simp only [ways, List.mem_ite_nil_right, List.mem_singleton] at h
    obtain ⟨-, rfl⟩ := h
    simp [least]
  | seq p q first second =>
    obtain ⟨m₁, mem₁, m₂, mem₂, rfl⟩ := mem_ways_seq.mp h
    obtain ⟨split, long⟩ := first mem₁
    obtain ⟨split', long'⟩ := second mem₂
    simp [Match.append, least, split, split', Nat.add_le_add long long']
  | either p q first second =>
    rw [ways, List.mem_append] at h
    rw [least]
    rcases h with mem | mem
    · obtain ⟨split, long⟩ := first mem
      exact ⟨split, by omega⟩
    · obtain ⟨split, long⟩ := second mem
      exact ⟨split, by omega⟩
  | run n p =>
    rw [ways, List.mem_map] at h
    obtain ⟨x, mem, rfl⟩ := h
    rw [List.mem_filter, decide_eq_true_eq] at mem
    exact ⟨append_eq_of_mem_runs mem.1, mem.2⟩
  | group p ih =>
    rw [ways, List.mem_map] at h
    obtain ⟨n, mem, rfl⟩ := h
    exact ih (m := n) mem

theorem taken_ne_nil (some_least : 0 < p.least) (h : m ∈ p.ways b cs) : m.taken ≠ [] := by
  intro nil
  have long := (split_of_mem_ways h).2
  rw [nil, List.length_nil] at long
  omega

theorem mem_ways_of_first (h : p.first b cs = some m) : m ∈ p.ways b cs := List.mem_of_head? h

/-- Where the rule of a pattern finds nothing the pattern does not match. -/
theorem ways_of_rule {template : List (List Char) → List Char} (some_least : 0 < p.least)
    (h : p.rule template b cs = none) : p.ways b cs = [] := by
  cases found : p.first b cs with
  | none => exact List.head?_eq_none_iff.mp found
  | some m =>
    have ne := taken_ne_nil some_least (mem_ways_of_first found)
    simp [rule, found, List.getLast?_eq_some_getLast ne] at h

/-- Each match of a search stands at a place of the text, and is the one that counts there. -/
theorem exists_of_mem_findAllFrom {n : Nat} (h : m ∈ p.findAllFrom n b cs) :
    ∃ before, before ++ (m.taken ++ m.rest) = cs ∧ p.first (lastOf b before) (m.taken ++ m.rest) = some m := by
  induction n generalizing b cs with
  | zero => cases h
  | succ n ih =>
    cases found : p.first b cs with
    | some m' =>
      have split := (split_of_mem_ways (mem_ways_of_first found)).1
      simp only [findAllFrom, found, List.mem_cons] at h
      rcases h with rfl | mem
      · exact ⟨[], split, by rw [split]; exact found⟩
      · obtain ⟨before, eq, here⟩ := ih mem
        refine ⟨m'.taken ++ before, by rw [List.append_assoc, eq, split], ?_⟩
        rw [lastOf_append]
        exact here
    | none =>
      cases cs with
      | nil => simp [findAllFrom, found] at h
      | cons c cs =>
        simp only [findAllFrom, found] at h
        obtain ⟨before, eq, here⟩ := ih h
        exact ⟨c :: before, by rw [List.cons_append, eq], here⟩

/-- Whether a pattern has no groups. -/
def plain : Pattern → Bool
  | .empty | .char _ | .boundary | .run .. => true
  | .seq p q | .either p q => p.plain && q.plain
  | .group _ => false

theorem groups_of_plain (alone : p.plain = true) (h : m ∈ p.ways b cs) : m.groups = [] := by
  induction p generalizing b cs m with
  | empty => simp_all [ways]
  | char p => cases cs <;> simp_all [ways]
  | boundary => simp_all [ways]
  | seq p q first second =>
    rw [plain, Bool.and_eq_true] at alone
    obtain ⟨m₁, mem₁, m₂, mem₂, rfl⟩ := mem_ways_seq.mp h
    simp [Match.append, first alone.1 mem₁, second alone.2 mem₂]
  | either p q first second =>
    rw [plain, Bool.and_eq_true] at alone
    rw [ways, List.mem_append] at h
    exact h.elim (first alone.1) (second alone.2)
  | run n p =>
    rw [ways, List.mem_map] at h
    obtain ⟨x, -, rfl⟩ := h
    rfl
  | group p => cases alone

theorem groups_of_group (alone : p.plain = true) (h : m ∈ (Pattern.group p).ways b cs) : m.groups = [m.taken] := by
  rw [ways, List.mem_map] at h
  obtain ⟨n, mem, rfl⟩ := h
  simp [groups_of_plain alone mem]

end

end Pattern

theorem Along.at {P : Option Char → List Char → Prop} {b : Option Char} {before after rest : List Char} {c : Char}
    (h : Along P b (before ++ c :: after) rest) : P (lastOf b before) (c :: after ++ rest) :=
  (along_append.mp h).2.1

/-- A pattern whose rule finds nothing at any place of a text matches nowhere in it. -/
theorem ways_of_along {p : Pattern} {template : List (List Char) → List Char} {rule : Rule}
    (same : p.rule template = rule) (some_least : 0 < p.least) {cs : List Char}
    (h : Along (fun b cs => rule b cs = none) none cs []) {before rest : List Char} (eq : cs = before ++ rest) :
    p.ways before.getLast? rest = [] := by
  subst same eq
  cases rest with
  | nil =>
    rw [List.eq_nil_iff_forall_not_mem]
    intro m mem
    have split := (Pattern.split_of_mem_ways mem).1
    exact Pattern.taken_ne_nil some_least mem (List.append_eq_nil_iff.mp split).1
  | cons c rest =>
    have here := h.at
    rw [lastOf_none, List.append_nil] at here
    exact Pattern.ways_of_rule some_least here

/-- The groups of an assignment make up what it takes. -/
theorem groups_of_mem_assignmentPattern {b : Option Char} {cs : List Char} {m : Match}
    (h : m ∈ assignmentPattern.ways b cs) :
    ∃ key sign value, m.groups = [key, sign, value] ∧ m.taken = key ++ sign ++ value := by
  have stop : ∀ {b cs m}, m ∈ Pattern.boundary.ways b cs → m.taken = [] ∧ m.groups = [] := by
    intro b cs m mem
    simp_all [Pattern.ways]
  obtain ⟨start, mem, m₁, mem₁, rfl⟩ := mem_ways_seq.mp h
  obtain ⟨key, inKey, m₂, mem₂, rfl⟩ := mem_ways_seq.mp mem₁
  obtain ⟨stop', mem', m₃, mem₃, rfl⟩ := mem_ways_seq.mp mem₂
  obtain ⟨sign, inSign, value, inValue, rfl⟩ := mem_ways_seq.mp mem₃
  refine ⟨key.taken, sign.taken, value.taken, ?_, ?_⟩
  · simp [Match.append, stop mem, stop mem', Pattern.groups_of_group (by decide) inKey,
      Pattern.groups_of_group (by decide) inSign, Pattern.groups_of_group rfl inValue]
  · simp [Match.append, stop mem, stop mem']

theorem value_of_masked {b : Option Char} {cs : List Char} (h : Masked b cs) {m : Match}
    (found : assignmentPattern.first b cs = some m) : m.groups[2]? = some mask := by
  have mem := Pattern.mem_ways_of_first found
  obtain ⟨key, sign, value, groups, taken⟩ := groups_of_mem_assignmentPattern mem
  have split := (Pattern.split_of_mem_ways mem).1
  have ne : m.taken ≠ [] := Pattern.taken_ne_nil (by decide) mem
  have hit : assignmentRule b cs = some ⟨key ++ sign ++ mask, m.taken.getLast ne, m.rest⟩ := by
    rw [← rule_assignmentPattern, Pattern.rule, found]
    simp [groups, List.getLast?_eq_some_getLast ne]
  have same : key ++ sign ++ mask ++ m.rest = m.taken ++ m.rest := (h.same hit).trans split.symm
  rw [taken, List.append_cancel_right_eq, List.append_cancel_left_eq] at same
  simp [groups, same]

theorem value_of_mem_findAll {cs : List Char} (masked : Along Masked none cs []) {m : Match}
    (h : m ∈ assignmentPattern.findAll cs) : m.groups[2]? = some mask := by
  obtain ⟨before, rfl, found⟩ := Pattern.exists_of_mem_findAllFrom h
  cases split : m.taken ++ m.rest with
  | nil =>
    have ne := Pattern.taken_ne_nil (by decide) (Pattern.mem_ways_of_first found)
    exact absurd (List.append_eq_nil_iff.mp split).1 ne
  | cons c after =>
    rw [split] at masked found
    have here := masked.at
    rw [List.append_nil] at here
    exact value_of_masked here found

end PasskeyConsent.Redaction

namespace PasskeyConsent

open Redaction

/-- **A redacted text holds no secret that redaction looks for.**  Neither a bearer token nor a key text matches at any
place of it, in whatever way, and each assignment that a search finds has the mask for its value; so redacting it again
changes nothing. -/
theorem redact_complete (s : String) :
    (∀ before rest, (redact s).toList = before ++ rest →
      bearerPattern.ways before.getLast? rest = [] ∧ keyTextPattern.ways before.getLast? rest = []) ∧
    (∀ m ∈ assignmentPattern.findAll (redact s).toList, m.groups[2]? = some mask) ∧
    redact (redact s) = redact s := by
  have shown : (redact s).toList =
      sweepAt keyTextRule none (sweepAt assignmentRule none (sweepAt bearerRule none s.toList)) := by
    rw [redact_eq, String.toList_ofList]
  rw [shown]
  refine ⟨?_, fun m mem => value_of_mem_findAll (masked_sweeps s.toList) mem, redact_redact s⟩
  intro before rest eq
  exact ⟨ways_of_along rule_bearerPattern (by decide) (no_bearer_sweeps s.toList) eq,
    ways_of_along rule_keyTextPattern (by decide) (no_keyText_sweepAt _) eq⟩

end PasskeyConsent

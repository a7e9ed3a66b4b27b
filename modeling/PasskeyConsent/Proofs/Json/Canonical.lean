import PasskeyConsent.Proofs.Json.Members
import PasskeyConsent.Proofs.Json.Printer
import PasskeyConsent.Request.Digest
/-!
# Values that differ in the order of keys

`Reordered` takes any two objects for one that hold the same members, at every depth of a value.  Bringing the members of
every object in key order is one such change and undoes all others, so two values are made one by it just when they are
`Reordered` (`canonical_eq_iff`).
-/
namespace PasskeyConsent.Json

/-- Whether two values differ in the order of members only, at any depth. -/
inductive Reordered : Json → Json → Prop
  | refl (j : Json) : Reordered j j
  | trans {a b c : Json} (hab : Reordered a b) (hbc : Reordered b c) : Reordered a c
  | members {ms ns : List (String × Json)} (h : ms.Perm ns) : Reordered (.obj ms) (.obj ns)
  | member {before after : List (String × Json)} {key : String} {a b : Json} (h : Reordered a b) :
    Reordered (.obj (before ++ (key, a) :: after)) (.obj (before ++ (key, b) :: after))
  | item {before after : List Json} {a b : Json} (h : Reordered a b) :
    Reordered (.arr (before ++ a :: after)) (.arr (before ++ b :: after))

theorem Reordered.symm {a b : Json} (h : Reordered a b) : Reordered b a := by
  induction h with
  | refl j => exact .refl j
  | trans _ _ hba hcb => exact .trans hcb hba
  | members h => exact .members h.symm
  | member _ ih => exact .member ih
  | item _ ih => exact .item ih

/-! ## Key order -/

/-- Whether the members stand in key order. -/
def Ordered (ms : List (String × Json)) : Prop := ms.Pairwise fun m n => m.1 < n.1

theorem ordered_insertMember (key : String) (value : Json) :
    ∀ {ms : List (String × Json)}, Ordered ms → Ordered (insertMember key value ms)
  | [], _ => List.pairwise_singleton _ _
  | (k, v) :: ms, h => by
    obtain ⟨hk, hms⟩ := List.pairwise_cons.1 h
    unfold insertMember
    split
    · rename_i hlt
      exact .cons (List.forall_mem_cons.2 ⟨hlt, fun m hm => String.lt_trans hlt (hk m hm)⟩) h
    · split
      · rename_i heq
        exact .cons (fun m hm => by simpa [heq] using hk m hm) hms
      · rename_i hlt hne
        refine .cons (fun m hm => ?_) (ordered_insertMember key value hms)
        rcases mem_insertMember hm with rfl | hm
        · exact Std.lt_of_le_of_ne hlt (Ne.symm hne)
        · exact hk m hm

theorem ordered_sortMembers (ms : List (String × Json)) : Ordered (sortMembers ms) := by
  have hfold : ∀ (ms acc : List (String × Json)), Ordered acc →
      Ordered (ms.foldl (fun acc m => insertMember m.1 m.2 acc) acc) := by
    intro ms
    induction ms with
    | nil => exact fun _ h => h
    | cons m ms ih => exact fun acc h => ih _ (ordered_insertMember m.1 m.2 h)
  exact hfold ms [] .nil

/-- **Members with different keys come into one order.** -/
theorem sortMembers_eq_of_perm {ms ns : List (String × Json)} (hkeys : (ms.map (·.1)).Nodup) (h : ms.Perm ns) :
    sortMembers ms = sortMembers ns := by
  have hns : (ns.map (·.1)).Nodup := (h.map _).nodup_iff.1 hkeys
  have hordered : (sortMembers ms).Pairwise fun m n => m.1 < n.1 := ordered_sortMembers ms
  refine List.Perm.eq_of_pairwise (fun m n _ _ hlt hgt => ?_) hordered (ordered_sortMembers ns)
    (((sortMembers_perm hkeys).trans h).trans (sortMembers_perm hns).symm)
  exact absurd (String.lt_trans hlt hgt) (String.lt_irrefl _)

/-! ## Every depth -/

theorem canonicalItems_eq_map (xs : List Json) : canonical.canonicalItems xs = xs.map canonical := by
  induction xs with
  | nil => rfl
  | cons x xs ih => rw [canonical.canonicalItems, ih, List.map_cons]

theorem canonicalMembers_eq_map (ms : List (String × Json)) :
    canonical.canonicalMembers ms = ms.map fun m => (m.1, m.2.canonical) := by
  induction ms with
  | nil => rfl
  | cons m ms ih => rw [canonical.canonicalMembers, ih, List.map_cons]

theorem canonical_arr (xs : List Json) : canonical (.arr xs) = .arr (xs.map canonical) :=
  congrArg Json.arr (canonicalItems_eq_map xs)

theorem canonical_obj (ms : List (String × Json)) :
    canonical (.obj ms) = .obj (sortMembers (ms.map fun m => (m.1, m.2.canonical))) :=
  congrArg Json.object (canonicalMembers_eq_map ms)

theorem wellFormedItems_iff {xs : List Json} : wellFormed.wellFormedItems xs = true ↔ ∀ x ∈ xs, x.wellFormed = true := by
  induction xs with
  | nil => simp [wellFormed.wellFormedItems]
  | cons x xs ih => rw [wellFormed.wellFormedItems, Bool.and_eq_true, ih, List.forall_mem_cons]

theorem wellFormedMembers_iff {ms : List (String × Json)} :
    wellFormed.wellFormedMembers ms = true ↔ ∀ m ∈ ms, m.2.wellFormed = true := by
  induction ms with
  | nil => simp [wellFormed.wellFormedMembers]
  | cons m ms ih => rw [wellFormed.wellFormedMembers, Bool.and_eq_true, ih, List.forall_mem_cons]

theorem wellFormed_arr {xs : List Json} : (Json.arr xs).wellFormed = true ↔ ∀ x ∈ xs, x.wellFormed = true :=
  wellFormedItems_iff

theorem wellFormed_obj {ms : List (String × Json)} :
    (Json.obj ms).wellFormed = true ↔ (ms.map (·.1)).Nodup ∧ ∀ m ∈ ms, m.2.wellFormed = true := by
  rw [wellFormed, Bool.and_eq_true, decide_eq_true_eq, wellFormedMembers_iff]

/-- Items that differ in the order of members make arrays that do. -/
theorem Reordered.items {xs ys : List Json} (h : List.Forall₂ Reordered xs ys) : Reordered (.arr xs) (.arr ys) := by
  suffices hbehind : ∀ before, Reordered (.arr (before ++ xs)) (.arr (before ++ ys)) from hbehind []
  induction h with
  | nil => exact fun before => .refl _
  | cons h _ ih =>
    rename_i x y xs ys _
    intro before
    have hrest := ih (before ++ [y])
    rw [List.append_assoc, List.append_assoc] at hrest
    exact .trans (.item h) hrest

theorem Reordered.values {ms : List (String × Json)} {f : Json → Json} (h : ∀ m ∈ ms, Reordered m.2 (f m.2)) :
    Reordered (.obj ms) (.obj (ms.map fun m => (m.1, f m.2))) := by
  suffices hbehind : ∀ before, Reordered (.obj (before ++ ms)) (.obj (before ++ ms.map fun m => (m.1, f m.2))) from
    hbehind []
  induction ms with
  | nil => exact fun before => .refl _
  | cons m ms ih =>
    intro before
    obtain ⟨hm, hms⟩ := List.forall_mem_cons.1 h
    have hrest := ih hms (before ++ [(m.1, f m.2)])
    rw [List.append_assoc, List.append_assoc] at hrest
    exact .trans (.member hm) hrest

mutual

/-- **Key order is one of the orders that members can be in.** -/
theorem reordered_canonical : ∀ {j : Json}, j.wellFormed = true → Reordered j j.canonical
  | .null, _ | .bool _, _ | .int _, _ | .float _, _ | .str _, _ => .refl _
  | .arr xs, h => by
    rw [canonical_arr]
    exact .items (reordered_items h)
  | .obj ms, h => by
    rw [wellFormed, Bool.and_eq_true, decide_eq_true_eq] at h
    have hkeys : ((ms.map fun m => (m.1, m.2.canonical)).map (·.1)).Nodup := by
      rw [List.map_map]
      exact h.1
    rw [canonical_obj]
    exact .trans (.values (reordered_members h.2)) (.members (sortMembers_perm hkeys).symm)

theorem reordered_items : ∀ {xs : List Json}, wellFormed.wellFormedItems xs = true →
    List.Forall₂ Reordered xs (xs.map canonical)
  | [], _ => .nil
  | x :: xs, h => by
    rw [wellFormed.wellFormedItems, Bool.and_eq_true] at h
    exact .cons (reordered_canonical h.1) (reordered_items h.2)

theorem reordered_members : ∀ {ms : List (String × Json)}, wellFormed.wellFormedMembers ms = true →
    ∀ m ∈ ms, Reordered m.2 m.2.canonical
  | [], _ => fun _ h => absurd h List.not_mem_nil
  | (k, v) :: ms, h => by
    rw [wellFormed.wellFormedMembers, Bool.and_eq_true] at h
    exact List.forall_mem_cons.2 ⟨reordered_canonical h.1, reordered_members h.2⟩

end

/-- Values that differ in the order of members are well-formed together. -/
theorem Reordered.wellFormed_eq {a b : Json} (h : Reordered a b) : a.wellFormed = b.wellFormed := by
  rw [Bool.eq_iff_iff]
  induction h with
  | refl j => exact Iff.rfl
  | trans _ _ hab hbc => exact hab.trans hbc
  | members h =>
    rw [wellFormed_obj, wellFormed_obj, (h.map _).nodup_iff]
    simp only [h.mem_iff]
  | member h ih => simp [wellFormed_obj, or_imp, forall_and, ih]
  | item h ih => simp [wellFormed_arr, or_imp, forall_and, ih]

/-- **Key order undoes every change of the order of members.** -/
theorem Reordered.canonical_eq {a b : Json} (h : Reordered a b) (ha : a.wellFormed = true) : a.canonical = b.canonical := by
  induction h with
  | refl j => rfl
  | trans hab _ ih₁ ih₂ => exact (ih₁ ha).trans (ih₂ (hab.wellFormed_eq ▸ ha))
  | members h =>
    rename_i ms ns
    rw [canonical_obj, canonical_obj]
    refine congrArg Json.obj (sortMembers_eq_of_perm ?_ (h.map _))
    rw [List.map_map]
    exact (wellFormed_obj.1 ha).1
  | member h ih =>
    rename_i before after key a b
    have hvalue := ih ((wellFormed_obj.1 ha).2 (key, a) (by simp))
    simp only [canonical_obj, List.map_append, List.map_cons, hvalue]
  | item h ih =>
    rename_i before after a b
    have hvalue := ih (wellFormed_arr.1 ha a (by simp))
    simp only [canonical_arr, List.map_append, List.map_cons, hvalue]

/-- **Values have one form in key order just when they differ in the order of members only.** -/
theorem canonical_eq_iff {a b : Json} (ha : a.wellFormed = true) (hb : b.wellFormed = true) :
    a.canonical = b.canonical ↔ Reordered a b := by
  constructor
  · intro h
    exact .trans (reordered_canonical ha) (h ▸ (reordered_canonical hb).symm)
  · exact fun h => h.canonical_eq ha

theorem wellFormed_canonical {j : Json} (h : j.wellFormed = true) : j.canonical.wellFormed = true :=
  (reordered_canonical h).wellFormed_eq ▸ h

end PasskeyConsent.Json

import PasskeyConsent.Json.Codec
import PasskeyConsent.Transfer
/-!
# Members of objects

What a look-up finds in an object made from a list of members, in the object a record is written as, and in an object
that has crossed to another context.
-/
namespace PasskeyConsent

namespace Json

theorem lookup_append (key : String) : ∀ ms₁ ms₂ : List (String × Json),
    lookup key (ms₁ ++ ms₂) = (lookup key ms₁).or (lookup key ms₂)
  | [], _ => rfl
  | (k, v) :: ms₁, ms₂ => by
    rw [List.cons_append, lookup, lookup]
    split
    · rfl
    · exact lookup_append key ms₁ ms₂

theorem lookup_isSome (key : String) (ms : List (String × Json)) :
    (lookup key ms).isSome = (ms.map Prod.fst).contains key := by
  induction ms with
  | nil => rfl
  | cons m ms ih =>
    rw [lookup, List.map_cons, List.contains_cons, ← ih]
    by_cases h : m.1 = key
    · rw [if_pos h, h, beq_self_eq_true, Bool.true_or]
      rfl
    · rw [if_neg h, beq_false_of_ne (Ne.symm h), Bool.false_or]

theorem mem_of_lookup {key : String} {j : Json} : ∀ {members : List (String × Json)}, lookup key members = some j →
    (key, j) ∈ members
  | [], h => by cases h
  | (k, v) :: members, h => by
    rw [lookup] at h
    split at h
    · rename_i hk
      cases h
      exact hk ▸ List.mem_cons_self
    · exact List.mem_cons_of_mem _ (mem_of_lookup h)

theorem lookup_insertMember_self (key : String) (value : Json) (ms : List (String × Json)) :
    lookup key (insertMember key value ms) = some value := by
  induction ms with
  | nil => exact if_pos rfl
  | cons m ms ih =>
    obtain ⟨k, v⟩ := m
    unfold insertMember
    split
    · exact if_pos rfl
    · split
      · exact if_pos rfl
      · rename_i h
        rw [lookup, if_neg (Ne.symm h)]
        exact ih

theorem lookup_insertMember_of_ne {key l : String} (h : key ≠ l) (value : Json) (ms : List (String × Json)) :
    lookup l (insertMember key value ms) = lookup l ms := by
  induction ms with
  | nil => exact if_neg h
  | cons m ms ih =>
    obtain ⟨k, v⟩ := m
    unfold insertMember
    split
    · exact if_neg h
    · split
      · rename_i hk
        rw [lookup, lookup, if_neg h, if_neg (hk ▸ h)]
      · rw [lookup, lookup, ih]

theorem lookup_foldl_insertMember (l : String) : ∀ (ms acc : List (String × Json)),
    lookup l (ms.foldl (fun acc m => insertMember m.1 m.2 acc) acc) = (lookup l ms.reverse).or (lookup l acc)
  | [], acc => rfl
  | (k, v) :: ms, acc => by
    rw [List.foldl_cons, lookup_foldl_insertMember l ms, List.reverse_cons, lookup_append, Option.or_assoc]
    congr 1
    by_cases h : k = l
    · subst h
      rw [lookup_insertMember_self, lookup, if_pos rfl, Option.some_or]
    · rw [lookup_insertMember_of_ne h, lookup, if_neg h, lookup, Option.none_or]

/-- Of two members with one key the later counts. -/
theorem get?_object_cons (l k : String) (v : Json) (ms : List (String × Json)) :
    (object ((k, v) :: ms)).get? l = ((object ms).get? l).or (if k = l then some v else none) := by
  have hobject (ms : List (String × Json)) : (object ms).get? l = lookup l ms.reverse := by
    rw [object, get?, sortMembers, lookup_foldl_insertMember]
    exact Option.or_none
  rw [hobject, hobject, List.reverse_cons, lookup_append]
  rfl

theorem mem_insertMember {key : String} {value : Json} {m : String × Json} :
    ∀ {ms : List (String × Json)}, m ∈ insertMember key value ms → m = (key, value) ∨ m ∈ ms
  | [], h => .inl (List.mem_singleton.1 h)
  | (k, v) :: ms, h => by
    unfold insertMember at h
    split at h
    · exact List.mem_cons.1 h
    · split at h
      · rcases List.mem_cons.1 h with h | h
        · exact .inl h
        · exact .inr (List.mem_cons_of_mem _ h)
      · rcases List.mem_cons.1 h with h | h
        · exact .inr (h ▸ List.mem_cons_self)
        · exact (mem_insertMember h).imp_right (List.mem_cons_of_mem _)

theorem mem_of_mem_sortMembers {m : String × Json} {ms : List (String × Json)} (h : m ∈ sortMembers ms) : m ∈ ms := by
  have hfold : ∀ (ms acc : List (String × Json)),
      m ∈ ms.foldl (fun acc m => insertMember m.1 m.2 acc) acc → m ∈ ms ∨ m ∈ acc := by
    intro ms
    induction ms with
    | nil => exact fun acc h => .inr h
    | cons x ms ih =>
      intro acc h
      rcases ih _ h with h | h
      · exact .inl (List.mem_cons_of_mem _ h)
      · rcases mem_insertMember h with h | h
        · exact .inl (h ▸ List.mem_cons_self)
        · exact .inr h
  exact (hfold ms [] h).resolve_right List.not_mem_nil

theorem insertMember_perm {key : String} (value : Json) :
    ∀ {ms : List (String × Json)}, key ∉ ms.map (·.1) → (insertMember key value ms).Perm ((key, value) :: ms)
  | [], _ => .refl _
  | (k, v) :: ms, h => by
    obtain ⟨hne, hms⟩ := not_or.1 (mt List.mem_cons.2 h)
    rw [insertMember, if_neg (show ¬key = k from hne)]
    split
    · exact .refl _
    · exact ((insertMember_perm value hms).cons _).trans (.swap _ _ _)

/-- Sorting loses no member when no two have one key. -/
theorem sortMembers_perm {ms : List (String × Json)} (h : (ms.map (·.1)).Nodup) : (sortMembers ms).Perm ms := by
  have hfold : ∀ ms acc : List (String × Json), ((acc ++ ms).map (·.1)).Nodup →
      (ms.foldl (fun acc m => insertMember m.1 m.2 acc) acc).Perm (acc ++ ms) := by
    intro ms
    induction ms with
    | nil =>
      intro acc _
      rw [List.append_nil]
      exact .refl acc
    | cons m ms ih =>
      intro acc hnodup
      have hperm : (acc ++ m :: ms).Perm (insertMember m.1 m.2 acc ++ ms) := by
        refine List.perm_middle.trans (((insertMember_perm m.2 fun hm => ?_).symm).append_right ms)
        rw [List.map_append, List.map_cons] at hnodup
        exact (List.nodup_append.1 hnodup).2.2 _ hm _ List.mem_cons_self rfl
      exact (ih _ ((hperm.map _).nodup_iff.1 hnodup)).trans hperm.symm
  exact hfold ms [] h

end Json

/-- **A field of a record is found under its key**, unless its value is one that is not written. -/
theorem Shape.get?_members_cons {α β : Type} (l : String) (f : Field α) (rest : Shape β) (a : α) (b : β) :
    (Json.object ((Shape.cons f rest).members (a, b))).get? l =
      ((Json.object (rest.members b)).get? l).or
        (if f.key = l ∧ f.hidden a = false then some (f.codec.encode a) else none) := by
  rw [Shape.members]
  cases h : f.hidden a with
  | true => simp
  | false =>
    rw [if_neg (by simp), List.singleton_append, Json.get?_object_cons]
    simp

@[simp] theorem Shape.get?_members_nil (l : String) : (Json.object (Shape.nil.members ())).get? l = none := rfl

/-! ## Crossing to another context -/

namespace Transferable

/-- A value of JSON as it arrives in another context. -/
def crossed (j : Json) : Json := (ofJson j).sanitize

theorem crosses_ofJson (j : Json) : (ofJson j).crosses = true := by cases j <;> rfl

theorem lookup_crossed (l : String) (ms : List (String × Json)) :
    Json.lookup l (sanitize.sanitizeMembers (ofJson.ofMembers ms)) =
      if internalKeys.contains l then none else (Json.lookup l ms).map crossed := by
  induction ms with
  | nil => rw [ofJson.ofMembers, sanitize.sanitizeMembers, Json.lookup, Option.map_none, ite_self]
  | cons m ms ih =>
    obtain ⟨k, v⟩ := m
    rw [ofJson.ofMembers, sanitize.sanitizeMembers, crosses_ofJson, Bool.true_and]
    by_cases hk : internalKeys.contains k = true
    · rw [hk, Bool.not_true, if_neg Bool.false_ne_true, ih, Json.lookup]
      by_cases h : k = l
      · subst h
        rw [if_pos hk, if_pos hk]
      · rw [if_neg h]
    · rw [Bool.not_eq_true] at hk
      rw [hk, Bool.not_false, if_pos rfl, Json.lookup, ih, Json.lookup]
      by_cases h : k = l
      · subst h
        rw [if_pos rfl, if_pos rfl, if_neg (by rw [hk]; exact Bool.false_ne_true)]
        rfl
      · rw [if_neg h, if_neg h]

theorem get?_crossed_object (l : String) (ms : List (String × Json)) :
    (crossed (.object ms)).get? l =
      if internalKeys.contains l then none else ((Json.object ms).get? l).map crossed :=
  lookup_crossed l (Json.sortMembers ms)

/-- An object crosses as it is if its members do and none of them is internal. -/
theorem crossed_object {ms : List (String × Json)}
    (h : ∀ m ∈ ms, internalKeys.contains m.1 = false ∧ crossed m.2 = m.2) :
    crossed (Json.object ms) = Json.object ms := by
  have hmembers : ∀ ms : List (String × Json),
      (∀ m ∈ ms, internalKeys.contains m.1 = false ∧ crossed m.2 = m.2) →
        sanitize.sanitizeMembers (ofJson.ofMembers ms) = ms := by
    intro ms
    induction ms with
    | nil => exact fun _ => rfl
    | cons m ms ih =>
      obtain ⟨k, v⟩ := m
      intro h
      obtain ⟨hk, hv⟩ := h (k, v) List.mem_cons_self
      have hv : (ofJson v).sanitize = v := hv
      rw [ofJson.ofMembers, sanitize.sanitizeMembers, crosses_ofJson, hk, Bool.not_false, Bool.and_true, if_pos rfl, hv,
        ih fun m hm => h m (List.mem_cons_of_mem _ hm)]
  exact congrArg Json.obj (hmembers _ fun m hm => h m (Json.mem_of_mem_sortMembers hm))

/-- A list crosses as it is if its items do. -/
theorem crossed_arr {items : List Json} (h : ∀ x ∈ items, crossed x = x) : crossed (.arr items) = .arr items := by
  suffices hitems : sanitize.sanitizeItems (ofJson.ofItems items) = items from congrArg Json.arr hitems
  induction items with
  | nil => rfl
  | cons x items ih =>
    obtain ⟨hx, hrest⟩ := List.forall_mem_cons.1 h
    have hx : (ofJson x).sanitize = x := hx
    rw [ofJson.ofItems, sanitize.sanitizeItems, crosses_ofJson, if_pos rfl, hx, ih hrest]

end Transferable
end PasskeyConsent

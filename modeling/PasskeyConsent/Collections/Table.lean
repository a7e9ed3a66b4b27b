/-!
# Tables

A finite map from texts, as the list of its entries with the latest first.  Setting a key removes what it had, so each
key stands once; the lemmas say what a look-up sees after each change.
-/
namespace PasskeyConsent

structure Table (α : Type) where
  entries : List (String × α) := []
deriving DecidableEq, Repr

namespace Table

def get? (t : Table α) (key : String) : Option α := t.entries.lookup key

def contains (t : Table α) (key : String) : Bool := (t.get? key).isSome

def erase (t : Table α) (key : String) : Table α := ⟨t.entries.filter fun e => !(e.1 == key)⟩

def put (t : Table α) (key : String) (a : α) : Table α := ⟨(key, a) :: (t.erase key).entries⟩

def keys (t : Table α) : List String := t.entries.map (·.1)

/-- Keeps the entries that pass a test. -/
def keep (t : Table α) (p : α → Bool) : Table α := ⟨t.entries.filter fun e => p e.2⟩

def size (t : Table α) : Nat := t.entries.length

theorem get?_put_self (t : Table α) (k : String) (a : α) : (t.put k a).get? k = some a := by
  simp [get?, put]

theorem lookup_erase_of_ne {k l : String} (h : l ≠ k) :
    ∀ es : List (String × α), (es.filter fun e => !(e.1 == k)).lookup l = es.lookup l
  | [] => rfl
  | (m, a) :: es => by
    by_cases hm : m = k
    · have hl : (l == m) = false := by simp [hm, h]
      simp [hm, List.lookup_cons, lookup_erase_of_ne h es]
      simp [hm ▸ hl]
    · simp [hm, List.lookup_cons, lookup_erase_of_ne h es]

theorem lookup_erase_self (k : String) : ∀ es : List (String × α), (es.filter fun e => !(e.1 == k)).lookup k = none
  | [] => rfl
  | (m, a) :: es => by
    by_cases hm : m = k
    · simp [hm, lookup_erase_self k es]
    · have : (k == m) = false := by simp [Ne.symm hm]
      simp [hm, List.lookup_cons, this, lookup_erase_self k es]

theorem get?_erase_self (t : Table α) (k : String) : (t.erase k).get? k = none := lookup_erase_self k t.entries

theorem get?_erase_of_ne (t : Table α) {k l : String} (h : l ≠ k) : (t.erase k).get? l = t.get? l :=
  lookup_erase_of_ne h t.entries

theorem get?_put_of_ne (t : Table α) {k l : String} (h : l ≠ k) (a : α) : (t.put k a).get? l = t.get? l := by
  have hl : (l == k) = false := by simp [h]
  simp only [get?, put, List.lookup_cons, hl]
  exact get?_erase_of_ne t h

theorem contains_put (t : Table α) (k l : String) (a : α) :
    (t.put k a).contains l = if l = k then true else t.contains l := by
  unfold contains
  split
  · rename_i h
    rw [h, get?_put_self]
    rfl
  · rename_i h
    rw [get?_put_of_ne t h]

theorem contains_erase (t : Table α) (k l : String) :
    (t.erase k).contains l = if l = k then false else t.contains l := by
  unfold contains
  split
  · rename_i h
    rw [h, get?_erase_self]
    rfl
  · rename_i h
    rw [get?_erase_of_ne t h]

/-! ## Keys that stand once -/

theorem lookup_eq_none_of_not_mem {k : String} :
    ∀ {es : List (String × α)}, k ∉ es.map (·.1) → es.lookup k = none
  | [], _ => rfl
  | (m, a) :: es, h => by
    have hne : (k == m) = false := beq_false_of_ne fun hk => h (hk ▸ List.mem_cons_self)
    rw [List.lookup_cons, hne]
    exact lookup_eq_none_of_not_mem fun hk => h (List.mem_cons_of_mem _ hk)

theorem lookup_filter (p : α → Bool) (k : String) :
    ∀ {es : List (String × α)}, (es.map (·.1)).Nodup → (es.filter fun e => p e.2).lookup k = (es.lookup k).filter p
  | [], _ => rfl
  | (m, a) :: es, h => by
    obtain ⟨hm, hes⟩ := List.nodup_cons.1 h
    by_cases hk : k = m
    · subst hk
      cases hp : p a with
      | true => simp [hp, Option.filter]
      | false => simp [hp, Option.filter, lookup_filter p k hes, lookup_eq_none_of_not_mem hm]
    · have hne : (k == m) = false := beq_false_of_ne hk
      cases hp : p a <;> simp [hp, List.lookup_cons, hne, lookup_filter p k hes]

/-- What passes the test is still found, and nothing else is. -/
theorem get?_keep {t : Table α} (h : t.keys.Nodup) (p : α → Bool) (k : String) :
    (t.keep p).get? k = (t.get? k).filter p := lookup_filter p k h

theorem nodup_keys_keep {t : Table α} (h : t.keys.Nodup) (p : α → Bool) : (t.keep p).keys.Nodup :=
  h.sublist (List.filter_sublist.map _)

theorem nodup_keys_erase {t : Table α} (h : t.keys.Nodup) (k : String) : (t.erase k).keys.Nodup :=
  h.sublist (List.filter_sublist.map _)

theorem nodup_keys_put {t : Table α} (h : t.keys.Nodup) (k : String) (a : α) : (t.put k a).keys.Nodup := by
  refine List.nodup_cons.2 ⟨fun hk => ?_, nodup_keys_erase h k⟩
  obtain ⟨e, he, hek⟩ := List.mem_map.1 hk
  have hne := (List.mem_filter.1 he).2
  simp [hek] at hne

theorem lookup_of_mem {k : String} {a : α} :
    ∀ {es : List (String × α)}, (es.map (·.1)).Nodup → (k, a) ∈ es → es.lookup k = some a
  | (m, b) :: es, h, hmem => by
    obtain ⟨hm, hes⟩ := List.nodup_cons.1 h
    rcases List.mem_cons.1 hmem with heq | hmem
    · cases heq
      simp
    · have hk : k ∈ es.map (·.1) := List.mem_map.2 ⟨(k, a), hmem, rfl⟩
      have hne : (k == m) = false := beq_false_of_ne fun hkm => hm (hkm ▸ hk)
      rw [List.lookup_cons, hne]
      exact lookup_of_mem hes hmem

/-- The keys that are kept are those whose entry passes the test. -/
theorem keys_keep {t : Table α} (h : t.keys.Nodup) (p : α → Bool) :
    (t.keep p).keys = t.keys.filter fun k => (t.get? k).any p := by
  unfold keys keep
  rw [List.filter_map]
  congr 1
  refine List.filter_congr fun e he => ?_
  show p e.2 = (t.entries.lookup e.1).any p
  rw [lookup_of_mem h he]
  rfl

end Table
end PasskeyConsent

/-!
# Runs and parts

A run of a list is a part whose members are all of one kind.  Where it ends is told by the list, as long as what follows
begins with none of the kind.  A part without some member stands on one side of it.
-/
namespace PasskeyConsent

variable {α : Type}

theorem takeWhile_of_run {p : α → Bool} {a u : List α} (ha : a.all p = true) (hu : u.head?.any p = false) :
    (a ++ u).takeWhile p = a := by
  have hnone : u.takeWhile p = [] := by
    cases u with
    | nil => rfl
    | cons c u => rw [List.takeWhile_cons_of_neg (by simpa using hu)]
  rw [List.takeWhile_append_of_pos (by simpa using ha), hnone, List.append_nil]

/-- Two runs of a kind are one if what follows them begins with none of the kind. -/
theorem append_inj_of_runs {p : α → Bool} {a b u v : List α} (ha : a.all p = true) (hb : b.all p = true)
    (hu : u.head?.any p = false) (hv : v.head?.any p = false) (h : a ++ u = b ++ v) : a = b ∧ u = v := by
  have heq : a = b := by rw [← takeWhile_of_run ha hu, h, takeWhile_of_run hb hv]
  subst heq
  exact ⟨rfl, List.append_cancel_left h⟩

section

variable {c : α}

theorem prefix_append_cons_iff : ∀ {part before after : List α}, c ∉ part →
    (part <+: before ++ c :: after ↔ part <+: before)
  | [], _, _, _ => iff_of_true List.nil_prefix List.nil_prefix
  | a :: part, [], after, h => by
    rw [List.nil_append, List.cons_prefix_cons, List.prefix_nil]
    exact iff_of_false (fun ⟨heq, _⟩ => h (heq ▸ List.mem_cons_self)) (List.cons_ne_nil _ _)
  | a :: part, b :: before, after, h => by
    rw [List.cons_append, List.cons_prefix_cons, List.cons_prefix_cons,
      prefix_append_cons_iff fun hmem => h (List.mem_cons_of_mem _ hmem)]

/-- **A part without some member stands on one side of it.** -/
theorem infix_append_cons_iff {part : List α} (h : c ∉ part) : ∀ {before after : List α},
    part <:+: before ++ c :: after ↔ part <:+: before ∨ part <:+: after
  | [], after => by
    rw [List.nil_append, List.infix_cons_iff, ← List.nil_append (c :: after), prefix_append_cons_iff h, List.infix_nil,
      List.prefix_nil]
  | a :: before, after => by
    rw [List.cons_append, List.infix_cons_iff, List.infix_cons_iff, infix_append_cons_iff h, ← List.cons_append,
      prefix_append_cons_iff h, or_assoc]

/-- A part begins behind all that its first member is not among. -/
theorem cons_infix_append_iff {part after : List α} : ∀ {before : List α}, c ∉ before →
    (c :: part <:+: before ++ after ↔ c :: part <:+: after)
  | [], _ => Iff.rfl
  | b :: before, h => by
    rw [List.cons_append, List.infix_cons_iff, cons_infix_append_iff (mt (List.mem_cons_of_mem b) h)]
    exact or_iff_right fun hprefix => h ((List.cons_prefix_cons.1 hprefix).1 ▸ List.mem_cons_self)

end

end PasskeyConsent

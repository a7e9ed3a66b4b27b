import PasskeyConsent.Proofs.Settings.Leaves
/-!
# Settings over settings

A merge is read off its leaves: each is that of the overlay where the overlay chose one, and that of the base elsewhere.
So the settings under merging are a monoid of idempotents, with the defaults as its identity (`merge_laws`).
-/
namespace PasskeyConsent.Settings

variable (a b c : Settings)

/-- Settings are told by their leaves. -/
theorem eq_of_value {a b : Settings} (h : ∀ ℓ, a.value ℓ = b.value ℓ) : a = b := by
  rw [← ofValues_value a, ← ofValues_value b, funext h]

theorem merge_assoc : (a.merge b).merge c = a.merge (b.merge c) := by
  refine eq_of_value fun ℓ => ?_
  simp only [value_merge]
  by_cases hc : c.value ℓ = ℓ.default
  · rw [if_pos hc, if_pos hc]
  · rw [if_neg hc, if_neg hc, if_neg hc]

theorem merge_self : a.merge a = a :=
  eq_of_value fun ℓ => (value_merge a a ℓ).trans (ite_self _)

theorem merge_default : a.merge {} = a :=
  eq_of_value fun ℓ => (value_merge a {} ℓ).trans (if_pos rfl)

theorem default_merge : ({} : Settings).merge a = a := by
  refine eq_of_value fun ℓ => ?_
  rw [value_merge]
  split
  · rename_i h
    exact h.symm
  · rfl

/-- **The laws of merging**: the merged tree is always read, to the overlay's leaves where they differ from the defaults
and to the base's elsewhere; so merging is associative and idempotent, and the defaults change nothing on either side. -/
theorem merge_laws :
    (∀ a b : Settings, codec.ofJson (b.changes.foldl (fun t c => Json.replaceAt c.2 c.1 t) a.tree) = .ok (a.merge b)) ∧
    (∀ (a b : Settings) (ℓ : Leaf), (a.merge b).value ℓ = if b.value ℓ = ℓ.default then a.value ℓ else b.value ℓ) ∧
    (∀ a b c : Settings, (a.merge b).merge c = a.merge (b.merge c)) ∧
    (∀ a : Settings, a.merge a = a) ∧ (∀ a b : Settings, (a.merge b).merge b = a.merge b) ∧
    ∀ a : Settings, a.merge {} = a ∧ ({} : Settings).merge a = a := by
  refine ⟨fun a b => ?_, value_merge, merge_assoc, merge_self, fun a b => ?_, fun a => ⟨merge_default a, default_merge a⟩⟩
  · rw [foldl_changes, ofJson_tree, merge_eq]
  · rw [merge_assoc, merge_self]

end PasskeyConsent.Settings

import PasskeyConsent.Proofs.Json.Forms
/-!
# What crosses whole

A value that is written, stripped of what must not cross and read again is the same if it is written as something, has
nothing to be stripped of and is read from what it is written as.  That is one property of a codec and a value,
`Codec.Carries`, and a record has it when its fields do (`Codec.carries_record`).
-/
namespace PasskeyConsent

open Transferable (crossed crossed_object crossed_arr)

/-- Whether a value is something when it is written, crosses as it is, and is read as what it was. -/
structure Codec.Carries {α : Type} (c : Codec α) (a : α) : Prop where
  solid : c.encode a ≠ .null
  crosses : crossed (c.encode a) = c.encode a
  readsBack : c.ReadsBack a

structure Field.Carries {α : Type} (f : Field α) (a : α) : Prop where
  crosses : crossed (f.codec.encode a) = f.codec.encode a
  readsBack : f.ReadsBack a

namespace Shape

def Carries : {τ : Type} → Shape τ → τ → Prop
  | _, .nil, _ => True
  | _, .cons f rest, a => f.Carries a.1 ∧ rest.Carries a.2

/-- Whether none of the keys means something in the context of origin alone. -/
def External {τ : Type} (s : Shape τ) : Prop := ∀ key ∈ s.keys, internalKeys.contains key = false

theorem readsBack_of_carries : ∀ {τ : Type} {s : Shape τ} {a : τ}, s.Carries a → s.ReadsBack a
  | _, .nil, _, _ => trivial
  | _, .cons _ _, _, h => ⟨h.1.readsBack, readsBack_of_carries h.2⟩

theorem crossed_of_carries {m : String × Json} : ∀ {τ : Type} {s : Shape τ} {a : τ}, s.Carries a → m ∈ s.members a →
    crossed m.2 = m.2
  | _, .nil, _, _, hm => nomatch hm
  | _, .cons _ _, _, h, hm => by
    rcases mem_members_cons.1 hm with ⟨-, rfl⟩ | hm
    · exact h.1.crosses
    · exact crossed_of_carries h.2 hm

end Shape

namespace Codec

variable {α τ : Type} {c : Codec α}

theorem carries_string (s : String) : string.Carries s := ⟨nofun, rfl, rfl⟩

theorem carries_boolean (b : Bool) : boolean.Carries b := ⟨nofun, rfl, rfl⟩

theorem carries_u32 (n : UInt32) : u32.Carries n := ⟨nofun, rfl, readsBack_u32 n⟩

/-- **A record crosses whole** if its fields do and it has none that stays behind. -/
theorem carries_record {title : String} {s : Shape τ} {make : τ → α} {fields : α → τ} {a : α} (hdistinct : s.Distinct)
    (hexternal : s.External) (h : s.Carries (fields a)) (hmake : make (fields a) = a) :
    (record title s make fields).Carries a where
  solid := nofun
  crosses := crossed_object fun _ hm => ⟨hexternal _ (Shape.mem_keys_of_mem_members hm), Shape.crossed_of_carries h hm⟩
  readsBack := readsBack_record hdistinct (Shape.readsBack_of_carries h) hmake

theorem readsBack_array {as : List α} (h : ∀ a ∈ as, c.ReadsBack a) : c.array.ReadsBack as := by
  have hform : c.HasForm fun j a => c.ofJson j = .ok a := fun _ _ => Iff.rfl
  refine (hasForm_array hform _ _).2 ⟨_, rfl, ?_⟩
  rw [List.forall₂_map_left_iff, List.forall₂_same]
  exact h

end Codec

namespace Field

variable {α : Type} {c : Codec α} {key : String}

theorem carries_required {a : α} (h : c.Carries a) : (required key c).Carries a := ⟨h.crosses, h.readsBack, nofun⟩

theorem carries_text (s : String) : (required key .string).Carries s := carries_required (Codec.carries_string s)

theorem carries_omitted : ∀ {o : Option α}, (∀ a ∈ o, c.Carries a) → (omitted key c).Carries o
  | none, _ => ⟨rfl, rfl, fun _ => rfl⟩
  | some a, h =>
    ⟨(h a rfl).crosses, Codec.readsBack_optional fun b hb => ⟨(h b hb).readsBack, (h b hb).solid⟩, nofun⟩

theorem carries_omittedList {as : List α} (h : ∀ a ∈ as, c.Carries a) : (omittedList key c).Carries as where
  crosses := by
    refine crossed_arr fun j hj => ?_
    obtain ⟨a, ha, rfl⟩ := List.mem_map.1 hj
    exact (h a ha).crosses
  readsBack := by
    refine ⟨Codec.readsBack_array fun a ha => (h a ha).readsBack, fun hempty => ?_⟩
    rw [List.isEmpty_iff.1 hempty]
    rfl

end Field

/-! ## What has been read -/

section

variable {α : Type} {c : Codec α} {d : Document} {key : String}

theorem Codec.decode_of_optional {a : α} (h : c.optional.decode d = .ok (some a)) : c.decode d = .ok a := by
  unfold optional at h
  dsimp only at h
  split at h
  · cases h
  · cases h
  · obtain ⟨b, hb, heq⟩ := map_eq_ok_iff.1 h
    exact Option.some.inj heq ▸ hb

theorem Field.exists_of_reads_required {part : Option Document} {a : α} (h : (Field.required key c).Reads part a) :
    ∃ d, c.decode d = .ok a := by
  cases part with
  | none => cases h
  | some d => exact ⟨d, h⟩

theorem Field.exists_of_reads_omitted {part : Option Document} {a : α} (h : (Field.omitted key c).Reads part (some a)) :
    ∃ d, c.decode d = .ok a := by
  cases part with
  | none => cases h
  | some d => exact ⟨d, Codec.decode_of_optional h⟩

end

end PasskeyConsent

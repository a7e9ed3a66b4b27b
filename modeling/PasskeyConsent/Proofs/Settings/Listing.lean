import PasskeyConsent.Proofs.Settings.Edits
import PasskeyConsent.Proofs.Settings.Overlay
/-!
# The listing as an export

What is listed of settings can be entered again: each leaf is shown as a text that stands for its value
(`Leaf.entered?_shown`).  So entering a listing, in any order and over any settings, makes the settings that were listed
(`listing_exports`).  An address is the one leaf that is not entered as it is shown: it has to pass the endpoint check, and
the blanks around it are lost.
-/
namespace PasskeyConsent

/-! ## Addresses that are not null -/

namespace Url

theorem mem_of_mem_clean {s : String} {c : Char} (h : c ∈ clean s) : c ∈ s.toList := by
  have hends (cs : List Char) {c : Char} (h : c ∈ cs.dropWhile (·.toNat ≤ 0x20)) : c ∈ cs :=
    (List.dropWhile_sublist _).subset h
  exact hends _ (List.mem_reverse.1 (hends _ (List.mem_reverse.1 (List.mem_filter.1 h).1)))

/-- An address has a colon behind its scheme. -/
theorem colon_mem_of_read {s : String} {u : Url} (h : read s = .ok u) : ':' ∈ s.toList := by
  unfold read at h
  split at h
  · cases h
  · rename_i hscheme
    refine mem_of_mem_clean ?_
    unfold readScheme at hscheme
    dsimp only at hscheme
    split at hscheme
    · rename_i hdrop
      exact List.mem_of_mem_drop (hdrop ▸ List.mem_cons_self)
    · cases hscheme

end Url

namespace Settings

/-- A text that the endpoint check accepts does not stand for no address. -/
theorem meansNone_of_accepts {u : String} (htrim : Text.trim u = u) (h : Accepts u) : meansNone u = false := by
  obtain ⟨url, h⟩ := h
  unfold Endpoint.read at h
  rw [htrim] at h
  have hcolon : ':' ∈ u.toList := by
    cases hread : Url.read u with
    | error f => rw [hread] at h; cases h
    | ok v => exact Url.colon_mem_of_read hread
  rw [meansNone, Bool.or_eq_false_iff]
  constructor
  · cases hempty : u.isEmpty with
    | false => rfl
    | true =>
      rw [String.isEmpty_iff.1 hempty] at hcolon
      cases hcolon
  · refine beq_false_of_ne fun hnull => ?_
    have hlower : ':' ∈ u.toList.map Char.toLower := List.mem_map.2 ⟨':', hcolon, by decide⟩
    rw [← String.toList_ofList (l := u.toList.map Char.toLower), hnull] at hlower
    exact absurd hlower (by decide)

/-! ## Entering what is shown -/

/-- Whether a value can be entered as it is shown. -/
def Leaf.Enterable : (ℓ : Leaf) → ℓ.Value → Prop
  | .url, v => ∀ u, v = some u → Text.trim u = u ∧ Accepts u
  | _, _ => True

theorem readU64_render {n : Nat} (h : n ≤ Text.maxU64) : Text.readU64 (render (.int n)) = .ok n := by
  show Text.readU64 (Json.int n).compact = .ok n
  rw [Json.compact_nat]
  exact Text.readNumeral_toString h

/-- **What is shown stands for the value that is shown.** -/
theorem Leaf.entered?_shown {ℓ : Leaf} {v : ℓ.Value} (h : ℓ.Enterable v) : ℓ.entered? (ℓ.shown v) = some v := by
  have hu64 (n : UInt64) : (Text.readU64 (render (.int n.toNat))).toOption.map UInt64.ofNat = some n := by
    rw [readU64_render (Nat.le_sub_one_of_lt n.toNat_lt)]
    exact congrArg some UInt64.ofNat_toNat
  have hu32 (n : UInt32) :
      ((Text.readU64 (render (.int n.toNat))).toOption.filter (· ≤ Text.maxU32)).map UInt32.ofNat = some n := by
    have hle : n.toNat ≤ Text.maxU32 := Nat.le_sub_one_of_lt n.toNat_lt
    rw [readU64_render (Nat.le_trans hle (by decide)), Except.toOption, Option.filter_some, if_pos (decide_eq_true hle)]
    exact congrArg some UInt32.ofNat_toNat
  cases ℓ with
  | network | rpId | logFormat => rfl
  | url =>
    cases v with
    | none => decide
    | some u =>
      obtain ⟨htrim, haccepts⟩ := h u rfl
      have hnull := meansNone_of_accepts htrim haccepts
      obtain ⟨address, haddress⟩ := haccepts
      show (if meansNone (Text.trim u) then _ else
        (Endpoint.read endpointPath (Text.trim u)).toOption.map fun _ => some (Text.trim u)) = _
      rw [htrim, hnull, haddress]
      rfl
  | rpcTimeout | proceedDelay | timeToLive | contextAge | waitTimeout => exact hu64 v
  | maxUses => exact hu32 v
  | uiMode | behavior | theme => cases v <;> decide

/-! ## Entering a listing -/

theorem set_shown {t : Settings} {ℓ : Leaf} {v : ℓ.Value} (h : ℓ.Enterable v) :
    t.set ℓ.path (ℓ.shown v) = .ok (t.put ℓ v) := by
  refine ok_of_toOption ?_
  rw [set_path, Leaf.entered?_shown h]
  rfl

theorem Leaf.path_injective {ℓ m : Leaf} (h : ℓ.path = m.path) : ℓ = m :=
  pointer_injective (by rw [← pointerOf_path, h, pointerOf_path])

/-- The settings that have the leaves of others under some paths. -/
def restored (t s : Settings) (paths : List String) : Settings :=
  ofValues fun ℓ => if ℓ.path ∈ paths then s.value ℓ else t.value ℓ

/-- **Entering some of what is listed** restores the leaves that it is listed for. -/
theorem foldlM_set {s : Settings} (hs : ∀ ℓ : Leaf, ℓ.Enterable (s.value ℓ)) :
    ∀ {entries : List (String × String)} (t : Settings), (∀ e ∈ entries, e ∈ s.list) →
      entries.foldlM (fun t e => t.set e.1 e.2) t = .ok (t.restored s (entries.map (·.1)))
  | [], t, _ => by
    refine congrArg Except.ok (eq_of_value fun ℓ => ?_)
    rw [restored, value_ofValues, List.map_nil, if_neg List.not_mem_nil]
  | e :: entries, t, h => by
    obtain ⟨he, hentries⟩ := List.forall_mem_cons.1 h
    rw [list_eq] at he
    obtain ⟨ℓ, -, rfl⟩ := List.mem_map.1 he
    rw [List.foldlM_cons]
    dsimp only
    rw [set_shown (hs ℓ)]
    refine (foldlM_set hs (t.put ℓ (s.value ℓ)) hentries).trans (congrArg Except.ok (eq_of_value fun m => ?_))
    rw [restored, value_ofValues, restored, value_ofValues, List.map_cons]
    by_cases hm : m = ℓ
    · subst hm
      rw [value_put_self, ite_self, if_pos List.mem_cons_self]
    · have hpath : m.path ∈ ℓ.path :: entries.map (·.1) ↔ m.path ∈ entries.map (·.1) :=
        List.mem_cons.trans (or_iff_right (mt Leaf.path_injective hm))
      simp only [hpath, value_put_of_ne hm]

theorem mem_paths (s : Settings) (ℓ : Leaf) : ℓ.path ∈ s.list.map (·.1) := by
  rw [list_eq, List.map_map]
  exact List.mem_map.2 ⟨ℓ, ℓ.mem_all, rfl⟩

/-- **The listing is a complete export**: if the address in it is one that can be entered as it stands, entering it in any
order over any settings succeeds and makes the settings that were listed; it is in strict order of the paths, and each of
its entries is what is read at its path. -/
theorem listing_exports (s : Settings) :
    ((∀ u, s.rpc.url = some u → Text.trim u = u ∧ Accepts u) → ∀ (t : Settings) (entries : List (String × String)),
      entries.Perm s.list → entries.foldlM (fun t e => t.set e.1 e.2) t = .ok s) ∧
    (s.list.map (·.1)).Pairwise (· < ·) ∧ ∀ e ∈ s.list, s.get? e.1 = some e.2 := by
  refine ⟨fun haddress t entries hperm => ?_, ?_, fun e he => ?_⟩
  · have hs : ∀ ℓ : Leaf, ℓ.Enterable (s.value ℓ) := by
      intro ℓ
      cases ℓ with
      | url => exact haddress
      | _ => trivial
    rw [foldlM_set hs t fun e he => hperm.mem_iff.1 he]
    refine congrArg Except.ok (eq_of_value fun ℓ => ?_)
    rw [restored, value_ofValues, if_pos ((hperm.map _).mem_iff.2 (s.mem_paths ℓ))]
  · rw [list_eq, List.map_map]
    show (Leaf.all.map Leaf.path).Pairwise (· < ·)
    decide
  · rw [list_eq] at he
    obtain ⟨ℓ, -, rfl⟩ := List.mem_map.1 he
    exact s.get?_path ℓ

/-- Settings with quotation marks, a control and the greatest numbers. -/
def exported : Settings where
  rpc := { network := "\"\x01null\"", url := some "https://[::1]", timeoutMs := 18446744073709551615 }
  confirmation := { uiMode := .skip, theme := .light }
  warmSession := { maxUses := 4294967295 }

theorem listing_exports_reversed :
    (Text.trim "https://[::1]" = "https://[::1]" ∧ Accepts "https://[::1]") ∧
      exported.list.reverse.foldlM (fun t e => t.set e.1 e.2) ({ worker := { waitTimeoutMs := 1 } } : Settings) =
        .ok exported := by
  have haddress : Text.trim "https://[::1]" = "https://[::1]" ∧ Accepts "https://[::1]" := by
    refine ⟨by decide +kernel, ?_⟩
    have hread : (Endpoint.read endpointPath "https://[::1]").toOption.isSome = true := by decide +kernel
    obtain ⟨url, hurl⟩ := Option.isSome_iff_exists.1 hread
    exact ⟨url, ok_of_toOption hurl⟩
  exact ⟨haddress, (listing_exports exported).1 (fun u hu => Option.some.inj hu ▸ haddress) _ _ (List.reverse_perm _)⟩

end Settings
end PasskeyConsent

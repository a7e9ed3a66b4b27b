import Mathlib.Tactic.SplitIfs
import PasskeyConsent.Proofs.Json.Forms
import PasskeyConsent.Proofs.Settings.Address
import PasskeyConsent.Proofs.Text.Numeral
/-!
# Edits of leaves

A leaf is set to what a text stands for in its place (`Leaf.entered?`), and it is shown then as the text's echo: a number
in decimal, an address without the blanks around it, all else as it was entered.  A path that leads to leaves is reset to
their defaults.  Both go through the whole tree, and yet no other leaf changes (`edits_framed`).
-/
namespace PasskeyConsent

theorem ok_of_toOption {ε α : Type} {x : Except ε α} {a : α} (h : x.toOption = some a) : x = .ok a := by
  cases x with
  | error e => cases h
  | ok b => exact congrArg Except.ok (Option.some.inj h)

namespace Settings

/-! ## Leaves in the tree -/

namespace Leaf

/-- The dotted path of a leaf. -/
def path (ℓ : Leaf) : String := Text.join "." ℓ.pointer

theorem pointerOf_path (ℓ : Leaf) : pointerOf ℓ.path = ℓ.pointer := by cases ℓ <;> decide +kernel

theorem pointer_injective {ℓ m : Leaf} (h : ℓ.pointer = m.pointer) : ℓ = m :=
  List.inj_on_of_nodup_map (by decide : (all.map pointer).Nodup) (mem_all ℓ) (mem_all m) h

/-- What stands in the tree for a section. -/
theorem get?_treeOf_home (f : Leaf → Json) (ℓ : Leaf) : (treeOf f).get? ℓ.home.1 =
    some (.obj ((all.filter fun m => m.home.1 = ℓ.home.1).map fun m => (m.field.key, f m))) := by
  cases ℓ <;> rfl

theorem exists_home {f : Leaf → Json} {step : String} {sec : Json} (h : (treeOf f).get? step = some sec) :
    ∃ ℓ : Leaf, ℓ.home.1 = step := by
  simp only [treeOf, Json.get?, Json.lookup] at h
  split_ifs at h with h1 h2 h3 h4 h5 h6 h7
  · exact ⟨.uiMode, h1⟩
  · exact ⟨.logFormat, h2⟩
  · exact ⟨.contextAge, h3⟩
  · exact ⟨.network, h4⟩
  · exact ⟨.maxUses, h5⟩
  · exact ⟨.rpId, h6⟩
  · exact ⟨.waitTimeout, h7⟩

theorem replaceAt_home {f g : Leaf → Json} {ℓ : Leaf} {sec : Json} (h : (treeOf g).get? ℓ.home.1 = some sec) :
    Json.replaceAt sec [ℓ.home.1] (treeOf f) = treeOf fun m => if m.home.1 = ℓ.home.1 then g m else f m := by
  cases ℓ <;> cases h <;> rfl

theorem part?_treeOf (f : Leaf → Json) (ℓ : Leaf) : ℓ.part? (.ofJson (treeOf f)) = some (.ofJson (f ℓ)) := by
  cases ℓ <;> rfl

/-! ## Values as texts -/

/-- A value as it is shown. -/
def shown (ℓ : Leaf) (v : ℓ.Value) : String := render (ℓ.json v)

/-- What a text stands for that is entered in the place of a leaf, unless it is refused. -/
def entered? : (ℓ : Leaf) → String → Option ℓ.Value
  | .network, text | .rpId, text | .logFormat, text => some text
  | .url, text =>
    if meansNone (Text.trim text) then some none
    else (Endpoint.read endpointPath (Text.trim text)).toOption.map fun _ => some (Text.trim text)
  | .rpcTimeout, text | .proceedDelay, text | .timeToLive, text | .contextAge, text | .waitTimeout, text =>
    (Text.readU64 text).toOption.map .ofNat
  | .maxUses, text => ((Text.readU64 text).toOption.filter (· ≤ Text.maxU32)).map .ofNat
  | .uiMode, text => (UiMode.codec.ofJson (.str text)).toOption
  | .behavior, text => (Behavior.codec.ofJson (.str text)).toOption
  | .theme, text => (Theme.codec.ofJson (.str text)).toOption

/-- How a text is shown that has been entered in the place of a leaf: a number in decimal, an address without the blanks
at its ends or as null, and all else as it is. -/
def echo? : Leaf → String → Option String
  | .url, text => some (if meansNone (Text.trim text) then "null" else Text.trim text)
  | .rpcTimeout, text | .proceedDelay, text | .timeToLive, text | .contextAge, text | .waitTimeout, text
  | .maxUses, text => (Text.readU64 text).toOption.map toString
  | _, text => some text

theorem u64_ofJson_nat {n : Nat} (h : n ≤ Text.maxU64) : Codec.u64.ofJson (.nat n) = .ok (.ofNat n) := by
  rw [Codec.hasForm_u64 (.nat n) (.ofNat n)]
  exact congrArg (fun k : Nat => Json.int k) (UInt64.toNat_ofNat_of_lt' (Nat.lt_succ_of_le h)).symm

/-- A number is read from 32 bits if they hold it. -/
theorem u32_ofJson_nat (n : Nat) :
    (Codec.u32.ofJson (.nat n)).toOption = if n ≤ Text.maxU32 then some (.ofNat n) else none := by
  split
  · rename_i h
    rw [(Codec.hasForm_u32 (.nat n) (.ofNat n)).2
      (congrArg (fun k : Nat => Json.int k) (UInt32.toNat_ofNat_of_lt' (Nat.lt_succ_of_le h)).symm)]
    rfl
  · rename_i h
    cases hread : Codec.u32.ofJson (.nat n) with
    | error f => rfl
    | ok m =>
      have hn : (n : Int) = m.toNat := Json.int.inj ((Codec.hasForm_u32 _ _).1 hread)
      exact absurd (Nat.le_of_lt_succ (Int.ofNat.inj hn ▸ m.toNat_lt)) h

theorem shown_u64 {n : Nat} (h : n ≤ Text.maxU64) : render (.int (UInt64.ofNat n).toNat) = toString n := by
  show (Json.int (UInt64.ofNat n).toNat).compact = toString n
  rw [UInt64.toNat_ofNat_of_lt' (Nat.lt_succ_of_le h), Json.compact_nat]

theorem shown_u32 {n : Nat} (h : n ≤ Text.maxU32) : render (.int (UInt32.ofNat n).toNat) = toString n := by
  show (Json.int (UInt32.ofNat n).toNat).compact = toString n
  rw [UInt32.toNat_ofNat_of_lt' (Nat.lt_succ_of_le h), Json.compact_nat]

/-- **What has been entered is shown as its echo.** -/
theorem echo?_of_entered? {ℓ : Leaf} {text : String} {v : ℓ.Value} (h : ℓ.entered? text = some v) :
    ℓ.echo? text = some (ℓ.shown v) := by
  cases ℓ with
  | network | rpId | logFormat => exact h
  | url =>
    simp only [entered?] at h
    simp only [echo?]
    split at h
    · rename_i hnone
      cases h
      rw [if_pos hnone]
      rfl
    · rename_i hnone
      obtain ⟨u, -, rfl⟩ := Option.map_eq_some_iff.1 h
      rw [if_neg hnone]
      rfl
  | rpcTimeout | proceedDelay | timeToLive | contextAge | waitTimeout =>
    obtain ⟨n, hn, rfl⟩ := Option.map_eq_some_iff.1 h
    simp only [echo?, hn]
    exact congrArg some (shown_u64 (Text.le_of_readNumeral (ok_of_toOption hn))).symm
  | maxUses =>
    obtain ⟨n, hn, rfl⟩ := Option.map_eq_some_iff.1 h
    obtain ⟨hn, hle⟩ := Option.filter_eq_some_iff.1 hn
    simp only [echo?, hn]
    exact congrArg some (shown_u32 (of_decide_eq_true hle)).symm
  | uiMode | behavior | theme =>
    have hname := Codec.encode_of_ofJson_str (by decide) (ok_of_toOption h)
    exact congrArg some (congrArg render hname).symm

/-- In the place of a number a text is a numeral. -/
theorem coerce_int (path text : String) (n : Int) :
    (coerce path (.int n) text).toOption = (Text.readU64 text).toOption.map .nat := by
  unfold coerce
  cases Text.readU64 text <;> rfl

/-- **What is coerced to the kind of a leaf and read is what is entered.** -/
theorem bind_coerce {ℓ : Leaf} (hurl : ℓ ≠ .url) (path text : String) (v : ℓ.Value) :
    ((coerce path (ℓ.json v) text).toOption.bind fun j => (ℓ.field.codec.ofJson j).toOption) = ℓ.entered? text := by
  cases ℓ with
  | network | rpId | logFormat => rfl
  | url => exact absurd rfl hurl
  | uiMode | behavior | theme => rfl
  | rpcTimeout | proceedDelay | timeToLive | contextAge | waitTimeout =>
    show ((coerce path (.int _) text).toOption.bind fun j => (Codec.u64.ofJson j).toOption) =
      (Text.readU64 text).toOption.map .ofNat
    rw [coerce_int]
    cases hread : Text.readU64 text with
    | error f => rfl
    | ok n =>
      show (Codec.u64.ofJson (.nat n)).toOption = _
      rw [u64_ofJson_nat (Text.le_of_readNumeral hread)]
      rfl
  | maxUses =>
    show ((coerce path (.int _) text).toOption.bind fun j => (Codec.u32.ofJson j).toOption) =
      ((Text.readU64 text).toOption.filter (· ≤ Text.maxU32)).map .ofNat
    rw [coerce_int]
    cases hread : Text.readU64 text with
    | error f => rfl
    | ok n =>
      show (Codec.u32.ofJson (.nat n)).toOption = ((some n).filter (· ≤ Text.maxU32)).map .ofNat
      rw [u32_ofJson_nat, Option.filter_some]
      by_cases h : n ≤ Text.maxU32 <;> simp [h]

/-- What is coerced to the kind of a leaf and read is what the leaf has for it. -/
theorem eq_json_of_coerce {ℓ : Leaf} (hurl : ℓ ≠ .url) {path text : String} {v w : ℓ.Value} {j : Json}
    (hj : coerce path (ℓ.json v) text = .ok j) (hw : ℓ.field.codec.ofJson j = .ok w) : j = ℓ.json w := by
  cases ℓ with
  | network | rpId | logFormat =>
    cases hj
    exact congrArg Json.str (Except.ok.inj hw)
  | url => exact absurd rfl hurl
  | uiMode | behavior | theme =>
    cases hj
    exact (Codec.encode_of_ofJson_str (by decide) hw).symm
  | rpcTimeout | proceedDelay | timeToLive | contextAge | waitTimeout => exact (Codec.hasForm_u64 _ _).1 hw
  | maxUses => exact (Codec.hasForm_u32 _ _).1 hw

end Leaf

/-! ## Setting -/

variable {s s' : Settings} {ℓ m : Leaf} {path text : String}

/-- The settings with another value of a leaf. -/
def put (s : Settings) (ℓ : Leaf) (v : ℓ.Value) : Settings := ofValues (Function.update s.value ℓ v)

theorem value_put_self (s : Settings) (ℓ : Leaf) (v : ℓ.Value) : (s.put ℓ v).value ℓ = v := by
  rw [put, value_ofValues, Function.update_self]

theorem value_put_of_ne (h : m ≠ ℓ) (v : ℓ.Value) : (s.put ℓ v).value m = s.value m := by
  rw [put, value_ofValues, Function.update_of_ne h]

theorem tree_put (s : Settings) (ℓ : Leaf) (v : ℓ.Value) :
    (s.put ℓ v).tree = treeOf (Function.update (fun m => m.json (s.value m)) ℓ (ℓ.json v)) := by
  rw [tree_eq]
  congr 1
  funext m
  by_cases h : m = ℓ
  · subst h
    rw [value_put_self, Function.update_self]
  · rw [value_put_of_ne h, Function.update_of_ne h]

theorem ofJson_of_treeOf {f : Leaf → Json} (h : codec.ofJson (treeOf f) = .ok s) (ℓ : Leaf) :
    ℓ.field.codec.ofJson (f ℓ) = .ok (s.value ℓ) := by
  have hreads := reads_of_decode h ℓ
  rw [Leaf.part?_treeOf] at hreads
  exact hreads

theorem get?_path (s : Settings) (ℓ : Leaf) : s.get? ℓ.path = some (ℓ.shown (s.value ℓ)) := by
  rw [get?, Leaf.pointerOf_path, tree_eq, at?_treeOf]
  rfl

theorem list_eq (s : Settings) : s.list = Leaf.all.map fun ℓ => (ℓ.path, ℓ.shown (s.value ℓ)) := by
  rw [list, tree_eq, leaves_treeOf fun ℓ => ℓ.json_isObject _, List.map_map]
  rfl

theorem toOption_ofTree (path : String) (j : Json) : (ofTree path j).toOption = (codec.ofJson j).toOption := by
  unfold ofTree
  cases codec.ofJson j <;> rfl

/-- **What a tree is read to in which one leaf has changed.** -/
theorem ofJson_update {j : Json} (hj : ∀ v, ℓ.field.codec.ofJson j = .ok v → j = ℓ.json v) :
    (codec.ofJson (treeOf (Function.update (fun m => m.json (s.value m)) ℓ j))).toOption =
      (ℓ.field.codec.ofJson j).toOption.map (s.put ℓ) := by
  cases hv : ℓ.field.codec.ofJson j with
  | ok v =>
    rw [hj v hv, ← tree_put, ofJson_tree]
    rfl
  | error f =>
    cases hs : codec.ofJson (treeOf (Function.update (fun m => m.json (s.value m)) ℓ j)) with
    | error g => rfl
    | ok t =>
      have hleaf := ofJson_of_treeOf hs ℓ
      rw [Function.update_self, hv] at hleaf
      cases hleaf

theorem toOption_setEndpoint (s : Settings) (text : String) :
    (s.setEndpoint text).toOption = (Leaf.entered? .url text).map (s.put .url) := by
  simp only [setEndpoint, Leaf.entered?]
  split
  · rfl
  · cases Endpoint.read endpointPath (Text.trim text) <;> rfl

/-- **What a leaf is set to.** -/
theorem set_path (s : Settings) (ℓ : Leaf) (text : String) :
    (s.set ℓ.path text).toOption = (ℓ.entered? text).map (s.put ℓ) := by
  by_cases hurl : ℓ = .url
  · subst hurl
    rw [set, if_pos (by decide), toOption_setEndpoint]
  · have hpath : ℓ.path ≠ endpointPath := by
      revert hurl
      cases ℓ <;> decide
    rw [set, if_neg hpath, Leaf.pointerOf_path, tree_eq, at?_treeOf, ← Leaf.bind_coerce hurl ℓ.path text (s.value ℓ)]
    dsimp only
    cases hj : coerce ℓ.path (ℓ.json (s.value ℓ)) text with
    | error f => rfl
    | ok j =>
      show (ofTree ℓ.path (Json.replaceAt j ℓ.pointer (treeOf fun ℓ => ℓ.json (s.value ℓ)))).toOption = _
      rw [toOption_ofTree, replaceAt_treeOf, ofJson_update fun v hv => Leaf.eq_json_of_coerce hurl hj hv]
      rfl

/-! ## Resetting -/

theorem home_isPrefix_iff : [ℓ.home.1] <+: m.pointer ↔ m.home.1 = ℓ.home.1 := by
  rw [Leaf.pointer, List.cons_prefix_cons]
  exact ⟨fun h => h.1.symm, fun h => ⟨h.symm, List.nil_prefix⟩⟩

theorem pointer_isPrefix_iff : ℓ.pointer <+: m.pointer ↔ m = ℓ :=
  ⟨fun h => (Leaf.pointer_injective (h.eq_of_length rfl)).symm, fun h => h ▸ List.prefix_refl _⟩

/-- No pointer leads into a leaf. -/
theorem at?_json (ℓ : Leaf) (v : ℓ.Value) (step : String) (rest : Json.Pointer) : (ℓ.json v).at? (step :: rest) = none := by
  have hplain : (ℓ.json v).asArray? = none ∧ (ℓ.json v).get? step = none := by
    cases ℓ with
    | url => cases v <;> exact ⟨rfl, rfl⟩
    | _ => exact ⟨rfl, rfl⟩
  rw [Json.at?_cons hplain.1, hplain.2]
  rfl

/-- The settings that have the leaves of others where a pointer leads to them. -/
def overlaid (s t : Settings) (p : Json.Pointer) : Settings :=
  ofValues fun ℓ => if p <+: ℓ.pointer then t.value ℓ else s.value ℓ

theorem tree_overlaid (s t : Settings) (p : Json.Pointer) : (s.overlaid t p).tree =
    treeOf fun ℓ => if p <+: ℓ.pointer then ℓ.json (t.value ℓ) else ℓ.json (s.value ℓ) := by
  rw [tree_eq]
  congr 1
  funext ℓ
  rw [overlaid, value_ofValues]
  split <;> rfl

theorem overlaid_pointer (s t : Settings) (m : Leaf) : s.overlaid t m.pointer = s.put m (t.value m) := by
  refine congrArg ofValues (funext fun n => ?_)
  by_cases hn : n = m
  · subst hn
    rw [Function.update_self, if_pos (List.prefix_refl _)]
  · rw [Function.update_of_ne hn, if_neg (mt pointer_isPrefix_iff.1 hn)]

/-- **Where a pointer leads in a tree**, and what becomes of another tree that gets this part. -/
theorem replaceAt_part {t : Settings} {p : Json.Pointer} {j : Json} (hj : t.tree.at? p = some j) :
    (∃ ℓ : Leaf, p <+: ℓ.pointer) ∧ Json.replaceAt j p s.tree = (s.overlaid t p).tree := by
  rcases p with _ | ⟨step, rest⟩
  · cases Option.some.inj ((Json.at?_nil _).symm.trans hj)
    refine ⟨⟨.network, List.nil_prefix⟩, ?_⟩
    rw [tree_overlaid, tree_eq t]
    simp [Json.replaceAt]
  rw [tree_eq t, Json.at?_cons rfl] at hj
  obtain ⟨sec, hsec, hrest⟩ := Option.bind_eq_some_iff.1 hj
  obtain ⟨ℓ, rfl⟩ := Leaf.exists_home hsec
  rcases rest with _ | ⟨key, rest⟩
  · -- The pointer leads to a section.
    cases Option.some.inj ((Json.at?_nil _).symm.trans hrest)
    refine ⟨⟨ℓ, home_isPrefix_iff.2 rfl⟩, ?_⟩
    rw [tree_eq s, Leaf.replaceAt_home hsec, tree_overlaid]
    simp only [home_isPrefix_iff]
  cases Option.some.inj ((Leaf.get?_treeOf_home _ ℓ).symm.trans hsec)
  rw [Json.at?_cons rfl] at hrest
  obtain ⟨e, he, hend⟩ := Option.bind_eq_some_iff.1 hrest
  obtain ⟨m, hm, heq⟩ := List.mem_map.1 (Json.mem_of_lookup he)
  cases heq
  have hhome : m.home.1 = ℓ.home.1 := of_decide_eq_true (List.mem_filter.1 hm).2
  rcases rest with _ | ⟨step, rest⟩
  · -- The pointer is that of a leaf.
    cases Option.some.inj ((Json.at?_nil _).symm.trans hend)
    have hpointer : [ℓ.home.1, m.field.key] = m.pointer := by rw [Leaf.pointer, hhome]
    rw [hpointer, overlaid_pointer, tree_put, tree_eq s, replaceAt_treeOf]
    exact ⟨⟨m, List.prefix_refl _⟩, rfl⟩
  · rw [at?_json] at hend
    cases hend

theorem exists_at? {p : Json.Pointer} (t : Settings) (h : p <+: ℓ.pointer) : ∃ j, t.tree.at? p = some j := by
  rcases List.prefix_cons_iff.1 h with rfl | ⟨rest, rfl, hrest⟩
  · exact ⟨t.tree, Json.at?_nil _⟩
  · rw [tree_eq]
    rcases List.prefix_cons_iff.1 hrest with rfl | ⟨rest, rfl, hnil⟩
    · rw [Json.at?_cons_of_get? (Leaf.get?_treeOf_home _ ℓ)]
      exact ⟨_, Json.at?_nil _⟩
    · cases List.prefix_nil.1 hnil
      exact ⟨_, at?_treeOf _ ℓ⟩

/-- **What a reset does**: the leaves that the path leads to get their defaults, if there are any. -/
theorem reset_eq_ok_iff : s.reset path = .ok s' ↔
    (∃ ℓ : Leaf, pointerOf path <+: ℓ.pointer) ∧ s' = s.overlaid {} (pointerOf path) := by
  unfold reset
  cases hpart : ({} : Settings).tree.at? (pointerOf path) with
  | none =>
    refine ⟨nofun, fun ⟨⟨ℓ, hℓ⟩, _⟩ => ?_⟩
    obtain ⟨j, hj⟩ := exists_at? {} hℓ
    cases hpart.symm.trans hj
  | some j =>
    obtain ⟨hleaf, htree⟩ := replaceAt_part (s := s) hpart
    have hread : ofTree path (Json.replaceAt j (pointerOf path) s.tree) = .ok (s.overlaid {} (pointerOf path)) := by
      rw [htree, ofTree, ofJson_tree]
      rfl
    dsimp only
    rw [hread, Except.ok.injEq, eq_comm]
    exact (and_iff_right hleaf).symm

/-! ## What an edit leaves alone -/

/-- **What edits do**: one that fails changes nothing; a leaf under its path is set to what the text stands for, is
shown as its echo, and no other leaf changes; and a path is reset just when it leads to leaves, which have their defaults
then, and again no other leaf changes. -/
theorem edits_framed (s : Settings) :
    (∀ (e : Edit) (f : SettingsError), e.result s = .error f → e.apply s = s) ∧
    (∀ path ∈ s.list.map (·.1), ∃ ℓ : Leaf, ℓ.path = path ∧ ∀ text,
      (s.set path text).toOption = (ℓ.entered? text).map (s.put ℓ) ∧
        ∀ s', s.set path text = .ok s' → s'.get? path = ℓ.echo? text ∧ ∀ m ≠ ℓ, s'.value m = s.value m) ∧
    (∀ path, ((∃ s', s.reset path = .ok s') ↔ ∃ ℓ : Leaf, pointerOf path <+: ℓ.pointer) ∧
      ∀ s', s.reset path = .ok s' →
        ∀ ℓ : Leaf, s'.value ℓ = if pointerOf path <+: ℓ.pointer then ℓ.default else s.value ℓ) := by
  refine ⟨fun e f hf => ?_, fun path hpath => ?_, fun path => ⟨⟨?_, ?_⟩, ?_⟩⟩
  · rw [Edit.apply, hf]
    rfl
  · rw [list_eq, List.map_map] at hpath
    obtain ⟨ℓ, -, rfl⟩ := List.mem_map.1 hpath
    refine ⟨ℓ, rfl, fun text => ⟨set_path s ℓ text, fun s' hs' => ?_⟩⟩
    have hput : (ℓ.entered? text).map (s.put ℓ) = some s' := (set_path s ℓ text).symm.trans (congrArg Except.toOption hs')
    obtain ⟨v, hv, rfl⟩ := Option.map_eq_some_iff.1 hput
    refine ⟨?_, fun m hm => value_put_of_ne hm v⟩
    show (s.put ℓ v).get? ℓ.path = _
    rw [get?_path, value_put_self, Leaf.echo?_of_entered? hv]
  · rintro ⟨s', hs'⟩
    exact (reset_eq_ok_iff.1 hs').1
  · exact fun h => ⟨_, reset_eq_ok_iff.2 ⟨h, rfl⟩⟩
  · intro s' hs' ℓ
    obtain ⟨-, rfl⟩ := reset_eq_ok_iff.1 hs'
    exact value_ofValues _ ℓ

/-- A number beyond the limit of its leaf, a numeral with a sign and zeros, and a whole section. -/
theorem edits_framed_warmSession :
    (Edit.set "warm_session.max_uses" "4294967296").apply {} = {} ∧
    (∃ s', ({} : Settings).set "warm_session.max_uses" "+07" = .ok s' ∧ s'.get? "warm_session.max_uses" = some "7" ∧
      s'.value .timeToLive = 300) ∧
    ∃ s', (({} : Settings).put .maxUses 7).reset "warm_session" = .ok s' ∧ s'.value .maxUses = 3 := by
  obtain ⟨hfailed, hset, -⟩ := edits_framed {}
  obtain ⟨-, -, hreset⟩ := edits_framed (({} : Settings).put .maxUses 7)
  have hpath : "warm_session.max_uses" ∈ ({} : Settings).list.map (·.1) := by decide +kernel
  obtain ⟨ℓ, hℓ, hset⟩ := hset _ hpath
  have hmaxUses : ℓ = .maxUses := by
    revert hℓ
    cases ℓ <;> decide
  subst hmaxUses
  have hread : ({} : Settings).set "warm_session.max_uses" "+07" = .ok { warmSession := { maxUses := 7 } } := by decide +kernel
  obtain ⟨hecho, hframe⟩ := (hset "+07").2 _ hread
  have hrefused : (Edit.set "warm_session.max_uses" "4294967296").result {} =
      .error (.rejected "warm_session.max_uses" "invalid value: integer `4294967296`, expected u32") := by decide +kernel
  have hrestored : (({} : Settings).put .maxUses 7).reset "warm_session" = .ok {} := by decide +kernel
  refine ⟨hfailed _ _ hrefused, ⟨_, hread, hecho.trans (by decide +kernel), hframe .timeToLive (by decide)⟩, _, hrestored, ?_⟩
  rw [(hreset "warm_session").2 _ hrestored .maxUses, if_pos (by decide +kernel)]
  rfl

end Settings
end PasskeyConsent

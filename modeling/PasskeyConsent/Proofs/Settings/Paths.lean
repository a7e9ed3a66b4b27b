import PasskeyConsent.Proofs.Settings.Leaves
/-!
# Edits by path

Which pointer a path stands for, and what a change at a pointer leaves alone: settings that are read from a changed tree
have the leaves that the pointer does not lead to as they were (`value_of_replaceAt`).
-/
namespace PasskeyConsent

/-! ## Changes at a pointer -/

namespace Json

variable {new j child : Json} {key step : String} {rest : Pointer}

theorem at?_nil (j : Json) : j.at? [] = some j := by rw [at?]

theorem at?_cons (h : j.asArray? = none) (step : String) (rest : Pointer) :
    j.at? (step :: rest) = (j.get? step).bind (·.at? rest) := by
  cases j with
  | obj members => rw [at?, get?]
  | arr items => cases h
  | _ => simp [at?, get?]

theorem get?_replaceAt_self (h : j.get? step = some child) :
    (replaceAt new (step :: rest) j).get? step = some (replaceAt new rest child) := by
  cases j with
  | obj members =>
    have h : lookup step members = some child := h
    simp only [replaceAt, h]
    exact lookup_insertMember_self _ _ _
  | _ => cases h

theorem get?_replaceAt_of_ne (h : step ≠ key) : (replaceAt new (step :: rest) j).get? key = j.get? key := by
  cases j with
  | obj members =>
    simp only [replaceAt]
    split
    · exact lookup_insertMember_of_ne h _ _
    · rfl
  | arr items =>
    simp only [replaceAt]
    split <;> rfl
  | _ => rfl

theorem at?_cons_of_get? (h : j.get? step = some child) : j.at? (step :: rest) = child.at? rest := by
  have hj : j.asArray? = none := by
    cases j with
    | arr => cases h
    | _ => rfl
  rw [at?_cons hj, h, Option.bind_some]

end Json

namespace Settings

variable {s s' : Settings} {new j sec e : Json} {p : Json.Pointer} {ℓ : Leaf}

theorem get?_treeOf (f : Leaf → Json) (ℓ : Leaf) :
    ∃ sec, (treeOf f).get? ℓ.home.1 = some sec ∧ sec.get? ℓ.field.key = some (f ℓ) := by
  cases ℓ <;> simp [treeOf, Leaf.home, Leaf.field, Field.withDefault, Field.nullable, Json.get?, Json.lookup]

/-- What is read of a leaf from what stands in its place. -/
theorem decode_of_get? (h : codec.ofJson j = .ok s) (hnames : ℓ.field.names = [ℓ.field.key])
    (hsec : j.get? ℓ.home.1 = some sec) (he : sec.get? ℓ.field.key = some e) :
    ℓ.field.codec.decode (.ofJson e) = .ok (s.value ℓ) := by
  have hreads := reads_of_decode h ℓ
  rw [Leaf.part?, Json.part?_ofJson_eq, Json.part?_of_get? hsec, Option.map_some, Option.bind_some, hnames,
    Json.part?_ofJson_eq, Json.part?_of_get? he, Option.map_some] at hreads
  exact hreads

theorem eq_of_get? (h : codec.ofJson j = .ok s) (hnames : ℓ.field.names = [ℓ.field.key]) (hsec : j.get? ℓ.home.1 = some sec)
    {v : ℓ.Value} (he : sec.get? ℓ.field.key = some (ℓ.json v)) : s.value ℓ = v :=
  Except.ok.inj ((decode_of_get? h hnames hsec he).symm.trans (ℓ.readsBack v))

/-- There is nothing in a leaf that a pointer could lead to. -/
theorem replaceAt_json (new : Json) (step : String) (rest : Json.Pointer) (ℓ : Leaf) (v : ℓ.Value) :
    Json.replaceAt new (step :: rest) (ℓ.json v) = ℓ.json v := by
  cases ℓ with
  | url => cases v <;> rfl
  | _ => rfl

/-- **A change at a pointer leaves every leaf alone that it does not lead to.** -/
theorem value_of_replaceAt (h : codec.ofJson (Json.replaceAt new p s.tree) = .ok s')
    (hnames : ℓ.field.names = [ℓ.field.key]) (hp : ¬p <+: ℓ.pointer) : s'.value ℓ = s.value ℓ := by
  obtain ⟨sec, hsec, hleaf⟩ := get?_treeOf (fun ℓ => ℓ.json (s.value ℓ)) ℓ
  rw [← tree_eq] at hsec
  suffices hkept : ∃ sec', (Json.replaceAt new p s.tree).get? ℓ.home.1 = some sec' ∧
      sec'.get? ℓ.field.key = some (ℓ.json (s.value ℓ)) by
    obtain ⟨sec', hsec', hleaf'⟩ := hkept
    exact eq_of_get? h hnames hsec' hleaf'
  cases p with
  | nil => exact absurd List.nil_prefix hp
  | cons step rest =>
    by_cases hstep : step = ℓ.home.1
    · subst hstep
      refine ⟨_, Json.get?_replaceAt_self hsec, ?_⟩
      cases rest with
      | nil => exact absurd ⟨[ℓ.field.key], rfl⟩ hp
      | cons step rest =>
        by_cases hstep : step = ℓ.field.key
        · subst hstep
          rw [Json.get?_replaceAt_self hleaf]
          cases rest with
          | nil => exact absurd (List.prefix_refl _) hp
          | cons step rest => rw [replaceAt_json]
        · rw [Json.get?_replaceAt_of_ne hstep, hleaf]
    · exact ⟨sec, (Json.get?_replaceAt_of_ne hstep).trans hsec, hleaf⟩

/-- **A leaf that a pointer leads to is that of the settings whose part is put there.** -/
theorem value_of_replaceAt_part {t : Settings} (hpart : t.tree.at? p = some new)
    (h : codec.ofJson (Json.replaceAt new p s.tree) = .ok s') (hnames : ℓ.field.names = [ℓ.field.key]) (hp : p <+: ℓ.pointer) :
    s'.value ℓ = t.value ℓ := by
  obtain ⟨sec, hsec, hleaf⟩ := get?_treeOf (fun ℓ => ℓ.json (s.value ℓ)) ℓ
  obtain ⟨sec', hsec', hleaf'⟩ := get?_treeOf (fun ℓ => ℓ.json (t.value ℓ)) ℓ
  rw [← tree_eq] at hsec hsec'
  rcases List.prefix_cons_iff.1 hp with rfl | ⟨rest, rfl, hrest⟩
  · rw [Json.at?] at hpart
    cases hpart
    exact eq_of_get? h hnames hsec' hleaf'
  · have hreplaced : (Json.replaceAt new (_ :: rest) s.tree).get? _ = _ := Json.get?_replaceAt_self hsec
    rw [Json.at?_cons_of_get? hsec'] at hpart
    rcases List.prefix_cons_iff.1 hrest with rfl | ⟨rest, rfl, hnil⟩
    · rw [Json.at?] at hpart
      cases hpart
      exact eq_of_get? h hnames hreplaced hleaf'
    · cases List.prefix_nil.1 hnil
      rw [Json.at?_cons_of_get? hleaf', Json.at?] at hpart
      cases hpart
      exact eq_of_get? h hnames hreplaced (Json.get?_replaceAt_self hleaf)

end Settings

/-! ## Pointers of paths -/

theorem Text.flatMap_splitAt (sep : Char) : ∀ cs : List Char, (splitAt sep cs).flatMap (sep :: ·) = sep :: cs
  | [] => rfl
  | c :: cs => by
    have ih := flatMap_splitAt sep cs
    rw [splitAt]
    split
    · rename_i hc
      rw [List.flatMap_cons, ih, hc]
      rfl
    · split
      · rename_i hnil
        rw [hnil] at ih
        cases ih
      · rename_i piece more hsplit
        rw [hsplit, List.flatMap_cons, List.cons_append] at ih
        rw [List.flatMap_cons, List.cons_append, List.cons_append, (List.cons.inj ih).2]

/-- A step without a tilde or a slash is written as it is. -/
theorem Json.unescapeStep_of_plain {cs : List Char} (htilde : '~' ∉ unescapeStep cs) (hslash : '/' ∉ unescapeStep cs) :
    unescapeStep cs = cs := by
  fun_induction unescapeStep cs with
  | case1 => rfl
  | case2 rest ih => exact absurd List.mem_cons_self hslash
  | case3 rest ih => exact absurd List.mem_cons_self htilde
  | case4 c rest _ _ ih =>
    rw [ih (fun h => htilde (List.mem_cons_of_mem _ h)) fun h => hslash (List.mem_cons_of_mem _ h)]

namespace Settings

/-- The characters of a path, with a slash for every dot. -/
def slashed (path : String) : List Char := path.toList.map fun c => if c = '.' then '/' else c

theorem pointerOf_eq (path : String) :
    pointerOf path = (Text.splitAt '/' (slashed path)).map fun step => String.ofList (Json.unescapeStep step) := rfl

theorem pointerOf_ne_nil (path : String) : pointerOf path ≠ [] := by
  intro h
  have hsplit := Text.flatMap_splitAt '/' (slashed path)
  rw [List.map_eq_nil_iff.1 ((pointerOf_eq path).symm.trans h)] at hsplit
  cases hsplit

/-- **The one way to write a pointer of plain steps**, up to dots for slashes. -/
theorem slashed_of_pointerOf {path : String} {p : Json.Pointer} (h : pointerOf path = p)
    (hplain : ∀ step ∈ p, '~' ∉ step.toList ∧ '/' ∉ step.toList) :
    '/' :: slashed path = p.flatMap fun step => '/' :: step.toList := by
  rw [← Text.flatMap_splitAt '/' (slashed path), ← h, pointerOf_eq, List.flatMap_map, List.flatMap_def, List.flatMap_def]
  congr 1
  refine List.map_congr_left fun piece hpiece => ?_
  obtain ⟨htilde, hslash⟩ := hplain _ (h ▸ pointerOf_eq path ▸ List.mem_map_of_mem hpiece)
  rw [String.toList_ofList] at htilde hslash ⊢
  rw [Json.unescapeStep_of_plain htilde hslash]

/-- Characters without a slash were written without a dot. -/
theorem eq_of_slashed {cs ds : List Char} (h : cs.map (fun c => if c = '.' then '/' else c) = ds) (hslash : '/' ∉ ds) :
    cs = ds := by
  rw [← h, List.map_congr_left, List.map_id]
  intro c hc
  have hc : (if c = '.' then '/' else c) ∈ ds := h ▸ List.mem_map_of_mem hc
  split at hc
  · exact absurd hc hslash
  · rename_i hdot
    exact if_neg hdot

theorem eq_of_pointerOf_section {path step : String} (h : pointerOf path = [step])
    (hplain : '~' ∉ step.toList ∧ '/' ∉ step.toList) : path = step := by
  have hpath := slashed_of_pointerOf h (by simpa using hplain)
  rw [List.flatMap_singleton] at hpath
  exact String.toList_injective (eq_of_slashed (List.cons.inj hpath).2 hplain.2)

theorem eq_of_pointerOf_leaf {path a b : String} (h : pointerOf path = [a, b])
    (ha : '~' ∉ a.toList ∧ '/' ∉ a.toList) (hb : '~' ∉ b.toList ∧ '/' ∉ b.toList) :
    path = a ++ "." ++ b ∨ path = a ++ "/" ++ b := by
  have hpath := slashed_of_pointerOf h (by simp [ha, hb])
  simp only [List.flatMap_cons, List.flatMap_nil, List.append_nil, List.cons_append, List.cons.injEq, true_and] at hpath
  obtain ⟨as, rest, hsplit, has, hrest⟩ := List.map_eq_append_iff.1 hpath
  obtain ⟨c, bs, rfl, hc, hbs⟩ := List.map_eq_cons_iff.1 hrest
  have has := eq_of_slashed has ha.2
  have hbs := eq_of_slashed hbs hb.2
  have hpath : path.toList = a.toList ++ c :: b.toList := by rw [hsplit, has, hbs]
  split at hc
  · rename_i hdot
    subst hdot
    exact .inl (String.toList_injective (by simp [hpath]))
  · subst hc
    exact .inr (String.toList_injective (by simp [hpath]))

end Settings

end PasskeyConsent

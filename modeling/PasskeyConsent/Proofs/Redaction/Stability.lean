import PasskeyConsent.Proofs.Redaction.Rules
/-!
# Redaction is stable

What is redacted once is not changed by redacting it again.  Each sweep leaves a text in which it has nothing more to
do, and the later sweeps keep it so: no bearer token stands anywhere after the first, every assignment has the mask for
its value after the second, and no key text stands anywhere after the third.  The one way in which a later sweep could
undo this is to bring forth a word, and none does, since the letters of a word stand together in the text as well.
-/
namespace PasskeyConsent.Redaction

open Text (isBlank isWord)

-- The members of a text are tried one by one, not all characters there are.
attribute [local instance (2000)] List.decidableBAll Option.decidableForallMem

/-- Where a sweep shows a word that stands apart, what it looked for it in stands apart there as well. -/
theorem apart_of_alike {b b' : Option Char} {u c : Char} {w cs a rest : List Char}
    (h : takeWord (u :: w) (c :: cs) = some (a, rest)) (letter : isLetter u = true)
    (alike : b'.any isWord = b.any isWord ∨ isLetter c = false) (apart : b'.any isWord = false) :
    b.any isWord = false := by
  obtain ⟨d, a, rfl, eq, fold⟩ := cons_of_takeWord h
  obtain ⟨rfl, -⟩ := List.cons.inj eq
  rcases alike with same | other
  · rw [← same, apart]
  · simp [isLetter_of_foldCase_eq fold letter] at other

/-! ## No bearer token -/

/-- A bearer token that a sweep shows where it changed nothing stands in the text. -/
theorem isSome_bearerRule_of_sweepAt {rule : Rule} {starts : List Char} (lawful : Lawful rule starts)
    (whole : unbroken starts "bearer".toList = true) {b b' : Option Char} {c : Char} {cs : List Char}
    (kept : rule b (c :: cs) = none) (alike : b'.any isWord = b.any isWord ∨ isLetter c = false)
    (h : (bearerRule b' (sweepAt rule b (c :: cs))).isSome) : (bearerRule b (c :: cs)).isSome := by
  obtain ⟨apart, word, _, shown, gap, token⟩ := isSome_bearerRule.mp h
  obtain ⟨rest, found, rfl⟩ := lawful.exists_of_takeWord_sweepAt whole kept shown
  refine isSome_bearerRule.mpr ⟨apart_of_alike found (by decide) alike apart, word, rest, found, ?_, ?_⟩
  · rwa [lawful.any_head?_sweepAt isBlank_foldCase] at gap
  · rwa [(lawful.blanks_sweepAt _ rest).2, lawful.any_head?_sweepAt isTokenChar_foldCase] at token

/-- No bearer token stands in what a rule puts, whatever follows. -/
def LeavesNoBearer (rule : Rule) : Prop :=
  ∀ {b cs hit}, rule b cs = some hit → ∀ b' rest, Along (fun b cs => bearerRule b cs = none) b' hit.replacement rest

theorem bearerRule_leavesNoBearer : LeavesNoBearer bearerRule := by
  intro b cs hit h b' rest
  obtain ⟨-, word, behind, last, found, -, -, rfl⟩ := bearerRule_eq_some.mp h
  obtain ⟨-, fold⟩ := takeWord_eq_some.mp found
  obtain ⟨c, word, rfl, -, -⟩ := cons_of_takeWord found
  -- The mask is no token, so the word before it heads none, and no other letter of the replacement begins the word.
  have first : bearerRule b' (c :: word ++ ' ' :: mask ++ rest) = none := by
    rw [← Option.not_isSome_iff_eq_none, isSome_bearerRule]
    rintro ⟨-, word', rest', found', -, token⟩
    rw [List.append_assoc, takeWord_eq_some.mpr ⟨rfl, fold⟩] at found'
    obtain ⟨rfl, rfl⟩ := Prod.mk.inj (Option.some.inj found')
    exact absurd token Bool.false_ne_true
  have others : unbroken ['b'] ((c :: (word ++ ' ' :: mask)).map foldCase) = true := by
    rw [← List.cons_append, List.map_append, fold]
    decide
  exact ⟨first, lawful_bearerRule.along_of_unbroken others rest⟩

theorem not_start_of_blank {starts cs : List Char} (letters : ∀ c ∈ starts, isLetter c = true) {c : Char}
    (h : c ∈ cs.takeWhile isBlank) : foldCase c ∉ starts := fun start => by
  have blank : isBlank c = true := List.all_eq_true.mp List.all_takeWhile c h
  have letter := letters _ start
  rw [isLetter_foldCase] at letter
  simp [isBlank_of_isLetter letter] at blank

theorem assignmentRule_leavesNoBearer : LeavesNoBearer assignmentRule := by
  intro b cs hit h b' rest
  obtain ⟨-, w, key, behind, c, value, last, mem, found, gap, sign, -, rfl⟩ := assignmentRule_eq_some.mp h
  have spelled : ∀ w ∈ spellings, ∀ d ∈ w, d ∉ ['b'] := by decide
  have masks : ∀ d ∈ mask, foldCase d ∉ ['b'] := by decide
  refine lawful_bearerRule.along_of_starts (fun d mem' => ?_) b' rest
  simp only [assignmentHit, List.mem_append, List.mem_cons, or_assoc] at mem'
  rcases mem' with inKey | blank | rfl | blank | inMask
  · exact spelled w mem _ ((takeWord_eq_some.mp found).2 ▸ List.mem_map_of_mem inKey)
  · exact not_start_of_blank (by decide) blank
  · rcases sign with rfl | rfl <;> decide
  · exact not_start_of_blank (by decide) blank
  · exact masks d inMask

theorem keyTextRule_leavesNoBearer : LeavesNoBearer keyTextRule := by
  intro b cs hit h b' rest
  obtain ⟨-, word, behind, last, -, -, -, -, rfl⟩ := keyTextRule_eq_some.mp h
  have plain : ∀ c ∈ "ed25519:".toList ++ mask, foldCase c ∉ ['b'] := by decide
  exact lawful_bearerRule.along_of_starts plain b' rest

/-- After their sweep no bearer token stands anywhere. -/
theorem no_bearer_sweepAt_bearerRule (cs : List Char) :
    Along (fun b cs => bearerRule b cs = none) none (sweepAt bearerRule none cs) [] := by
  refine lawful_bearerRule.along_sweep (fun kept alike => ?_) (fun found _ => bearerRule_leavesNoBearer found _ _) cs
  rw [← Option.not_isSome_iff_eq_none]
  intro shown
  have := isSome_bearerRule_of_sweepAt lawful_bearerRule (by decide) kept alike shown
  simp [kept] at this

/-- A sweep over a text without bearer tokens brings none forth. -/
theorem no_bearer_sweepAt {rule : Rule} {starts : List Char} (lawful : Lawful rule starts)
    (whole : unbroken starts "bearer".toList = true) (leaves : LeavesNoBearer rule) {cs : List Char}
    (h : Along (fun b cs => bearerRule b cs = none) none cs []) :
    Along (fun b cs => bearerRule b cs = none) none (sweepAt rule none cs) [] := by
  refine lawful.along_sweepAt (fun none_here kept alike => ?_) (fun _ found _ => leaves found _ _) h (.inl rfl)
  rw [← Option.not_isSome_iff_eq_none] at none_here ⊢
  exact fun shown => none_here (isSome_bearerRule_of_sweepAt lawful whole kept alike shown)

/-! ## Only masked assignments -/

/-- An assignment found at this place has the mask for its value already. -/
def Masked (b : Option Char) (cs : List Char) : Prop :=
  ∀ ⦃w key rest c behind⦄, b.any isWord = false → w ∈ spellings → takeWord w cs = some (key, rest) →
    rest.dropWhile isBlank = c :: behind → (c = ':' ∨ c = '=') →
    (behind.dropWhile isBlank).head?.any isValueChar = true →
    (behind.dropWhile isBlank).takeWhile isValueChar = mask

theorem masked_of_none {b : Option Char} {cs : List Char} (h : assignmentRule b cs = none) : Masked b cs := by
  intro w key rest c behind apart mem found gap sign value
  have := isSome_assignmentRule.mpr ⟨apart, w, key, rest, c, behind, mem, found, gap, sign, value⟩
  simp [h] at this

theorem takeWhile_mask {cs : List Char} (h : cs.head?.any isValueChar = false) :
    (mask ++ cs).takeWhile isValueChar = mask := by
  have all : ∀ c ∈ mask, isValueChar c = true := by decide
  rw [List.takeWhile_append_of_pos all, takeWhile_eq_nil.mpr h, List.append_nil]

/-- What a sweep for assignments puts reads back as an assignment of the mask, if no value goes on behind it. -/
theorem masked_of_hit {w key rest : List Char} (gap gap' : List Char) {c : Char} (mem : w ∈ spellings)
    (fold : key.map foldCase = w) (blank : ∀ d ∈ gap, isBlank d = true) (blank' : ∀ d ∈ gap', isBlank d = true)
    (sign : c = ':' ∨ c = '=') (after : rest.head?.any isValueChar = false) (b : Option Char) :
    Masked b (key ++ (gap ++ c :: (gap' ++ (mask ++ rest)))) := by
  intro v key₂ rest₂ d behind _ mem' found split _ _
  have here : takeWord w (key ++ (gap ++ c :: (gap' ++ (mask ++ rest)))) =
      some (key, gap ++ c :: (gap' ++ (mask ++ rest))) :=
    takeWord_eq_some.mpr ⟨rfl, fold⟩
  obtain ⟨rfl, rfl⟩ := Prod.mk.inj (takeKey_unique mem' mem found here)
  have off : isBlank c = false := by rcases sign with rfl | rfl <;> decide
  rw [List.dropWhile_append_of_pos blank, List.dropWhile_cons_of_neg (by simp [off])] at split
  obtain ⟨rfl, rfl⟩ := List.cons.inj split
  rw [List.dropWhile_append_of_pos blank']
  exact takeWhile_mask after

theorem Masked.same {b : Option Char} {cs : List Char} (h : Masked b cs) {hit : Hit}
    (found : assignmentRule b cs = some hit) : hit.replacement ++ hit.rest = cs := by
  obtain ⟨apart, w, key, rest, c, behind, last, mem, taken, gap, sign, value, rfl⟩ := assignmentRule_eq_some.mp found
  have same := h apart mem taken gap sign (exists_getLast?_takeWhile.mp ⟨last, value⟩)
  obtain ⟨rfl, -⟩ := takeWord_eq_some.mp taken
  have split : rest = rest.takeWhile isBlank ++ c :: behind := by rw [← gap, List.takeWhile_append_dropWhile]
  simp only [assignmentHit, ← same, List.append_assoc, List.cons_append, List.takeWhile_append_dropWhile, ← split]

/-- The assignment that a sweep shows where it changed nothing stands in the text, up to what the sweep did behind the
sign. -/
theorem assignment_of_sweepAt {rule : Rule} {starts : List Char} (lawful : Lawful rule starts) {w : List Char}
    (mem : w ∈ spellings) (whole : unbroken starts w = true) {b b' : Option Char} {c d : Char}
    {cs key rest behind : List Char}
    (kept : rule b (c :: cs) = none) (alike : b'.any isWord = b.any isWord ∨ isLetter c = false)
    (apart : b'.any isWord = false) (shown : takeWord w (sweepAt rule b (c :: cs)) = some (key, rest))
    (gap : rest.dropWhile isBlank = d :: behind) (sign : d = ':' ∨ d = '=') :
    b.any isWord = false ∧ ∃ rest' behind', takeWord w (c :: cs) = some (key, rest') ∧
      rest'.dropWhile isBlank = d :: behind' ∧
      ∃ b'', behind.dropWhile isBlank = sweepAt rule b'' (behind'.dropWhile isBlank) := by
  obtain ⟨rest', found, rfl⟩ := lawful.exists_of_takeWord_sweepAt whole kept shown
  rw [(lawful.blanks_sweepAt _ rest').2] at gap
  have plain : isLetter d = false := by rcases sign with rfl | rfl <;> decide
  obtain ⟨behind', gap', rfl⟩ := lawful.cons_of_sweepAt gap plain
  obtain ⟨u, w, rfl, -, letter⟩ := cons_of_spelling mem
  exact ⟨apart_of_alike found letter alike apart, rest', behind', found, gap', _, (lawful.blanks_sweepAt _ behind').2⟩

/-- What a sweep for assignments puts holds no assignment but the masked one, if no value goes on behind it. -/
theorem masked_along_hit {b : Option Char} {cs swept : List Char} {hit : Hit} (found : assignmentRule b cs = some hit)
    (after : swept.head?.any isValueChar = false) (b' : Option Char) : Along Masked b' hit.replacement swept := by
  obtain ⟨-, w, key, rest, c, behind, last, mem, taken, -, sign, -, rfl⟩ := assignmentRule_eq_some.mp found
  obtain ⟨-, fold⟩ := takeWord_eq_some.mp taken
  obtain ⟨u, w, rfl, -, -⟩ := cons_of_spelling mem
  obtain ⟨k, key, rfl, -, -⟩ := cons_of_takeWord taken
  have first := masked_of_hit (rest.takeWhile isBlank) (behind.takeWhile isBlank) mem fold
    (List.all_eq_true.mp List.all_takeWhile) (List.all_eq_true.mp List.all_takeWhile) sign after b'
  -- No assignment starts elsewhere in what is put: not within the key, at a blank, at the sign or in the mask.
  have inKey : unbroken ['t', 'a', 's', 'p'] ((k :: key).map foldCase) = true := by
    rw [fold]
    exact unbroken_spelling _ mem
  have signs : ∀ d ∈ [c], foldCase d ∉ ['t', 'a', 's', 'p'] := by
    simp only [List.mem_singleton, forall_eq]
    rcases sign with rfl | rfl <;> decide
  have letters : ∀ d ∈ ['t', 'a', 's', 'p'], isLetter d = true := by decide
  have others : Along (fun b cs => assignmentRule b cs = none) (some k)
      (key ++ (rest.takeWhile isBlank ++ ([c] ++ (behind.takeWhile isBlank ++ mask)))) swept := by
    refine along_append.mpr ⟨lawful_assignmentRule.along_of_unbroken inKey _, along_append.mpr
      ⟨lawful_assignmentRule.along_of_starts (fun _ => not_start_of_blank letters) _ _, along_append.mpr
      ⟨lawful_assignmentRule.along_of_starts signs _ _, along_append.mpr
      ⟨lawful_assignmentRule.along_of_starts (fun _ => not_start_of_blank letters) _ _,
      along_mask_assignmentRule _ _⟩⟩⟩⟩
  simp only [assignmentHit, List.append_assoc, List.cons_append]
  exact ⟨by simpa using first, by simpa using others.imp masked_of_none⟩

/-- After its sweep every assignment is masked. -/
theorem masked_sweepAt_assignmentRule (cs : List Char) : Along Masked none (sweepAt assignmentRule none cs) [] := by
  refine lawful_assignmentRule.along_sweep ?_ ?_ cs
  · intro b b' c cs kept alike w key rest d behind apart mem shown gap sign value
    obtain ⟨apart', rest', behind', found, gap', b'', eq⟩ :=
      assignment_of_sweepAt lawful_assignmentRule mem (unbroken_spelling w mem) kept alike apart shown gap sign
    rw [eq, lawful_assignmentRule.any_head?_sweepAt isValueChar_foldCase] at value
    have := isSome_assignmentRule.mpr ⟨apart', w, key, rest', d, behind', mem, found, gap', sign, value⟩
    simp [kept] at this
  · intro b b' cs hit found apart
    refine masked_along_hit found ?_ b'
    rw [lawful_assignmentRule.any_head?_sweepAt isValueChar_foldCase]
    obtain ⟨-, w, key, rest, c, behind, last, -, -, -, -, -, rfl⟩ := assignmentRule_eq_some.mp found
    exact any_head?_dropWhile _

/-- The sweep for key texts leaves the assignments masked. -/
theorem masked_sweepAt_keyTextRule {cs : List Char} (h : Along Masked none cs []) :
    Along Masked none (sweepAt keyTextRule none cs) [] := by
  have whole : ∀ w ∈ spellings, unbroken ['e'] w = true := by decide
  refine lawful_keyTextRule.along_sweepAt ?_ ?_ h (.inl rfl)
  · intro b b' c cs masked kept alike w key rest d behind apart mem shown gap sign value
    obtain ⟨apart', rest', behind', found, gap', b'', eq⟩ :=
      assignment_of_sweepAt lawful_keyTextRule mem (whole w mem) kept alike apart shown gap sign
    rw [eq, lawful_keyTextRule.any_head?_sweepAt isValueChar_foldCase] at value
    rw [eq]
    have same := masked apart' mem found gap' sign value
    have split := List.takeWhile_append_dropWhile (p := isValueChar) (l := behind'.dropWhile isBlank)
    rw [same] at split
    rw [← split, sweepAt_append_of_none (along_mask_keyTextRule _ _)]
    refine takeWhile_mask ?_
    rw [lawful_keyTextRule.any_head?_sweepAt isValueChar_foldCase]
    exact any_head?_dropWhile _
  · intro b b' cs hit _ found _
    obtain ⟨-, word, rest, last, -, -, -, -, rfl⟩ := keyTextRule_eq_some.mp found
    exact (lawful_assignmentRule.along_of_word (by decide) (by decide) _ _).imp masked_of_none

/-! ## No key text -/

/-- Up to where the key characters end no hit starts, if none does at their beginning. -/
theorem keys_sweepAt {b : Option Char} {cs : List Char} (h : keyTextRule b cs = none) :
    (sweepAt keyTextRule b cs).takeWhile isKeyChar = cs.takeWhile isKeyChar ∧
      ((sweepAt keyTextRule b cs).dropWhile isKeyChar).head?.any isWord =
        (cs.dropWhile isKeyChar).head?.any isWord := by
  induction cs generalizing b with
  | nil => exact ⟨rfl, rfl⟩
  | cons c cs ih =>
    rw [sweepAt_of_none h]
    cases key : isKeyChar c with
    | false => simp [key]
    | true =>
      have next : keyTextRule (some c) cs = none := by
        cases found : keyTextRule (some c) cs with
        | none => rfl
        | some hit => simpa [isWord_of_isKeyChar key] using lawful_keyTextRule.apart found
      simpa [key] using ih next

theorem no_keyText_sweepAt (cs : List Char) :
    Along (fun b cs => keyTextRule b cs = none) none (sweepAt keyTextRule none cs) [] := by
  refine lawful_keyTextRule.along_sweep ?_ ?_ cs
  · intro b b' c cs kept alike
    rw [← Option.not_isSome_iff_eq_none, isSome_keyTextRule]
    rintro ⟨apart, word, behind, shown, long, after⟩
    obtain ⟨rest, found, rfl⟩ := lawful_keyTextRule.exists_of_takeWord_sweepAt (by decide) kept shown
    cases inner : keyTextRule (lastOf b word) rest with
    | none =>
      obtain ⟨run, next⟩ := keys_sweepAt inner
      have : (keyTextRule b (c :: cs)).isSome :=
        isSome_keyTextRule.mpr
          ⟨apart_of_alike found (by decide) alike apart, word, rest, found, run ▸ long, next ▸ after⟩
      simp [kept] at this
    | some hit =>
      -- Another key text begins here, and the sweep shows its first word where the key should be.
      rw [lawful_keyTextRule.sweepAt_of_some inner] at long
      obtain ⟨-, word', behind, last, -, -, -, -, rfl⟩ := keyTextRule_eq_some.mp inner
      have short : ∀ rest, (("ed25519:".toList ++ mask ++ rest).takeWhile isKeyChar).length = 7 := fun _ => rfl
      exact absurd (short _ ▸ long) (by decide)
  · intro b b' cs hit found _
    obtain ⟨-, word, rest, last, -, -, -, -, rfl⟩ := keyTextRule_eq_some.mp found
    generalize sweepAt keyTextRule _ _ = swept
    have first : keyTextRule b' ("ed25519:".toList ++ mask ++ swept) = none := by
      rw [← Option.not_isSome_iff_eq_none, isSome_keyTextRule]
      rintro ⟨-, word', rest', found', long, -⟩
      rw [List.append_assoc, takeWord_eq_some.mpr ⟨rfl, by decide⟩] at found'
      obtain ⟨rfl, rfl⟩ := Prod.mk.inj (Option.some.inj found')
      exact absurd long (by decide : ¬40 ≤ 0)
    have others : unbroken ['e'] (("ed25519:".toList ++ mask).map foldCase) = true := by decide
    exact ⟨first, lawful_keyTextRule.along_of_unbroken others swept⟩

/-! ## All three sweeps -/

section

variable (cs : List Char)

theorem no_bearer_sweeps : Along (fun b cs => bearerRule b cs = none) none
    (sweepAt keyTextRule none (sweepAt assignmentRule none (sweepAt bearerRule none cs))) [] :=
  no_bearer_sweepAt lawful_keyTextRule (by decide) keyTextRule_leavesNoBearer
    (no_bearer_sweepAt lawful_assignmentRule (by decide) assignmentRule_leavesNoBearer
      (no_bearer_sweepAt_bearerRule cs))

theorem masked_sweeps :
    Along Masked none (sweepAt keyTextRule none (sweepAt assignmentRule none (sweepAt bearerRule none cs))) [] :=
  masked_sweepAt_keyTextRule (masked_sweepAt_assignmentRule _)

end

end PasskeyConsent.Redaction

namespace PasskeyConsent

open Redaction

/-- **A redacted text is not changed by redacting it again.** -/
theorem redact_redact (s : String) : redact (redact s) = redact s := by
  have quiet : ∀ {rule : Rule} {starts}, Lawful rule starts → ∀ cs,
      Along (fun b cs => rule b cs = none) none cs [] → sweepAt rule none cs = cs :=
    fun lawful _ none => lawful.sweepAt_eq_self (none.imp fun none hit found => by simp [none] at found)
  have masked : ∀ cs, Along Masked none cs [] → sweepAt assignmentRule none cs = cs :=
    fun _ h => lawful_assignmentRule.sweepAt_eq_self (h.imp fun masked _ => masked.same)
  rw [redact_eq, redact_eq s, String.toList_ofList, quiet lawful_bearerRule _ (no_bearer_sweeps s.toList),
    masked _ (masked_sweeps s.toList), quiet lawful_keyTextRule _ (no_keyText_sweepAt _)]

end PasskeyConsent

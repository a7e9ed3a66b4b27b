import PasskeyConsent.Proofs.Redaction.Rules
/-!
# A text in two parts

What a sweep makes of the first part of a text, whatever the second part is, as long as that begins in a known way and
no word runs from the one into the other.  Either the sweep gets past the first part by itself (`Passes`), or it finds
a hit in it that reads on (`Reaches`): a bearer token or a value that the first part does not end.
-/
namespace PasskeyConsent.Redaction

open Text (isBlank isWord)

-- The members of a text are tried one by one, not all characters there are.
attribute [local instance (2000)] List.decidableBAll Option.decidableForallMem

/-- The second part begins with one of these, up to case. -/
def Begins (heads : List Char) (cs : List Char) : Prop := ∃ c rest, cs = c :: rest ∧ foldCase c ∈ heads

/-- The sweep from here on gets past `first` by itself, and what it leaves of it ends as it does, in no word. -/
def Passes (rule : Rule) (heads : List Char) (b : Option Char) (first : List Char) : Prop :=
  ∃ out b', b'.any isWord = false ∧ (∀ b, (first = [] → b.any isWord = false) → (lastOf b out).any isWord = false) ∧
    ∀ second, Begins heads second → sweepAt rule b (first ++ second) = out ++ sweepAt rule b' second

/-- The sweep from here on comes to a place in `first` from which a hit reads on. -/
def Reaches (rule : Rule) (heads : List Char) (Open : Option Char → List Char → Prop) (b : Option Char)
    (first : List Char) : Prop :=
  ∃ passed last b' out, first = passed ++ last ∧ last ≠ [] ∧ Open b' last ∧
    ∀ second, Begins heads second → sweepAt rule b (first ++ second) = out ++ sweepAt rule b' (last ++ second)

/-- What is found at a place of the first part, before anything that begins in the known way: nothing, a hit that ends
in the first part, or one that reads on. -/
inductive Decides (heads : List Char) (found : List Char → Option Hit) (readsOn : Prop) : Prop
  | quiet (none : ∀ second, Begins heads second → found second = none)
  | inside (replacement : List Char) (last : Char) (rest : List Char)
      (some : ∀ second, Begins heads second → found second = some ⟨replacement, last, rest ++ second⟩)
  | beyond (reads : readsOn)

/-- A rule decides by what it seeks, if that is in the first part or nowhere, and by what is found behind it. -/
theorem Seeks.decides {rule : Rule} {take : List Char → Option (List Char × List Char)}
    {find : List Char → List Char → Option Hit} (seeks : Seeks rule take find) {heads first : List Char}
    {b : Option Char} {readsOn : Prop}
    (takes : ∀ second, Begins heads second →
      take (first ++ second) = (take first).map fun (a, rest) => (a, rest ++ second))
    (behind : ∀ {a rest}, b.any isWord = false → take first = some (a, rest) →
      Decides heads (fun second => find a (rest ++ second)) readsOn) :
    Decides heads (fun second => rule b (first ++ second)) readsOn := by
  cases apart : b.any isWord with
  | true => exact .quiet fun second _ => seeks.of_word apart
  | false =>
    cases taken : take first with
    | none => exact .quiet fun second begins => seeks.of_none (by rw [takes second begins, taken]; rfl)
    | some p =>
      have same : ∀ second, Begins heads second → rule b (first ++ second) = find p.1 (p.2 ++ second) :=
        fun second begins => seeks.of_some apart (by rw [takes second begins, taken]; rfl)
      cases behind apart taken with
      | quiet none => exact .quiet fun second begins => (same second begins).trans (none second begins)
      | inside replacement last rest some =>
        exact .inside replacement last rest fun second begins => (same second begins).trans (some second begins)
      | beyond reads => exact .beyond reads

/-- The sweep of the first part, from what the rule does at its places. -/
theorem Lawful.passes_or_reaches {rule : Rule} {starts heads : List Char} (lawful : Lawful rule starts)
    {Open : Option Char → List Char → Prop} (known : ∃ second, Begins heads second)
    (decides : ∀ b first, first ≠ [] → (lastOf b first).any isWord = false →
      Decides heads (fun second => rule b (first ++ second)) (Open b first))
    {b : Option Char} {first : List Char} (ends : (lastOf b first).any isWord = false) :
    Passes rule heads b first ∨ Reaches rule heads Open b first := by
  induction size : first.length using Nat.strongRecOn generalizing b first with
  | ind n ih =>
    subst size
    cases first with
    | nil => exact .inl ⟨[], b, ends, fun _ h => h rfl, fun _ _ => rfl⟩
    | cons c first =>
      cases decides b (c :: first) (by simp) ends with
      | quiet none =>
        have step : ∀ second, Begins heads second →
            sweepAt rule b (c :: first ++ second) = c :: sweepAt rule (some c) (first ++ second) :=
          fun second begins => sweepAt_of_none (none second begins)
        rcases ih first.length (Nat.lt_succ_self _) (b := some c) ends rfl with
          ⟨out, b', off, closes, eq⟩ | ⟨passed, last, b', out, rfl, ne, reads, eq⟩
        · refine .inl ⟨c :: out, b', off, fun _ _ => closes (some c) fun nil => ?_, fun second begins => ?_⟩
          · simpa [nil] using ends
          · rw [step second begins, eq second begins]
            rfl
        · refine .inr ⟨c :: passed, last, b', c :: out, rfl, ne, reads, fun second begins => ?_⟩
          rw [step second begins, eq second begins]
          rfl
      | inside replacement last rest found =>
        obtain ⟨any, begins⟩ := known
        obtain ⟨d, a, split, last_eq, -⟩ := lawful.taken (found any begins)
        have split : c :: first = d :: a ++ rest := List.append_cancel_right (by simpa using split)
        have shorter : rest.length < (c :: first).length := by
          rw [split, List.length_append, List.length_cons]
          omega
        rw [split, lastOf_append, lastOf_of_getLast? last_eq] at ends
        have step : ∀ second, Begins heads second →
            sweepAt rule b (c :: first ++ second) = replacement ++ sweepAt rule (some last) (rest ++ second) :=
          fun second begins => lawful.sweepAt_of_some (found second begins)
        rcases ih rest.length shorter ends rfl with
          ⟨out, b', off, closes, eq⟩ | ⟨passed, reading, b', out, rfl, ne, reads, eq⟩
        · refine .inl ⟨replacement ++ out, b', off, fun _ _ => ?_, fun second begins => ?_⟩
          · rw [lastOf_append, lastOf_of_getLast? (lawful.closes (found any begins))]
            exact closes _ fun _ => (by decide : isWord ']' = false)
          · rw [step second begins, eq second begins, List.append_assoc]
        · refine .inr ⟨d :: a ++ passed, reading, b', replacement ++ out, ?_, ne, reads, fun second begins => ?_⟩
          · rw [split, List.append_assoc]
          · rw [step second begins, eq second begins, List.append_assoc]
      | beyond reads => exact .inr ⟨[], c :: first, b, [], rfl, by simp, reads, fun _ _ => rfl⟩

/-! ## Words and runs in two parts -/

theorem lastOf_of_forall {xs : List Char} (h : ∀ d ∈ xs, isWord d = false) {b : Option Char}
    (apart : b.any isWord = false) : (lastOf b xs).any isWord = false := by
  induction xs generalizing b with
  | nil => exact apart
  | cons c xs ih => exact ih (fun d mem => h d (by simp [mem])) (h c (by simp))

/-- A word is found in the first part or not at all, if it does not run on into the second. -/
theorem takeWord_append_of_ends {heads w first second : List Char} {b : Option Char} (whole : unbroken heads w = true)
    (ne : first ≠ []) (ends : (lastOf b first).any isWord = false) (begins : Begins heads second) :
    takeWord w (first ++ second) = (takeWord w first).map fun (a, rest) => (a, rest ++ second) := by
  induction first generalizing w b with
  | nil => exact absurd rfl ne
  | cons d first ih =>
    cases w with
    | nil => rfl
    | cons u w =>
      simp only [List.cons_append, takeWord]
      split
      · next fold =>
        suffices takeWord w (first ++ second) = (takeWord w first).map fun (a, rest) => (a, rest ++ second) by
          rw [this, Option.map_map, Option.map_map]
          rfl
        cases first with
        | nil =>
          cases w with
          | nil => rfl
          | cons v w =>
            obtain ⟨c, rest, rfl, head⟩ := begins
            have off : isWord u = false := by rw [← fold, isWord_foldCase]; simpa using ends
            have other : v ∉ heads := by
              simp only [unbroken, off, Bool.false_or, Bool.and_eq_true] at whole
              simpa using whole.1
            have differs : foldCase c ≠ v := fun same => other (same ▸ head)
            simp [takeWord, differs]
        | cons e first =>
          cases w with
          | nil => rfl
          | cons v w =>
            simp only [unbroken, Bool.and_eq_true] at whole
            exact ih (b := some d) whole.2 (by simp) ends
      · rfl

/-- A run that ends in the first part, or that the second does not continue, ends there. -/
theorem run_append {p : Char → Bool} (first : List Char) {second : List Char}
    (h : first.all p = false ∨ second.head?.any p = false) :
    (first ++ second).takeWhile p = first.takeWhile p ∧
      (first ++ second).dropWhile p = first.dropWhile p ++ second := by
  induction first with
  | nil =>
    have stop : second.head?.any p = false := by simpa using h
    cases second with
    | nil => exact ⟨rfl, rfl⟩
    | cons c second => simp [show p c = false by simpa using stop]
  | cons c first ih =>
    cases here : p c with
    | false => simp [here]
    | true => simpa [here] using ih (by simpa [here] using h)

theorem dropWhile_of_head {p : Char → Bool} {cs : List Char} (h : cs.head?.any p = false) : cs.dropWhile p = cs := by
  simpa using (run_append (p := p) [] (.inr h)).2

theorem dropWhile_of_forall {p : Char → Bool} {cs : List Char} (h : ∀ c ∈ cs, p c = true) : cs.dropWhile p = [] := by
  rw [← List.append_nil cs, List.dropWhile_append_of_pos h]
  rfl

theorem Begins.any_head? {heads second : List Char} (h : Begins heads second) {p : Char → Bool} {v : Bool}
    (fold : ∀ c, p (foldCase c) = p c) (all : ∀ c ∈ heads, p c = v) : second.head?.any p = v := by
  obtain ⟨c, rest, rfl, mem⟩ := h
  simpa [fold] using all _ mem

/-- A word that ends in a word character does not fill up a text that does not end in one. -/
theorem ne_nil_of_takeWord {w first a rest : List Char} {b : Option Char} (h : takeWord w first = some (a, rest))
    (word : w.getLast?.any isWord = true) (ends : (lastOf b first).any isWord = false) : rest ≠ [] := by
  rintro rfl
  obtain ⟨rfl, rfl⟩ := takeWord_eq_some.mp h
  rw [List.getLast?_map] at word
  cases last : a.getLast? with
  | none => simp [last] at word
  | some c =>
    rw [List.append_nil, lastOf_of_getLast? last] at ends
    simp [last, isWord_foldCase] at word
    simp [word] at ends

/-! ## Bearer tokens -/

/-- A bearer token that the text does not end. -/
def OpenToken (b : Option Char) (cs : List Char) : Prop :=
  b.any isWord = false ∧ ∃ word rest, takeWord "bearer".toList cs = some (word, rest) ∧
    rest.head?.any isBlank = true ∧ (rest.dropWhile isBlank).all isTokenChar = true

/-- The letters the assignments begin with. -/
def keyHeads : List Char := ['t', 'a', 's', 'p']

theorem decides_bearerRule {b : Option Char} {first : List Char} (ne : first ≠ [])
    (ends : (lastOf b first).any isWord = false) :
    Decides keyHeads (fun second => bearerRule b (first ++ second)) (OpenToken b first) := by
  refine seeks_bearerRule.decides (fun second begins => takeWord_append_of_ends (by decide) ne ends begins)
    fun {word rest} apart found => ?_
  -- The word and the blanks after it end in the first part.
  obtain ⟨d, rest, rfl⟩ := List.exists_cons_of_ne_nil (ne_nil_of_takeWord found (by decide) ends)
  have gap : ∀ second, Begins keyHeads second →
      (d :: rest ++ second).dropWhile isBlank = (d :: rest).dropWhile isBlank ++ second :=
    fun second begins => (run_append _ (.inr (begins.any_head? isBlank_foldCase (by decide)))).2
  have here : ∀ second, Begins keyHeads second → tokenAfter word (d :: rest ++ second) = if isBlank d then
      (((d :: rest).dropWhile isBlank ++ second).takeWhile isTokenChar).getLast?.map
        (tokenHit word (d :: rest ++ second)) else none := by
    intro second begins
    rw [tokenAfter, gap second begins]
    rfl
  cases blank : isBlank d with
  | false => exact .quiet fun second begins => by rw [here second begins, blank]; rfl
  | true =>
    cases all : ((d :: rest).dropWhile isBlank).all isTokenChar with
    | true => exact .beyond ⟨apart, word, d :: rest, found, by simpa using blank, all⟩
    | false =>
      cases last : (((d :: rest).dropWhile isBlank).takeWhile isTokenChar).getLast? with
      | none => exact .quiet fun second begins => by rw [here second begins, (run_append _ (.inl all)).1, last]; simp
      | some l =>
        refine .inside (word ++ ' ' :: mask) (tokenHit word (d :: rest) l).last (tokenHit word (d :: rest) l).rest
          fun second begins => ?_
        have padding := run_append (p := (· == '=')) (((d :: rest).dropWhile isBlank).dropWhile isTokenChar)
          (.inr (begins.any_head? beq_equals_foldCase (by decide)))
        rw [here second begins, (run_append _ (.inl all)).1, last, blank, if_pos rfl, Option.map_some]
        simp only [tokenHit, gap second begins, (run_append _ (.inl all)).2, padding]

/-- It reads on as far as the token and its padding go. -/
theorem OpenToken.reads_on {b : Option Char} {cs : List Char} (h : OpenToken b cs) :
    ∃ word, word.map foldCase = "bearer".toList ∧ ∀ second, Begins keyHeads second → ∃ last,
      bearerRule b (cs ++ second) =
        some ⟨word ++ ' ' :: mask, last, (second.dropWhile isTokenChar).dropWhile (· == '=')⟩ := by
  obtain ⟨apart, word, rest, found, blank, all⟩ := h
  obtain ⟨rfl, fold⟩ := takeWord_eq_some.mp found
  refine ⟨word, fold, fun second begins => ?_⟩
  have gap := (run_append rest (.inr (begins.any_head? isBlank_foldCase (by decide)))).2
  have token := fun c mem => List.all_eq_true.mp all c mem
  obtain ⟨last, last_eq⟩ : ∃ last, (second.takeWhile isTokenChar).getLast? = some last :=
    exists_getLast?_takeWhile.mpr (begins.any_head? isTokenChar_foldCase (by decide))
  refine ⟨(tokenHit word (rest ++ second) last).last,
    bearerRule_eq_some.mpr ⟨apart, word, rest ++ second, last, takeWord_eq_some.mpr ⟨by simp, fold⟩, ?_, ?_, ?_⟩⟩
  · cases rest with
    | nil => simp at blank
    | cons d rest => exact blank
  · rw [gap, List.takeWhile_append_of_pos token, getLast?_append_of_some _ last_eq]
  · simp only [tokenHit, gap, List.dropWhile_append_of_pos token]

/-! ## Assignments -/

/-- An assignment whose value the text does not end. -/
def OpenValue (b : Option Char) (cs : List Char) : Prop :=
  b.any isWord = false ∧ ∃ w key rest c behind, w ∈ spellings ∧ takeWord w cs = some (key, rest) ∧
    rest.dropWhile isBlank = c :: behind ∧ (c = ':' ∨ c = '=') ∧ (behind.dropWhile isBlank).all isValueChar = true

/-- A key or the mask comes next. -/
def valueHeads : List Char := '[' :: keyHeads

/-- A key is found in the first part or not at all. -/
theorem takeKey_append_of_ends {first second : List Char} {b : Option Char} (ne : first ≠ [])
    (ends : (lastOf b first).any isWord = false) (begins : Begins valueHeads second) :
    takeKey (first ++ second) keyNames = (takeKey first keyNames).map fun (a, rest) => (a, rest ++ second) := by
  have word_eq : ∀ w ∈ spellings, takeWord w (first ++ second) =
      (takeWord w first).map fun (a, rest) => (a, rest ++ second) := fun w mem =>
    takeWord_append_of_ends ((by decide : ∀ w ∈ spellings, unbroken valueHeads w = true) w mem) ne ends begins
  cases taken : takeKey first keyNames with
  | some p =>
    obtain ⟨w, mem, found⟩ := takeKey_eq_some.mp taken
    exact takeKey_eq_some.mpr ⟨w, mem, by rw [word_eq w mem, found]; rfl⟩
  | none =>
    rw [Option.map_none, Option.eq_none_iff_forall_not_mem]
    intro p mem
    obtain ⟨w, spelled, found⟩ := takeKey_eq_some.mp (Option.mem_def.mp mem)
    rw [word_eq w spelled, Option.map_eq_some_iff] at found
    obtain ⟨q, found, -⟩ := found
    rw [takeKey_eq_some.mpr ⟨w, spelled, found⟩] at taken
    cases taken

theorem decides_assignmentRule {b : Option Char} {first : List Char} (ne : first ≠ [])
    (ends : (lastOf b first).any isWord = false) :
    Decides valueHeads (fun second => assignmentRule b (first ++ second)) (OpenValue b first) := by
  refine seeks_assignmentRule.decides (fun second begins => takeKey_append_of_ends ne ends begins)
    fun {key rest} apart taken => ?_
  obtain ⟨w, mem, found⟩ := takeKey_eq_some.mp taken
  have blanks : ∀ second, Begins valueHeads second → ∀ first,
      (first ++ second).takeWhile isBlank = first.takeWhile isBlank ∧
      (first ++ second).dropWhile isBlank = first.dropWhile isBlank ++ second := fun second begins first =>
    run_append _ (.inr (begins.any_head? isBlank_foldCase (by decide)))
  cases gap : rest.dropWhile isBlank with
  | nil =>
    refine .quiet fun second begins => ?_
    obtain ⟨c, second, rfl, head⟩ := id begins
    have sign : ¬(c = ':' ∨ c = '=') := by
      rintro (rfl | rfl)
      · exact absurd head (by decide)
      · exact absurd head (by decide)
    rw [valueAfter, (blanks _ begins rest).2, gap]
    simp only [List.nil_append, if_neg sign]
  | cons c behind =>
    by_cases sign : c = ':' ∨ c = '='
    · cases all : (behind.dropWhile isBlank).all isValueChar with
      | true => exact .beyond ⟨apart, w, key, rest, c, behind, mem, found, gap, sign, all⟩
      | false =>
        have found_at : ∀ second, Begins valueHeads second → valueAfter key (rest ++ second) =
            ((behind.dropWhile isBlank).takeWhile isValueChar).getLast?.map
              (assignmentHit key (rest ++ second) c (behind ++ second)) := by
          intro second begins
          rw [valueAfter, (blanks _ begins rest).2, gap]
          simp only [List.cons_append, if_pos sign, (blanks _ begins behind).2, (run_append _ (.inl all)).1]
        cases last : ((behind.dropWhile isBlank).takeWhile isValueChar).getLast? with
        | none => exact .quiet fun second begins => by rw [found_at second begins, last]; rfl
        | some l =>
          refine .inside (assignmentHit key rest c behind l).replacement l (assignmentHit key rest c behind l).rest
            fun second begins => ?_
          rw [found_at second begins, last, Option.map_some]
          simp only [assignmentHit, (blanks _ begins _).1, (blanks _ begins _).2, (run_append _ (.inl all)).2]
    · refine .quiet fun second begins => ?_
      rw [valueAfter, (blanks _ begins rest).2, gap]
      simp only [List.cons_append, if_neg sign]

/-- It reads on as far as the value goes. -/
theorem OpenValue.reads_on {b : Option Char} {cs : List Char} (h : OpenValue b cs) :
    ∃ shown, (∀ b, (lastOf b shown).any isWord = false) ∧ ∀ second, Begins valueHeads second → ∃ last,
      assignmentRule b (cs ++ second) = some ⟨shown ++ mask, last, second.dropWhile isValueChar⟩ := by
  obtain ⟨apart, w, key, rest, c, behind, mem, found, gap, sign, all⟩ := h
  obtain ⟨rfl, fold⟩ := takeWord_eq_some.mp found
  refine ⟨key ++ rest.takeWhile isBlank ++ c :: behind.takeWhile isBlank, fun b => ?_, fun second begins => ?_⟩
  · rw [lastOf_append, lastOf_cons]
    have off : isWord c = false := by rcases sign with rfl | rfl <;> decide
    exact lastOf_of_forall (fun d mem => isWord_of_isBlank (List.all_eq_true.mp List.all_takeWhile d mem)) off
  · have blanks := fun first => run_append first (.inr (begins.any_head? isBlank_foldCase (by decide)))
    have value := fun c mem => List.all_eq_true.mp all c mem
    obtain ⟨last, last_eq⟩ : ∃ last, (second.takeWhile isValueChar).getLast? = some last :=
      exists_getLast?_takeWhile.mpr (begins.any_head? isValueChar_foldCase (by decide))
    refine ⟨last, assignmentRule_eq_some.mpr ⟨apart, w, key, rest ++ second, c, behind ++ second, last, mem,
      takeWord_eq_some.mpr ⟨by simp, fold⟩, ?_, sign, ?_, ?_⟩⟩
    · rw [(blanks rest).2, gap, List.cons_append]
    · rw [(blanks behind).2, List.takeWhile_append_of_pos value, getLast?_append_of_some _ last_eq]
    · simp only [assignmentHit, (blanks _).1, (blanks _).2, List.dropWhile_append_of_pos value]

/-! ## Key texts -/

theorem decides_keyTextRule {b : Option Char} {first : List Char} (ne : first ≠ [])
    (ends : (lastOf b first).any isWord = false) :
    Decides ['['] (fun second => keyTextRule b (first ++ second)) False := by
  refine seeks_keyTextRule.decides (fun second begins => takeWord_append_of_ends (by decide) ne ends begins)
    fun {_ rest} _ _ => ?_
  have run : ∀ second, Begins ['['] second → (rest ++ second).takeWhile isKeyChar = rest.takeWhile isKeyChar ∧
      (rest ++ second).dropWhile isKeyChar = rest.dropWhile isKeyChar ++ second := fun second begins =>
    run_append rest (.inr (begins.any_head? isKeyChar_foldCase (by decide)))
  have found_at : ∀ second, Begins ['['] second → keyTextAfter (rest ++ second) =
      if 40 ≤ (rest.takeWhile isKeyChar).length ∧ (rest.dropWhile isKeyChar).head?.any isWord = false then
        (rest.takeWhile isKeyChar).getLast?.map (keyTextHit (rest ++ second)) else none := by
    intro second begins
    have after :
        (rest.dropWhile isKeyChar ++ second).head?.any isWord = (rest.dropWhile isKeyChar).head?.any isWord := by
      cases rest.dropWhile isKeyChar with
      | nil => exact begins.any_head? isWord_foldCase (by decide)
      | cons _ _ => rfl
    rw [keyTextAfter, (run second begins).1, (run second begins).2, after]
  by_cases key : 40 ≤ (rest.takeWhile isKeyChar).length ∧ (rest.dropWhile isKeyChar).head?.any isWord = false
  · cases last : (rest.takeWhile isKeyChar).getLast? with
    | none => exact .quiet fun second begins => by rw [found_at second begins, if_pos key, last, Option.map_none]
    | some l =>
      refine .inside (keyTextHit rest l).replacement l (keyTextHit rest l).rest fun second begins => ?_
      rw [found_at second begins, if_pos key, last, Option.map_some]
      exact congrArg (fun rest => some (Hit.mk _ l rest)) (run second begins).2
  · exact .quiet fun second begins => by rw [found_at second begins, if_neg key]

end PasskeyConsent.Redaction

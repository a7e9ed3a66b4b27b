import PasskeyConsent.Proofs.Redaction.Sweep
/-!
# The three rules

Each rule in the form the proofs about it use: whether a hit starts at a place, and the hit.  What a rule looks for
begins with a letter, so a hit starts just where no word character stands before it (`Seeks`), and the key names of an
assignment are ten spellings, of which a text begins with at most one.  All three rules are lawful.
-/
namespace PasskeyConsent.Redaction

open Text (isBlank isWord isBoundary)

-- The members of a text are tried one by one, not all characters there are.
attribute [local instance (2000)] List.decidableBAll Option.decidableForallMem

/-! ## Classes of characters -/

theorem isTokenChar_foldCase (c : Char) : isTokenChar (foldCase c) = isTokenChar c := by
  simp only [isTokenChar, foldCase_foldCase]

theorem isKeyChar_foldCase (c : Char) : isKeyChar (foldCase c) = isKeyChar c := by
  simp only [isKeyChar, foldCase_foldCase]

theorem isValueChar_foldCase (c : Char) : isValueChar (foldCase c) = isValueChar c :=
  apply_foldCase (by decide) (by decide) (by decide) c

theorem beq_equals_foldCase (c : Char) : (foldCase c == '=') = (c == '=') :=
  apply_foldCase (p := (· == '=')) (by decide) (by decide) (by decide) c

theorem isTokenChar_of_isLetter {c : Char} (h : isLetter c = true) : isTokenChar c = true := by
  simp only [isLetter] at h
  simp [isTokenChar, h]

theorem isValueChar_of_isLetter {c : Char} (h : isLetter c = true) : isValueChar c = true := by
  rw [← isValueChar_foldCase]
  exact (by decide : ∀ d ∈ "abcdefghijklmnopqrstuvwxyz".toList, isValueChar d = true) _ (mem_letters h)

theorem isWord_of_isKeyChar {c : Char} (h : isKeyChar c = true) : isWord c = true := by
  have digits : ∀ n < 9, isWord (Char.ofNat (n + 49)) = true := by decide
  simp only [isKeyChar, Bool.or_eq_true, Bool.and_eq_true, decide_eq_true_eq] at h
  by_cases digit : '1' ≤ foldCase c ∧ foldCase c ≤ '9'
  · have low : 49 ≤ (foldCase c).toNat := digit.1
    have high : (foldCase c).toNat ≤ 57 := digit.2
    have := digits ((foldCase c).toNat - 49) (by omega)
    rwa [show (foldCase c).toNat - 49 + 49 = (foldCase c).toNat by omega, Char.ofNat_toNat, isWord_foldCase] at this
  · refine isWord_of_isLetter ?_
    simp only [isLetter, Bool.and_eq_true, decide_eq_true_eq, Char.le_def, UInt32.le_iff_toNat_le] at h digit ⊢
    have values : 'a'.val.toNat = 97 ∧ 'h'.val.toNat = 104 ∧ 'j'.val.toNat = 106 ∧ 'n'.val.toNat = 110 ∧
      'p'.val.toNat = 112 ∧ 'z'.val.toNat = 122 := by decide
    omega

def blankCodes : List Nat :=
  List.range' 9 5 ++ [0x20, 0x85, 0xA0, 0x1680] ++ List.range' 0x2000 11 ++ [0x2028, 0x2029, 0x202F, 0x205F, 0x3000]

/-- What holds of the blanks one by one holds of each. -/
theorem apply_of_isBlank {q : Char → Bool} {v : Bool} (table : ∀ n ∈ blankCodes, q (Char.ofNat n) = v) {c : Char}
    (h : isBlank c = true) : q c = v := by
  rw [← Char.ofNat_toNat c]
  refine table c.toNat ?_
  simp only [isBlank, Bool.or_eq_true, Bool.and_eq_true, decide_eq_true_eq, beq_iff_eq, or_assoc] at h
  simpa only [blankCodes, List.mem_append, List.mem_range'_1, List.mem_cons, List.not_mem_nil, or_false, or_assoc,
    Nat.reduceAdd, Nat.lt_add_one_iff] using h

theorem isWord_of_isBlank {c : Char} (h : isBlank c = true) : isWord c = false :=
  apply_of_isBlank (by decide +kernel) h

theorem isTokenChar_of_isBlank {c : Char} (h : isBlank c = true) : isTokenChar c = false :=
  apply_of_isBlank (by decide) h

/-! ## Words and runs -/

theorem isLetter_of_foldCase_eq {c d : Char} (h : foldCase c = d) (letter : isLetter d = true) : isLetter c = true := by
  rw [← isLetter_foldCase, h, letter]

theorem isEmpty_takeWhile {p : Char → Bool} (cs : List Char) : (cs.takeWhile p).isEmpty = !cs.head?.any p := by
  cases cs with
  | nil => rfl
  | cons c cs => cases h : p c <;> simp [h]

theorem takeWhile_eq_nil {p : Char → Bool} {cs : List Char} : cs.takeWhile p = [] ↔ cs.head?.any p = false := by
  rw [← List.isEmpty_iff, isEmpty_takeWhile, Bool.not_eq_true']

theorem any_eq_false_of_imp {p q : Char → Bool} (imp : ∀ {c}, p c = true → q c = true) {o : Option Char}
    (h : o.any q = false) : o.any p = false := by
  cases o with
  | none => rfl
  | some c => exact Bool.eq_false_iff.mpr fun hp => by simp [imp hp] at h

theorem any_head?_dropWhile {p : Char → Bool} (cs : List Char) : (cs.dropWhile p).head?.any p = false := by
  induction cs with
  | nil => rfl
  | cons c cs ih => cases h : p c <;> simp [h, ih]

theorem getLast?_append_of_some (xs : List Char) {ys : List Char} {c : Char} (h : ys.getLast? = some c) :
    (xs ++ ys).getLast? = some c := by
  simp [List.getLast?_append, h]

theorem exists_getLast?_takeWhile {p : Char → Bool} {cs : List Char} :
    (∃ c, (cs.takeWhile p).getLast? = some c) ↔ cs.head?.any p = true := by
  rw [← Option.isSome_iff_exists, List.getLast?_isSome, ne_eq, takeWhile_eq_nil, Bool.not_eq_false]

/-- A word that is looked for begins with its first letter, and what stands there is told from it by case alone. -/
theorem cons_of_takeWord {u : Char} {w cs a rest : List Char} (h : takeWord (u :: w) cs = some (a, rest)) :
    ∃ c a', a = c :: a' ∧ cs = c :: a' ++ rest ∧ foldCase c = u := by
  obtain ⟨rfl, fold⟩ := takeWord_eq_some.mp h
  obtain ⟨c, a, rfl, eq, -⟩ := List.map_eq_cons_iff.mp fold
  exact ⟨c, a, rfl, rfl, eq⟩

/-- Before a word that begins with a letter there is a boundary just where no word character stands. -/
theorem isBoundary_of_takeWord {u : Char} {w cs a rest : List Char} (h : takeWord (u :: w) cs = some (a, rest))
    (letter : isLetter u = true) (b : Option Char) : isBoundary b cs.head? = !b.any isWord := by
  obtain ⟨c, a, rfl, rfl, eq⟩ := cons_of_takeWord h
  have word : isWord c = true := isWord_of_isLetter (isLetter_of_foldCase_eq eq letter)
  cases before : b.any isWord <;> simp [isBoundary, word, before]

theorem getLast?_mask : mask.getLast? = some ']' := rfl

/-! ## Looking for something -/

/-- The rule takes something off the text, where no word character stands before it, and goes by what it took and what
follows. -/
def Seeks (rule : Rule) (take : List Char → Option (List Char × List Char))
    (find : List Char → List Char → Option Hit) : Prop :=
  ∀ b cs, rule b cs = if b.any isWord then none else (take cs).bind fun (a, rest) => find a rest

section

variable {rule : Rule} {take : List Char → Option (List Char × List Char)} {find : List Char → List Char → Option Hit}

theorem seeks_of_isBoundary
    (apart : ∀ {cs a rest}, take cs = some (a, rest) → ∀ b, isBoundary b cs.head? = !b.any isWord)
    (eq : ∀ b cs, rule b cs = (take cs).bind fun (a, rest) => if isBoundary b cs.head? then find a rest else none) :
    Seeks rule take find := by
  intro b cs
  rw [eq]
  cases taken : take cs with
  | none => rw [Option.bind_none, Option.bind_none, ite_self]
  | some p =>
    simp only [Option.bind_some, apart taken]
    cases b.any isWord <;> rfl

variable (seeks : Seeks rule take find) {b : Option Char} {cs : List Char}
include seeks

theorem Seeks.of_word (before : b.any isWord = true) : rule b cs = none := by rw [seeks, if_pos before]

theorem Seeks.of_none (h : take cs = none) : rule b cs = none := by rw [seeks, h, Option.bind_none, ite_self]

theorem Seeks.of_some {a rest : List Char} (apart : b.any isWord = false) (h : take cs = some (a, rest)) :
    rule b cs = find a rest := by
  rw [seeks, apart, h]
  rfl

theorem Seeks.eq_some {hit : Hit} : rule b cs = some hit ↔
    b.any isWord = false ∧ ∃ a rest, take cs = some (a, rest) ∧ find a rest = some hit := by
  constructor
  · intro h
    cases apart : b.any isWord with
    | true =>
      rw [seeks.of_word apart] at h
      cases h
    | false =>
      cases taken : take cs with
      | none =>
        rw [seeks.of_none taken] at h
        cases h
      | some p => exact ⟨rfl, p.1, p.2, rfl, (seeks.of_some apart taken).symm.trans h⟩
  · rintro ⟨apart, a, rest, taken, found⟩
    rw [seeks.of_some apart taken, found]

theorem Seeks.apart {hit : Hit} (h : rule b cs = some hit) : b.any isWord = false := (seeks.eq_some.mp h).1

end

/-! ## Bearer tokens -/

/-- What is put for a bearer token, from the word and the text behind it. -/
def tokenHit (word rest : List Char) (last : Char) : Hit where
  replacement := word ++ ' ' :: mask
  last := (((rest.dropWhile isBlank).dropWhile isTokenChar).takeWhile (· == '=')).getLast?.getD last
  rest := ((rest.dropWhile isBlank).dropWhile isTokenChar).dropWhile (· == '=')

/-- What is found behind the word. -/
def tokenAfter (word rest : List Char) : Option Hit :=
  if rest.head?.any isBlank then ((rest.dropWhile isBlank).takeWhile isTokenChar).getLast?.map (tokenHit word rest)
  else none

theorem seeks_bearerRule : Seeks bearerRule (takeWord "bearer".toList) tokenAfter := by
  refine seeks_of_isBoundary (fun found => isBoundary_of_takeWord found (by decide)) fun b cs => ?_
  simp only [bearerRule, spanOf, Option.bind_eq_bind, isEmpty_takeWhile, tokenAfter]
  cases takeWord "bearer".toList cs with
  | none => rfl
  | some p =>
    cases isBoundary b cs.head? with
    | false => rfl
    | true =>
      cases blank : p.2.head?.any isBlank with
      | false => simp [blank]
      | true =>
        cases last : ((p.2.dropWhile isBlank).takeWhile isTokenChar).getLast? <;> simp [blank, last, tokenHit]

theorem bearerRule_eq_some {b : Option Char} {cs : List Char} {hit : Hit} :
    bearerRule b cs = some hit ↔ b.any isWord = false ∧ ∃ word rest last,
      takeWord "bearer".toList cs = some (word, rest) ∧ rest.head?.any isBlank = true ∧
      ((rest.dropWhile isBlank).takeWhile isTokenChar).getLast? = some last ∧ tokenHit word rest last = hit := by
  simp only [Seeks.eq_some seeks_bearerRule, tokenAfter, Option.ite_none_right_eq_some, Option.map_eq_some_iff,
    exists_and_left]

/-- Where the sweep for bearer tokens finds one. -/
theorem isSome_bearerRule {b : Option Char} {cs : List Char} :
    (bearerRule b cs).isSome ↔ b.any isWord = false ∧ ∃ word rest, takeWord "bearer".toList cs = some (word, rest) ∧
      rest.head?.any isBlank = true ∧ (rest.dropWhile isBlank).head?.any isTokenChar = true := by
  simp only [Option.isSome_iff_exists, bearerRule_eq_some, ← exists_getLast?_takeWhile]
  constructor
  · rintro ⟨hit, before, word, rest, last, found, blank, token, -⟩
    exact ⟨before, word, rest, found, blank, last, token⟩
  · rintro ⟨before, word, rest, found, blank, last, token⟩
    exact ⟨_, before, word, rest, last, found, blank, token, rfl⟩

theorem lawful_bearerRule : Lawful bearerRule ['b'] where
  isLetter_starts := by decide
  apart := Seeks.apart seeks_bearerRule
  taken := by
    intro b cs hit h
    rw [bearerRule_eq_some] at h
    obtain ⟨-, word, rest, last, found, -, token, rfl⟩ := h
    obtain ⟨c, word, rfl, rfl, eq⟩ := cons_of_takeWord found
    refine ⟨c, word ++ (rest.takeWhile isBlank ++ ((rest.dropWhile isBlank).takeWhile isTokenChar ++
      ((rest.dropWhile isBlank).dropWhile isTokenChar).takeWhile (· == '='))), ?_, ?_, by rw [eq]; decide, rfl⟩
    · simp only [tokenHit, List.cons_append, List.append_assoc, List.takeWhile_append_dropWhile]
    · rw [← List.cons_append]
      refine getLast?_append_of_some _ (getLast?_append_of_some _ ?_)
      rw [List.getLast?_append, token]
      simp only [tokenHit]
      cases (((rest.dropWhile isBlank).dropWhile isTokenChar).takeWhile (· == '=')).getLast? <;> rfl
  closes := by
    intro b cs hit h
    rw [bearerRule_eq_some] at h
    obtain ⟨-, word, rest, last, -, -, -, rfl⟩ := h
    exact getLast?_append_of_some _ (getLast?_append_of_some [' '] getLast?_mask)
  after := by
    intro b cs hit h
    rw [bearerRule_eq_some] at h
    obtain ⟨-, word, rest, last, -, -, -, rfl⟩ := h
    have stop := any_head?_dropWhile (p := isTokenChar) (rest.dropWhile isBlank)
    simp only [tokenHit]
    generalize (rest.dropWhile isBlank).dropWhile isTokenChar = behind at stop
    cases pad : (behind.takeWhile (· == '=')).getLast? with
    | some c =>
      obtain rfl : c = '=' := by simpa using List.all_eq_true.mp List.all_takeWhile c (List.mem_of_getLast? pad)
      exact .inl (by decide : isWord '=' = false)
    | none =>
      -- Without padding the text goes on where the token ended.
      have : behind.dropWhile (· == '=') = behind := by
        have := List.takeWhile_append_dropWhile (p := (· == '=')) (l := behind)
        rwa [List.getLast?_eq_none_iff.mp pad, List.nil_append] at this
      rw [this]
      exact .inr (any_eq_false_of_imp isTokenChar_of_isLetter stop)

/-! ## Assignments -/

theorem takeWord_append {u v cs : List Char} :
    takeWord (u ++ v) cs =
      (takeWord u cs).bind fun (a, rest) => (takeWord v rest).map fun (b, rest) => (a ++ b, rest) := by
  induction u generalizing cs with
  | nil => simp [takeWord]
  | cons c u ih =>
    cases cs with
    | nil => rfl
    | cons d cs =>
      simp only [List.cons_append, takeWord]
      split
      · rw [ih]
        cases takeWord u cs with
        | none => rfl
        | some p => simp [Function.comp_def]
      · rfl

/-- How a key name is written: in one, or with one of two joints between its halves. -/
def spell : String × String → List (List Char)
  | (head, tail) =>
    if tail.isEmpty then [head.toList]
    else [head.toList ++ tail.toList, head.toList ++ '_' :: tail.toList, head.toList ++ '-' :: tail.toList]

/-- The ten spellings of the key names, small letters only. -/
def spellings : List (List Char) := keyNames.flatMap spell

/-- The joint between the halves of a key name, if one stands here, and the text behind it. -/
def joint : List Char → List Char × List Char
  | '_' :: r => (['_'], r)
  | '-' :: r => (['-'], r)
  | r => ([], r)

theorem joint_of_ne {c : Char} (h : c ≠ '_') (h' : c ≠ '-') (cs : List Char) : joint (c :: cs) = ([], c :: cs) := by
  unfold joint
  split
  · next eq => exact absurd (List.cons.inj eq).1 h
  · next eq => exact absurd (List.cons.inj eq).1 h'
  · rfl

/-- Takes one key name off the text. -/
def takeName (cs : List Char) (name : String × String) : Option (List Char × List Char) :=
  (takeWord name.1.toList cs).bind fun (a, rest) =>
    if name.2.isEmpty then some (a, rest)
    else (takeWord name.2.toList (joint rest).2).map fun (b, behind) => (a ++ (joint rest).1 ++ b, behind)

theorem takeKey_cons (cs : List Char) (name : String × String) (more : List (String × String)) :
    takeKey cs (name :: more) = (takeName cs name).or (takeKey cs more) := by
  simp only [takeKey, takeName]
  cases takeWord name.1.toList cs with
  | none => rfl
  | some p =>
    cases name.2.isEmpty with
    | true => rfl
    | false =>
      simp only [Option.bind_some, Bool.false_eq_true, if_false]
      split
      · next found =>
        have found : takeWord name.2.toList (joint p.2).2 = none := found
        rw [found]
        rfl
      · next b behind found =>
        have found : takeWord name.2.toList (joint p.2).2 = some (b, behind) := found
        rw [found]
        rfl

theorem foldCase_eq_underscore {c : Char} : foldCase c = '_' ↔ c = '_' := by
  rw [← beq_iff_eq, ← beq_iff_eq (a := c)]
  exact Bool.eq_iff_iff.mp (apply_foldCase (p := (· == '_')) (by decide) (by decide) (by decide) c)

theorem foldCase_eq_hyphen {c : Char} : foldCase c = '-' ↔ c = '-' := by
  rw [← beq_iff_eq, ← beq_iff_eq (a := c)]
  exact Bool.eq_iff_iff.mp (apply_foldCase (p := (· == '-')) (by decide) (by decide) (by decide) c)

/-- The name is found where one of its spellings stands, as long as its second half begins with no joint. -/
theorem takeName_eq_some {cs key rest : List Char} (head : String) {tail : String}
    (plain : ∀ c ∈ tail.toList.head?, c ≠ '_' ∧ c ≠ '-') :
    takeName cs (head, tail) = some (key, rest) ↔ ∃ w ∈ spell (head, tail), takeWord w cs = some (key, rest) := by
  simp only [takeName, spell]
  cases found : takeWord head.toList cs with
  | none => cases tail.isEmpty <;> simp [takeWord_append, found]
  | some p =>
    cases empty : tail.isEmpty with
    | true => simp [found, Prod.ext_iff]
    | false =>
      obtain ⟨a, behind⟩ := p
      obtain ⟨t, ts, tail_eq⟩ : ∃ t ts, tail.toList = t :: ts := by
        refine List.exists_cons_of_ne_nil fun nil => ?_
        simp [String.toList_eq_nil_iff.mp nil] at empty
      have ⟨off, off'⟩ : t ≠ '_' ∧ t ≠ '-' := plain t (by simp [tail_eq])
      simp only [tail_eq, Bool.false_eq_true, if_false, List.mem_cons, List.not_mem_nil, or_false, exists_eq_or_imp,
        exists_eq_left, takeWord_append, found, Option.bind_some]
      cases behind with
      | nil => simp [joint, takeWord]
      | cons c behind =>
        by_cases underscore : c = '_'
        · subst underscore
          simp [joint, takeWord, foldCase_eq_underscore.mpr rfl, off.symm]
        by_cases hyphen : c = '-'
        · subst hyphen
          simp [joint, takeWord, foldCase_eq_hyphen.mpr rfl, off'.symm]
        simp [joint_of_ne underscore hyphen, takeWord, foldCase_eq_underscore, foldCase_eq_hyphen, underscore, hyphen]

/-- Two words found at one place are one, if neither begins with the other. -/
theorem takeWord_unique {v w cs : List Char} {p q : List Char × List Char} (hv : takeWord v cs = some p)
    (hw : takeWord w cs = some q) (apart : v <+: w ∨ w <+: v → v = w) : p = q := by
  obtain ⟨a, rest⟩ := p
  obtain ⟨b, behind⟩ := q
  have ⟨eq, fold⟩ := takeWord_eq_some.mp hv
  have ⟨eq', fold'⟩ := takeWord_eq_some.mp hw
  have prefixes : v <+: cs.map foldCase ∧ w <+: cs.map foldCase :=
    ⟨⟨rest.map foldCase, by rw [eq, List.map_append, fold]⟩, ⟨behind.map foldCase, by rw [eq', List.map_append, fold']⟩⟩
  obtain rfl := apart (List.prefix_or_prefix_of_prefix prefixes.1 prefixes.2)
  exact Option.some.inj (hv.symm.trans hw)

/-- A key stands just where one of its spellings does: the order in which they are tried does not matter. -/
theorem takeKey_eq_some {cs key rest : List Char} :
    takeKey cs keyNames = some (key, rest) ↔ ∃ w ∈ spellings, takeWord w cs = some (key, rest) := by
  have plain : ∀ name ∈ keyNames, ∀ c ∈ name.2.toList.head?, c ≠ '_' ∧ c ≠ '-' := by decide
  have apart : ∀ v ∈ keyNames.flatMap spell, ∀ w ∈ keyNames.flatMap spell, v <+: w ∨ w <+: v → v = w := by
    decide
  unfold spellings
  generalize keyNames = names at plain apart
  induction names with
  | nil => simp [takeKey]
  | cons name more ih =>
    have later : takeKey cs more = some (key, rest) ↔ _ :=
      ih (fun name mem => plain name (by simp [mem])) fun v hv w hw =>
        apart v (by rw [List.flatMap_cons]; simp [hv]) w (by rw [List.flatMap_cons]; simp [hw])
    have first : ∀ {p : List Char × List Char}, takeName cs name = some p ↔ ∃ w ∈ spell name, takeWord w cs = some p :=
      takeName_eq_some name.1 (plain name (by simp))
    rw [takeKey_cons, Option.or_eq_some_iff, later, first]
    simp only [List.flatMap_cons, List.mem_append, or_and_right, exists_or]
    constructor
    · rintro (found | ⟨-, found⟩)
      · exact .inl found
      · exact .inr found
    · rintro (found | ⟨w, mem, found⟩)
      · exact .inl found
      · cases earlier : takeName cs name with
        | none => exact .inr ⟨rfl, w, mem, found⟩
        | some p =>
          obtain ⟨v, mem', found'⟩ := first.mp earlier
          obtain rfl := takeWord_unique found' found
            (apart v (by rw [List.flatMap_cons]; simp [mem']) w (by rw [List.flatMap_cons]; simp [mem]))
          exact .inl ⟨v, mem', found'⟩

theorem cons_of_spelling {w : List Char} (h : w ∈ spellings) :
    ∃ u w', w = u :: w' ∧ u ∈ ['t', 'a', 's', 'p'] ∧ isLetter u = true := by
  cases w with
  | nil => exact absurd h (by decide)
  | cons u w =>
    have head : ∀ w ∈ spellings, ∀ u ∈ w.head?, u ∈ ['t', 'a', 's', 'p'] ∧ isLetter u = true := by decide
    exact ⟨u, w, rfl, head _ h u rfl⟩

theorem unbroken_spelling : ∀ w ∈ spellings, unbroken ['t', 'a', 's', 'p'] w = true := by decide

theorem isBoundary_of_any {before : Option Char} (word : before.any isWord = true) (after : Option Char) :
    isBoundary before after = !after.any isWord := by
  cases goes : after.any isWord <;> simp [isBoundary, word, goes]

theorem any_getLast?_of_key {w cs key rest : List Char} (mem : w ∈ spellings)
    (h : takeWord w cs = some (key, rest)) : key.getLast?.any isWord = true := by
  obtain ⟨-, fold⟩ := takeWord_eq_some.mp h
  have ends : ∀ w ∈ spellings, w.getLast?.any isWord = true := by decide
  have := ends w mem
  rw [← fold, List.getLast?_map] at this
  cases last : key.getLast? with
  | none => simp [last] at this
  | some c => simpa [last, isWord_foldCase] using this

/-- A key ends in a word character, so it is a word of its own just where none follows. -/
theorem isBoundary_of_key {w cs key rest : List Char} (mem : w ∈ spellings) (h : takeWord w cs = some (key, rest)) :
    isBoundary key.getLast? rest.head? = !rest.head?.any isWord := isBoundary_of_any (any_getLast?_of_key mem h) _

/-- No word character stands before a sign, blanks between or not. -/
theorem any_head?_of_sign {c : Char} {rest behind : List Char} (gap : rest.dropWhile isBlank = c :: behind)
    (sign : c = ':' ∨ c = '=') : rest.head?.any isWord = false := by
  cases rest with
  | nil => rfl
  | cons d rest =>
    cases blank : isBlank d with
    | true => simp [isWord_of_isBlank blank]
    | false =>
      obtain ⟨rfl, -⟩ : d = c ∧ rest = behind := by simpa [blank] using gap
      have signs : isWord ':' = false ∧ isWord '=' = false := by decide
      rcases sign with rfl | rfl <;> simp [signs]

/-- What an assignment puts for what it found, from the key on. -/
def assignmentHit (key rest : List Char) (c : Char) (behind : List Char) (last : Char) : Hit where
  replacement := key ++ rest.takeWhile isBlank ++ c :: behind.takeWhile isBlank ++ mask
  last := last
  rest := (behind.dropWhile isBlank).dropWhile isValueChar

/-- The one way in which a text can begin with a key. -/
theorem takeKey_unique {v w cs : List Char} {p q : List Char × List Char} (hv : v ∈ spellings) (hw : w ∈ spellings)
    (found : takeWord v cs = some p) (found' : takeWord w cs = some q) : p = q :=
  Option.some.inj ((takeKey_eq_some.mpr ⟨v, hv, found⟩).symm.trans (takeKey_eq_some.mpr ⟨w, hw, found'⟩))

theorem isBoundary_of_takeKey {cs key rest : List Char} (h : takeKey cs keyNames = some (key, rest)) (b : Option Char) :
    isBoundary b cs.head? = !b.any isWord := by
  rw [takeKey_eq_some] at h
  obtain ⟨w, mem, found⟩ := h
  obtain ⟨u, w, rfl, -, letter⟩ := cons_of_spelling mem
  exact isBoundary_of_takeWord found letter b

/-- What is found behind a key.  That the key ends there needs no test of its own. -/
def valueAfter (key rest : List Char) : Option Hit :=
  match rest.dropWhile isBlank with
  | c :: behind =>
    if c = ':' ∨ c = '=' then
      ((behind.dropWhile isBlank).takeWhile isValueChar).getLast?.map (assignmentHit key rest c behind)
    else none
  | [] => none

theorem seeks_assignmentRule : Seeks assignmentRule (takeKey · keyNames) valueAfter := by
  refine seeks_of_isBoundary isBoundary_of_takeKey fun b cs => ?_
  simp only [assignmentRule, spanOf, Option.bind_eq_bind, valueAfter]
  cases taken : takeKey cs keyNames with
  | none => rfl
  | some p =>
    obtain ⟨key, rest⟩ := p
    obtain ⟨w, mem, found⟩ := takeKey_eq_some.mp taken
    simp only [Option.bind_some, isBoundary_of_key mem found]
    cases isBoundary b cs.head? with
    | false => rfl
    | true =>
      simp only [Bool.not_true, Bool.false_eq_true, if_false, if_true]
      cases gap : rest.dropWhile isBlank with
      | nil => cases rest.head?.any isWord <;> rfl
      | cons c behind =>
        by_cases sign : c = ':' ∨ c = '='
        · have after := any_head?_of_sign gap sign
          have test : (c != ':' && c != '=') = false := by rcases sign with rfl | rfl <;> rfl
          simp only [after, test, sign, if_true]
          cases ((behind.dropWhile isBlank).takeWhile isValueChar).getLast? <;> rfl
        · have test : (c != ':' && c != '=') = true := by simpa using sign
          cases rest.head?.any isWord <;> simp [test, sign]

/-- An assignment is found where a key stands apart before a colon or an equals sign and a value, blanks between or
not. -/
theorem assignmentRule_eq_some {b : Option Char} {cs : List Char} {hit : Hit} :
    assignmentRule b cs = some hit ↔ b.any isWord = false ∧ ∃ w key rest c behind last,
      w ∈ spellings ∧ takeWord w cs = some (key, rest) ∧ rest.dropWhile isBlank = c :: behind ∧ (c = ':' ∨ c = '=') ∧
      ((behind.dropWhile isBlank).takeWhile isValueChar).getLast? = some last ∧
      assignmentHit key rest c behind last = hit := by
  constructor
  · intro h
    rw [Seeks.eq_some seeks_assignmentRule] at h
    obtain ⟨apart, key, rest, taken, found⟩ := h
    rw [takeKey_eq_some] at taken
    obtain ⟨w, mem, taken⟩ := taken
    unfold valueAfter at found
    split at found
    · next c behind gap =>
      rw [Option.ite_none_right_eq_some, Option.map_eq_some_iff] at found
      obtain ⟨sign, last, value, eq⟩ := found
      exact ⟨apart, w, key, rest, c, behind, last, mem, taken, gap, sign, value, eq⟩
    · cases found
  · rintro ⟨apart, w, key, rest, c, behind, last, mem, taken, gap, sign, value, rfl⟩
    have taken := takeKey_eq_some.mpr ⟨w, mem, taken⟩
    rw [Seeks.of_some seeks_assignmentRule apart taken, valueAfter, gap]
    simp only [if_pos sign, value, Option.map_some]

/-- Where the sweep for assignments finds one. -/
theorem isSome_assignmentRule {b : Option Char} {cs : List Char} :
    (assignmentRule b cs).isSome ↔ b.any isWord = false ∧ ∃ w key rest c behind,
      w ∈ spellings ∧ takeWord w cs = some (key, rest) ∧ rest.dropWhile isBlank = c :: behind ∧ (c = ':' ∨ c = '=') ∧
      (behind.dropWhile isBlank).head?.any isValueChar = true := by
  simp only [Option.isSome_iff_exists, assignmentRule_eq_some, ← exists_getLast?_takeWhile]
  constructor
  · rintro ⟨hit, before, w, key, rest, c, behind, last, mem, found, gap, sign, value, -⟩
    exact ⟨before, w, key, rest, c, behind, mem, found, gap, sign, last, value⟩
  · rintro ⟨before, w, key, rest, c, behind, mem, found, gap, sign, last, value⟩
    exact ⟨_, before, w, key, rest, c, behind, last, mem, found, gap, sign, value, rfl⟩

theorem lawful_assignmentRule : Lawful assignmentRule ['t', 'a', 's', 'p'] where
  isLetter_starts := by decide
  apart := Seeks.apart seeks_assignmentRule
  taken := by
    intro b cs hit h
    rw [assignmentRule_eq_some] at h
    obtain ⟨-, w, key, rest, c, behind, last, mem, found, gap, -, value, rfl⟩ := h
    obtain ⟨u, w, rfl, start, -⟩ := cons_of_spelling mem
    obtain ⟨d, key, rfl, rfl, eq⟩ := cons_of_takeWord found
    have split : rest = rest.takeWhile isBlank ++ c :: behind := by rw [← gap, List.takeWhile_append_dropWhile]
    refine ⟨d, key ++ (rest.takeWhile isBlank ++ ([c] ++ (behind.takeWhile isBlank ++
      (behind.dropWhile isBlank).takeWhile isValueChar))), ?_, ?_, by rw [eq]; exact start, rfl⟩
    · simp only [assignmentHit, List.cons_append, List.append_assoc, List.nil_append,
        List.takeWhile_append_dropWhile, ← split]
    · rw [← List.cons_append]
      refine getLast?_append_of_some _ (getLast?_append_of_some _ ?_)
      exact getLast?_append_of_some _ (getLast?_append_of_some _ value)
  closes := by
    intro b cs hit h
    rw [assignmentRule_eq_some] at h
    obtain ⟨-, w, key, rest, c, behind, last, -, -, -, -, -, rfl⟩ := h
    exact getLast?_append_of_some _ getLast?_mask
  after := by
    intro b cs hit h
    rw [assignmentRule_eq_some] at h
    obtain ⟨-, w, key, rest, c, behind, last, -, -, -, -, -, rfl⟩ := h
    exact .inr (any_eq_false_of_imp isValueChar_of_isLetter (any_head?_dropWhile _))

theorem along_mask_assignmentRule (b : Option Char) (rest : List Char) :
    Along (fun b cs => assignmentRule b cs = none) b mask rest :=
  Lawful.along_of_word lawful_assignmentRule (by decide) (by decide) b rest

/-! ## Key texts -/

/-- What is put for a key text, from the text behind its first word. -/
def keyTextHit (rest : List Char) (last : Char) : Hit where
  replacement := "ed25519:".toList ++ mask
  last := last
  rest := rest.dropWhile isKeyChar

/-- What is found behind the first word. -/
def keyTextAfter (rest : List Char) : Option Hit :=
  if 40 ≤ (rest.takeWhile isKeyChar).length ∧ (rest.dropWhile isKeyChar).head?.any isWord = false then
    (rest.takeWhile isKeyChar).getLast?.map (keyTextHit rest)
  else none

theorem seeks_keyTextRule : Seeks keyTextRule (takeWord "ed25519:".toList) fun _ => keyTextAfter := by
  refine seeks_of_isBoundary (fun found => isBoundary_of_takeWord found (by decide)) fun b cs => ?_
  simp only [keyTextRule, spanOf, Option.bind_eq_bind, keyTextAfter]
  cases takeWord "ed25519:".toList cs with
  | none => rfl
  | some p =>
    cases isBoundary b cs.head? with
    | false => rfl
    | true =>
      simp only [Option.bind_some, Bool.not_true, Bool.false_eq_true, if_false, if_true]
      rcases Nat.lt_or_ge (p.2.takeWhile isKeyChar).length 40 with short | long
      · simp only [short, if_true, Option.bind_none, Nat.not_le.mpr short, false_and, if_false]
      · simp only [Nat.not_lt.mpr long, long, if_false, true_and]
        cases key : (p.2.takeWhile isKeyChar).getLast? with
        | none => simp only [Option.bind_none, Option.map_none, ite_self]
        | some last =>
          have word : isWord last = true :=
            isWord_of_isKeyChar (List.all_eq_true.mp List.all_takeWhile last (List.mem_of_getLast? key))
          have ends : isBoundary (some last) (p.2.dropWhile isKeyChar).head? =
              !(p.2.dropWhile isKeyChar).head?.any isWord :=
            isBoundary_of_any (by simpa using word) _
          simp only [Option.bind_some, ends, Option.map_some, Bool.not_not]
          cases (p.2.dropWhile isKeyChar).head?.any isWord with
          | true => simp only [if_true, Option.bind_none, Bool.true_eq_false, if_false]
          | false => rfl

theorem keyTextRule_eq_some {b : Option Char} {cs : List Char} {hit : Hit} :
    keyTextRule b cs = some hit ↔ b.any isWord = false ∧ ∃ word rest last,
      takeWord "ed25519:".toList cs = some (word, rest) ∧ 40 ≤ (rest.takeWhile isKeyChar).length ∧
      (rest.dropWhile isKeyChar).head?.any isWord = false ∧ (rest.takeWhile isKeyChar).getLast? = some last ∧
      keyTextHit rest last = hit := by
  simp only [Seeks.eq_some seeks_keyTextRule, keyTextAfter, Option.ite_none_right_eq_some, Option.map_eq_some_iff,
    and_assoc, exists_and_left]

/-- Where the sweep for key texts finds one. -/
theorem isSome_keyTextRule {b : Option Char} {cs : List Char} :
    (keyTextRule b cs).isSome ↔ b.any isWord = false ∧ ∃ word rest,
      takeWord "ed25519:".toList cs = some (word, rest) ∧ 40 ≤ (rest.takeWhile isKeyChar).length ∧
      (rest.dropWhile isKeyChar).head?.any isWord = false := by
  simp only [Option.isSome_iff_exists, keyTextRule_eq_some]
  constructor
  · rintro ⟨hit, before, word, rest, last, found, long, after, -⟩
    exact ⟨before, word, rest, found, long, after⟩
  · rintro ⟨before, word, rest, found, long, after⟩
    have : rest.takeWhile isKeyChar ≠ [] := fun nil => by simp [nil] at long
    exact ⟨_, before, word, rest, _, found, long, after, List.getLast?_eq_some_getLast this, rfl⟩

theorem lawful_keyTextRule : Lawful keyTextRule ['e'] where
  isLetter_starts := by decide
  apart := Seeks.apart seeks_keyTextRule
  taken := by
    intro b cs hit h
    rw [keyTextRule_eq_some] at h
    obtain ⟨-, word, rest, last, found, -, -, key, rfl⟩ := h
    obtain ⟨c, word, rfl, rfl, eq⟩ := cons_of_takeWord found
    refine ⟨c, word ++ rest.takeWhile isKeyChar, ?_, ?_, by rw [eq]; decide, ?_⟩
    · change c :: (word ++ rest) = c :: (word ++ rest.takeWhile isKeyChar) ++ rest.dropWhile isKeyChar
      rw [List.cons_append, List.append_assoc, List.takeWhile_append_dropWhile]
    · exact getLast?_append_of_some (c :: word) key
    · rw [eq]
      rfl
  closes := by
    intro b cs hit h
    rw [keyTextRule_eq_some] at h
    obtain ⟨-, word, rest, last, -, -, -, -, rfl⟩ := h
    exact getLast?_append_of_some _ getLast?_mask
  after := by
    intro b cs hit h
    rw [keyTextRule_eq_some] at h
    obtain ⟨-, word, rest, last, -, -, after, -, rfl⟩ := h
    exact .inr (any_eq_false_of_imp isWord_of_isLetter after)

theorem along_mask_keyTextRule (b : Option Char) (rest : List Char) :
    Along (fun b cs => keyTextRule b cs = none) b mask rest :=
  Lawful.along_of_word lawful_keyTextRule (by decide) (by decide) b rest

end PasskeyConsent.Redaction

import PasskeyConsent.Proofs.Redaction.Prefix
/-!
# Assigned secrets

Where `redact` hides what is assigned to a key, and where it does not.  The value is hidden just where its key outlives
the sweeps before it is masked: a bearer token before it takes the key for a part of the token and leaves the value
behind, and so does an earlier assignment that takes the key for its own value, unless the value follows without a blank
and goes the same way.
-/
namespace PasskeyConsent.Redaction

open Text (isBlank isWord)

-- The members of a text are tried one by one, not all characters there are.
attribute [local instance (2000)] List.decidableBAll Option.decidableForallMem

/-! ## Keys, signs and values -/

theorem all_of_spelling {q : Char → Bool} (fold : ∀ c, q (foldCase c) = q c) (all : ∀ w ∈ spellings, w.all q = true)
    {k : List Char} (h : k.map foldCase ∈ spellings) : ∀ c ∈ k, q c = true := fun c mem => by
  rw [← fold]
  exact List.all_eq_true.mp (all _ h) _ (List.mem_map_of_mem mem)

theorem begins_of_spelling {k : List Char} (h : k.map foldCase ∈ spellings) (rest : List Char) :
    Begins keyHeads (k ++ rest) := by
  obtain ⟨u, w, eq, mem, -⟩ := cons_of_spelling h
  obtain ⟨c, k, rfl, rfl, -⟩ := List.map_eq_cons_iff.mp eq
  exact ⟨c, k ++ rest, rfl, mem⟩

theorem Begins.mono {heads heads' cs : List Char} (h : Begins heads cs) (sub : ∀ c ∈ heads, c ∈ heads') :
    Begins heads' cs := by
  obtain ⟨c, rest, rfl, mem⟩ := h
  exact ⟨c, rest, rfl, sub _ mem⟩

/-- A text that ends in the mask does not end in a key. -/
theorem not_suffix_mask {k : List Char} (h : k.map foldCase ∈ spellings) (xs : List Char) : ¬k <:+ xs ++ mask := by
  rintro ⟨ys, eq⟩
  have last : ∀ w ∈ spellings, w.getLast?.any isWord = true := by decide
  have word := last _ h
  rw [List.getLast?_map] at word
  cases key : k.getLast? with
  | none => simp [key] at word
  | some c =>
    have same := getLast?_append_of_some ys key
    rw [eq, getLast?_append_of_some _ getLast?_mask] at same
    obtain rfl := Option.some.inj same
    rw [key] at word
    exact absurd word (by decide)

theorem isAlphanum_lt {c : Char} (h : c.isAlphanum = true) : c.toNat < 128 := by
  have upper (h : c.isUpper = true) : c.toNat ≤ 90 := (of_decide_eq_true h).2
  have lower (h : c.isLower = true) : c.toNat ≤ 122 := of_decide_eq_true (Bool.and_eq_true_iff.mp h).2
  have digit (h : c.isDigit = true) : c.toNat ≤ 57 := of_decide_eq_true (Bool.and_eq_true_iff.mp h).2
  rcases Bool.or_eq_true_iff.mp h with alpha | isDigit
  · rcases Bool.or_eq_true_iff.mp alpha with isUpper | isLower
    · exact Nat.lt_of_le_of_lt (upper isUpper) (by decide)
    · exact Nat.lt_of_le_of_lt (lower isLower) (by decide)
  · exact Nat.lt_of_le_of_lt (digit isDigit) (by decide)

theorem isValueChar_of_isAlphanum {c : Char} (h : c.isAlphanum = true) :
    isValueChar c = true ∧ isBlank c = false ∧ (c == '=') = false := by
  have table : ∀ n < 128, (Char.ofNat n).isAlphanum = true →
      isValueChar (Char.ofNat n) = true ∧ isBlank (Char.ofNat n) = false ∧ (Char.ofNat n == '=') = false := by decide
  simpa only [Char.ofNat_toNat] using table c.toNat (isAlphanum_lt h) (by rwa [Char.ofNat_toNat])

/-- A colon or an equals sign, blanks around it or not. -/
structure IsSeparator (gap : List Char) (c : Char) (gap' : List Char) : Prop where
  gap_blank : ∀ d ∈ gap, isBlank d = true
  sign : c = ':' ∨ c = '='
  gap'_blank : ∀ d ∈ gap', isBlank d = true

theorem IsSeparator.not_isLetter {gap gap' : List Char} {c : Char} (h : IsSeparator gap c gap') :
    ∀ d ∈ gap ++ c :: gap', isLetter d = false := by
  intro d mem
  simp only [List.mem_append, List.mem_cons] at mem
  have blank : isBlank d = true → isLetter d = false := fun blank =>
    Bool.eq_false_iff.mpr fun letter => by simp [isBlank_of_isLetter letter] at blank
  rcases mem with mem | rfl | mem
  · exact blank (h.gap_blank d mem)
  · rcases h.sign with rfl | rfl <;> decide
  · exact blank (h.gap'_blank d mem)

theorem IsSeparator.not_isLetter_dropWhile {gap gap' : List Char} {c : Char} (h : IsSeparator gap c gap')
    (q : Char → Bool) : ∀ d ∈ (gap ++ c :: gap').dropWhile q, isLetter d = false := fun d mem =>
  h.not_isLetter d ((List.dropWhile_suffix _).subset mem)

theorem IsSeparator.any_head? {gap gap' : List Char} {c : Char} (h : IsSeparator gap c gap') (rest : List Char)
    {q : Char → Bool} (blank : ∀ {d}, isBlank d = true → q d = false) (signs : q ':' = false ∧ q '=' = false) :
    (gap ++ (c :: gap' ++ rest)).head?.any q = false := by
  cases gap with
  | nil => rcases h.sign with rfl | rfl <;> simp [signs]
  | cons d gap => simp [blank (h.gap_blank d (by simp))]

theorem IsSeparator.values {gap gap' : List Char} {c : Char} (h : IsSeparator gap c gap')
    (joined : ∀ d ∈ gap ++ c :: gap', isBlank d = false) : ∀ d ∈ gap ++ c :: gap', isValueChar d = true := by
  intro d mem
  have here := joined d mem
  simp only [List.mem_append, List.mem_cons] at mem
  rcases mem with mem | rfl | mem
  · simp [h.gap_blank d mem] at here
  · rcases h.sign with rfl | rfl <;> decide
  · simp [h.gap'_blank d mem] at here

theorem Lawful.along_of_plain {rule : Rule} {starts xs : List Char} (lawful : Lawful rule starts)
    (h : ∀ c ∈ xs, isLetter c = false) (b : Option Char) (rest : List Char) :
    Along (fun b cs => rule b cs = none) b xs rest :=
  lawful.along_of_starts (fun c mem start => by
    have := lawful.isLetter_starts _ start
    simp [isLetter_foldCase, h c mem] at this) b rest

theorem Lawful.sweepAt_append_of_plain {rule : Rule} {starts xs : List Char} (lawful : Lawful rule starts)
    (h : ∀ c ∈ xs, isLetter c = false) (b : Option Char) (rest : List Char) :
    sweepAt rule b (xs ++ rest) = xs ++ sweepAt rule (lastOf b xs) rest :=
  sweepAt_append_of_none (lawful.along_of_plain h b rest)

/-- No bearer token starts in a text without that word, before anything but a letter. -/
theorem quiet_of_absent {v s : List Char} (h : ¬"bearer".toList <:+: v.map foldCase)
    (after : s.head?.any isLetter = false) (b : Option Char) : Along (fun b cs => bearerRule b cs = none) b v s := by
  induction v generalizing b with
  | nil => trivial
  | cons c v ih =>
    refine ⟨?_, ih (fun inner => h (inner.trans (List.suffix_cons _ _).isInfix)) _⟩
    cases found : bearerRule b (c :: v ++ s) with
    | none => exact found
    | some hit =>
      exfalso
      obtain ⟨-, word, rest, last, found, -⟩ := bearerRule_eq_some.mp found
      obtain ⟨eq, fold⟩ := takeWord_eq_some.mp found
      rcases List.append_eq_append_iff.mp eq with ⟨tail, rfl, rfl⟩ | ⟨tail, eq, -⟩
      · cases tail with
        | nil =>
          rw [← fold, List.append_nil] at h
          exact h List.infix_rfl
        | cons d tail =>
          -- The word cannot run on behind the text: its letters are letters.
          have letters : ∀ e ∈ "bearer".toList, isLetter e = true := by decide
          have := letters (foldCase d) (by rw [← fold]; simp)
          simp [← isLetter_foldCase d, this] at after
      · refine h ?_
        rw [eq, List.map_append, fold]
        exact (List.prefix_append _ _).isInfix

/-! ## The three sweeps -/

/-- A value that can stand for a secret: letters and digits, and no word `bearer`. -/
structure IsSecret (v : List Char) : Prop where
  ne_nil : v ≠ []
  plain : ∀ c ∈ v, c.isAlphanum = true
  no_bearer : ¬"bearer".toList <:+: v.map foldCase

theorem IsSecret.values {v : List Char} (secret : IsSecret v) : ∀ d ∈ v, isValueChar d = true := fun d mem =>
  (isValueChar_of_isAlphanum (secret.plain d mem)).1

theorem IsSecret.any_head? {v : List Char} (secret : IsSecret v) (s : List Char) {q : Char → Bool} {t : Bool}
    (all : ∀ {c : Char}, c.isAlphanum = true → q c = t) : (v ++ s).head?.any q = t := by
  obtain ⟨c, v, rfl⟩ := List.exists_cons_of_ne_nil secret.ne_nil
  exact all (secret.plain c (by simp))

section

variable {p k gap gap' s : List Char} {c : Char} (ends : (lastOf none p).any isWord = false)
  (spelled : k.map foldCase ∈ spellings) (separator : IsSeparator gap c gap') (after : s.head?.any isValueChar = false)
include ends spelled separator after

/-- The sweep for bearer tokens keeps key and value, or it takes the key into a token and leaves the value. -/
theorem sweep_bearer :
    (∃ out, (lastOf none out).any isWord = false ∧ sweepAt bearerRule none (p ++ k) = out ++ k ∧ ∀ v, IsSecret v →
      sweepAt bearerRule none (p ++ (k ++ (gap ++ c :: gap' ++ (v ++ s)))) =
        out ++ (k ++ (gap ++ c :: gap' ++ (v ++ sweepAt bearerRule none s)))) ∨
    ∃ out word, word.map foldCase = "bearer".toList ∧
      sweepAt bearerRule none (p ++ k) = out ++ (word ++ [' ']) ++ mask ∧
      ∀ v, IsSecret v → sweepAt bearerRule none (p ++ (k ++ (gap ++ c :: gap' ++ (v ++ s)))) =
        out ++ (word ++ [' ']) ++
          (mask ++ ((gap ++ c :: gap').dropWhile (· == '=') ++ (v ++ sweepAt bearerRule none s))) := by
  have stop : s.head?.any isLetter = false := any_eq_false_of_imp isValueChar_of_isLetter after
  have known : ∃ second, Begins keyHeads second := ⟨_, begins_of_spelling spelled []⟩
  have keyPlain : ∀ d ∈ k, foldCase d ∉ ['b'] := fun d mem => by
    have := all_of_spelling (q := fun c => foldCase c != 'b') (fun c => by rw [foldCase_foldCase]) (by decide) spelled d
      mem
    simpa using this
  have keyTokens : ∀ d ∈ k, isTokenChar d = true := all_of_spelling isTokenChar_foldCase (by decide) spelled
  have value : ∀ v, IsSecret v → ∀ b xs, (∀ d ∈ xs, isLetter d = false) → sweepAt bearerRule b (xs ++ (v ++ s)) =
      xs ++ (v ++ sweepAt bearerRule none s) := fun v secret b xs plain => by
    rw [lawful_bearerRule.sweepAt_append_of_plain plain, sweepAt_append_of_none (quiet_of_absent secret.no_bearer stop _),
      lawful_bearerRule.sweepAt_of_plain stop _ none]
  rcases lawful_bearerRule.passes_or_reaches known (fun _ _ => decides_bearerRule) ends with
    ⟨out, b, off, closes, eq⟩ | ⟨passed, last, b, out, rfl, -, reads, eq⟩
  · refine .inl ⟨out, closes none fun _ => rfl, ?_, fun v secret => ?_⟩
    · have kept := sweepAt_append_of_none (lawful_bearerRule.along_of_starts keyPlain b [])
      rw [eq k (by simpa using begins_of_spelling spelled [])]
      simpa using kept
    · rw [eq _ (begins_of_spelling spelled _), sweepAt_append_of_none (lawful_bearerRule.along_of_starts keyPlain _ _),
        value v secret _ _ separator.not_isLetter]
  · obtain ⟨word, fold, found⟩ := reads.reads_on
    refine .inr ⟨out, word, fold, ?_, fun v secret => ?_⟩
    · have begins : Begins keyHeads k := by simpa using begins_of_spelling spelled []
      obtain ⟨l, hit⟩ := found k begins
      have nothing : k.dropWhile isTokenChar = [] := dropWhile_of_forall keyTokens
      rw [eq k begins, lawful_bearerRule.sweepAt_of_some hit, nothing]
      simp
    · have begins := begins_of_spelling spelled (gap ++ c :: gap' ++ (v ++ s))
      obtain ⟨l, hit⟩ := found _ begins
      have off : (gap ++ c :: gap' ++ (v ++ s)).head?.any isTokenChar = false := by
        rw [List.append_assoc]
        exact separator.any_head? _ isTokenChar_of_isBlank (by decide)
      have equals := run_append (p := (· == '=')) (gap ++ c :: gap')
        (.inr (secret.any_head? s fun plain => (isValueChar_of_isAlphanum plain).2.2))
      rw [eq _ begins, lawful_bearerRule.sweepAt_of_some hit, List.dropWhile_append_of_pos keyTokens,
        dropWhile_of_head off, equals.2, value v secret _ _ (separator.not_isLetter_dropWhile _)]
      simp

omit ends separator after in
/-- No assignment stands in a key with nothing behind it. -/
theorem key_alone (b : Option Char) : Along (fun b cs => assignmentRule b cs = none) b k [] := by
  obtain ⟨u, w, fold, -, -⟩ := cons_of_spelling spelled
  obtain ⟨d, k, rfl, -, -⟩ := List.map_eq_cons_iff.mp fold
  refine ⟨?_, lawful_assignmentRule.along_of_unbroken (unbroken_spelling _ spelled) _⟩
  cases apart : b.any isWord with
  | true => exact seeks_assignmentRule.of_word apart
  | false =>
    rw [seeks_assignmentRule.of_some apart (takeKey_eq_some.mpr ⟨_, spelled, takeWord_eq_some.mpr ⟨rfl, rfl⟩⟩)]
    rfl

omit ends in
/-- The assignment of a secret is found, and all of the secret is masked. -/
theorem assignmentRule_of_value {b : Option Char} (apart : b.any isWord = false) {v : List Char} (secret : IsSecret v) :
    ∃ last, assignmentRule b (k ++ (gap ++ c :: gap' ++ (v ++ s))) =
      some ⟨k ++ gap ++ c :: gap' ++ mask, last, s⟩ := by
  have off : isBlank c = false := by rcases separator.sign with rfl | rfl <;> decide
  have behind := run_append gap' (.inr (secret.any_head? s fun plain => (isValueChar_of_isAlphanum plain).2.1))
  have inGap := fun d mem => separator.gap_blank d mem
  obtain ⟨last, last_eq⟩ : ∃ last, v.getLast? = some last := ⟨_, List.getLast?_eq_some_getLast secret.ne_nil⟩
  have none_left : s.takeWhile isValueChar = [] := takeWhile_eq_nil.mpr after
  have skipped : gap'.dropWhile isBlank = [] := dropWhile_of_forall separator.gap'_blank
  have blanks : gap'.takeWhile isBlank = gap' := by
    simpa [skipped] using List.takeWhile_append_dropWhile (p := isBlank) (l := gap')
  refine ⟨last, assignmentRule_eq_some.mpr ⟨apart, _, k, gap ++ c :: (gap' ++ (v ++ s)), c, gap' ++ (v ++ s), last,
    spelled, takeWord_eq_some.mpr ⟨by simp, rfl⟩, ?_, separator.sign, ?_, ?_⟩⟩
  · rw [List.dropWhile_append_of_pos inGap, List.dropWhile_cons_of_neg (by simp [off])]
  · rw [behind.2, skipped, List.nil_append, List.takeWhile_append_of_pos secret.values, none_left, List.append_nil,
      last_eq]
  · have sign : ¬isBlank c = true := by simp [off]
    simp only [assignmentHit, List.takeWhile_append_of_pos inGap, List.takeWhile_cons_of_neg sign,
      behind.1, behind.2, skipped, blanks, List.nil_append, List.append_nil, List.dropWhile_append_of_pos secret.values,
      dropWhile_of_head after]

/-- The sweep for assignments masks the value, or it takes the key for an earlier value.  Then it takes the value as
well, unless a blank stands between them. -/
theorem sweep_assignment :
    (∃ out swept, sweepAt assignmentRule none (p ++ k) = out ++ k ∧ ∀ v, IsSecret v →
      sweepAt assignmentRule none (p ++ (k ++ (gap ++ c :: gap' ++ (v ++ s)))) = swept) ∨
    ∃ out, (lastOf none out).any isWord = false ∧ sweepAt assignmentRule none (p ++ k) = out ++ mask ∧
      ((∀ d ∈ gap ++ c :: gap', isBlank d = false) → ∃ swept, ∀ v, IsSecret v →
        sweepAt assignmentRule none (p ++ (k ++ (gap ++ c :: gap' ++ (v ++ s)))) = swept) ∧
      ((∃ d ∈ gap ++ c :: gap', isBlank d = true) → ∀ v, (∀ d ∈ v, isLetter d = false) →
        sweepAt assignmentRule none (p ++ (k ++ (gap ++ c :: gap' ++ (v ++ s)))) =
          out ++ (mask ++ ((gap ++ c :: gap').dropWhile isValueChar ++ (v ++ sweepAt assignmentRule none s)))) := by
  have stop : s.head?.any isLetter = false := any_eq_false_of_imp isValueChar_of_isLetter after
  have keyBegins : ∀ rest, Begins valueHeads (k ++ rest) := fun rest =>
    (begins_of_spelling spelled rest).mono fun c mem => List.mem_cons_of_mem _ mem
  have keyValues : ∀ d ∈ k, isValueChar d = true := all_of_spelling isValueChar_foldCase (by decide) spelled
  rcases lawful_assignmentRule.passes_or_reaches ⟨_, keyBegins []⟩ (fun _ _ => decides_assignmentRule) ends with
    ⟨out, b, off, closes, eq⟩ | ⟨passed, last, b, out, rfl, -, reads, eq⟩
  · refine .inl ⟨out, out ++ (k ++ gap ++ c :: gap' ++ mask ++ sweepAt assignmentRule none s), ?_, fun v secret => ?_⟩
    · rw [eq k (by simpa using keyBegins [])]
      have kept := sweepAt_append_of_none (key_alone spelled b)
      simpa using kept
    · obtain ⟨l, hit⟩ := assignmentRule_of_value spelled separator after off secret
      rw [eq _ (keyBegins _), lawful_assignmentRule.sweepAt_of_some hit,
        lawful_assignmentRule.sweepAt_of_plain stop _ none]
  · obtain ⟨shown, shown_ends, found⟩ := reads.reads_on
    have out_ends : (lastOf none (out ++ shown)).any isWord = false := by
      rw [lastOf_append]
      exact shown_ends _
    refine .inr ⟨out ++ shown, out_ends, ?_, fun joined => ?_, fun parted v plain => ?_⟩
    · have begins : Begins valueHeads k := by simpa using keyBegins []
      obtain ⟨l, hit⟩ := found k begins
      rw [eq k begins, lawful_assignmentRule.sweepAt_of_some hit, dropWhile_of_forall keyValues]
      simp
    · refine ⟨out ++ (shown ++ mask ++ sweepAt assignmentRule none s), fun v secret => ?_⟩
      obtain ⟨l, hit⟩ := found _ (keyBegins (gap ++ c :: gap' ++ (v ++ s)))
      rw [eq _ (keyBegins _), lawful_assignmentRule.sweepAt_of_some hit, List.dropWhile_append_of_pos keyValues,
        List.dropWhile_append_of_pos (separator.values joined), List.dropWhile_append_of_pos secret.values,
        dropWhile_of_head after, lawful_assignmentRule.sweepAt_of_plain stop _ none]
    · obtain ⟨l, hit⟩ := found _ (keyBegins (gap ++ c :: gap' ++ (v ++ s)))
      have stops : (gap ++ c :: gap').all isValueChar = false := by
        obtain ⟨d, mem, blank⟩ := parted
        exact List.all_eq_false.mpr ⟨d, mem, by simp [isValueChar, blank]⟩
      rw [eq _ (keyBegins _), lawful_assignmentRule.sweepAt_of_some hit, List.dropWhile_append_of_pos keyValues,
        (run_append _ (.inl stops)).2,
        lawful_assignmentRule.sweepAt_append_of_plain (separator.not_isLetter_dropWhile isValueChar),
        lawful_assignmentRule.sweepAt_append_of_plain plain, lawful_assignmentRule.sweepAt_of_plain stop _ none]
      simp

end

/-! ## What stays to be read -/

/-- An assignment does not read on from behind a letter and a blank: there it has no value yet, nor a sign. -/
theorem not_openValue {b : Option Char} {passed last xs : List Char} {l : Char} (letter : isLetter l = true)
    (split : xs ++ [l, ' '] = passed ++ last) : ¬OpenValue b last := by
  rintro ⟨-, w, key, rest, c, behind, -, found, gap, sign, all⟩
  obtain ⟨rfl, -⟩ := takeWord_eq_some.mp found
  have rest_eq : rest = rest.takeWhile isBlank ++ c :: behind := by rw [← gap, List.takeWhile_append_dropWhile]
  generalize rest.takeWhile isBlank = before at rest_eq
  subst rest_eq
  have off : isLetter c = false ∧ ' ' ≠ c := by rcases sign with rfl | rfl <;> decide
  have ends : ∀ (ys zs : List Char) (d e : Char), ys ++ [d] = zs ++ [e] → ys = zs ∧ d = e := fun ys zs d e eq => by
    simpa using eq
  cases last : behind.getLast? with
  | none =>
    obtain rfl := List.getLast?_eq_none_iff.mp last
    exact off.2 (ends (xs ++ [l]) (passed ++ (key ++ before)) _ _ (by simpa using split)).2
  | some d =>
    obtain ⟨behind, rfl⟩ := List.getLast?_eq_some_iff.mp last
    obtain ⟨inner, rfl⟩ := ends (xs ++ [l]) (passed ++ (key ++ (before ++ c :: behind))) _ _ (by simpa using split)
    -- The blank at the end leaves no value, so there are only blanks behind the sign.
    have blanks : behind.all isBlank = true := by
      cases only : behind.all isBlank with
      | true => rfl
      | false => simp [(run_append behind (.inl only)).2, isValueChar, show isBlank ' ' = true from rfl] at all
    cases last : behind.getLast? with
    | none =>
      obtain rfl := List.getLast?_eq_none_iff.mp last
      obtain ⟨-, rfl⟩ := ends xs (passed ++ (key ++ before)) _ _ (by simpa using inner)
      simp [off.1] at letter
    | some e =>
      obtain ⟨behind, rfl⟩ := List.getLast?_eq_some_iff.mp last
      obtain ⟨-, rfl⟩ := ends xs (passed ++ (key ++ (before ++ c :: behind))) _ _ (by simpa using inner)
      simp [isBlank_of_isLetter letter] at blanks

/-- A sweep that finds nothing in the mask finds nothing behind it before the next letter. -/
theorem Lawful.sweepAt_mask {rule : Rule} {starts between v s : List Char} (lawful : Lawful rule starts)
    (quiet : ∀ b rest, Along (fun b cs => rule b cs = none) b mask rest) (plain : ∀ d ∈ between, isLetter d = false)
    (digits : ∀ d ∈ v, isLetter d = false) (stop : s.head?.any isLetter = false) (b : Option Char) :
    sweepAt rule b (mask ++ (between ++ (v ++ s))) = mask ++ (between ++ (v ++ sweepAt rule none s)) := by
  rw [sweepAt_append_of_none (quiet _ _), lawful.sweepAt_append_of_plain plain, lawful.sweepAt_append_of_plain digits,
    lawful.sweepAt_of_plain stop _ none]

/-- Behind a mask a value stays to be read: the sweep for key texts does not reach it. -/
theorem keyText_tells_apart {xs between s : List Char} (ends : (lastOf none xs).any isWord = false)
    (plain : ∀ d ∈ between, isLetter d = false) (after : s.head?.any isValueChar = false) :
    sweepAt keyTextRule none (xs ++ (mask ++ (between ++ (['0'] ++ s)))) ≠
      sweepAt keyTextRule none (xs ++ (mask ++ (between ++ (['0', '0'] ++ s)))) := by
  have stop : s.head?.any isLetter = false := any_eq_false_of_imp isValueChar_of_isLetter after
  have begins : ∀ rest, Begins ['['] (mask ++ rest) := fun rest => ⟨'[', _, rfl, by decide⟩
  rcases lawful_keyTextRule.passes_or_reaches ⟨_, begins []⟩ (fun _ _ => decides_keyTextRule) ends with
    ⟨out, b, -, -, eq⟩ | ⟨_, _, _, _, _, _, reads, _⟩
  · have swept : ∀ v, (∀ d ∈ v, isLetter d = false) → sweepAt keyTextRule none (xs ++ (mask ++ (between ++ (v ++ s)))) =
        out ++ (mask ++ (between ++ (v ++ sweepAt keyTextRule none s))) := fun v digits => by
      rw [eq _ (begins _), lawful_keyTextRule.sweepAt_mask along_mask_keyTextRule plain digits stop]
    rw [swept ['0'] (by decide), swept ['0', '0'] (by decide)]
    intro same
    have := congrArg List.length same
    simp at this
  · exact reads.elim

/-- Behind a mask that stands after a letter and a blank the sweep for assignments does not reach the value either. -/
theorem assignment_shows (xs : List Char) {between s : List Char} {l : Char} (letter : isLetter l = true)
    (plain : ∀ d ∈ between, isLetter d = false) (after : s.head?.any isValueChar = false) :
    ∃ out, (lastOf none out).any isWord = false ∧ ∀ v, (∀ d ∈ v, isLetter d = false) →
      sweepAt assignmentRule none (xs ++ [l, ' '] ++ (mask ++ (between ++ (v ++ s)))) =
        out ++ (mask ++ (between ++ (v ++ sweepAt assignmentRule none s))) := by
  have stop : s.head?.any isLetter = false := any_eq_false_of_imp isValueChar_of_isLetter after
  have begins : ∀ rest, Begins valueHeads (mask ++ rest) := fun rest => ⟨'[', _, rfl, by decide⟩
  have ends : (lastOf none (xs ++ [l, ' '])).any isWord = false := by
    rw [lastOf_append]
    exact (by decide : isWord ' ' = false)
  rcases lawful_assignmentRule.passes_or_reaches ⟨_, begins []⟩ (fun _ _ => decides_assignmentRule) ends with
    ⟨out, b, -, closes, eq⟩ | ⟨passed, last, b, out, split, -, reads, -⟩
  · refine ⟨out, closes none fun _ => rfl, fun v digits => ?_⟩
    rw [eq _ (begins _), lawful_assignmentRule.sweepAt_mask along_mask_assignmentRule plain digits stop]
  · exact absurd reads (not_openValue letter split)

/-! ## Where the value is hidden -/

section

variable {p k gap gap' s : List Char} {c : Char} (ends : (lastOf none p).any isWord = false)
  (spelled : k.map foldCase ∈ spellings) (separator : IsSeparator gap c gap') (after : s.head?.any isValueChar = false)
include ends spelled separator after

theorem hides_iff :
    (∀ v₁ v₂, IsSecret v₁ → IsSecret v₂ →
      sweepAt keyTextRule none (sweepAt assignmentRule none (sweepAt bearerRule none
        (p ++ (k ++ (gap ++ c :: gap' ++ (v₁ ++ s)))))) =
      sweepAt keyTextRule none (sweepAt assignmentRule none (sweepAt bearerRule none
        (p ++ (k ++ (gap ++ c :: gap' ++ (v₂ ++ s))))))) ↔
    k <:+ sweepAt bearerRule none (p ++ k) ∧ (k <:+ sweepAt assignmentRule none (sweepAt bearerRule none (p ++ k)) ∨
      ∀ d ∈ gap ++ c :: gap', isBlank d = false) := by
  have after' : (sweepAt bearerRule none s).head?.any isValueChar = false := by
    rw [lawful_bearerRule.any_head?_sweepAt isValueChar_foldCase, after]
  have after'' : (sweepAt assignmentRule none (sweepAt bearerRule none s)).head?.any isValueChar = false := by
    rw [lawful_assignmentRule.any_head?_sweepAt isValueChar_foldCase, after']
  have zero : IsSecret ['0'] := ⟨by simp, by decide, by decide⟩
  have zeros : IsSecret ['0', '0'] := ⟨by simp, by decide, by decide⟩
  rcases sweep_bearer ends spelled separator after with ⟨out, out_ends, kept, swept⟩ | ⟨out, word, fold, taken, left⟩
  · rw [kept]
    simp only [List.suffix_append, true_and]
    rcases sweep_assignment out_ends spelled separator after' with
      ⟨out', rest, kept', masked⟩ | ⟨out', out'_ends, taken', joined, parted⟩
    · refine iff_of_true (fun v₁ v₂ secret₁ secret₂ => ?_) (.inl (kept' ▸ List.suffix_append _ _))
      rw [swept v₁ secret₁, swept v₂ secret₂, masked v₁ secret₁, masked v₂ secret₂]
    · rw [taken', or_iff_right (not_suffix_mask spelled out')]
      constructor
      · intro hidden
        by_cases apart : ∃ d ∈ gap ++ c :: gap', isBlank d = true
        · have shown := hidden _ _ zero zeros
          rw [swept _ zero, swept _ zeros, parted apart _ (by decide), parted apart _ (by decide)] at shown
          exact absurd shown (keyText_tells_apart out'_ends (separator.not_isLetter_dropWhile _) after'')
        · intro d mem
          simpa using fun blank => apart ⟨d, mem, blank⟩
      · intro apart v₁ v₂ secret₁ secret₂
        obtain ⟨rest, masked⟩ := joined apart
        rw [swept v₁ secret₁, swept v₂ secret₂, masked v₁ secret₁, masked v₂ secret₂]
  · refine iff_of_false (fun hidden => ?_) fun stands => not_suffix_mask spelled _ (taken ▸ stands.1)
    have shown := hidden _ _ zero zeros
    obtain ⟨xs, l, split, letter⟩ : ∃ xs l, out ++ (word ++ [' ']) = xs ++ [l, ' '] ∧ isLetter l = true := by
      have ends : (word.map foldCase).getLast? = some 'r' := by rw [fold]; rfl
      rw [List.getLast?_map, Option.map_eq_some_iff] at ends
      obtain ⟨l, ends, eq⟩ := ends
      obtain ⟨ys, rfl⟩ := List.getLast?_eq_some_iff.mp ends
      exact ⟨out ++ ys, l, by simp, isLetter_of_foldCase_eq eq (by decide)⟩
    have plain := separator.not_isLetter_dropWhile (· == '=')
    obtain ⟨out', out'_ends, shows⟩ := assignment_shows xs letter plain after'
    rw [left _ zero, left _ zeros, split, shows _ (by decide), shows _ (by decide)] at shown
    exact keyText_tells_apart out'_ends plain after'' shown

end

end PasskeyConsent.Redaction

namespace PasskeyConsent

open Redaction Text

attribute [local instance (2000)] List.decidableBAll Option.decidableForallMem

/-- **When a redacted text hides an assigned secret.**  The text before the key does not end in a word character, the
key is one of the ten spellings in any case, and a comma or a blank follows the value, or nothing.  The value does not
show in the redacted text just when its key outlives the sweep for bearer tokens, and the sweep for assignments as well
unless the separator has no blank. -/
theorem redact_hides_iff {p k sep s : String} (ends : p.toList.getLast?.any isWord = false)
    (spelled : k.toList.map foldCase ∈ spellings)
    (separator : ∃ gap c gap', sep.toList = gap ++ c :: gap' ∧ IsSeparator gap c gap')
    (after : ∀ d ∈ s.toList.head?, d = ',' ∨ isBlank d = true) :
    (∀ v₁ v₂ : String, IsSecret v₁.toList → IsSecret v₂.toList →
      redact (p ++ k ++ sep ++ v₁ ++ s) = redact (p ++ k ++ sep ++ v₂ ++ s)) ↔
    k.toList <:+ sweep bearerRule (p ++ k).toList ∧
      (k.toList <:+ sweep assignmentRule (sweep bearerRule (p ++ k).toList) ∨ ∀ d ∈ sep.toList, isBlank d = false) := by
  obtain ⟨gap, c, gap', sep_eq, separator⟩ := separator
  have text : ∀ v : String, (p ++ k ++ sep ++ v ++ s).toList =
      p.toList ++ (k.toList ++ (gap ++ c :: gap' ++ (v.toList ++ s.toList))) := fun v => by
    simp [String.toList_append, sep_eq]
  have value : s.toList.head?.any isValueChar = false := by
    cases head : s.toList.head? with
    | none => rfl
    | some d => rcases after d head with rfl | blank <;> simp [isValueChar, *]
  rw [← lastOf_none] at ends
  have := hides_iff ends spelled separator value
  rw [String.toList_append, sep_eq]
  refine .trans ⟨fun hidden v₁ v₂ secret₁ secret₂ => ?_, fun hidden v₁ v₂ secret₁ secret₂ => ?_⟩ this
  · have same := hidden (String.ofList v₁) (String.ofList v₂) (by rwa [String.toList_ofList])
      (by rwa [String.toList_ofList])
    rw [redact_eq, redact_eq, text, text, String.toList_ofList, String.toList_ofList] at same
    exact String.ofList_injective same
  · rw [redact_eq, redact_eq, text, text, hidden _ _ secret₁ secret₂]

theorem redact_hides_api_key :
    redact ("login failed: " ++ "API_KEY" ++ " = " ++ "abc1" ++ ", again") =
      redact ("login failed: " ++ "API_KEY" ++ " = " ++ "xyz" ++ ", again") :=
  have separator : ∃ gap c gap', " = ".toList = gap ++ c :: gap' ∧ IsSeparator gap c gap' :=
    ⟨[' '], '=', [' '], rfl, by decide, .inr rfl, by decide⟩
  (redact_hides_iff (by decide) (by decide) separator (by decide)).mpr
    ⟨by decide, .inl (by decide)⟩ _ _ ⟨by decide, by decide, by decide⟩
    ⟨by decide, by decide, by decide⟩

/-- A bearer token before it gives the value away. -/
theorem redact_shows_value_after_bearer : ¬∀ p k sep s v₁ v₂ : String, p.toList.getLast?.any isWord = false →
    k.toList.map foldCase ∈ spellings → (∃ gap c gap', sep.toList = gap ++ c :: gap' ∧ IsSeparator gap c gap') →
    (∀ d ∈ s.toList.head?, d = ',' ∨ isBlank d = true) → IsSecret v₁.toList → IsSecret v₂.toList →
    redact (p ++ k ++ sep ++ v₁ ++ s) = redact (p ++ k ++ sep ++ v₂ ++ s) := by
  intro hidden
  have := hidden "bearer " "token" "=" "" "abc" "xyz" (by decide) (by decide)
    ⟨[], '=', [], rfl, by decide, .inr rfl, by decide⟩ (by decide) ⟨by decide, by decide, by decide⟩
    ⟨by decide, by decide, by decide⟩
  exact absurd this (by decide)

end PasskeyConsent

import PasskeyConsent.Proofs.Redaction.Rules
/-!
# Patterns

What the three sweeps look for, written as patterns.  A pattern matches at a place in several ways, in an order of
preference: the first branch before the second, and a run of characters as long as it can be before any shorter one.
The one that counts is the first (`Pattern.first`), and a search goes on behind it (`Pattern.findAll`).

Each rule finds what its pattern finds and puts for it what its template makes of the groups (`rule_bearerPattern`,
`rule_assignmentPattern`, `rule_keyTextPattern`).  A run that could be shorter never needs to be: the pattern does not
go on with a character of the kind (`flatMap_run`).
-/
namespace PasskeyConsent.Redaction

open Text (isBlank isWord isBoundary)

inductive Pattern where
  | empty
  | char (p : Char → Bool)
  /-- A word begins or ends here. -/
  | boundary
  | seq (first second : Pattern)
  | either (first second : Pattern)
  /-- As many characters of a kind as there are, or fewer, but no fewer than the least. -/
  | run (least : Nat) (p : Char → Bool)
  | group (inner : Pattern)

/-- A way in which a pattern matches: what it takes of the text, what its groups have taken, and what is left. -/
structure Match where
  taken : List Char
  groups : List (List Char)
  rest : List Char

def Match.append (m n : Match) : Match := ⟨m.taken ++ n.taken, m.groups ++ n.groups, n.rest⟩

/-- All ways to take characters of a kind off a text, the longest first. -/
def runs (p : Char → Bool) : List Char → List (List Char × List Char)
  | [] => [([], [])]
  | c :: cs => if p c then (runs p cs).map (fun x => (c :: x.1, x.2)) ++ [([], c :: cs)] else [([], c :: cs)]

namespace Pattern

/-- The ways in which a pattern matches at a place, in the order of preference. -/
def ways : Pattern → Option Char → List Char → List Match
  | .empty, _, cs => [⟨[], [], cs⟩]
  | .char _, _, [] => []
  | .char p, _, c :: cs => if p c then [⟨[c], [], cs⟩] else []
  | .boundary, b, cs => if isBoundary b cs.head? then [⟨[], [], cs⟩] else []
  | .seq p q, b, cs => (ways p b cs).flatMap fun m => (ways q (lastOf b m.taken) m.rest).map m.append
  | .either p q, b, cs => ways p b cs ++ ways q b cs
  | .run least p, _, cs => ((runs p cs).filter fun x => least ≤ x.1.length).map fun x => ⟨x.1, [], x.2⟩
  | .group p, b, cs => (ways p b cs).map fun m => { m with groups := m.groups ++ [m.taken] }

/-- The way that counts. -/
def first (p : Pattern) (b : Option Char) (cs : List Char) : Option Match := (p.ways b cs).head?

/-- Every match of a search from the left, each behind the one before.  The first argument bounds the rounds. -/
def findAllFrom (p : Pattern) : Nat → Option Char → List Char → List Match
  | 0, _, _ => []
  | n + 1, b, cs =>
    match p.first b cs, cs with
    | some m, _ => m :: findAllFrom p n (lastOf b m.taken) m.rest
    | none, [] => []
    | none, c :: cs => findAllFrom p n (some c) cs

def findAll (p : Pattern) (cs : List Char) : List Match := findAllFrom p (cs.length + 1) none cs

/-- The rule that puts for a match what a template makes of its groups. -/
def rule (p : Pattern) (template : List (List Char) → List Char) : Rule := fun b cs =>
  (p.first b cs).bind fun m => m.taken.getLast?.map fun last => ⟨template m.groups, last, m.rest⟩

/-- A word, without regard to case. -/
def word (w : String) : Pattern := w.toList.foldr (fun c p => .seq (.char (foldCase · = c)) p) .empty

/-- Two words in one, or with one of two joints between them. -/
def jointed (head tail : String) : Pattern :=
  .seq (word head) (.seq (.either (.char fun c => c == '_' || c == '-') .empty) (word tail))

end Pattern

open Pattern (word jointed)

/-- Blanks, a token and the padding that may follow. -/
def tokenPattern : Pattern := .seq (.run 1 isBlank) (.seq (.run 1 isTokenChar) (.run 0 (· == '=')))

/-- A token behind the word that heads it. -/
def bearerPattern : Pattern := .seq .boundary (.seq (.group (word "bearer")) tokenPattern)

def keyPattern : Pattern :=
  .either (word "token") (.either (jointed "api" "key") (.either (word "secret")
    (.either (word "password") (.either (word "seed") (jointed "prf" "output")))))

def signPattern : Pattern :=
  .seq (.run 0 isBlank) (.seq (.char fun c => c == ':' || c == '=') (.run 0 isBlank))

/-- A sign between blanks, and a value. -/
def valuePattern : Pattern := .seq (.group signPattern) (.group (.run 1 isValueChar))

/-- A key that stands apart, and what is assigned to it. -/
def assignmentPattern : Pattern := .seq .boundary (.seq (.group keyPattern) (.seq .boundary valuePattern))

def keyTextPattern : Pattern :=
  .seq .boundary (.seq (word "ed25519:") (.seq (.run 40 isKeyChar) .boundary))

/-! ## Runs -/

/-- The longest run comes first, and a shorter one leaves a character of the kind. -/
theorem runs_eq_cons (p : Char → Bool) (cs : List Char) : ∃ shorter,
    runs p cs = (cs.takeWhile p, cs.dropWhile p) :: shorter ∧
    ∀ x ∈ shorter, x.1.all p = true ∧ x.1.length < (cs.takeWhile p).length ∧ x.2.head?.any p = true := by
  induction cs with
  | nil => exact ⟨[], rfl, nofun⟩
  | cons c cs ih =>
    obtain ⟨shorter, eq, short⟩ := ih
    by_cases h : p c = true
    · refine ⟨shorter.map (fun x => (c :: x.1, x.2)) ++ [([], c :: cs)], ?_, ?_⟩
      · simp [runs, h, eq]
      · intro x mem
        rw [List.mem_append, List.mem_map, List.mem_singleton] at mem
        rcases mem with ⟨y, mem, rfl⟩ | rfl
        · obtain ⟨all, less, goes⟩ := short y mem
          simp [h, less, goes]
          simpa using all
        · simp [h]
    · exact ⟨[], by simp [runs, h], nofun⟩

section

variable {least : Nat} {p : Char → Bool} {b : Option Char} {cs : List Char}

theorem ways_run_of_le (h : least ≤ (cs.takeWhile p).length) : ∃ shorter,
    (Pattern.run least p).ways b cs = ⟨cs.takeWhile p, [], cs.dropWhile p⟩ :: shorter ∧
    ∀ m ∈ shorter, ∃ a c rest, m = ⟨a, [], c :: rest⟩ ∧ a.all p = true ∧ least ≤ a.length ∧ p c = true := by
  obtain ⟨shorter, eq, short⟩ := runs_eq_cons p cs
  refine ⟨(shorter.filter fun x => least ≤ x.1.length).map fun x => ⟨x.1, [], x.2⟩, ?_, ?_⟩
  · rw [Pattern.ways, eq, List.filter_cons_of_pos (by simpa using h), List.map_cons]
  · intro m mem
    obtain ⟨⟨a, rest⟩, found, rfl⟩ := List.mem_map.mp mem
    obtain ⟨shown, long⟩ := List.mem_filter.mp found
    obtain ⟨all, -, goes⟩ := short _ shown
    cases rest with
    | nil => cases goes
    | cons c rest => exact ⟨a, c, rest, rfl, all, by simpa using long, goes⟩

theorem ways_run_of_lt (h : (cs.takeWhile p).length < least) : (Pattern.run least p).ways b cs = [] := by
  obtain ⟨shorter, eq, short⟩ := runs_eq_cons p cs
  rw [Pattern.ways, List.map_eq_nil_iff, List.filter_eq_nil_iff, eq]
  intro x mem
  have : x.1.length ≤ (cs.takeWhile p).length := by
    rcases List.mem_cons.mp mem with rfl | mem
    · exact Nat.le_refl _
    · exact Nat.le_of_lt (short x mem).2.1
  simp
  omega

/-- What cannot go on with a character of the kind goes on behind the longest run. -/
theorem flatMap_run {α : Type} {f : Match → List α}
    (stops : ∀ a c rest, a.all p = true → least ≤ a.length → p c = true → f ⟨a, [], c :: rest⟩ = []) :
    ((Pattern.run least p).ways b cs).flatMap f =
      if least ≤ (cs.takeWhile p).length then f ⟨cs.takeWhile p, [], cs.dropWhile p⟩ else [] := by
  by_cases h : least ≤ (cs.takeWhile p).length
  · obtain ⟨shorter, eq, short⟩ := ways_run_of_le (b := b) h
    have none : shorter.flatMap f = [] := by
      rw [List.flatMap_eq_nil_iff]
      intro m mem
      obtain ⟨a, c, rest, rfl, all, long, goes⟩ := short m mem
      exact stops a c rest all long goes
    rw [eq, List.flatMap_cons, none, List.append_nil, if_pos h]
  · rw [ways_run_of_lt (Nat.lt_of_not_le h), if_neg h]
    rfl

theorem first_run : (Pattern.run least p).first b cs =
    if least ≤ (cs.takeWhile p).length then some ⟨cs.takeWhile p, [], cs.dropWhile p⟩ else none := by
  unfold Pattern.first
  by_cases h : least ≤ (cs.takeWhile p).length
  · obtain ⟨shorter, eq, -⟩ := ways_run_of_le (b := b) h
    rw [eq, if_pos h]
    rfl
  · rw [ways_run_of_lt (Nat.lt_of_not_le h), if_neg h]
    rfl

end

/-! ## Words -/

theorem ways_word (w : String) (b : Option Char) (cs : List Char) :
    (word w).ways b cs = (takeWord w.toList cs).toList.map fun x => ⟨x.1, [], x.2⟩ := by
  unfold word
  generalize w.toList = w
  induction w generalizing b cs with
  | nil => rfl
  | cons u w ih =>
    cases cs with
    | nil => rfl
    | cons c cs =>
      simp only [List.foldr_cons, Pattern.ways, takeWord, decide_eq_true_eq]
      by_cases h : foldCase c = u
      · simp only [h, if_true, List.flatMap_singleton, ih]
        cases takeWord w cs <;> rfl
      · simp only [h, if_false]
        rfl

theorem mem_ways_word {w : String} {b : Option Char} {cs : List Char} {m : Match} :
    m ∈ (word w).ways b cs ↔ m.groups = [] ∧ takeWord w.toList cs = some (m.taken, m.rest) := by
  obtain ⟨taken, groups, rest⟩ := m
  rw [ways_word]
  cases takeWord w.toList cs with
  | none => simp
  | some x =>
    obtain ⟨a, rest'⟩ := x
    simp
    grind

theorem mem_ways_seq {p q : Pattern} {b : Option Char} {cs : List Char} {m : Match} :
    m ∈ (Pattern.seq p q).ways b cs ↔
      ∃ m₁ ∈ p.ways b cs, ∃ m₂ ∈ q.ways (lastOf b m₁.taken) m₁.rest, m₁.append m₂ = m := by
  simp only [Pattern.ways, List.mem_flatMap, List.mem_map]

@[simp] theorem Match.append_mk_nil (cs : List Char) (m : Match) : (⟨[], [], cs⟩ : Match).append m = m := rfl

/-- A word behind what has been taken. -/
theorem mem_append_ways_word {w : String} {a cs cs' : List Char} {b : Option Char} {m : Match} :
    m ∈ ((word w).ways b cs).map (Match.append ⟨a, [], cs'⟩) ↔
      m.groups = [] ∧ ∃ t, takeWord w.toList cs = some (t, m.rest) ∧ a ++ t = m.taken := by
  obtain ⟨taken, groups, rest⟩ := m
  rw [ways_word]
  cases takeWord w.toList cs with
  | none => simp
  | some x =>
    obtain ⟨t, rest'⟩ := x
    simp [Match.append]
    grind

/-- A joint or none, and then the second word. -/
theorem mem_ways_joint {tail : String} {b : Option Char} {cs : List Char} {m : Match} :
    m ∈ (Pattern.seq (.either (.char fun c => c == '_' || c == '-') .empty) (word tail)).ways b cs ↔ m.groups = [] ∧
      (takeWord ('_' :: tail.toList) cs = some (m.taken, m.rest) ∨
        takeWord ('-' :: tail.toList) cs = some (m.taken, m.rest) ∨
        takeWord tail.toList cs = some (m.taken, m.rest)) := by
  rw [Pattern.ways, Pattern.ways, List.flatMap_append, List.mem_append]
  cases cs with
  | nil => simp [Pattern.ways, mem_ways_word, takeWord]
  | cons c cs =>
    simp only [Pattern.ways, takeWord, foldCase_eq_underscore, foldCase_eq_hyphen]
    by_cases underscore : c = '_'
    · simp [underscore, mem_append_ways_word, -List.mem_map, and_or_left]
    by_cases hyphen : c = '-'
    · simp [hyphen, mem_append_ways_word, -List.mem_map, and_or_left]
    simp [underscore, hyphen, mem_ways_word]

theorem mem_ways_jointed {head tail : String} {b : Option Char} {cs : List Char} {m : Match} :
    m ∈ (jointed head tail).ways b cs ↔ m.groups = [] ∧
      (takeWord (head.toList ++ '_' :: tail.toList) cs = some (m.taken, m.rest) ∨
        takeWord (head.toList ++ '-' :: tail.toList) cs = some (m.taken, m.rest) ∨
        takeWord (head.toList ++ tail.toList) cs = some (m.taken, m.rest)) := by
  obtain ⟨taken, groups, rest⟩ := m
  rw [jointed, Pattern.ways, ways_word]
  simp only [takeWord_append]
  cases takeWord head.toList cs with
  | none => simp
  | some x =>
    obtain ⟨a, behind⟩ := x
    simp only [Option.toList_some, List.map_singleton, List.flatMap_singleton, List.mem_map, mem_ways_joint,
      Option.bind_some, Option.map_eq_some_iff, Prod.exists, Prod.mk.injEq, Match.append, Match.mk.injEq]
    constructor
    · rintro ⟨n, ⟨none, found⟩, rfl, rfl, rfl⟩
      simp [none]
      grind
    · rintro ⟨rfl, ⟨t, rest', found, rfl, rfl⟩ | ⟨t, rest', found, rfl, rfl⟩ | ⟨t, rest', found, rfl, rfl⟩⟩ <;>
        exact ⟨⟨t, [], rest'⟩, ⟨rfl, by simp [found]⟩, rfl, rfl, rfl⟩

theorem mem_ways_keyPattern {b : Option Char} {cs : List Char} {m : Match} :
    m ∈ keyPattern.ways b cs ↔ m.groups = [] ∧ takeKey cs keyNames = some (m.taken, m.rest) := by
  have : spellings = ["token".toList, "apikey".toList, "api_key".toList, "api-key".toList, "secret".toList,
    "password".toList, "seed".toList, "prfoutput".toList, "prf_output".toList, "prf-output".toList] := by decide
  simp only [takeKey_eq_some, keyPattern, Pattern.ways, List.mem_append, mem_ways_word, mem_ways_jointed, this]
  simp
  grind

/-! ## One thing after the other -/

section

variable {p q : Pattern} {b : Option Char} {cs : List Char}

theorem first_boundary :
    (Pattern.seq .boundary q).first b cs = if isBoundary b cs.head? then q.first b cs else none := by
  unfold Pattern.first
  cases h : isBoundary b cs.head? with
  | false => simp [Pattern.ways, h]
  | true =>
    have : (Match.mk [] [] cs).append = id := by
      funext m
      rfl
    simp [Pattern.ways, h, this]

theorem first_stop : Pattern.boundary.first b cs = if isBoundary b cs.head? then some ⟨[], [], cs⟩ else none := by
  rw [Pattern.first, Pattern.ways]
  split <;> rfl

/-- Where something is found in at most one way, what follows is looked for behind it. -/
theorem first_seq_of_mem {g : List Char → List (List Char)} {taken : Option (List Char × List Char)}
    (known : ∀ m, m ∈ p.ways b cs ↔ m.groups = g m.taken ∧ taken = some (m.taken, m.rest)) :
    (Pattern.seq p q).first b cs =
      taken.bind fun (a, rest) => (q.first (lastOf b a) rest).map (Match.append ⟨a, g a, rest⟩) := by
  rw [Pattern.first, Pattern.ways, List.head?_flatMap]
  cases taken with
  | none =>
    have : p.ways b cs = [] := List.eq_nil_iff_forall_not_mem.mpr fun m mem => by simpa using (known m).mp mem
    rw [this]
    rfl
  | some x =>
    obtain ⟨a, rest⟩ := x
    have same : ∀ m ∈ p.ways b cs, m = ⟨a, g a, rest⟩ := by
      intro m mem
      obtain ⟨groups, eq⟩ := (known m).mp mem
      obtain ⟨rfl, rfl⟩ := Prod.mk.inj (Option.some.inj eq)
      rw [← groups]
    have here : ⟨a, g a, rest⟩ ∈ p.ways b cs := (known ⟨a, g a, rest⟩).mpr ⟨rfl, rfl⟩
    rw [List.eq_replicate_of_mem same, List.findSome?_replicate, if_neg (Nat.ne_of_gt (List.length_pos_of_mem here)),
      List.head?_map]
    rfl

theorem first_seq_run {least : Nat} {k : Char → Bool}
    (stops : ∀ a c rest, a.all k = true → least ≤ a.length → k c = true → q.ways (lastOf b a) (c :: rest) = []) :
    (Pattern.seq (.run least k) q).first b cs = if least ≤ (cs.takeWhile k).length then
      (q.first (lastOf b (cs.takeWhile k)) (cs.dropWhile k)).map (Match.append ⟨cs.takeWhile k, [], cs.dropWhile k⟩)
    else none := by
  rw [Pattern.first, Pattern.ways, flatMap_run]
  · split
    · rw [List.head?_map]
      rfl
    · rfl
  · intro a c rest all long goes
    rw [stops a c rest all long goes]
    rfl

end

theorem first_seq_of_isSome {p q : Pattern} (always : ∀ b cs, (q.first b cs).isSome) {b : Option Char}
    {cs : List Char} : (Pattern.seq p q).first b cs =
      (p.first b cs).bind fun m => (q.first (lastOf b m.taken) m.rest).map m.append := by
  unfold Pattern.first at always ⊢
  rw [Pattern.ways]
  cases p.ways b cs with
  | nil => rfl
  | cons m ms =>
    obtain ⟨n, found⟩ := Option.isSome_iff_exists.mp (always (lastOf b m.taken) m.rest)
    simp [found]

theorem first_group {p : Pattern} {b : Option Char} {cs : List Char} :
    (Pattern.group p).first b cs = (p.first b cs).map fun m => { m with groups := m.groups ++ [m.taken] } :=
  List.head?_map

theorem mem_ways_group {p : Pattern} {taken : Option (List Char × List Char)} {b : Option Char} {cs : List Char}
    (known : ∀ m, m ∈ p.ways b cs ↔ m.groups = [] ∧ taken = some (m.taken, m.rest)) (m : Match) :
    m ∈ (Pattern.group p).ways b cs ↔ m.groups = [m.taken] ∧ taken = some (m.taken, m.rest) := by
  obtain ⟨a, groups, rest⟩ := m
  simp only [Pattern.ways, List.mem_map, known, Match.mk.injEq]
  constructor
  · rintro ⟨n, ⟨none, found⟩, rfl, rfl, rfl⟩
    exact ⟨by simp [none], found⟩
  · rintro ⟨rfl, found⟩
    exact ⟨⟨a, [], rest⟩, ⟨rfl, found⟩, rfl, rfl, rfl⟩

/-! ## Bearer tokens -/

theorem Seeks.unique {rule rule' : Rule} {take : List Char → Option (List Char × List Char)}
    {find : List Char → List Char → Option Hit} (h : Seeks rule take find) (h' : Seeks rule' take find) :
    rule = rule' := by
  funext b cs
  rw [h, h']

/-- What is found in at most one way where a word begins makes a rule that seeks it. -/
theorem seeks_rule {p q : Pattern} {g : List Char → List (List Char)} {template : List (List Char) → List Char}
    {take : List Char → Option (List Char × List Char)} {find : List Char → List Char → Option Hit}
    (known : ∀ b cs m, m ∈ p.ways b cs ↔ m.groups = g m.taken ∧ take cs = some (m.taken, m.rest))
    (apart : ∀ {cs a rest}, take cs = some (a, rest) → ∀ b, isBoundary b cs.head? = !b.any isWord)
    (found : ∀ {b cs a rest}, take cs = some (a, rest) → ((q.first (lastOf b a) rest).bind fun m =>
      (a ++ m.taken).getLast?.map fun last => ⟨template (g a ++ m.groups), last, m.rest⟩) = find a rest) :
    Seeks ((Pattern.seq .boundary (.seq p q)).rule template) take find := by
  refine seeks_of_isBoundary apart fun b cs => ?_
  rw [Pattern.rule, first_boundary, first_seq_of_mem (known b cs)]
  cases taken : take cs with
  | none => simp
  | some x =>
    obtain ⟨a, rest⟩ := x
    cases isBoundary b cs.head? with
    | false => simp
    | true =>
      simp only [if_true, Option.bind_some, Option.bind_map, ← found (b := b) taken]
      rfl

theorem one_le_length_takeWhile {p : Char → Bool} {cs : List Char} :
    1 ≤ (cs.takeWhile p).length ↔ cs.head?.any p = true := by
  rw [Nat.one_le_iff_ne_zero, ne_eq, List.length_eq_zero_iff, takeWhile_eq_nil, Bool.not_eq_false]

theorem first_tokenPattern {b : Option Char} {cs : List Char} : tokenPattern.first b cs =
    if cs.head?.any isBlank ∧ (cs.dropWhile isBlank).head?.any isTokenChar then
      some ⟨cs.takeWhile isBlank ++ ((cs.dropWhile isBlank).takeWhile isTokenChar ++
          ((cs.dropWhile isBlank).dropWhile isTokenChar).takeWhile (· == '=')), [],
        ((cs.dropWhile isBlank).dropWhile isTokenChar).dropWhile (· == '=')⟩
    else none := by
  have padding : ∀ b cs, ((Pattern.run 0 (· == '=')).first b cs).isSome := by
    intro b cs
    simp [first_run]
  rw [tokenPattern, first_seq_run, first_seq_of_isSome padding]
  · simp only [first_run, one_le_length_takeWhile]
    by_cases blank : cs.head?.any isBlank = true <;>
      by_cases token : (cs.dropWhile isBlank).head?.any isTokenChar = true <;> simp [blank, token, Match.append]
  · -- A token does not begin with a blank.
    intro a c rest _ _ blank
    rw [Pattern.ways, ways_run_of_lt (by simp [isTokenChar_of_isBlank blank])]
    rfl

theorem rule_bearerPattern : bearerPattern.rule (fun gs => gs[0]?.getD [] ++ ' ' :: mask) = bearerRule := by
  have apart : ∀ {cs a rest}, takeWord "bearer".toList cs = some (a, rest) →
      ∀ b, isBoundary b cs.head? = !b.any isWord := fun found => isBoundary_of_takeWord found (by decide)
  refine Seeks.unique
    (seeks_rule (g := ([·])) (fun _ _ => mem_ways_group fun _ => mem_ways_word) apart ?_) seeks_bearerRule
  intro b cs a rest _
  rw [first_tokenPattern, tokenAfter]
  by_cases blank : rest.head?.any isBlank = true
  · cases token : ((rest.dropWhile isBlank).takeWhile isTokenChar).getLast? with
    | none =>
      have : (rest.dropWhile isBlank).head?.any isTokenChar = false :=
        takeWhile_eq_nil.mp (List.getLast?_eq_none_iff.mp token)
      simp [blank, this]
    | some last =>
      have := exists_getLast?_takeWhile.mp ⟨last, token⟩
      simp [blank, this, List.getLast?_append, token, tokenHit]
  · simp [blank]

/-! ## Assignments -/

theorem isValueChar_of_isBlank {c : Char} (h : isBlank c = true) : isValueChar c = false := by simp [isValueChar, h]

theorem ways_sign {q : Pattern} {b : Option Char} {c : Char} {cs : List Char} :
    (Pattern.seq (.char fun c => c == ':' || c == '=') q).ways b (c :: cs) =
      if c = ':' ∨ c = '=' then (q.ways (some c) cs).map (Match.append ⟨[c], [], cs⟩) else [] := by
  by_cases sign : c = ':' ∨ c = '=' <;> simp [Pattern.ways, sign]

/-- Behind the blanks after a sign no blank can follow, so the sign takes all there are. -/
theorem flatMap_signPattern {α : Type} {f : Match → List α} {b : Option Char} {cs : List Char}
    (stops : ∀ a c rest, isBlank c = true → f ⟨a, [], c :: rest⟩ = []) :
    (signPattern.ways b cs).flatMap f = match cs.dropWhile isBlank with
      | [] => []
      | c :: behind => if c = ':' ∨ c = '=' then
          f ⟨cs.takeWhile isBlank ++ c :: behind.takeWhile isBlank, [], behind.dropWhile isBlank⟩
        else [] := by
  rw [signPattern, Pattern.ways, List.flatMap_assoc, flatMap_run]
  · simp only [Nat.zero_le, if_true]
    cases cs.dropWhile isBlank with
    | nil => rfl
    | cons c behind =>
      rw [ways_sign]
      by_cases sign : c = ':' ∨ c = '='
      · simp only [sign, if_true, List.map_map, List.flatMap_map]
        rw [flatMap_run]
        · simp [Match.append]
        · exact fun a d rest _ _ blank => stops _ d rest blank
      · simp only [sign, if_false]
        rfl
  · intro a c rest _ _ blank
    have : ¬(c = ':' ∨ c = '=') := by
      rintro (rfl | rfl) <;> exact absurd blank (by decide)
    rw [ways_sign, if_neg this]
    rfl

theorem first_valuePattern {b : Option Char} {cs : List Char} : valuePattern.first b cs =
    match cs.dropWhile isBlank with
    | [] => none
    | c :: behind => if (c = ':' ∨ c = '=') ∧ (behind.dropWhile isBlank).head?.any isValueChar then
        some (Match.append
          ⟨cs.takeWhile isBlank ++ c :: behind.takeWhile isBlank,
            [cs.takeWhile isBlank ++ c :: behind.takeWhile isBlank], behind.dropWhile isBlank⟩
          ⟨(behind.dropWhile isBlank).takeWhile isValueChar, [(behind.dropWhile isBlank).takeWhile isValueChar],
            (behind.dropWhile isBlank).dropWhile isValueChar⟩)
      else none := by
  rw [valuePattern, Pattern.first, Pattern.ways, Pattern.ways, List.flatMap_map, flatMap_signPattern]
  · cases cs.dropWhile isBlank with
    | nil => rfl
    | cons c behind =>
      by_cases sign : c = ':' ∨ c = '='
      · simp only [sign, if_true, List.head?_map, true_and, List.nil_append]
        rw [← Pattern.first, first_group, first_run]
        simp only [one_le_length_takeWhile]
        split <;> rfl
      · simp [sign]
  · intro a c rest blank
    rw [Pattern.ways, ways_run_of_lt (by simp [isValueChar_of_isBlank blank])]
    rfl

theorem rule_assignmentPattern :
    assignmentPattern.rule (fun gs => gs[0]?.getD [] ++ gs[1]?.getD [] ++ mask) = assignmentRule := by
  refine Seeks.unique (seeks_rule (g := ([·])) (fun _ _ => mem_ways_group fun _ => mem_ways_keyPattern)
    isBoundary_of_takeKey ?_) seeks_assignmentRule
  intro b cs key rest taken
  obtain ⟨w, mem, found⟩ := takeKey_eq_some.mp taken
  have ends : isBoundary (lastOf b key) rest.head? = !rest.head?.any isWord :=
    isBoundary_of_any (any_lastOf (any_getLast?_of_key mem found) b) _
  rw [first_boundary, first_valuePattern, ends, valueAfter]
  cases gap : rest.dropWhile isBlank with
  | nil => simp
  | cons c behind =>
    by_cases sign : c = ':' ∨ c = '='
    · simp only [any_head?_of_sign gap sign, sign, true_and, if_true]
      cases value : ((behind.dropWhile isBlank).takeWhile isValueChar).getLast? with
      | none =>
        have : (behind.dropWhile isBlank).head?.any isValueChar = false :=
          takeWhile_eq_nil.mp (List.getLast?_eq_none_iff.mp value)
        simp [this]
      | some last =>
        have more := exists_getLast?_takeWhile.mp ⟨last, value⟩
        have ends : (key ++ (rest.takeWhile isBlank ++ c :: behind.takeWhile isBlank ++
            (behind.dropWhile isBlank).takeWhile isValueChar)).getLast? = some last :=
          getLast?_append_of_some _ (getLast?_append_of_some _ value)
        simp only [more, Match.append, Option.bind_some, ends, Bool.not_false, if_true, Option.map_some]
        simp [assignmentHit]
    · simp [sign]

/-! ## Key texts -/

theorem rule_keyTextPattern : keyTextPattern.rule (fun _ => "ed25519:".toList ++ mask) = keyTextRule := by
  have apart : ∀ {cs a rest}, takeWord "ed25519:".toList cs = some (a, rest) →
      ∀ b, isBoundary b cs.head? = !b.any isWord := fun found => isBoundary_of_takeWord found (by decide)
  refine Seeks.unique (seeks_rule (g := fun _ => []) (fun _ _ _ => mem_ways_word) apart ?_) seeks_keyTextRule
  intro b cs a rest _
  -- A key text ends in a word character.
  have ends : ∀ {key : List Char} {b after}, key.all isKeyChar = true → 40 ≤ key.length →
      isBoundary (lastOf b key) after = !after.any isWord := by
    intro key b after all long
    apply isBoundary_of_any
    apply any_lastOf
    cases last : key.getLast? with
    | none => simp [List.getLast?_eq_none_iff.mp last] at long
    | some c => exact isWord_of_isKeyChar (List.all_eq_true.mp all c (List.mem_of_getLast? last))
  rw [first_seq_run, keyTextAfter]
  · by_cases long : 40 ≤ (rest.takeWhile isKeyChar).length
    · obtain ⟨c, key⟩ : ∃ c, (rest.takeWhile isKeyChar).getLast? = some c :=
        exists_getLast?_takeWhile.mpr (one_le_length_takeWhile.mp (by omega))
      rw [if_pos long, first_stop, ends List.all_takeWhile long, key]
      unfold keyTextHit
      generalize "ed25519:".toList ++ mask = shown
      cases (rest.dropWhile isKeyChar).head?.any isWord with
      | true => simp
      | false => simp [Match.append, key, long]
    · rw [if_neg long, if_neg fun h => long h.1]
      rfl
  · intro a c rest all long key
    have word := isWord_of_isKeyChar key
    simp [Pattern.ways, ends all long, word]

end PasskeyConsent.Redaction

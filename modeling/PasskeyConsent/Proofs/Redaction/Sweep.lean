import PasskeyConsent.Redaction
/-!
# Sweeps

What a sweep does to a text, for any rule that keeps a few laws (`Lawful`): a hit starts at a letter that no word
character precedes, its replacement starts with that letter up to case and ends in a bracket, and no letter follows a
word character it takes last.  Under these laws the text and its sweep begin alike wherever the sweep stands
(`Lawful.head?_sweepAt`), a word that no hit can start inside stands in both or in neither
(`Lawful.takeWord_sweepAt`), and so do blanks (`Lawful.blanks_sweepAt`).

`Along` says a thing of every place of a text.  `Lawful.along_sweepAt` carries it from the places of a text to the
places of its sweep, and `Lawful.sweepAt_eq_self` reads off it when a sweep changes nothing.
-/
namespace PasskeyConsent.Redaction

open Text (isBlank isWord isBoundary)

-- The members of a text are tried one by one, not all characters there are.
attribute [local instance (2000)] List.decidableBAll Option.decidableForallMem

/-! ## Letters without case -/

/-- A property that does not tell a capital from its small letter does not change under `foldCase`. -/
theorem apply_foldCase {α : Type} {p : Char → α}
    (capitals : ∀ n < 26, p (Char.ofNat (n + 97)) = p (Char.ofNat (n + 65)))
    (longS : p 's' = p '\u017F') (kelvin : p 'k' = p '\u212A') (c : Char) : p (foldCase c) = p c := by
  unfold foldCase
  split
  · next h =>
    have low : 65 ≤ c.toNat := h.1
    have high : c.toNat ≤ 90 := h.2
    have := capitals (c.toNat - 65) (by omega)
    rwa [show c.toNat - 65 + 97 = c.toNat + 32 by omega, show c.toNat - 65 + 65 = c.toNat by omega,
      Char.ofNat_toNat] at this
  · split
    · next h => rw [show c = '\u017F' from Char.toNat_inj.mp h]; exact longS
    · split
      · next h => rw [show c = '\u212A' from Char.toNat_inj.mp h]; exact kelvin
      · rfl

def isLetter (c : Char) : Bool := 'a' ≤ foldCase c && foldCase c ≤ 'z'

theorem foldCase_foldCase (c : Char) : foldCase (foldCase c) = foldCase c :=
  apply_foldCase (by decide) (by decide) (by decide) c

theorem isWord_foldCase (c : Char) : isWord (foldCase c) = isWord c :=
  apply_foldCase (by decide) (by decide +kernel) (by decide +kernel) c

theorem isBlank_foldCase (c : Char) : isBlank (foldCase c) = isBlank c :=
  apply_foldCase (by decide) (by decide) (by decide) c

theorem isLetter_foldCase (c : Char) : isLetter (foldCase c) = isLetter c := by
  simp only [isLetter, foldCase_foldCase]

theorem mem_letters {c : Char} (h : isLetter c = true) : foldCase c ∈ "abcdefghijklmnopqrstuvwxyz".toList := by
  simp only [isLetter, Bool.and_eq_true, decide_eq_true_eq] at h
  have low : 97 ≤ (foldCase c).toNat := h.1
  have high : (foldCase c).toNat ≤ 122 := h.2
  have small : ∀ n < 26, Char.ofNat (n + 97) ∈ "abcdefghijklmnopqrstuvwxyz".toList := by decide
  have := small ((foldCase c).toNat - 97) (by omega)
  rwa [show (foldCase c).toNat - 97 + 97 = (foldCase c).toNat by omega, Char.ofNat_toNat] at this

theorem isWord_of_isLetter {c : Char} (h : isLetter c = true) : isWord c = true := by
  rw [← isWord_foldCase]
  exact (by decide : ∀ d ∈ "abcdefghijklmnopqrstuvwxyz".toList, isWord d = true) _ (mem_letters h)

theorem isBlank_of_isLetter {c : Char} (h : isLetter c = true) : isBlank c = false := by
  rw [← isBlank_foldCase]
  exact (by decide : ∀ d ∈ "abcdefghijklmnopqrstuvwxyz".toList, isBlank d = false) _ (mem_letters h)

/-! ## Words -/

theorem takeWord_eq_some {w cs a rest : List Char} :
    takeWord w cs = some (a, rest) ↔ cs = a ++ rest ∧ a.map foldCase = w := by
  induction w generalizing cs a with
  | nil => simp only [takeWord, Option.some.injEq, Prod.mk.injEq, List.map_eq_nil_iff]; grind
  | cons u w ih =>
    cases cs with
    | nil => simp only [takeWord, reduceCtorEq, List.nil_eq_append_iff, false_iff]; grind
    | cons c cs =>
      cases a with
      | nil => simp [takeWord]
      | cons d a =>
        simp only [takeWord, List.cons_append, List.cons.injEq, List.map_cons]
        split
        · simp only [Option.map_eq_some_iff, Prod.exists, Prod.mk.injEq, List.cons.injEq]
          grind
        · grind

/-- The character before the place behind a text. -/
def lastOf : Option Char → List Char → Option Char
  | before, [] => before
  | _, c :: cs => lastOf (some c) cs

@[simp] theorem lastOf_nil (b : Option Char) : lastOf b [] = b := rfl

@[simp] theorem lastOf_cons (b : Option Char) (c : Char) (cs : List Char) : lastOf b (c :: cs) = lastOf (some c) cs :=
  rfl

theorem lastOf_append (b : Option Char) (xs ys : List Char) : lastOf b (xs ++ ys) = lastOf (lastOf b xs) ys := by
  induction xs generalizing b with
  | nil => rfl
  | cons c xs ih => exact ih (some c)

theorem lastOf_of_getLast? {b : Option Char} {cs : List Char} {c : Char} (h : cs.getLast? = some c) :
    lastOf b cs = some c := by
  obtain ⟨xs, rfl⟩ := List.getLast?_eq_some_iff.mp h
  simp [lastOf_append]

theorem any_lastOf {p : Char → Bool} {cs : List Char} (h : cs.getLast?.any p = true) (b : Option Char) :
    (lastOf b cs).any p = true := by
  cases last : cs.getLast? with
  | none => simp [last] at h
  | some c => rwa [lastOf_of_getLast? last, ← last]

theorem lastOf_none (cs : List Char) : lastOf none cs = cs.getLast? := by
  cases last : cs.getLast? with
  | none => rw [List.getLast?_eq_none_iff.mp last, lastOf_nil]
  | some c => exact lastOf_of_getLast? last

/-! ## What holds at every place -/

/-- The property holds at every place of the first text, as it stands before the second. -/
def Along (P : Option Char → List Char → Prop) : Option Char → List Char → List Char → Prop
  | _, [], _ => True
  | b, c :: cs, rest => P b (c :: cs ++ rest) ∧ Along P (some c) cs rest

theorem along_append {P : Option Char → List Char → Prop} {b : Option Char} {xs ys rest : List Char} :
    Along P b (xs ++ ys) rest ↔ Along P b xs (ys ++ rest) ∧ Along P (lastOf b xs) ys rest := by
  induction xs generalizing b with
  | nil => simp [Along]
  | cons c xs ih => simp only [List.cons_append, Along, ih, lastOf_cons, List.append_assoc, and_assoc]

theorem Along.imp {P Q : Option Char → List Char → Prop} (imp : ∀ {b cs}, P b cs → Q b cs) {b : Option Char}
    {xs rest : List Char} (h : Along P b xs rest) : Along Q b xs rest := by
  induction xs generalizing b with
  | nil => trivial
  | cons c xs ih => exact ⟨imp h.1, ih h.2⟩

theorem along_of_forall {P : Option Char → List Char → Prop} (all : ∀ b cs, P b cs) (b : Option Char)
    (xs rest : List Char) : Along P b xs rest := by
  induction xs generalizing b with
  | nil => trivial
  | cons c xs ih => exact ⟨all _ _, ih _⟩

/-- No hit starts inside the word: a starting letter in it has a word character before it. -/
def unbroken (starts : List Char) : List Char → Bool
  | u :: v :: w => (isWord u || !starts.contains v) && unbroken starts (v :: w)
  | _ => true

/-! ## The laws of a rule -/

/-- What every rule here does.  `starts` are the letters its hits begin with. -/
structure Lawful (rule : Rule) (starts : List Char) : Prop where
  isLetter_starts : ∀ c ∈ starts, isLetter c = true
  apart : ∀ {b cs hit}, rule b cs = some hit → b.any isWord = false
  taken : ∀ {b cs hit}, rule b cs = some hit → ∃ c a, cs = c :: a ++ hit.rest ∧ (c :: a).getLast? = some hit.last ∧
    foldCase c ∈ starts ∧ hit.replacement.head?.map foldCase = some (foldCase c)
  closes : ∀ {b cs hit}, rule b cs = some hit → hit.replacement.getLast? = some ']'
  after : ∀ {b cs hit}, rule b cs = some hit → isWord hit.last = false ∨ hit.rest.head?.any isLetter = false

/-- A sweep from a place on. -/
def sweepAt (rule : Rule) (before : Option Char) (cs : List Char) : List Char := sweepFrom rule cs.length before cs

@[simp] theorem sweepAt_nil {rule : Rule} (b : Option Char) : sweepAt rule b [] = [] := rfl

theorem sweepAt_of_none {rule : Rule} {b : Option Char} {c : Char} {cs : List Char} (h : rule b (c :: cs) = none) :
    sweepAt rule b (c :: cs) = c :: sweepAt rule (some c) cs := by
  simp [sweepAt, sweepFrom, h]

/-- A text at no place of which a hit starts is kept. -/
theorem sweepAt_append_of_none {rule : Rule} {b : Option Char} {xs rest : List Char}
    (h : Along (fun b cs => rule b cs = none) b xs rest) :
    sweepAt rule b (xs ++ rest) = xs ++ sweepAt rule (lastOf b xs) rest := by
  induction xs generalizing b with
  | nil => rfl
  | cons c xs ih =>
    have here : rule b (c :: (xs ++ rest)) = none := h.1
    rw [List.cons_append, sweepAt_of_none here, ih h.2]
    rfl

section

variable {rule : Rule} {starts : List Char} (lawful : Lawful rule starts)
include lawful

theorem Lawful.length_lt {b : Option Char} {cs : List Char} {hit : Hit} (h : rule b cs = some hit) :
    hit.rest.length < cs.length := by
  obtain ⟨c, a, rfl, -⟩ := lawful.taken h
  simp only [List.length_append, List.length_cons]
  omega

theorem Lawful.isLetter_head {b : Option Char} {c : Char} {cs : List Char} {hit : Hit}
    (h : rule b (c :: cs) = some hit) : isLetter c = true := by
  obtain ⟨d, a, eq, -, start, -⟩ := lawful.taken h
  obtain ⟨rfl, -⟩ := List.cons.inj eq
  rw [← isLetter_foldCase]
  exact lawful.isLetter_starts _ start

theorem Lawful.eq_none_of_start {b : Option Char} {c : Char} {cs : List Char} (h : foldCase c ∉ starts) :
    rule b (c :: cs) = none := by
  cases hit : rule b (c :: cs) with
  | none => rfl
  | some _ =>
    obtain ⟨d, a, eq, -, start, -⟩ := lawful.taken hit
    obtain ⟨rfl, -⟩ := List.cons.inj eq
    exact absurd start h

/-- More rounds than the text has characters change nothing. -/
theorem Lawful.sweepFrom_eq {n : Nat} {b : Option Char} {cs : List Char} (h : cs.length ≤ n) :
    sweepFrom rule n b cs = sweepAt rule b cs := by
  induction n using Nat.strongRecOn generalizing b cs with
  | ind n ih =>
    cases cs with
    | nil => cases n <;> rfl
    | cons c cs =>
      cases n with
      | zero => simp at h
      | succ n =>
        have small : cs.length ≤ n := Nat.le_of_succ_le_succ h
        simp only [sweepAt, List.length_cons, sweepFrom]
        cases found : rule b (c :: cs) with
        | none => simp only [ih n (Nat.lt_succ_self n) small, sweepAt]
        | some hit =>
          have short : hit.rest.length ≤ cs.length := Nat.le_of_lt_succ (lawful.length_lt found)
          simp only [ih n (Nat.lt_succ_self n) (Nat.le_trans short small), ih cs.length (Nat.lt_succ_of_le small) short]

theorem Lawful.sweepAt_of_some {b : Option Char} {cs : List Char} {hit : Hit} (h : rule b cs = some hit) :
    sweepAt rule b cs = hit.replacement ++ sweepAt rule (some hit.last) hit.rest := by
  obtain ⟨c, a, rfl, -⟩ := lawful.taken h
  have short := lawful.length_lt h
  simp only [List.cons_append, List.length_cons] at h short
  simp only [List.cons_append, sweepAt, List.length_cons, sweepFrom, h]
  rw [lawful.sweepFrom_eq (Nat.le_of_lt_succ short), sweepAt]

theorem Lawful.along_of_starts {xs : List Char} (h : ∀ c ∈ xs, foldCase c ∉ starts) (b : Option Char)
    (rest : List Char) : Along (fun b cs => rule b cs = none) b xs rest := by
  induction xs generalizing b with
  | nil => trivial
  | cons c xs ih =>
    exact ⟨lawful.eq_none_of_start (h c (by simp)), ih (fun d mem => h d (by simp [mem])) _⟩

/-- Inside a word that no hit can start in there is none. -/
theorem Lawful.along_of_unbroken {c : Char} {xs : List Char} (h : unbroken starts ((c :: xs).map foldCase) = true)
    (rest : List Char) : Along (fun b cs => rule b cs = none) (some c) xs rest := by
  induction xs generalizing c with
  | nil => trivial
  | cons d xs ih =>
    simp only [List.map_cons, unbroken, isWord_foldCase, Bool.and_eq_true, Bool.or_eq_true] at h
    refine ⟨?_, ih (by simpa using h.2)⟩
    rcases h.1 with word | other
    · cases found : rule (some c) (d :: xs ++ rest) with
      | none => rfl
      | some hit => simpa [word] using lawful.apart found
    · exact lawful.eq_none_of_start (by simpa using other)

theorem Lawful.along_of_word {c : Char} {xs : List Char} (first : foldCase c ∉ starts)
    (whole : unbroken starts ((c :: xs).map foldCase) = true) (b : Option Char) (rest : List Char) :
    Along (fun b cs => rule b cs = none) b (c :: xs) rest :=
  ⟨lawful.eq_none_of_start first, lawful.along_of_unbroken whole rest⟩

/-! ## What stands in a text and in its sweep -/

theorem Lawful.head?_sweepAt (b : Option Char) (cs : List Char) :
    (sweepAt rule b cs).head?.map foldCase = cs.head?.map foldCase := by
  cases cs with
  | nil => rfl
  | cons c cs =>
    cases found : rule b (c :: cs) with
    | none => rw [sweepAt_of_none found]; rfl
    | some hit =>
      obtain ⟨d, a, eq, -, -, same⟩ := lawful.taken found
      obtain ⟨rfl, -⟩ := List.cons.inj eq
      rw [lawful.sweepAt_of_some found]
      cases replacement : hit.replacement with
      | nil => simp [replacement] at same
      | cons e r => simpa [replacement] using same

theorem Lawful.any_head?_sweepAt {p : Char → Bool} (fold : ∀ c, p (foldCase c) = p c) (b : Option Char)
    (cs : List Char) : (sweepAt rule b cs).head?.any p = cs.head?.any p := by
  have any_map : ∀ o : Option Char, o.any p = (o.map foldCase).any p := by
    intro o
    cases o with
    | none => rfl
    | some c => simp [fold]
  rw [any_map, any_map cs.head?, lawful.head?_sweepAt]

/-- Before a character that is no letter it does not matter what stood before. -/
theorem Lawful.sweepAt_of_plain {cs : List Char} (h : cs.head?.any isLetter = false) (b b' : Option Char) :
    sweepAt rule b cs = sweepAt rule b' cs := by
  cases cs with
  | nil => rfl
  | cons c cs =>
    have none : ∀ b, rule b (c :: cs) = none := fun b => by
      cases found : rule b (c :: cs) with
      | none => rfl
      | some hit => simp [lawful.isLetter_head found] at h
    rw [sweepAt_of_none (none b), sweepAt_of_none (none b')]

/-- A character of the sweep that is no letter stands in the text too. -/
theorem Lawful.cons_of_sweepAt {b : Option Char} {c : Char} {cs behind : List Char}
    (h : sweepAt rule b cs = c :: behind) (plain : isLetter c = false) :
    ∃ rest, cs = c :: rest ∧ behind = sweepAt rule (some c) rest := by
  cases cs with
  | nil => cases h
  | cons d cs =>
    cases found : rule b (d :: cs) with
    | none =>
      rw [sweepAt_of_none found] at h
      obtain ⟨rfl, rfl⟩ := List.cons.inj h
      exact ⟨cs, rfl, rfl⟩
    | some hit =>
      have head := lawful.any_head?_sweepAt isLetter_foldCase b (d :: cs)
      simp [h, plain, lawful.isLetter_head found] at head

theorem Lawful.takeWord_sweepAt {w : List Char} (whole : unbroken starts w = true) {b : Option Char} {cs : List Char}
    (h : rule b cs = none) :
    takeWord w (sweepAt rule b cs) = (takeWord w cs).map fun (a, rest) => (a, sweepAt rule (lastOf b a) rest) := by
  induction w generalizing b cs with
  | nil => rfl
  | cons u w ih =>
    cases cs with
    | nil => rfl
    | cons c cs =>
      rw [sweepAt_of_none h]
      simp only [takeWord]
      split
      · next fold =>
        suffices takeWord w (sweepAt rule (some c) cs) =
            (takeWord w cs).map fun (a, rest) => (a, sweepAt rule (lastOf (some c) a) rest) by
          rw [this, Option.map_map, Option.map_map]
          rfl
        cases w with
        | nil => rfl
        | cons v w =>
          simp only [unbroken, Bool.and_eq_true, Bool.or_eq_true] at whole
          cases found : rule (some c) cs with
          | none => exact ih whole.2 found
          | some hit =>
            -- The hit stands apart from `c`, so `v` is no letter a hit starts with, and neither text goes on with it.
            have off : isWord u = false := by simpa [← fold, isWord_foldCase] using lawful.apart found
            have other : v ∉ starts := by simpa [off] using whole.1
            obtain ⟨d, a, rfl, -, start, -⟩ := lawful.taken found
            have differs : foldCase d ≠ v := fun same => other (same ▸ start)
            have heads := lawful.head?_sweepAt (some c) (d :: a ++ hit.rest)
            cases swept : sweepAt rule (some c) (d :: a ++ hit.rest) with
            | nil => simp [takeWord, differs]
            | cons e r =>
              have : foldCase e = foldCase d := by
                rw [swept] at heads
                simpa using heads
              simp [takeWord, this, differs]
      · rfl

/-- A word that the sweep shows stands in the text. -/
theorem Lawful.exists_of_takeWord_sweepAt {w : List Char} (whole : unbroken starts w = true) {b : Option Char}
    {cs a behind : List Char} (h : rule b cs = none) (found : takeWord w (sweepAt rule b cs) = some (a, behind)) :
    ∃ rest, takeWord w cs = some (a, rest) ∧ behind = sweepAt rule (lastOf b a) rest := by
  rw [lawful.takeWord_sweepAt whole h] at found
  obtain ⟨⟨a, rest⟩, taken, eq⟩ := Option.map_eq_some_iff.mp found
  obtain ⟨rfl, rfl⟩ := Prod.mk.inj eq
  exact ⟨rest, taken, rfl⟩

theorem Lawful.blanks_sweepAt (b : Option Char) (cs : List Char) :
    (sweepAt rule b cs).takeWhile isBlank = cs.takeWhile isBlank ∧
      (sweepAt rule b cs).dropWhile isBlank =
        sweepAt rule (lastOf b (cs.takeWhile isBlank)) (cs.dropWhile isBlank) := by
  induction cs generalizing b with
  | nil => exact ⟨rfl, rfl⟩
  | cons c cs ih =>
    cases blank : isBlank c with
    | true =>
      have none : rule b (c :: cs) = none := by
        cases found : rule b (c :: cs) with
        | none => rfl
        | some hit => simpa [blank] using isBlank_of_isLetter (lawful.isLetter_head found)
      rw [sweepAt_of_none none]
      simpa [blank] using ih (some c)
    | false =>
      have head := lawful.any_head?_sweepAt isBlank_foldCase b (c :: cs)
      have kept : (c :: cs).takeWhile isBlank = [] ∧ (c :: cs).dropWhile isBlank = c :: cs := by simp [blank]
      rw [kept.1, kept.2, lastOf_nil]
      cases swept : sweepAt rule b (c :: cs) with
      | nil => exact ⟨rfl, rfl⟩
      | cons d r =>
        have : isBlank d = false := by simpa [swept, blank] using head
        simp [this]

/-! ## The places of a sweep -/

/-- From the places of a text to those of its sweep.  A place of the sweep stands where one of the text does, with the
same character there and a neighbour before it that tells words apart alike, or inside what a hit put there. -/
theorem Lawful.along_sweepAt {P Q : Option Char → List Char → Prop}
    (kept : ∀ {b b' c cs}, Q b (c :: cs) → rule b (c :: cs) = none →
      (b'.any isWord = b.any isWord ∨ isLetter c = false) → P b' (sweepAt rule b (c :: cs)))
    (masked : ∀ {b b' cs hit}, Q b cs → rule b cs = some hit → b'.any isWord = false →
      Along P b' hit.replacement (sweepAt rule (some hit.last) hit.rest))
    {b b' : Option Char} {cs : List Char} (all : Along Q b cs [])
    (alike : b'.any isWord = b.any isWord ∨ cs.head?.any isLetter = false) : Along P b' (sweepAt rule b cs) [] := by
  induction size : cs.length using Nat.strongRecOn generalizing b b' cs with
  | ind n ih =>
    subst size
    cases cs with
    | nil => trivial
    | cons c cs =>
      cases found : rule b (c :: cs) with
      | none =>
        have place : P b' (sweepAt rule b (c :: cs)) := kept (by simpa using all.1) found (by simpa using alike)
        rw [sweepAt_of_none found] at place ⊢
        exact ⟨by simpa using place, ih cs.length (Nat.lt_succ_self _) all.2 (.inl rfl) rfl⟩
      | some hit =>
        have apart : b'.any isWord = false := by
          rcases alike with same | other
          · rw [same, lawful.apart found]
          · simp [lawful.isLetter_head found] at other
        have here : Q b (c :: cs) := by simpa using all.1
        obtain ⟨d, a, eq, last, -⟩ := lawful.taken found
        rw [eq, along_append, lastOf_of_getLast? last] at all
        have behind : (lastOf b' hit.replacement).any isWord = (some hit.last).any isWord ∨
            hit.rest.head?.any isLetter = false := by
          rw [lastOf_of_getLast? (lawful.closes found)]
          exact (lawful.after found).imp_left fun off => by simpa [off] using (by decide : isWord ']' = false)
        rw [lawful.sweepAt_of_some found, along_append, List.append_nil]
        exact ⟨masked here found apart, ih hit.rest.length (lawful.length_lt found) all.2 behind rfl⟩

/-- What holds at every place of a sweep, whatever the text is. -/
theorem Lawful.along_sweep {P : Option Char → List Char → Prop}
    (kept : ∀ {b b' c cs}, rule b (c :: cs) = none → (b'.any isWord = b.any isWord ∨ isLetter c = false) →
      P b' (sweepAt rule b (c :: cs)))
    (masked : ∀ {b b' cs hit}, rule b cs = some hit → b'.any isWord = false →
      Along P b' hit.replacement (sweepAt rule (some hit.last) hit.rest))
    (cs : List Char) : Along P none (sweepAt rule none cs) [] :=
  lawful.along_sweepAt (Q := fun _ _ => True) (fun _ => kept) (fun _ => masked)
    (along_of_forall (fun _ _ => trivial) _ _ _) (.inl rfl)

/-- A sweep changes nothing where every hit finds already what it would put there. -/
theorem Lawful.sweepAt_eq_self {b : Option Char} {cs : List Char}
    (h : Along (fun b cs => ∀ hit, rule b cs = some hit → hit.replacement ++ hit.rest = cs) b cs []) :
    sweepAt rule b cs = cs := by
  induction size : cs.length using Nat.strongRecOn generalizing b cs with
  | ind n ih =>
    subst size
    cases cs with
    | nil => rfl
    | cons c cs =>
      cases found : rule b (c :: cs) with
      | none => rw [sweepAt_of_none found, ih cs.length (Nat.lt_succ_self _) h.2 rfl]
      | some hit =>
        have same : hit.replacement ++ hit.rest = c :: cs := by simpa using h.1 hit (by simpa using found)
        obtain ⟨d, a, eq, last, -⟩ := lawful.taken found
        rw [eq, along_append, lastOf_of_getLast? last] at h
        rw [lawful.sweepAt_of_some found, ih hit.rest.length (lawful.length_lt found) h.2 rfl, same]

end

end PasskeyConsent.Redaction

namespace PasskeyConsent

open Redaction

theorem redact_eq (s : String) : redact s =
    String.ofList (sweepAt keyTextRule none (sweepAt assignmentRule none (sweepAt bearerRule none s.toList))) := rfl

end PasskeyConsent

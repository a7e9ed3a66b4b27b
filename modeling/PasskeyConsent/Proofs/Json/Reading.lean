import PasskeyConsent.Proofs.Json.Forms
import PasskeyConsent.Proofs.Json.Tokens
/-!
# Reading what is printed

The indented text of a value is read as a document that holds the value (`Json.ofText_pretty`), and so every codec that
minds no places reads from the text what it reads from the value (`Codec.ofText_pretty`).  The values are those without
doubles (`Json.Exact`).  What is read of a value depends neither on where it stands nor on what stands behind it
(`Json.Readable`); the members and items of a whole are read one after another, each but the first behind its comma
(`Cursor.Before`).
-/
namespace PasskeyConsent

open Json (escapeChar quoted)

/-! ## Values -/

namespace Json

/-- A value without doubles, whose integers fit 64 bits and in which no more than some brackets stand in each other. -/
inductive Exact : Nat → Json → Prop
  | null {n : Nat} : Exact n .null
  | bool {n : Nat} (b : Bool) : Exact n (.bool b)
  | int {n : Nat} {i : Int} (hlow : -Nat.pow 2 63 ≤ i) (hhigh : i ≤ Text.maxU64) : Exact n (.int i)
  | str {n : Nat} (s : String) : Exact n (.str s)
  | arr {n : Nat} {items : List Json} (h : ∀ x ∈ items, Exact n x) : Exact (n + 1) (.arr items)
  | obj {n : Nat} {members : List (String × Json)} (h : ∀ m ∈ members, Exact n m.2) : Exact (n + 1) (.obj members)

/-- Whether a printed value is read wherever it stands with no more than some brackets around it. -/
def Readable (n : Nat) (j : Json) : Prop :=
  ∀ {fuel depth indent : Nat} {c : Cursor} {rest : List Char}, c.skipBlanks.rest = j.prettyChars indent ++ rest →
    EndsNumber rest → 2 * c.rest.length < fuel → depth + n ≤ Document.depthLimit →
      ∃ d q, Document.readValue fuel depth c = (d, some ⟨rest, q⟩) ∧ d.Holds j

end Json

theorem Cursor.length_skipBlanks_le (c : Cursor) : c.skipBlanks.rest.length ≤ c.rest.length := by
  obtain ⟨cs, p⟩ := c
  show (skipBlanksFrom p cs).rest.length ≤ cs.length
  induction cs generalizing p with
  | nil => exact Nat.le_refl 0
  | cons c cs ih =>
    rw [skipBlanksFrom]
    split
    · exact Nat.le_succ_of_le (ih _)
    · exact Nat.le_refl _

namespace Json

variable {n : Nat}

/-- Reading a value begins behind the blanks. -/
theorem readable_iff {j : Json} (h : ∀ {fuel depth indent : Nat} {p : Place} {rest : List Char} {c : Cursor},
    c.skipBlanks = ⟨j.prettyChars indent ++ rest, p⟩ → EndsNumber rest →
      2 * (j.prettyChars indent ++ rest).length ≤ fuel → depth + n ≤ Document.depthLimit →
        ∃ d q, Document.readValue (fuel + 1) depth c = (d, some ⟨rest, q⟩) ∧ d.Holds j) : Readable n j := by
  intro fuel depth indent c rest hc hrest hfuel hdepth
  obtain ⟨fuel, rfl⟩ := Nat.exists_eq_succ_of_ne_zero (Nat.ne_of_gt (Nat.zero_lt_of_lt hfuel))
  have hcursor : c.skipBlanks = ⟨j.prettyChars indent ++ rest, c.skipBlanks.place⟩ := by rw [← hc]
  refine h hcursor hrest ?_ hdepth
  have := c.length_skipBlanks_le
  rw [hc] at this
  omega

theorem readable_null : Readable n .null := by
  refine readable_iff fun {fuel depth indent p rest c} hc _ _ _ => ?_
  obtain ⟨q, hq⟩ := wordEnd_append rest ['u', 'l', 'l'] p.next
  refine ⟨.null (some ⟨p.next, q⟩), q, ?_, trivial⟩
  rw [Document.readValue, hc]
  show Document.ofWord _ 'n' .null (wordEnd ['u', 'l', 'l'] ⟨['u', 'l', 'l'] ++ rest, p.next⟩) = _
  rw [hq]
  rfl

theorem readable_bool (b : Bool) : Readable n (.bool b) := by
  refine readable_iff fun {fuel depth indent p rest c} hc _ _ _ => ?_
  cases b with
  | false =>
    obtain ⟨q, hq⟩ := wordEnd_append rest ['a', 'l', 's', 'e'] p.next
    refine ⟨.bool (some ⟨p.next, q⟩) false, q, ?_, rfl⟩
    rw [Document.readValue, hc]
    show Document.ofWord _ 'f' (.bool · false) (wordEnd ['a', 'l', 's', 'e'] ⟨['a', 'l', 's', 'e'] ++ rest, p.next⟩) = _
    rw [hq]
    rfl
  | true =>
    obtain ⟨q, hq⟩ := wordEnd_append rest ['r', 'u', 'e'] p.next
    refine ⟨.bool (some ⟨p.next, q⟩) true, q, ?_, rfl⟩
    rw [Document.readValue, hc]
    show Document.ofWord _ 't' (.bool · true) (wordEnd ['r', 'u', 'e'] ⟨['r', 'u', 'e'] ++ rest, p.next⟩) = _
    rw [hq]
    rfl

theorem readable_str (s : String) : Readable n (.str s) := by
  refine readable_iff fun {fuel depth indent p rest c} hc _ _ _ => ?_
  obtain ⟨q, hq⟩ := readString_escaped s rest p.next
  refine ⟨.str (some ⟨p.next, q⟩) s, q, ?_, rfl⟩
  have hchars : (Json.str s).prettyChars indent ++ rest = '"' :: (s.toList.flatMap escapeChar ++ '"' :: rest) := by
    simp [prettyChars, scalarChars, quoted]
  rw [Document.readValue, hc, hchars]
  show Document.ofToken _ '"' .str (readString ⟨s.toList.flatMap escapeChar ++ '"' :: rest, p.next⟩) = _
  rw [hq]
  rfl

theorem readValue_digit {fuel depth : Nat} {c : Cursor} {d : Char} {ds : List Char} {p : Place}
    (hc : c.skipBlanks = ⟨d :: ds, p⟩) (hd : d.isDigit = true) : Document.readValue (fuel + 1) depth c =
      Document.ofToken (p.enter d) d Document.ofNumber (numberToken false ⟨d :: ds, p⟩) := by
  rw [Document.readValue, hc]
  dsimp only
  -- No other kind of value begins with a digit.
  split
  · rename_i heq
    cases heq
  all_goals
    rename_i heq
    cases heq
  iterate 7 exact absurd hd (by decide)
  rw [if_pos hd]
  rfl

theorem readable_int {i : Int} (hlow : -Nat.pow 2 63 ≤ i) (hhigh : i ≤ Text.maxU64) : Readable n (.int i) := by
  refine readable_iff fun {fuel depth indent p rest c} hc hrest _ _ => ?_
  have hchars : (Json.int i).prettyChars indent = intText i := by simp [prettyChars, scalarChars]
  rw [hchars, intText] at hc
  by_cases hneg : i < 0
  · rw [if_pos hneg] at hc
    have hmax : i.natAbs ≤ Text.maxU64 := by
      have : Nat.pow 2 63 ≤ Text.maxU64 := by decide
      omega
    obtain ⟨q, hq⟩ := numberToken_toDigits true hmax hrest p.next
    have hwhole : wholeNumber true ⟨i.natAbs, 0, false⟩ q = .ok (.int i) := by
      have hin : ¬(i.natAbs = 0 ∨ Nat.pow 2 63 < i.natAbs) := by omega
      have hvalue : -(i.natAbs : Int) = i := by omega
      simp only [wholeNumber, Bool.false_eq_true, Bool.not_true, ↓reduceIte, hin, hvalue]
    refine ⟨.int (some ⟨p.next, q⟩) i, q, ?_, rfl⟩
    rw [Document.readValue, hc]
    show Document.ofToken _ '-' Document.ofNumber (numberToken true ⟨Nat.toDigits 10 i.natAbs ++ rest, p.next⟩) = _
    rw [hq, hwhole]
    rfl
  · rw [if_neg hneg] at hc
    obtain ⟨q, hq⟩ := numberToken_toDigits false (show i.natAbs ≤ Text.maxU64 by omega) hrest p
    have hwhole : wholeNumber false ⟨i.natAbs, 0, false⟩ q = .ok (.int i) := by
      have hvalue : (i.natAbs : Int) = i := by omega
      simp only [wholeNumber, Bool.false_eq_true, Bool.not_false, ↓reduceIte, hvalue]
    rw [hwhole] at hq
    obtain ⟨d, ds, hds⟩ := List.exists_cons_of_ne_nil (Nat.toDigits_ne_nil (b := 10) (n := i.natAbs))
    have hd : d.isDigit = true :=
      Nat.isDigit_of_mem_toDigits (by decide) (by decide) (hds ▸ List.mem_cons_self : d ∈ Nat.toDigits 10 i.natAbs)
    rw [hds, List.cons_append] at hc hq
    refine ⟨.int (some ⟨p.enter d, q⟩) i, q, ?_, rfl⟩
    rw [readValue_digit hc hd, hq]
    rfl

/-! ## Arrays and objects -/

theorem all_isBlank_newline (indent : Nat) : (newline indent).all Cursor.isBlank = true := by
  simp [newline, Cursor.isBlank]

/-- What stands in front of a part of an array or an object. -/
def lead (first : Bool) (indent : Nat) : List Char :=
  if first then newline (indent + 1) else ',' :: newline (indent + 1)

/-- The rest of an array of which some items are left, and the text behind it. -/
def itemsText (first : Bool) (indent : Nat) (rest : List Char) : List Json → List Char
  | [] => newline indent ++ ']' :: rest
  | x :: xs => lead first indent ++ (x.prettyChars (indent + 1) ++ itemsText false indent rest xs)

/-- The rest of an object of which some members are left, and the text behind it. -/
def membersText (first : Bool) (indent : Nat) (rest : List Char) : List (String × Json) → List Char
  | [] => newline indent ++ '}' :: rest
  | (k, x) :: ms =>
    lead first indent ++ (quoted k ++ ':' :: ' ' :: (x.prettyChars (indent + 1) ++ membersText false indent rest ms))

theorem itemsChars_append (indent : Nat) (rest : List Char) : ∀ (x : Json) (xs : List Json),
    prettyChars.itemsChars (indent + 1) (x :: xs) ++ (newline indent ++ ']' :: rest) = itemsText true indent rest (x :: xs)
  | x, [] => by simp [prettyChars.itemsChars, itemsText, lead]
  | x, y :: ys => by
    have ih := itemsChars_append indent rest y ys
    rw [prettyChars.itemsChars, List.append_assoc, List.append_assoc, List.cons_append, ih]
    · simp [itemsText, lead]
    · simp

theorem membersChars_append (indent : Nat) (rest : List Char) : ∀ (k : String) (x : Json) (ms : List (String × Json)),
    prettyChars.membersChars (indent + 1) ((k, x) :: ms) ++ (newline indent ++ '}' :: rest) =
      membersText true indent rest ((k, x) :: ms)
  | k, x, [] => by simp [prettyChars.membersChars, membersText, lead]
  | k, x, (l, y) :: ms => by
    have ih := membersChars_append indent rest l y ms
    have hcomma : prettyChars.membersChars (indent + 1) ((k, x) :: (l, y) :: ms) ++ (newline indent ++ '}' :: rest) =
        newline (indent + 1) ++ (quoted k ++ ':' :: ' ' :: (x.prettyChars (indent + 1) ++
          ',' :: (prettyChars.membersChars (indent + 1) ((l, y) :: ms) ++ (newline indent ++ '}' :: rest)))) := by
      rw [prettyChars.membersChars]
      · simp
      · simp
    rw [hcomma, ih]
    simp [membersText, lead]

theorem prettyChars_arr (indent : Nat) (rest : List Char) (x : Json) (xs : List Json) :
    (Json.arr (x :: xs)).prettyChars indent ++ rest = '[' :: itemsText true indent rest (x :: xs) := by
  rw [← itemsChars_append]
  simp [prettyChars]

theorem prettyChars_obj (indent : Nat) (rest : List Char) (k : String) (x : Json) (ms : List (String × Json)) :
    (Json.obj ((k, x) :: ms)).prettyChars indent ++ rest = '{' :: membersText true indent rest ((k, x) :: ms) := by
  rw [← membersChars_append]
  simp [prettyChars]

theorem endsNumber_itemsText (indent : Nat) (rest : List Char) (xs : List Json) :
    EndsNumber (itemsText false indent rest xs) := by
  intro c cs h
  cases xs <;> cases h <;> decide

theorem endsNumber_membersText (indent : Nat) (rest : List Char) (ms : List (String × Json)) :
    EndsNumber (membersText false indent rest ms) := by
  intro c cs h
  cases ms <;> cases h <;> decide

/-- A printed value begins with a character that is neither blank nor the end of an array. -/
theorem exists_lead_prettyChars {j : Json} (h : Exact n j) (indent : Nat) :
    ∃ c cs, j.prettyChars indent = c :: cs ∧ Cursor.isBlank c = false ∧ c ≠ ']' := by
  cases h with
  | null => exact ⟨'n', _, rfl, rfl, by decide⟩
  | bool b => cases b <;> exact ⟨_, _, rfl, rfl, by decide⟩
  | str s => exact ⟨'"', _, rfl, rfl, by decide⟩
  | @arr n items => cases items <;> exact ⟨'[', _, by simp [prettyChars]; rfl, rfl, by decide⟩
  | @obj n members => cases members <;> exact ⟨'{', _, by simp [prettyChars]; rfl, rfl, by decide⟩
  | @int _ i =>
    show ∃ c cs, intText i = c :: cs ∧ _
    by_cases hneg : i < 0
    · exact ⟨'-', _, if_pos hneg, rfl, by decide⟩
    · obtain ⟨d, ds, hds⟩ := List.exists_cons_of_ne_nil (Nat.toDigits_ne_nil (b := 10) (n := i.natAbs))
      have hd : d.isDigit = true :=
        Nat.isDigit_of_mem_toDigits (by decide) (by decide) (hds ▸ List.mem_cons_self : d ∈ Nat.toDigits 10 i.natAbs)
      refine ⟨d, ds, (if_neg hneg).trans hds, ?_, ?_⟩
      · refine Bool.eq_false_iff.2 fun hblank => ?_
        have hcases : ((d = ' ' ∨ d = '\n') ∨ d = '\t') ∨ d = '\r' := by simpa [Cursor.isBlank] using hblank
        rcases hcases with ((rfl | rfl) | rfl) | rfl <;> exact absurd hd (by decide)
      · rintro rfl
        exact absurd hd (by decide)

/-- Blanks in front of a printed value are skipped. -/
theorem skipBlanks_prettyChars {j : Json} (h : Exact n j) {bs : List Char} (hbs : bs.all Cursor.isBlank = true)
    (indent : Nat) (text : List Char) (p : Place) :
    (⟨bs ++ (j.prettyChars indent ++ text), p⟩ : Cursor).skipBlanks.rest = j.prettyChars indent ++ text := by
  obtain ⟨c, cs, hcs, hc, -⟩ := exists_lead_prettyChars h indent
  have hhead : (j.prettyChars indent ++ text).head?.all (!Cursor.isBlank ·) = true := by
    rw [hcs, List.cons_append, List.head?_cons, Option.all_some, hc]
    rfl
  obtain ⟨q, hq⟩ := Cursor.skipBlanks_append (p := p) hbs hhead
  rw [hq]

end Json

/-- Whether a cursor stands in front of a part of an array or an object that begins at another; every part but the first
has a comma in front of it. -/
def Cursor.Before (first : Bool) (c next : Cursor) : Prop :=
  if first then c.skipBlanks = next
  else ∃ text p, c.skipBlanks = ⟨',' :: text, p⟩ ∧ (⟨text, p.next⟩ : Cursor).skipBlanks = next

theorem Cursor.before_lead (first : Bool) (indent : Nat) {c : Char} (hc : isBlank c = false) (cs : List Char) (p : Place) :
    ∃ q, (⟨Json.lead first indent ++ c :: cs, p⟩ : Cursor).Before first ⟨c :: cs, q⟩ := by
  have hskip (p : Place) : ∃ q, (⟨Json.newline (indent + 1) ++ c :: cs, p⟩ : Cursor).skipBlanks = ⟨c :: cs, q⟩ :=
    skipBlanks_append (Json.all_isBlank_newline _) (by rw [List.head?_cons, Option.all_some, hc]; rfl)
  cases first with
  | true => exact hskip p
  | false =>
    obtain ⟨q, hq⟩ := hskip p.next
    exact ⟨q, _, p, rfl, hq⟩

namespace Document

variable {fuel depth : Nat} {first : Bool} {c c' : Cursor} {q : Place} {ch : Char} {cs : List Char} {d : Document}
  {after : Option Place} {stop : Option Cursor}

theorem readItems_of_before (hbefore : c.Before first ⟨ch :: cs, q⟩) (hch : ch ≠ ']')
    (hd : readValue fuel depth ⟨ch :: cs, q⟩ = (d, some c')) {ds : List Document}
    (hds : readItems fuel depth false c' = (ds, .sealed after, stop)) :
    readItems (fuel + 1) depth first c = (d :: ds, .sealed after, stop) := by
  cases first with
  | true =>
    have hskip : c.skipBlanks = ⟨ch :: cs, q⟩ := hbefore
    rw [readItems, hskip]
    dsimp only
    split
    · rename_i heq
      cases heq
    · rename_i heq
      exact absurd (List.cons.inj heq).1 hch
    · simp only [Bool.not_true, Bool.false_and, Bool.false_eq_true, ↓reduceIte, hd, hds]
  | false =>
    obtain ⟨text, p, hcomma, hskip⟩ := hbefore
    have heat : (⟨',' :: text, p⟩ : Cursor).eat.skipBlanks = ⟨ch :: cs, q⟩ := hskip
    rw [readItems, hcomma]
    dsimp only
    -- The comma is passed, and what follows it is no end.
    split
    · rename_i heq
      cases heq
    · rename_i heq
      cases heq
    · rename_i heq
      cases heq
      simp only [ne_eq, not_true_eq_false, decide_false, Bool.and_false, Bool.false_eq_true, ↓reduceIte, heat]
      split
      · rename_i heq
        cases heq
      · rename_i heq _
        exact absurd (List.cons.inj heq).1 hch
      · simp only [hd, hds]

theorem readMembers_of_before {k : String} {text : List Char} {m : Place} (hbefore : c.Before first ⟨'"' :: cs, q⟩)
    (hkey : readString ⟨cs, q.next⟩ = ⟨.ok k, .ok ⟨':' :: text, m⟩⟩)
    (hd : readValue fuel depth ⟨text, m.next⟩ = (d, some c')) {ds : List (Key × Document)}
    (hds : readMembers fuel depth false c' = (ds, .sealed after, stop)) :
    readMembers (fuel + 1) depth first c =
      ((⟨.ok k, some m, some m, some c'.skipBlanks.place⟩, d) :: ds, .sealed after, stop) := by
  have hcolon : (⟨':' :: text, m⟩ : Cursor).skipBlanks = ⟨':' :: text, m⟩ := rfl
  have hkey' : readString (⟨'"' :: cs, q⟩ : Cursor).eat = _ := hkey
  have hd' : readValue fuel depth (⟨':' :: text, m⟩ : Cursor).eat = _ := hd
  cases first with
  | true =>
    have hskip : c.skipBlanks = ⟨'"' :: cs, q⟩ := hbefore
    rw [readMembers, hskip]
    dsimp only
    split
    · rename_i heq
      cases heq
    · rename_i heq
      cases heq
    · simp only [Bool.not_true, Bool.false_and, Bool.false_eq_true, ↓reduceIte, hkey', hcolon, hd', hds]
  | false =>
    obtain ⟨text', p, hcomma, hskip⟩ := hbefore
    have heat : (⟨',' :: text', p⟩ : Cursor).eat.skipBlanks = ⟨'"' :: cs, q⟩ := hskip
    rw [readMembers, hcomma]
    dsimp only
    split
    · rename_i heq
      cases heq
    · rename_i heq
      cases heq
    · rename_i heq
      cases heq
      simp only [ne_eq, not_true_eq_false, decide_false, Bool.and_false, Bool.false_eq_true, ↓reduceIte, heat, hkey',
        hcolon, hd', hds]

theorem readValue_bracket {text : List Char} {p : Place} {ds : List Document} {close : Close}
    (hc : c.skipBlanks = ⟨'[' :: text, p⟩) (hds : readItems fuel (depth + 1) true ⟨text, p.next⟩ = (ds, close, stop)) :
    readValue (fuel + 1) depth c = (.arr (some p.next) (depth + 1) ds close, stop) := by
  rw [readValue, hc]
  exact congrArg (fun x : List Document × Close × Option Cursor =>
    (Document.arr (some p.next) (depth + 1) x.1 x.2.1, x.2.2)) hds

theorem readValue_brace {text : List Char} {p : Place} {ds : List (Key × Document)} {close : Close}
    (hc : c.skipBlanks = ⟨'{' :: text, p⟩) (hds : readMembers fuel (depth + 1) true ⟨text, p.next⟩ = (ds, close, stop)) :
    readValue (fuel + 1) depth c = (.obj (some p.next) (depth + 1) ds close, stop) := by
  rw [readValue, hc]
  exact congrArg (fun x : List (Key × Document) × Close × Option Cursor =>
    (Document.obj (some p.next) (depth + 1) x.1 x.2.1, x.2.2)) hds

end Document

namespace Json

variable {n depth : Nat}

theorem length_lead_pos (first : Bool) (indent : Nat) : 0 < (lead first indent).length := by
  cases first <;> exact Nat.succ_pos _

/-- **The items of an array are read** if each of them is. -/
theorem readItems_itemsText (hdepth : depth + n ≤ Document.depthLimit) (indent : Nat) (rest : List Char) :
    ∀ {xs : List Json} {fuel : Nat} (first : Bool) (p : Place), (∀ x ∈ xs, Exact n x) → (∀ x ∈ xs, Readable n x) →
      2 * (itemsText first indent rest xs).length + 1 < fuel →
        ∃ ds after q, Document.readItems fuel depth first ⟨itemsText first indent rest xs, p⟩ =
          (ds, .sealed after, some ⟨rest, q⟩) ∧ Document.HoldItems ds xs
  | [], fuel + 1, first, p, _, _, _ => by
    obtain ⟨q, hq⟩ : ∃ q, (⟨newline indent ++ ']' :: rest, p⟩ : Cursor).skipBlanks = ⟨']' :: rest, q⟩ :=
      Cursor.skipBlanks_append (all_isBlank_newline indent) rfl
    refine ⟨[], some q.next, q.next, ?_, trivial⟩
    rw [Document.readItems, itemsText, hq]
    rfl
  | x :: xs, fuel + 1, first, p, hexact, hread, hfuel => by
    obtain ⟨hx, hxs⟩ := List.forall_mem_cons.1 hexact
    obtain ⟨hrx, hrxs⟩ := List.forall_mem_cons.1 hread
    obtain ⟨ch, cs, hcs, hblank, hch⟩ := exists_lead_prettyChars hx (indent + 1)
    have hlead := length_lead_pos first indent
    have hitem : 0 < (x.prettyChars (indent + 1)).length := hcs ▸ Nat.succ_pos _
    rw [itemsText] at hfuel ⊢
    simp only [List.length_append] at hfuel
    obtain ⟨q, hbefore⟩ := Cursor.before_lead first indent hblank (cs ++ itemsText false indent rest xs) p
    rw [← List.cons_append, ← hcs] at hbefore
    have hfirst : 2 * (x.prettyChars (indent + 1) ++ itemsText false indent rest xs).length < fuel := by
      rw [List.length_append]
      omega
    obtain ⟨d, q', hd, hholds⟩ := hrx
      (skipBlanks_prettyChars hx List.all_nil (indent + 1) (itemsText false indent rest xs) q)
      (endsNumber_itemsText indent rest xs) hfirst hdepth
    have hrest : 2 * (itemsText false indent rest xs).length + 1 < fuel := by omega
    obtain ⟨ds, after, q'', hds, hholdItems⟩ := readItems_itemsText hdepth indent rest false q' hxs hrxs hrest
    refine ⟨d :: ds, after, q'', ?_, hholds, hholdItems⟩
    rw [hcs, List.cons_append] at hbefore ⊢
    rw [hcs, List.cons_append] at hd
    exact Document.readItems_of_before hbefore hch hd hds

/-- **The members of an object are read** if the value of each of them is. -/
theorem readMembers_membersText (hdepth : depth + n ≤ Document.depthLimit) (indent : Nat) (rest : List Char) :
    ∀ {ms : List (String × Json)} {fuel : Nat} (first : Bool) (p : Place), (∀ m ∈ ms, Exact n m.2) →
      (∀ m ∈ ms, Readable n m.2) → 2 * (membersText first indent rest ms).length + 1 < fuel →
        ∃ ds after q, Document.readMembers fuel depth first ⟨membersText first indent rest ms, p⟩ =
          (ds, .sealed after, some ⟨rest, q⟩) ∧ Document.HoldMembers ds ms
  | [], fuel + 1, first, p, _, _, _ => by
    obtain ⟨q, hq⟩ : ∃ q, (⟨newline indent ++ '}' :: rest, p⟩ : Cursor).skipBlanks = ⟨'}' :: rest, q⟩ :=
      Cursor.skipBlanks_append (all_isBlank_newline indent) rfl
    refine ⟨[], some q.next, q.next, ?_, trivial⟩
    rw [Document.readMembers, membersText, hq]
    rfl
  | (k, x) :: ms, fuel + 1, first, p, hexact, hread, hfuel => by
    obtain ⟨hx, hms⟩ := List.forall_mem_cons.1 hexact
    obtain ⟨hrx, hrms⟩ := List.forall_mem_cons.1 hread
    have hlead := length_lead_pos first indent
    have htext : quoted k ++ ':' :: ' ' :: (x.prettyChars (indent + 1) ++ membersText false indent rest ms) =
        '"' :: (k.toList.flatMap escapeChar ++ '"' :: ':' :: ' ' ::
          (x.prettyChars (indent + 1) ++ membersText false indent rest ms)) := by
      simp [quoted]
    rw [membersText, htext] at hfuel ⊢
    simp only [List.length_append, List.length_cons] at hfuel
    obtain ⟨q, hbefore⟩ := Cursor.before_lead first indent (c := '"') rfl _ p
    obtain ⟨m, hkey⟩ := readString_escaped k
      (':' :: ' ' :: (x.prettyChars (indent + 1) ++ membersText false indent rest ms)) q.next
    have hblank : [' '].all Cursor.isBlank = true := rfl
    have hfirst : 2 * ([' '] ++ (x.prettyChars (indent + 1) ++ membersText false indent rest ms)).length < fuel := by
      rw [List.length_append, List.length_append, List.length_singleton]
      omega
    obtain ⟨d, q', hd, hholds⟩ := hrx
      (skipBlanks_prettyChars hx hblank (indent + 1) (membersText false indent rest ms) m.next)
      (endsNumber_membersText indent rest ms) hfirst hdepth
    have hrest : 2 * (membersText false indent rest ms).length + 1 < fuel := by omega
    obtain ⟨ds, after, q'', hds, hholdMembers⟩ := readMembers_membersText hdepth indent rest false q' hms hrms hrest
    exact ⟨_, after, q'', Document.readMembers_of_before hbefore hkey hd hds, rfl, hholds, hholdMembers⟩

theorem readable_arr {items : List Json} (hexact : ∀ x ∈ items, Exact n x) (h : ∀ x ∈ items, Readable n x) :
    Readable (n + 1) (.arr items) := by
  refine readable_iff fun {fuel depth indent p rest c} hc hrest hfuel hdepth => ?_
  obtain ⟨text, htext, ds, after, q, hread, hhold⟩ : ∃ text,
      (Json.arr items).prettyChars indent ++ rest = '[' :: text ∧ ∃ ds after q,
        Document.readItems fuel (depth + 1) true ⟨text, p.next⟩ = (ds, .sealed after, some ⟨rest, q⟩) ∧
          Document.HoldItems ds items := by
    cases items with
    | nil =>
      obtain ⟨fuel, rfl⟩ : ∃ k, fuel = k + 1 := Nat.exists_eq_succ_of_ne_zero (by simp [prettyChars] at hfuel; omega)
      exact ⟨']' :: rest, by simp [prettyChars], [], _, _, rfl, trivial⟩
    | cons x xs =>
      rw [prettyChars_arr, List.length_cons] at hfuel
      exact ⟨_, prettyChars_arr indent rest x xs,
        readItems_itemsText (n := n) (by omega) indent rest true p.next hexact h (by omega)⟩
  refine ⟨.arr (some p.next) (depth + 1) ds (.sealed after), q, ?_, ?_⟩
  · rw [htext] at hc
    exact Document.readValue_bracket hc hread
  · exact ⟨by omega, ⟨after, rfl⟩, hhold⟩

theorem readable_obj {members : List (String × Json)} (hexact : ∀ m ∈ members, Exact n m.2)
    (h : ∀ m ∈ members, Readable n m.2) : Readable (n + 1) (.obj members) := by
  refine readable_iff fun {fuel depth indent p rest c} hc hrest hfuel hdepth => ?_
  obtain ⟨text, htext, ds, after, q, hread, hhold⟩ : ∃ text,
      (Json.obj members).prettyChars indent ++ rest = '{' :: text ∧ ∃ ds after q,
        Document.readMembers fuel (depth + 1) true ⟨text, p.next⟩ = (ds, .sealed after, some ⟨rest, q⟩) ∧
          Document.HoldMembers ds members := by
    cases members with
    | nil =>
      obtain ⟨fuel, rfl⟩ : ∃ k, fuel = k + 1 := Nat.exists_eq_succ_of_ne_zero (by simp [prettyChars] at hfuel; omega)
      exact ⟨'}' :: rest, by simp [prettyChars], [], _, _, rfl, trivial⟩
    | cons m ms =>
      rw [prettyChars_obj, List.length_cons] at hfuel
      exact ⟨_, prettyChars_obj indent rest m.1 m.2 ms,
        readMembers_membersText (n := n) (by omega) indent rest true p.next hexact h (by omega)⟩
  refine ⟨.obj (some p.next) (depth + 1) ds (.sealed after), q, ?_, ?_⟩
  · rw [htext] at hc
    exact Document.readValue_brace hc hread
  · exact ⟨by omega, ⟨after, rfl⟩, hhold⟩

/-- **What is printed can be read**: a value without doubles, whose integers fit and whose brackets are not too many. -/
theorem readable_of_exact {j : Json} (h : Exact n j) : Readable n j := by
  induction h with
  | null => exact readable_null
  | bool b => exact readable_bool b
  | int hlow hhigh => exact readable_int hlow hhigh
  | str s => exact readable_str s
  | arr hitems ih => exact readable_arr hitems ih
  | obj hmembers ih => exact readable_obj hmembers ih

/-- **The text of a value is a document that holds it**, with nothing behind it. -/
theorem ofText_pretty {j : Json} (h : Exact n j) (hn : n ≤ Document.depthLimit) :
    ∃ d, Document.ofText j.pretty = (d, none) ∧ d.Holds j := by
  have hblanks : (⟨j.prettyChars 0, .start⟩ : Cursor).skipBlanks.rest = j.prettyChars 0 ++ [] := by
    have hskip := skipBlanks_prettyChars h List.all_nil 0 [] .start
    simpa only [List.nil_append, List.append_nil] using hskip
  have hdepth : 0 + n ≤ Document.depthLimit := by rwa [Nat.zero_add]
  obtain ⟨d, q, hd, hholds⟩ := readable_of_exact h hblanks nofun (Nat.lt_add_of_pos_right Nat.two_pos) hdepth
  refine ⟨d, ?_, hholds⟩
  rw [Document.ofText, pretty, String.toList_ofList]
  dsimp only
  rw [hd]
  rfl

end Json

/-! ## Codecs that mind no places -/

/-- Whether a codec reads from every document that holds a value what it reads from the value. -/
def Codec.Placeless {α : Type} (c : Codec α) : Prop :=
  ∀ ⦃d j a⦄, Document.Holds d j → c.ofJson j = .ok a → c.decode d = .ok a

theorem Field.reads_of_rel {α : Type} {f : Field α} {part : Option Document} {value : Option Json} {a : α}
    (hf : f.codec.Placeless) (hpart : Option.Rel Document.Holds part value) (h : f.Reads (value.map .ofJson) a) :
    f.Reads part a := by
  cases hpart with
  | none => exact h
  | some hd => exact hf hd h

namespace Shape

def Placeless : {τ : Type} → Shape τ → Prop
  | _, .nil => True
  | _, .cons f rest => f.codec.Placeless ∧ rest.Placeless

variable {d : Document} {j : Json}

theorem reads_of_holds (hd : d.Holds j) : ∀ {τ : Type} {s : Shape τ} {index : Nat} {a : τ}, s.Placeless →
    s.Reads index (some (.ofJson j)) a → s.Reads index (some d) a
  | _, .nil, _, _, _, _ => trivial
  | _, .cons f rest, index, a, hs, h => by
    obtain ⟨hf, hrest⟩ := hs
    obtain ⟨hread, hreads⟩ := reads_cons_iff.1 h
    exact ⟨f.reads_of_rel hf (Document.rel_part?_of_holds hd _ index) hread, reads_of_holds hd hrest hreads⟩

end Shape

namespace Codec

variable {α : Type} {c : Codec α}

theorem placeless_record {τ : Type} {title : String} {s : Shape τ} {make : τ → α} {fields : α → τ} (hdistinct : s.Distinct)
    (hs : s.Placeless) : (record title s make fields).Placeless := by
  intro d j a hd h
  obtain ⟨t, ht, rfl⟩ := map_eq_ok_iff.1 h
  obtain ⟨hmakes, hreads⟩ := (Shape.decode_ofJson_iff hdistinct).1 ht
  exact map_eq_ok_iff.2 ⟨t, Shape.decode_of_holds hdistinct hd hmakes (Shape.reads_of_holds hd hs hreads), rfl⟩

theorem placeless_string : string.Placeless := by
  intro d j s hd h
  cases (hasForm_string j s).1 h
  obtain ⟨span, rfl⟩ := Document.exists_of_holds_str hd
  rfl

theorem placeless_unsigned (wanted : Wanted) (limit : Nat) : (unsigned wanted limit).Placeless := by
  intro d j n hd h
  obtain ⟨rfl, hn⟩ := unsigned_eq_ok_iff.1 h
  obtain ⟨span, rfl⟩ := Document.exists_of_holds_int hd
  exact if_pos ⟨Int.natCast_nonneg n, hn⟩

theorem placeless_imap {β : Type} (f : α → β) (g : β → α) (hc : c.Placeless) : (c.imap f g).Placeless := by
  intro d j b hd h
  obtain ⟨a, ha, rfl⟩ := map_eq_ok_iff.1 h
  exact map_eq_ok_iff.2 ⟨a, hc hd ha, rfl⟩

theorem placeless_u64 : u64.Placeless := placeless_imap _ _ (placeless_unsigned _ _)

theorem placeless_u32 : u32.Placeless := placeless_imap _ _ (placeless_unsigned _ _)

theorem placeless_optional (hc : c.Placeless) : c.optional.Placeless := by
  intro d j o hd h
  by_cases hnull : j = .null
  · subst hnull
    obtain ⟨span, rfl⟩ := Document.exists_of_holds_null hd
    exact h
  · have hvalue : c.optional.ofJson j = (c.ofJson j).map some := by
      cases j <;> first | rfl | exact absurd rfl hnull
    obtain ⟨a, ha, rfl⟩ := map_eq_ok_iff.1 (hvalue.symm.trans h)
    have hread := hc hd ha
    cases d with
    | null span => cases j <;> first | exact absurd rfl hnull | (unfold Document.Holds at hd; cases hd)
    | broken => unfold Document.Holds at hd; cases hd
    | _ => exact map_eq_ok_iff.2 ⟨a, hread, rfl⟩

theorem placeless_enumeration [BEq α] (names : List (String × α)) : (enumeration names).Placeless := by
  intro d j a hd h
  obtain ⟨name, hname, rfl | rfl⟩ := (hasForm_enumeration names j a).1 h
  · obtain ⟨span, rfl⟩ := Document.exists_of_holds_str hd
    exact variant_eq_ok_iff.2 hname
  · obtain ⟨peek, depth, ds, after, rfl, hdepth, hmembers⟩ := Document.exists_of_holds_obj hd
    rcases ds with _ | ⟨⟨key, e⟩, _ | ⟨_, _⟩⟩
    · exact hmembers.elim
    · obtain ⟨hkey, he, -⟩ := hmembers
      obtain ⟨span, rfl⟩ := Document.exists_of_holds_null he
      have hread (place : Option Place) : variant names name place = .ok a := variant_eq_ok_iff.2 hname
      cases peek <;> simp [enumeration, Document.depthFault, hdepth, Document.keyName, hkey, hread, variantEnd, bind,
        Except.bind, pure, Except.pure]
    · exact hmembers.2.2.elim

/-- **What a codec reads from a value it reads from the text of the value.** -/
theorem ofText_pretty {n : Nat} {j : Json} {a : α} (hc : c.Placeless) (hj : j.Exact n)
    (hn : n ≤ Document.depthLimit) (h : c.ofJson j = .ok a) : c.ofText j.pretty = .ok a := by
  obtain ⟨d, hd, hholds⟩ := Json.ofText_pretty hj hn
  rw [ofText, hd]
  dsimp only
  rw [hc hholds h]
  rfl

end Codec
end PasskeyConsent

import PasskeyConsent.Json.Printer
import PasskeyConsent.Proofs.Number.Layout
/-!
# A value is told by its compact text

No compact text of a value begins another, up to the characters of numbers, which a comma, a closing bracket or the end
of the text cuts off.  So of two equal texts the values at their beginnings are equal, and what follows them is
(`append_inj_of_wellFormed`): by the first character it is decided what kind of value it is, and by recursion what is in
it.
-/
namespace PasskeyConsent.Json

/-- Whether the value is one of those that a text is read to: every double is normalized, and every object holds each key
once. -/
def wellFormed : Json → Bool
  | .float x => decide x.Normalized
  | .arr items => wellFormedItems items
  | .obj members => decide (members.map (·.1)).Nodup && wellFormedMembers members
  | _ => true
where
  wellFormedItems : List Json → Bool
    | [] => true
    | x :: rest => wellFormed x && wellFormedItems rest
  wellFormedMembers : List (String × Json) → Bool
    | [] => true
    | (_, v) :: rest => wellFormed v && wellFormedMembers rest

/-! ## Strings -/

/-- The characters with an escape of two characters, by the second of them. -/
def shortEscapes : List (Char × Char) :=
  [('"', '"'), ('\\', '\\'), ('b', Char.ofNat 8), ('t', '\t'), ('n', '\n'), ('f', Char.ofNat 12), ('r', '\r')]

/-- The character that an escape at the beginning of a text is for, or the first character, and what follows. -/
def unescape? : List Char → Option (Char × List Char)
  | '\\' :: 'u' :: '0' :: '0' :: a :: b :: rest =>
    (Bytes.hexValue? a).bind fun x => (Bytes.hexValue? b).map fun y => (Char.ofNat (16 * x + y), rest)
  | '\\' :: c :: rest => (shortEscapes.lookup c).map fun d => (d, rest)
  | c :: rest => some (c, rest)
  | [] => none

theorem hexValue?_hexDigit {n : Nat} (h : n < 16) : Bytes.hexValue? (Bytes.hexDigit n) = some n := by
  have hall : ∀ n < 16, Bytes.hexValue? (Bytes.hexDigit n) = some n := by decide
  exact hall n h

theorem eq_ofNat_of_toNat {c : Char} {n : Nat} (h : c.toNat = n) : c = Char.ofNat n := by
  rw [← h, Char.ofNat_toNat]

/-- **An escape is told from what follows it.** -/
theorem unescape?_escapeChar (c : Char) (rest : List Char) : unescape? (escapeChar c ++ rest) = some (c, rest) := by
  unfold escapeChar
  by_cases hquote : c = '"'
  · rw [if_pos hquote, hquote]
    rfl
  rw [if_neg hquote]
  by_cases hslash : c = '\\'
  · rw [if_pos hslash, hslash]
    rfl
  rw [if_neg hslash]
  split
  · rename_i h
    rw [eq_ofNat_of_toNat h]
    rfl
  split
  · rename_i h
    rw [eq_ofNat_of_toNat h]
    rfl
  split
  · rename_i h
    rw [eq_ofNat_of_toNat h]
    rfl
  split
  · rename_i h
    rw [eq_ofNat_of_toNat h]
    rfl
  split
  · rename_i h
    rw [eq_ofNat_of_toNat h]
    rfl
  split
  · have hvalue : 16 * (c.toNat / 16) + c.toNat % 16 = c.toNat := by omega
    simp only [List.cons_append, List.nil_append, unescape?]
    rw [hexValue?_hexDigit (by omega), hexValue?_hexDigit (by omega)]
    simp only [Option.bind_some, Option.map_some, hvalue, Char.ofNat_toNat]
  · rw [List.singleton_append, unescape?]
    · intros
      contradiction
    · intros
      contradiction

theorem escapeChar_append_inj {c d : Char} {u v : List Char} (h : escapeChar c ++ u = escapeChar d ++ v) :
    c = d ∧ u = v := by
  have hpair := congrArg unescape? h
  rw [unescape?_escapeChar, unescape?_escapeChar, Option.some_inj, Prod.mk.injEq] at hpair
  exact hpair

/-- No escape begins as the end of a string does. -/
theorem escapeChar_append_ne_quote (c : Char) (u v : List Char) : escapeChar c ++ u ≠ '"' :: v := by
  intro h
  have hpair := congrArg unescape? h
  have hquote : unescape? ('"' :: v) = some ('"', v) := rfl
  rw [unescape?_escapeChar, hquote, Option.some_inj, Prod.mk.injEq] at hpair
  rw [hpair.1] at h
  cases h

theorem escaped_append_inj : ∀ {cs ds u v : List Char},
    cs.flatMap escapeChar ++ '"' :: u = ds.flatMap escapeChar ++ '"' :: v → cs = ds ∧ u = v
  | [], [], _, _, h => ⟨rfl, (List.cons.inj h).2⟩
  | [], d :: ds, _, _, h => by
    rw [List.flatMap_cons, List.append_assoc] at h
    exact absurd h.symm (escapeChar_append_ne_quote _ _ _)
  | c :: cs, [], _, _, h => by
    rw [List.flatMap_cons, List.append_assoc] at h
    exact absurd h (escapeChar_append_ne_quote _ _ _)
  | c :: cs, d :: ds, _, _, h => by
    rw [List.flatMap_cons, List.flatMap_cons, List.append_assoc, List.append_assoc] at h
    obtain ⟨rfl, hrest⟩ := escapeChar_append_inj h
    obtain ⟨rfl, huv⟩ := escaped_append_inj hrest
    exact ⟨rfl, huv⟩

/-- **A string ends at its closing quotation mark.** -/
theorem quoted_append_inj {s t : String} {u v : List Char} (h : quoted s ++ u = quoted t ++ v) : s = t ∧ u = v := by
  simp only [quoted, List.cons_append, List.append_assoc, List.nil_append, List.cons.injEq, true_and] at h
  obtain ⟨hchars, huv⟩ := escaped_append_inj h
  exact ⟨String.toList_inj.1 hchars, huv⟩

/-! ## Numbers -/

/-- The characters of numbers. -/
def isNumberChar (c : Char) : Bool := c.isDigit || c = '-' || c = '+' || c = '.' || c = 'e'

theorem isNumberChar_of_isDigit {c : Char} (h : c.isDigit = true) : isNumberChar c = true := by
  simp [isNumberChar, h]

theorem all_isNumberChar_of_isDigit {ds : List Char} (h : ds.all Char.isDigit = true) : ds.all isNumberChar = true :=
  List.all_eq_true.2 fun c hc => isNumberChar_of_isDigit (List.all_eq_true.1 h c hc)

theorem all_isNumberChar_intText (n : Int) : (intText n).all isNumberChar = true := by
  have hdigits := all_isNumberChar_of_isDigit (Numeral.all_isDigit_toDigits n.natAbs)
  unfold intText
  split
  · rw [List.all_cons, hdigits]
    rfl
  · exact hdigits

theorem all_isNumberChar_chars {n : Numeral} (h : n.Proper) : n.chars.all isNumberChar = true := by
  have hfraction : (Numeral.fractionChars n.fraction).all isNumberChar = true := by
    unfold Numeral.fractionChars
    split
    · rfl
    · rw [List.all_cons, all_isNumberChar_of_isDigit h.fraction]
      rfl
  have hexponent : (Numeral.exponentChars n.exponent).all isNumberChar = true := by
    cases n.exponent with
    | none => rfl
    | some e =>
      have hdigits := all_isNumberChar_of_isDigit (Numeral.all_isDigit_toDigits e.natAbs)
      rw [Numeral.exponentChars, List.all_cons, List.all_cons, hdigits]
      split <;> rfl
  rw [Numeral.chars, List.all_append, List.all_append, all_isNumberChar_of_isDigit h.whole, hfraction, hexponent]
  rfl

theorem all_isNumberChar_text {x : Binary64} (hx : x.Normalized) : x.text.toList.all isNumberChar = true := by
  obtain ⟨n, hn, hchars, -⟩ := Binary64.exists_text hx
  rw [hchars, List.all_append, all_isNumberChar_chars hn]
  split <;> rfl

theorem intText_injective {m n : Int} (h : intText m = intText n) : m = n := by
  have hdigits : ∀ {k l : Nat}, '-' :: Nat.toDigits 10 k ≠ Nat.toDigits 10 l := by
    intro k l h
    have hall := Numeral.all_isDigit_toDigits l
    rw [← h, List.all_cons] at hall
    cases hall
  unfold intText at h
  split at h <;> split at h
  · have habs := Numeral.toDigits_injective (List.cons.inj h).2
    omega
  · exact absurd h hdigits
  · exact absurd h.symm hdigits
  · have habs := Numeral.toDigits_injective h
    omega

theorem compact_nat (n : Nat) : (Json.int n).compact = toString n := by
  rw [Nat.toString_eq_ofList_toDigits, compact]
  refine congrArg String.ofList ?_
  show intText (n : Int) = _
  rw [intText, if_neg (Int.not_lt.2 (Int.natCast_nonneg n)), Int.natAbs_natCast]

/-- No double has the text of an integer, as it has a point or an exponent. -/
theorem intText_ne_text {n : Int} {x : Binary64} (hx : x.Normalized) : intText n ≠ x.text.toList := by
  intro h
  obtain ⟨m, hm, hchars, -⟩ := Binary64.exists_text hx
  have hint : (intText n).all (fun c => c.isDigit || c = '-') = true := by
    have hdigits : (Nat.toDigits 10 n.natAbs).all (fun c => c.isDigit || c = '-') = true :=
      List.all_eq_true.2 fun c hc => by
        rw [List.all_eq_true.1 (Numeral.all_isDigit_toDigits _) c hc]
        rfl
    unfold intText
    split
    · rw [List.all_cons, hdigits]
      rfl
    · exact hdigits
  have hmark : m.chars.all (fun c => c.isDigit || c = '-') = false := by
    rw [Numeral.chars, List.all_append, List.all_append]
    rcases hm.marked with hfraction | hexponent
    · simp [Numeral.fractionChars, hfraction]
    · obtain ⟨e, he⟩ := Option.ne_none_iff_exists'.1 hexponent
      simp [Numeral.exponentChars, he]
  rw [h, hchars, List.all_append, hmark, Bool.and_false] at hint
  cases hint

/-! ## Values -/

/-- The first character of the texts of one kind of values, unless they are numbers. -/
def lead? : Json → Option Char
  | .null => some 'n'
  | .bool true => some 't'
  | .bool false => some 'f'
  | .int _ => none
  | .float _ => none
  | .str _ => some '"'
  | .arr _ => some '['
  | .obj _ => some '\x7b'

/-- The text of a number has characters of numbers only. -/
theorem all_isNumberChar_of_lead? {j : Json} (hj : j.wellFormed = true) (h : j.lead? = none) :
    j.compactChars ≠ [] ∧ j.compactChars.all isNumberChar = true := by
  rcases j with _ | (_ | _) | n | x | _ | _ | _ <;> try cases h
  · refine ⟨?_, all_isNumberChar_intText n⟩
    show intText n ≠ []
    unfold intText
    split
    · exact List.cons_ne_nil _ _
    · exact Nat.toDigits_ne_nil
  · have hx : x.Normalized := of_decide_eq_true hj
    obtain ⟨m, hm, hchars, -⟩ := Binary64.exists_text hx
    refine ⟨?_, all_isNumberChar_text hx⟩
    show x.text.toList ≠ []
    rw [hchars, Numeral.chars]
    simp [hm.whole_ne_nil]

theorem exists_lead {j : Json} {c : Char} (h : j.lead? = some c) :
    isNumberChar c = false ∧ ∃ cs, j.compactChars = c :: cs := by
  rcases j with _ | (_ | _) | _ | _ | _ | _ | _ <;> cases h <;> exact ⟨by decide, _, rfl⟩

/-- **The first character of a text tells what kind of value it begins with.** -/
theorem lead?_eq_of_append {a b : Json} {u v : List Char} (ha : a.wellFormed = true) (hb : b.wellFormed = true)
    (h : a.compactChars ++ u = b.compactChars ++ v) : a.lead? = b.lead? := by
  have hnumber : ∀ {a b : Json} {u v : List Char} {c : Char}, a.wellFormed = true →
      a.compactChars ++ u = b.compactChars ++ v → a.lead? = none → b.lead? ≠ some c := by
    intro a b u v c ha h hnone hsome
    obtain ⟨hne, hall⟩ := all_isNumberChar_of_lead? ha hnone
    obtain ⟨hc, cs, hcs⟩ := exists_lead hsome
    obtain ⟨d, ds, hds⟩ := List.exists_cons_of_ne_nil hne
    rw [hds, hcs, List.cons_append, List.cons_append, List.cons.injEq] at h
    rw [hds, List.all_cons, h.1, hc, Bool.false_and] at hall
    cases hall
  cases hlead : a.lead? with
  | none => cases hlead' : b.lead? with
    | none => rfl
    | some d => exact absurd hlead' (hnumber ha h hlead)
  | some c => cases hlead' : b.lead? with
    | none => exact absurd hlead (hnumber hb h.symm hlead')
    | some d =>
      obtain ⟨-, cs, hcs⟩ := exists_lead hlead
      obtain ⟨-, ds, hds⟩ := exists_lead hlead'
      rw [hcs, hds, List.cons_append, List.cons_append, List.cons.injEq] at h
      rw [h.1]

/-- Whether a text does not begin with what could go on with a number. -/
def Stops (u : List Char) : Prop := u.head?.any isNumberChar = false

/-- **A number ends where its characters do.** -/
theorem number_append_inj {a b : Json} {u v : List Char} (ha : a.wellFormed = true) (hb : b.wellFormed = true)
    (hu : Stops u) (hv : Stops v) (hlead : a.lead? = none) (h : a.compactChars ++ u = b.compactChars ++ v) :
    a = b ∧ u = v := by
  have hlead' : b.lead? = none := (lead?_eq_of_append ha hb h).symm.trans hlead
  obtain ⟨heq, huv⟩ := append_inj_of_runs (all_isNumberChar_of_lead? ha hlead).2
    (all_isNumberChar_of_lead? hb hlead').2 hu hv h
  refine ⟨?_, huv⟩
  rcases a with _ | (_ | _) | m | x | _ | _ | _ <;> try cases hlead
  · rcases b with _ | (_ | _) | n | y | _ | _ | _ <;> try cases hlead'
    · exact congrArg Json.int (intText_injective heq)
    · exact absurd heq (intText_ne_text (of_decide_eq_true hb))
  · rcases b with _ | (_ | _) | n | y | _ | _ | _ <;> try cases hlead'
    · exact absurd heq.symm (intText_ne_text (of_decide_eq_true ha))
    · exact congrArg Json.float (Binary64.text_injective (of_decide_eq_true ha) (of_decide_eq_true hb)
        (String.toList_inj.1 heq))

/-- What follows the first item of an array in its text. -/
def laterItems : List Json → List Char
  | [] => []
  | x :: rest => ',' :: compactChars.itemsChars (x :: rest)

theorem itemsChars_cons (x : Json) (rest : List Json) :
    compactChars.itemsChars (x :: rest) = x.compactChars ++ laterItems rest := by
  cases rest with
  | nil => exact (List.append_nil _).symm
  | cons y rest => rfl

def laterMembers : List (String × Json) → List Char
  | [] => []
  | m :: rest => ',' :: compactChars.membersChars (m :: rest)

theorem membersChars_cons (k : String) (x : Json) (rest : List (String × Json)) :
    compactChars.membersChars ((k, x) :: rest) = quoted k ++ ':' :: (x.compactChars ++ laterMembers rest) := by
  cases rest with
  | nil => rw [compactChars.membersChars, laterMembers, List.append_nil]
  | cons m rest => rfl

theorem itemsChars_append_of_laterItems {xs ys : List Json} {u v : List Char}
    (h : laterItems xs ++ ']' :: u = laterItems ys ++ ']' :: v) :
    compactChars.itemsChars xs ++ ']' :: u = compactChars.itemsChars ys ++ ']' :: v := by
  cases xs <;> cases ys
  · exact h
  · cases h
  · cases h
  · exact (List.cons.inj h).2

theorem membersChars_append_of_laterMembers {ms ns : List (String × Json)} {u v : List Char}
    (h : laterMembers ms ++ '\x7d' :: u = laterMembers ns ++ '\x7d' :: v) :
    compactChars.membersChars ms ++ '\x7d' :: u = compactChars.membersChars ns ++ '\x7d' :: v := by
  cases ms <;> cases ns
  · exact h
  · cases h
  · cases h
  · exact (List.cons.inj h).2

/-- No value begins as the end of an array does. -/
theorem compactChars_append_ne_bracket {j : Json} (hj : j.wellFormed = true) (w u : List Char) :
    j.compactChars ++ w ≠ ']' :: u := by
  intro h
  cases hlead : j.lead? with
  | none =>
    obtain ⟨hne, hall⟩ := all_isNumberChar_of_lead? hj hlead
    obtain ⟨c, cs, hcs⟩ := List.exists_cons_of_ne_nil hne
    rw [hcs, List.cons_append, List.cons.injEq] at h
    rw [hcs, h.1] at hall
    cases hall
  | some c =>
    obtain ⟨-, cs, hcs⟩ := exists_lead hlead
    rw [hcs, List.cons_append, List.cons.injEq] at h
    rw [h.1] at hlead
    rcases j with _ | (_ | _) | _ | _ | _ | _ | _ <;> cases hlead

theorem stops_laterItems (xs : List Json) (u : List Char) : Stops (laterItems xs ++ ']' :: u) := by
  cases xs <;> rfl

theorem stops_laterMembers (ms : List (String × Json)) (u : List Char) : Stops (laterMembers ms ++ '\x7d' :: u) := by
  cases ms <;> rfl

mutual

/-- **A text of a value goes on behind it in one way.** -/
theorem append_inj_of_wellFormed : ∀ {a b : Json} {u v : List Char}, a.wellFormed = true → b.wellFormed = true →
    Stops u → Stops v → a.compactChars ++ u = b.compactChars ++ v → a = b ∧ u = v
  | .null, b, _, _, ha, hb, _, _, h => by
    have hlead := lead?_eq_of_append ha hb h
    rcases b with _ | (_ | _) | _ | _ | _ | _ | _ <;> try cases hlead
    exact ⟨rfl, List.append_cancel_left h⟩
  | .bool true, b, _, _, ha, hb, _, _, h => by
    have hlead := lead?_eq_of_append ha hb h
    rcases b with _ | (_ | _) | _ | _ | _ | _ | _ <;> try cases hlead
    exact ⟨rfl, List.append_cancel_left h⟩
  | .bool false, b, _, _, ha, hb, _, _, h => by
    have hlead := lead?_eq_of_append ha hb h
    rcases b with _ | (_ | _) | _ | _ | _ | _ | _ <;> try cases hlead
    exact ⟨rfl, List.append_cancel_left h⟩
  | .int _, _, _, _, ha, hb, hu, hv, h => number_append_inj ha hb hu hv rfl h
  | .float _, _, _, _, ha, hb, hu, hv, h => number_append_inj ha hb hu hv rfl h
  | .str s, b, _, _, ha, hb, _, _, h => by
    have hlead := lead?_eq_of_append ha hb h
    rcases b with _ | (_ | _) | _ | _ | t | _ | _ <;> try cases hlead
    obtain ⟨rfl, huv⟩ := quoted_append_inj h
    exact ⟨rfl, huv⟩
  | .arr xs, b, _, _, ha, hb, _, _, h => by
    have hlead := lead?_eq_of_append ha hb h
    rcases b with _ | (_ | _) | _ | _ | _ | ys | _ <;> try cases hlead
    simp only [compactChars, List.cons_append, List.append_assoc, List.cons.injEq, true_and] at h
    obtain ⟨rfl, huv⟩ := items_inj_of_wellFormed ha hb h
    exact ⟨rfl, huv⟩
  | .obj ms, b, _, _, ha, hb, _, _, h => by
    have hlead := lead?_eq_of_append ha hb h
    rcases b with _ | (_ | _) | _ | _ | _ | _ | ns <;> try cases hlead
    simp only [compactChars, List.cons_append, List.append_assoc, List.cons.injEq, true_and] at h
    rw [wellFormed, Bool.and_eq_true] at ha hb
    obtain ⟨rfl, huv⟩ := members_inj_of_wellFormed ha.2 hb.2 h
    exact ⟨rfl, huv⟩

theorem items_inj_of_wellFormed : ∀ {xs ys : List Json} {u v : List Char}, wellFormed.wellFormedItems xs = true →
    wellFormed.wellFormedItems ys = true →
    compactChars.itemsChars xs ++ ']' :: u = compactChars.itemsChars ys ++ ']' :: v → xs = ys ∧ u = v
  | [], [], _, _, _, _, h => ⟨rfl, (List.cons.inj h).2⟩
  | [], y :: ys, _, _, _, hys, h => by
    rw [itemsChars_cons, List.append_assoc] at h
    exact absurd h.symm (compactChars_append_ne_bracket (Bool.and_eq_true _ _ ▸ hys).1 _ _)
  | x :: xs, [], _, _, hxs, _, h => by
    rw [itemsChars_cons, List.append_assoc] at h
    exact absurd h (compactChars_append_ne_bracket (Bool.and_eq_true _ _ ▸ hxs).1 _ _)
  | x :: xs, y :: ys, _, _, hxs, hys, h => by
    rw [wellFormed.wellFormedItems, Bool.and_eq_true] at hxs hys
    rw [itemsChars_cons, itemsChars_cons, List.append_assoc, List.append_assoc] at h
    obtain ⟨rfl, hlater⟩ := append_inj_of_wellFormed hxs.1 hys.1 (stops_laterItems _ _) (stops_laterItems _ _) h
    obtain ⟨rfl, huv⟩ := items_inj_of_wellFormed hxs.2 hys.2 (itemsChars_append_of_laterItems hlater)
    exact ⟨rfl, huv⟩

theorem members_inj_of_wellFormed : ∀ {ms ns : List (String × Json)} {u v : List Char},
    wellFormed.wellFormedMembers ms = true → wellFormed.wellFormedMembers ns = true →
    compactChars.membersChars ms ++ '\x7d' :: u = compactChars.membersChars ns ++ '\x7d' :: v → ms = ns ∧ u = v
  | [], [], _, _, _, _, h => ⟨rfl, (List.cons.inj h).2⟩
  | [], (k, x) :: ns, _, _, _, _, h => by
    rw [membersChars_cons] at h
    cases h
  | (k, x) :: ms, [], _, _, _, _, h => by
    rw [membersChars_cons] at h
    cases h
  | (k, x) :: ms, (l, y) :: ns, _, _, hms, hns, h => by
    rw [wellFormed.wellFormedMembers, Bool.and_eq_true] at hms hns
    simp only [membersChars_cons, List.append_assoc, List.cons_append] at h
    obtain ⟨rfl, hvalue⟩ := quoted_append_inj h
    obtain ⟨rfl, hlater⟩ := append_inj_of_wellFormed hms.1 hns.1 (stops_laterMembers _ _) (stops_laterMembers _ _)
      (List.cons.inj hvalue).2
    obtain ⟨rfl, huv⟩ := members_inj_of_wellFormed hms.2 hns.2 (membersChars_append_of_laterMembers hlater)
    exact ⟨rfl, huv⟩

end

/-- **A value is told by its compact text.** -/
theorem compact_injective {a b : Json} (ha : a.wellFormed = true) (hb : b.wellFormed = true)
    (h : a.compact = b.compact) : a = b := by
  refine (append_inj_of_wellFormed (u := []) (v := []) ha hb rfl rfl ?_).1
  rw [List.append_nil, List.append_nil]
  exact String.ofList_injective h

end PasskeyConsent.Json

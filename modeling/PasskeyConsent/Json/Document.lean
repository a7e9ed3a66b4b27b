import PasskeyConsent.Json.Basic
import PasskeyConsent.Text.Numeral
import PasskeyConsent.Bytes.Basic
/-!
# JSON documents

A `Document` is a value together with where each part of it stands in a text, up to the first place where the text
stops being JSON.  Reading never fails: what is wrong stays in the tree as a `broken` node or an unfinished `Close`,
so that a decoder that walks the tree in order meets a decoding fault and a malformed text in the order in which they
stand.  Some tokens can be skipped and yet not read (a lone surrogate, a number beyond the doubles); those are
`unreadable`.  `Document.ofJson` gives the document of a value, which has no places.

A place is a line and the number of bytes before it on that line.
-/
namespace PasskeyConsent

structure Place where
  line : Nat
  column : Nat
deriving DecidableEq, Repr, Inhabited

def Place.start : Place := ⟨1, 0⟩

def Place.advance (p : Place) (c : Char) : Place :=
  if c = '\n' then ⟨p.line + 1, 0⟩ else ⟨p.line, p.column + c.utf8Size⟩

/-- A place one byte on. -/
def Place.next (p : Place) : Place := ⟨p.line, p.column + 1⟩

/-- A place behind the first byte of a character. -/
def Place.enter (p : Place) (c : Char) : Place := if c = '\n' then p.advance c else p.next

/-- A place one byte back. -/
def Place.back (p : Place) : Place := ⟨p.line, p.column - 1⟩

/-- What is wrong with a text that is not JSON. -/
inductive Malformed where
  | eofList | eofObject | eofString | eofValue
  | expectedColon | expectedListEnd | expectedObjectEnd | expectedIdent | expectedValue
  | invalidEscape | invalidNumber | numberOutOfRange | controlCharacter | keyMustBeString
  | loneSurrogate | trailingComma | trailingCharacters | unfinishedSurrogate | tooDeep
deriving DecidableEq, Repr

def Malformed.message : Malformed → String
  | .eofList => "EOF while parsing a list"
  | .eofObject => "EOF while parsing an object"
  | .eofString => "EOF while parsing a string"
  | .eofValue => "EOF while parsing a value"
  | .expectedColon => "expected `:`"
  | .expectedListEnd => "expected `,` or `]`"
  | .expectedObjectEnd => "expected `,` or `\x7d`"
  | .expectedIdent => "expected ident"
  | .expectedValue => "expected value"
  | .invalidEscape => "invalid escape"
  | .invalidNumber => "invalid number"
  | .numberOutOfRange => "number out of range"
  | .controlCharacter => "control character (\\u0000-\\u001F) found while parsing a string"
  | .keyMustBeString => "key must be a string"
  | .loneSurrogate => "lone leading surrogate in hex escape"
  | .trailingComma => "trailing comma"
  | .trailingCharacters => "trailing characters"
  | .unfinishedSurrogate => "unexpected end of hex escape"
  | .tooDeep => "recursion limit exceeded"

/-- A malformation and where it was noticed. -/
structure Flaw where
  what : Malformed
  place : Place
deriving DecidableEq, Repr

/-- Where a token stands: one byte into it, and behind it. -/
structure Span where
  peek : Place
  after : Place
deriving DecidableEq, Repr

/-- How an array or an object ends.  The places are those at which the end is noticed; `lax` is the end in a format
whose readers may leave the rest of an array unread and take an empty array or table for nothing. -/
inductive Close where
  | lax
  | sealed (after : Option Place)
  | textEnds (place : Place)
  | stray (place : Place)
  | trailingComma (place : Place)
  | textEndsAfterComma (place : Place)
  | keyExpected (place : Place)
deriving DecidableEq, Repr

/-- A member's key, where it ends, and where the blanks behind it and those behind its value end.  The end of the
object belongs to the blanks behind a key that has no value. -/
structure Key where
  name : Except Flaw String
  close : Option Place
  after : Option Place
  next : Option Place

inductive Document where
  | null (span : Option Span)
  | bool (span : Option Span) (b : Bool)
  | int (span : Option Span) (n : Int)
  | float (span : Option Span) (x : Binary64)
  | str (span : Option Span) (s : String)
  | unreadable (peek : Place) (head : Char) (flaw : Flaw)
  | broken (peek : Place) (head : Option Char) (read skip : Flaw)
  | arr (peek : Option Place) (depth : Nat) (items : List Document) (close : Close)
  | obj (peek : Option Place) (depth : Nat) (members : List (Key × Document)) (close : Close)

namespace Document

/-! ## From values -/

def ofJson : Json → Document
  | .null => .null none
  | .bool b => .bool none b
  | .int n => .int none n
  | .float x => .float none x
  | .str s => .str none s
  | .arr items => .arr none 0 (ofItems items) (.sealed none)
  | .obj members => .obj none 0 (ofMembers members) (.sealed none)
where
  ofItems : List Json → List Document
    | [] => []
    | x :: rest => ofJson x :: ofItems rest
  ofMembers : List (String × Json) → List (Key × Document)
    | [] => []
    | (k, v) :: rest => (⟨.ok k, none, none, none⟩, ofJson v) :: ofMembers rest

/-- One byte into the first token of a document. -/
def peek? : Document → Option Place
  | .null s | .bool s _ | .int s _ | .float s _ | .str s _ => s.map (·.peek)
  | .unreadable p _ _ | .broken p _ _ _ => some p
  | .arr p _ _ _ | .obj p _ _ _ => p

/-- The place at which a fault about the whole document is reported: behind a scalar, before a bracket. -/
def place? : Document → Option Place
  | .null s | .bool s _ | .int s _ | .float s _ | .str s _ => s.map (·.after)
  | .unreadable _ _ f => some f.place
  | .broken _ _ f _ => some f.place
  | .arr p _ _ _ | .obj p _ _ _ => p.map Place.back

end Document

/-! ## Cursors -/

/-- What is left of a text, and where it stands. -/
structure Cursor where
  rest : List Char
  place : Place

namespace Cursor

def skipBlanksFrom (p : Place) : List Char → Cursor
  | [] => ⟨[], p⟩
  | c :: rest =>
    if c = ' ' ∨ c = '\n' ∨ c = '\t' ∨ c = '\r' then skipBlanksFrom (p.advance c) rest else ⟨c :: rest, p⟩

def skipBlanks (c : Cursor) : Cursor := skipBlanksFrom c.place c.rest

/-- Where a fault about the next character is noticed: one byte on, or here at the end. -/
def peek (c : Cursor) : Place :=
  match c.rest with
  | [] => c.place
  | ch :: _ => c.place.enter ch

/-- Past one character that takes one byte and is no line break. -/
def eat (c : Cursor) : Cursor := ⟨c.rest.drop 1, c.place.next⟩

end Cursor

/-- What became of a token: its value, or the flaw that reading it runs into; and where it ends, or the flaw that
skipping it runs into. -/
structure Token (α : Type) where
  value : Except Flaw α
  stop : Except Flaw Cursor

/-! ## Strings -/

/-- Reads `n` bytes of hexadecimal digits, `none` for a text that is too short. -/
def hexBytes : Nat → Nat → Cursor → Option (Option Nat × Cursor)
  | 0, v, c => some (some v, c)
  | n + 1, v, c =>
    match c.rest with
    | [] => none
    | d :: rest =>
      match Bytes.hexValue? d with
      | some x => hexBytes n (16 * v + x) ⟨rest, c.place.next⟩
      | none => passBytes (n + 1) c
where
  passBytes : Nat → Cursor → Option (Option Nat × Cursor)
    | 0, c => some (none, c)
    | n + 1, c =>
      match c.rest with
      | [] => none
      | d :: rest =>
        if d.utf8Size ≤ n + 1 then passBytes (n + 1 - d.utf8Size) ⟨rest, c.place.advance d⟩
        else some (none, ⟨rest, ⟨c.place.line, c.place.column + n + 1⟩⟩)
  termination_by n _ => n
  decreasing_by have := Char.utf8Size_pos d; omega

def atEnd (p : Place) (rest : List Char) : Place := rest.foldl Place.advance p

/-- The escape behind `\u`: the unit it denotes, or the flaw. -/
def hexEscape (c : Cursor) : Except Flaw Nat × Cursor :=
  match hexBytes 4 0 c with
  | none => (.error ⟨.eofString, atEnd c.place c.rest⟩, c)
  | some (some v, c') => (.ok v, c')
  | some (none, c') => (.error ⟨.invalidEscape, c'.place⟩, c')

def simpleEscape? : Char → Option Char
  | '"' => some '"'
  | '\\' => some '\\'
  | '/' => some '/'
  | 'b' => some (Char.ofNat 8)
  | 'f' => some (Char.ofNat 12)
  | 'n' => some '\n'
  | 'r' => some '\r'
  | 't' => some '\t'
  | _ => none

/-- Reads the second half of a surrogate pair. -/
def lowSurrogate (high : Nat) (c : Cursor) : Except Flaw (Char × Cursor) :=
  match c.rest with
  | [] => .error ⟨.eofString, c.place⟩
  | '\\' :: 'u' :: _ =>
    match hexEscape c.eat.eat with
    | (.error f, _) => .error f
    | (.ok low, c') =>
      if 0xDC00 ≤ low ∧ low ≤ 0xDFFF then
        .ok (Char.ofNat ((high - 0xD800) * 1024 + (low - 0xDC00) + 0x10000), c')
      else .error ⟨.loneSurrogate, c'.place⟩
  | ['\\'] => .error ⟨.eofString, c.eat.place⟩
  | '\\' :: _ => .error ⟨.unfinishedSurrogate, c.eat.peek⟩
  | _ :: _ => .error ⟨.unfinishedSurrogate, c.peek⟩

/-- What follows a backslash: the character read or the flaw of reading it, and where skipping it goes on. -/
def escape (c : Cursor) : Except Flaw (Char × Cursor) × Except Flaw Cursor :=
  match c.rest with
  | [] => (.error ⟨.eofString, c.place⟩, .error ⟨.eofString, c.place⟩)
  | 'u' :: _ =>
    match hexEscape c.eat with
    | (.error f, _) => (.error f, .error f)
    | (.ok v, c') =>
      if 0xDC00 ≤ v ∧ v ≤ 0xDFFF then (.error ⟨.loneSurrogate, c'.place⟩, .ok c')
      else if 0xD800 ≤ v ∧ v ≤ 0xDBFF then (lowSurrogate v c', .ok c')
      else (.ok (Char.ofNat v, c'), .ok c')
  | e :: rest =>
    let c' : Cursor := ⟨rest, c.place.advance e⟩
    match simpleEscape? e with
    | some ch => (.ok (ch, c'), .ok c')
    | none => (.error ⟨.invalidEscape, c.peek⟩, .error ⟨.invalidEscape, c.peek⟩)

/-- Skips the rest of a string. -/
def skipString : Nat → Cursor → Except Flaw Cursor
  | 0, c => .error ⟨.eofString, c.place⟩
  | fuel + 1, c =>
    match c.rest with
    | [] => .error ⟨.eofString, c.place⟩
    | '"' :: _ => .ok c.eat
    | '\\' :: _ => (escape c.eat).2.bind (skipString fuel)
    | ch :: rest =>
      if ch.toNat < 32 then .error ⟨.controlCharacter, c.place⟩ else skipString fuel ⟨rest, c.place.advance ch⟩

/-- Reads the rest of a string behind its opening mark.  Every round takes at least one character off the text. -/
def stringToken : Nat → List Char → Cursor → Token String
  | 0, _, c => ⟨.error ⟨.eofString, c.place⟩, .error ⟨.eofString, c.place⟩⟩
  | fuel + 1, acc, c =>
    match c.rest with
    | [] => ⟨.error ⟨.eofString, c.place⟩, .error ⟨.eofString, c.place⟩⟩
    | '"' :: _ => ⟨.ok (String.ofList acc.reverse), .ok c.eat⟩
    | '\\' :: _ =>
      match escape c.eat with
      | (.ok (ch, c'), _) => stringToken fuel (ch :: acc) c'
      | (.error f, skip) => ⟨.error f, skip.bind (skipString fuel)⟩
    | ch :: rest =>
      if ch.toNat < 32 then ⟨.error ⟨.controlCharacter, c.place.advance ch⟩, .error ⟨.controlCharacter, c.place⟩⟩
      else stringToken fuel (ch :: acc) ⟨rest, c.place.advance ch⟩

def readString (c : Cursor) : Token String := stringToken (c.rest.length + 1) [] c

/-! ## Numbers -/

/-- The significant digits of a number that fit 64 bits, and the power of ten they stand at. -/
structure Significand where
  value : Nat
  exponent : Int
  full : Bool

/-- A whole digit that no longer fits moves the digits held up by one place. -/
def Significand.whole (s : Significand) (c : Char) : Significand :=
  let v := s.value * 10 + (c.toNat - 48)
  if s.full then { s with exponent := s.exponent + 1 }
  else if v ≤ Text.maxU64 then { s with value := v }
  else { s with exponent := s.exponent + 1, full := true }

/-- A decimal place that no longer fits is dropped, and so is every one behind it. -/
def Significand.place (s : Significand) (c : Char) : Significand :=
  let v := s.value * 10 + (c.toNat - 48)
  if s.full then s
  else if v ≤ Text.maxU64 then { s with value := v, exponent := s.exponent - 1 }
  else { s with full := true }

/-- The value of exponent digits, or how many of them were read when it left 32 bits. -/
def exponentOf : Nat → Nat → List Char → Except Nat Nat
  | _, v, [] => .ok v
  | n, v, c :: rest =>
    let w := 10 * v + (c.toNat - 48)
    if w ≤ 2147483647 then exponentOf (n + 1) w rest else .error (n + 1)

def Place.add (p : Place) (n : Nat) : Place := ⟨p.line, p.column + n⟩

def floatOf (negative : Bool) (significand : Nat) (exponent : Int) (place : Place) : Except Flaw Json :=
  match Binary64.ofDecimal? negative significand exponent with
  | some x => .ok (.float x)
  | none => .error ⟨.numberOutOfRange, place⟩

/-- An integer without fraction or exponent: exact while it fits 64 bits, a double beyond.  A negative zero is a double. -/
def wholeNumber (negative : Bool) (s : Significand) (place : Place) : Except Flaw Json :=
  if s.full then floatOf negative s.value s.exponent place
  else if !negative then .ok (.int s.value)
  else if s.value = 0 ∨ Nat.pow 2 63 < s.value then floatOf true s.value 0 place
  else .ok (.int (-s.value))

/-- Reads the exponent behind its mark, for the digits read so far. -/
def exponentToken (negative : Bool) (s : Significand) (c : Cursor) : Token Json :=
  let down := c.rest.head? == some '-'
  let c := if down || c.rest.head? == some '+' then c.eat else c
  let ds := c.rest.takeWhile Char.isDigit
  let stop : Cursor := ⟨c.rest.drop ds.length, c.place.add ds.length⟩
  if ds.isEmpty then
    match c.rest with
    | [] => ⟨.error ⟨.eofValue, c.place⟩, .error ⟨.invalidNumber, c.place⟩⟩
    | _ :: _ => ⟨.error ⟨.invalidNumber, c.peek⟩, .error ⟨.invalidNumber, c.peek⟩⟩
  else
    match exponentOf 0 0 ds with
    | .error n =>
      if s.value ≠ 0 ∧ !down then ⟨.error ⟨.numberOutOfRange, c.place.add n⟩, .ok stop⟩
      else ⟨.ok (.float { Binary64.zero with negative := negative }), .ok stop⟩
    | .ok e => ⟨floatOf negative s.value (if down then s.exponent - e else s.exponent + e) stop.place, .ok stop⟩

/-- Reads the decimal places behind the point. -/
def fractionToken (negative : Bool) (s : Significand) (c : Cursor) : Token Json :=
  let ds := c.rest.takeWhile Char.isDigit
  let stop : Cursor := ⟨c.rest.drop ds.length, c.place.add ds.length⟩
  if ds.isEmpty then
    match c.rest with
    | [] => ⟨.error ⟨.eofValue, c.place⟩, .error ⟨.invalidNumber, c.place⟩⟩
    | _ :: _ => ⟨.error ⟨.invalidNumber, c.peek⟩, .error ⟨.invalidNumber, c.peek⟩⟩
  else
    let s := ds.foldl Significand.place { s with full := false }
    match stop.rest with
    | 'e' :: _ | 'E' :: _ => exponentToken negative s stop.eat
    | _ => ⟨floatOf negative s.value s.exponent stop.place, .ok stop⟩

/-- Reads a number from its first digit. -/
def numberToken (negative : Bool) (c : Cursor) : Token Json :=
  let ds := c.rest.takeWhile Char.isDigit
  let stop : Cursor := ⟨c.rest.drop ds.length, c.place.add ds.length⟩
  match ds with
  | [] =>
    match c.rest with
    | [] => ⟨.error ⟨.eofValue, c.place⟩, .error ⟨.invalidNumber, c.place⟩⟩
    | _ :: _ => ⟨.error ⟨.invalidNumber, c.peek⟩, .error ⟨.invalidNumber, c.peek⟩⟩
  | '0' :: _ :: _ => ⟨.error ⟨.invalidNumber, c.place.add 2⟩, .error ⟨.invalidNumber, c.place.add 2⟩⟩
  | _ =>
    let s := ds.foldl Significand.whole ⟨0, 0, false⟩
    match stop.rest with
    | '.' :: _ => fractionToken negative s stop.eat
    | 'e' :: _ | 'E' :: _ => exponentToken negative s stop.eat
    | _ => ⟨wholeNumber negative s stop.place, .ok stop⟩

/-! ## Values -/

/-- The rest of a word whose first letter has been seen. -/
def wordEnd : List Char → Cursor → Except Flaw Cursor
  | [], c => .ok c
  | w :: ws, c =>
    match c.rest with
    | [] => .error ⟨.eofValue, c.place⟩
    | ch :: rest =>
      if ch = w then wordEnd ws ⟨rest, c.place.advance ch⟩ else .error ⟨.expectedIdent, c.peek⟩

namespace Document

def ofToken (peek : Place) (head : Char) (build : Option Span → α → Document) (t : Token α) :
    Document × Option Cursor :=
  match t.value, t.stop with
  | .ok a, .ok c => (build (some ⟨peek, c.place⟩) a, some c)
  | .error f, .ok c => (.unreadable peek head f, some c)
  | .ok _, .error f => (.broken peek (some head) f f, none)
  | .error f, .error g => (.broken peek (some head) f g, none)

def ofWord (peek : Place) (head : Char) (build : Option Span → Document) :
    Except Flaw Cursor → Document × Option Cursor
  | .ok c => (build (some ⟨peek, c.place⟩), some c)
  | .error f => (.broken peek (some head) f f, none)

def ofNumber (span : Option Span) : Json → Document
  | .int n => .int span n
  | .float x => .float span x
  | _ => .null span

mutual

/-- Reads one value at nesting `depth`, with the cursor behind it unless the text is broken. -/
def readValue : Nat → Nat → Cursor → Document × Option Cursor
  | 0, _, c => (.broken c.peek none ⟨.eofValue, c.peek⟩ ⟨.eofValue, c.peek⟩, none)
  | fuel + 1, depth, c =>
    let c := c.skipBlanks
    let p := c.peek
    match c.rest with
    | [] => (.broken p none ⟨.eofValue, p⟩ ⟨.eofValue, p⟩, none)
    | 'n' :: _ => ofWord p 'n' .null (wordEnd ['u', 'l', 'l'] c.eat)
    | 't' :: _ => ofWord p 't' (fun s => .bool s true) (wordEnd ['r', 'u', 'e'] c.eat)
    | 'f' :: _ => ofWord p 'f' (fun s => .bool s false) (wordEnd ['a', 'l', 's', 'e'] c.eat)
    | '-' :: _ => ofToken p '-' ofNumber (numberToken true c.eat)
    | '"' :: _ => ofToken p '"' .str (readString c.eat)
    | '[' :: _ =>
      let (items, close, stop) := readItems fuel (depth + 1) true c.eat
      (.arr (some p) (depth + 1) items close, stop)
    | '{' :: _ =>
      let (members, close, stop) := readMembers fuel (depth + 1) true c.eat
      (.obj (some p) (depth + 1) members close, stop)
    | ch :: _ =>
      if ch.isDigit then ofToken p ch ofNumber (numberToken false c)
      else (.broken p (some ch) ⟨.expectedValue, p⟩ ⟨.expectedValue, p⟩, none)

/-- Reads the items of an array, the first without a comma before it. -/
def readItems : Nat → Nat → Bool → Cursor → List Document × Close × Option Cursor
  | 0, _, _, c => ([], .textEnds c.peek, none)
  | fuel + 1, depth, first, c =>
    let c := c.skipBlanks
    match c.rest with
    | [] => ([], .textEnds c.peek, none)
    | ']' :: _ => ([], .sealed (some c.eat.place), some c.eat)
    | ch :: _ =>
      if !first && ch ≠ ',' then ([], .stray c.peek, none)
      else
        let c := if first then c else c.eat.skipBlanks
        match c.rest, first with
        | [], _ => ([], .textEndsAfterComma c.peek, none)
        | ']' :: _, false => ([], .trailingComma c.peek, none)
        | _, _ =>
          match readValue fuel depth c with
          | (d, none) => ([d], .sealed none, none)
          | (d, some c) =>
            let (items, close, stop) := readItems fuel depth false c
            (d :: items, close, stop)

/-- Reads the members of an object, the first without a comma before it. -/
def readMembers : Nat → Nat → Bool → Cursor → List (Key × Document) × Close × Option Cursor
  | 0, _, _, c => ([], .textEnds c.peek, none)
  | fuel + 1, depth, first, c =>
    let c := c.skipBlanks
    match c.rest with
    | [] => ([], .textEnds c.peek, none)
    | '}' :: _ => ([], .sealed (some c.eat.place), some c.eat)
    | ch :: _ =>
      if !first && ch ≠ ',' then ([], .stray c.peek, none)
      else
        let c := if first then c else c.eat.skipBlanks
        match c.rest with
        | [] => ([], .textEndsAfterComma c.peek, none)
        | '}' :: _ => ([], .trailingComma c.peek, none)
        | '"' :: _ =>
          let token := readString c.eat
          match token.stop with
          | .error g =>
            let f := match token.value with
              | .error f => f
              | .ok _ => g
            ([(⟨.error f, none, none, none⟩, .broken c.peek none g g)], .sealed none, none)
          | .ok c =>
            let mark := c.place
            let c := c.skipBlanks
            match c.rest with
            | ':' :: _ =>
              match readValue fuel depth c.eat with
              | (d, none) => ([(⟨token.value, some mark, some c.place, none⟩, d)], .sealed none, none)
              | (d, some c') =>
                let (members, close, stop) := readMembers fuel depth false c'
                ((⟨token.value, some mark, some c.place, some c'.skipBlanks.place⟩, d) :: members, close, stop)
            | [] =>
              ([(⟨token.value, some mark, some c.place, none⟩,
                .broken c.peek none ⟨.eofObject, c.peek⟩ ⟨.eofObject, c.peek⟩)], .sealed none, none)
            | ch :: _ =>
              ([(⟨token.value, some mark, some (if ch = '\x7d' then c.peek else c.place), none⟩,
                .broken c.peek none ⟨.expectedColon, c.peek⟩ ⟨.expectedColon, c.peek⟩)], .sealed none, none)
        | _ :: _ => ([], .keyExpected c.peek, none)

end

/-- The document of a text, and the flaw of what stands behind it, if anything but blanks does. -/
def ofText (s : String) : Document × Option Flaw :=
  let cs := s.toList
  match readValue (2 * cs.length + 2) 0 ⟨cs, .start⟩ with
  | (d, none) => (d, none)
  | (d, some c) =>
    let c := c.skipBlanks
    (d, if c.rest.isEmpty then none else some ⟨.trailingCharacters, c.peek⟩)

end Document
end PasskeyConsent

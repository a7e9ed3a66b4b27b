import PasskeyConsent.Text.Blank
/-!
# Instants

An instant is a number of seconds since 1970 and nanoseconds, which reach into a second billion only for a leap second.
`Instant.read` takes the RFC 3339 form and a few liberties with it: a space for the `T`, blanks before a number or a
separator, one digit where two are usual, and any two-digit offset.  `Instant.text` writes the form back in UTC with as
many fractional digits as the value needs, in groups of three.
-/
namespace PasskeyConsent

inductive CalendarFault where
  | outOfRange
  | impossible
  | invalid
  | tooShort
  | tooLong
deriving DecidableEq, Repr

def CalendarFault.message : CalendarFault → String
  | .outOfRange => "input is out of range"
  | .impossible => "no possible date and time matching input"
  | .invalid => "input contains invalid characters"
  | .tooShort => "premature end of input"
  | .tooLong => "trailing input"

structure Instant where
  seconds : Int
  nanos : Nat
deriving DecidableEq, Repr, Inhabited

namespace Calendar

structure Date where
  year : Int
  month : Nat
  day : Nat
deriving DecidableEq, Repr

def isLeap (y : Int) : Bool := y % 4 == 0 && (y % 100 != 0 || y % 400 == 0)

def daysInMonth (y : Int) (m : Nat) : Nat :=
  if m == 2 then (if isLeap y then 29 else 28)
  else if m == 4 || m == 6 || m == 9 || m == 11 then 30 else 31

/-- The days from 1970-01-01 to a date, counting years from March. -/
def dayNumber (d : Date) : Int :=
  let y := if d.month ≤ 2 then d.year - 1 else d.year
  let era := y / 400
  let yoe := y - era * 400
  let mp : Int := (d.month + 9) % 12
  let doy := (153 * mp + 2) / 5 + d.day - 1
  era * 146097 + (yoe * 365 + yoe / 4 - yoe / 100 + doy) - 719468

def dateOfDay (n : Int) : Date :=
  let z := n + 719468
  let era := z / 146097
  let doe := z - era * 146097
  let yoe := (doe - doe / 1460 + doe / 36524 - doe / 146096) / 365
  let doy := doe - (365 * yoe + yoe / 4 - yoe / 100)
  let mp := (5 * doy + 2) / 153
  let day := doy - (153 * mp + 2) / 5 + 1
  let month := if mp < 10 then mp + 3 else mp - 9
  ⟨yoe + era * 400 + (if month ≤ 2 then 1 else 0), month.toNat, day.toNat⟩

def minYear : Int := -262143

def maxYear : Int := 262142

/-- The first and the last second that the calendar has. -/
def firstSecond : Int := dayNumber ⟨minYear, 1, 1⟩ * 86400

def lastSecond : Int := dayNumber ⟨maxYear, 12, 31⟩ * 86400 + 86399

def inYears (y : Int) : Bool := minYear ≤ y && y ≤ maxYear

end Calendar

namespace Instant

open Calendar

def le (a b : Instant) : Bool := a.seconds < b.seconds || (a.seconds == b.seconds && a.nanos ≤ b.nanos)

theorem le_trans {a b c : Instant} (hab : a.le b = true) (hbc : b.le c = true) : a.le c = true := by
  simp only [le, Bool.or_eq_true, Bool.and_eq_true, decide_eq_true_eq, beq_iff_eq] at *
  omega

/-- An instant some nanoseconds on, unless that is past the end of the calendar. -/
def addNanos? (t : Instant) (n : Nat) : Option Instant :=
  let nanos := t.nanos + n % 1000000000
  let seconds := t.seconds + (n / 1000000000 + nanos / 1000000000 : Nat)
  if seconds ≤ lastSecond then some ⟨seconds, nanos % 1000000000⟩ else none

/-! ## Reading -/

def isDigitChar (c : Char) : Bool := '0' ≤ c && c ≤ '9'

/-- A number of at least one and at most `width` digits. -/
def number (width : Nat) (cs : List Char) : Except CalendarFault (Nat × List Char) :=
  let ds := (cs.take width).takeWhile isDigitChar
  match ds, cs with
  | [], [] => .error .tooShort
  | [], _ => .error .invalid
  | ds, cs => .ok (ds.foldl (fun n c => 10 * n + (c.toNat - 48)) 0, cs.drop ds.length)

/-- A number with a sign may have as many digits as fit 64 bits. -/
def longNumber (cs : List Char) : Except CalendarFault (Nat × List Char) := do
  let (n, rest) ← number cs.length cs
  if n < Nat.pow 2 63 then return (n, rest) else throw .outOfRange

def skipBlank (cs : List Char) : List Char := cs.dropWhile Text.isBlank

/-- What follows a separator. -/
def literal (c : Char) (cs : List Char) : Except CalendarFault (List Char) :=
  match skipBlank cs with
  | [] => .error .tooShort
  | d :: rest => if d = c then .ok rest else .error .invalid

def year (cs : List Char) : Except CalendarFault (Int × List Char) := do
  let (y, rest) ← match skipBlank cs with
    | '-' :: rest => do
      let (n, rest) ← longNumber rest
      pure (-(n : Int), rest)
    | '+' :: rest => do
      let (n, rest) ← longNumber rest
      pure ((n : Int), rest)
    | cs => do
      let (n, rest) ← number 4 cs
      pure ((n : Int), rest)
  if -2147483648 ≤ y ∧ y < 2147483648 then return (y, rest) else throw .outOfRange

/-- A two-digit number between two bounds. -/
def part (lo hi : Nat) (cs : List Char) : Except CalendarFault (Nat × List Char) := do
  let (n, rest) ← number 2 (skipBlank cs)
  if lo ≤ n ∧ n ≤ hi then return (n, rest) else throw .outOfRange

/-- The nanoseconds behind a point; digits beyond the ninth are dropped. -/
def fraction : List Char → Except CalendarFault (Nat × List Char)
  | '.' :: cs => do
    let (n, rest) ← number 9 cs
    let used := cs.length - rest.length
    return (n * Nat.pow 10 (9 - used), rest.dropWhile isDigitChar)
  | cs => .ok (0, cs)

def twoDigits : List Char → Except CalendarFault (Nat × Nat × List Char)
  | a :: b :: rest =>
    if isDigitChar a && isDigitChar b then .ok (a.toNat - 48, b.toNat - 48, rest) else .error .invalid
  | [c] => if c.utf8Size < 2 then .error .tooShort else .error .invalid
  | [] => .error .tooShort

/-- The seconds an offset from UTC stands for. -/
def offset (cs : List Char) : Except CalendarFault (Int × List Char) := do
  match cs with
  | [] => throw .tooShort
  | c :: rest =>
    if c = 'Z' ∨ c = 'z' then return (0, rest)
    let negative := c = '-' ∨ c.toNat = 0x2212
    if !negative && c ≠ '+' then throw .invalid
    let (h1, h2, rest) ← twoDigits rest
    let (m1, m2, rest) ← twoDigits (rest.dropWhile fun c => c = ':' || Text.isBlank c)
    if 5 < m1 then throw .outOfRange
    let s : Int := (h1 * 10 + h2 : Nat) * 3600 + (m1 * 10 + m2 : Nat) * 60
    return (if negative then -s else s, rest)

def zone (cs : List Char) : Except CalendarFault (Int × List Char) :=
  let cs := skipBlank cs
  if (cs.take 3).map Char.toUpper = ['U', 'T', 'C'] then .ok (0, cs.drop 3) else offset cs

def readChars (cs : List Char) : Except CalendarFault Instant := do
  let (y, cs) ← year cs
  let cs ← literal '-' cs
  let (mo, cs) ← part 1 12 cs
  let cs ← literal '-' cs
  let (d, cs) ← part 1 31 cs
  let cs ← match cs with
    | [] => throw .tooShort
    | c :: rest => if c = 't' ∨ c = 'T' ∨ c = ' ' then pure rest else throw .invalid
  let (h, cs) ← part 0 23 cs
  let cs ← literal ':' cs
  let (mi, cs) ← part 0 59 cs
  let cs ← literal ':' cs
  let (s, cs) ← part 0 60 cs
  let (frac, cs) ← fraction cs
  let (off, cs) ← zone cs
  if !(skipBlank cs).isEmpty then throw .tooLong
  if !inYears y || daysInMonth y mo < d then throw .outOfRange
  if 86400 ≤ off.natAbs then throw .outOfRange
  let second := if s = 60 then 59 else s
  let nanos := if s = 60 then frac + 1000000000 else frac
  let t := dayNumber ⟨y, mo, d⟩ * 86400 + (h * 3600 + mi * 60 + second : Nat) - off
  if firstSecond ≤ t ∧ t ≤ lastSecond then return ⟨t, nanos⟩ else throw .impossible

def read (s : String) : Except CalendarFault Instant := readChars s.toList

/-! ## Writing -/

def pad (width n : Nat) : List Char :=
  let ds := Nat.toDigits 10 n
  List.replicate (width - ds.length) '0' ++ ds

def yearChars (y : Int) : List Char :=
  if 0 ≤ y ∧ y ≤ 9999 then pad 4 y.toNat
  else (if y < 0 then '-' else '+') :: pad 4 y.natAbs

def fractionChars (n : Nat) : List Char :=
  if n = 0 then []
  else if n % 1000000 = 0 then '.' :: pad 3 (n / 1000000)
  else if n % 1000 = 0 then '.' :: pad 6 (n / 1000)
  else '.' :: pad 9 n

def chars (t : Instant) : List Char :=
  let d := dateOfDay (t.seconds / 86400)
  let s := (t.seconds % 86400).toNat
  let leap := 1000000000 ≤ t.nanos
  let nanos := if leap then t.nanos - 1000000000 else t.nanos
  yearChars d.year ++ '-' :: pad 2 d.month ++ '-' :: pad 2 d.day ++ 'T' :: pad 2 (s / 3600) ++
    ':' :: pad 2 (s / 60 % 60) ++ ':' :: pad 2 (s % 60 + if leap then 1 else 0) ++ fractionChars nanos ++ ['Z']

def text (t : Instant) : String := String.ofList t.chars

end Instant
end PasskeyConsent

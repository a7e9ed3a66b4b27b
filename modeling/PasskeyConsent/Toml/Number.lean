import PasskeyConsent.Toml.Basic
import PasskeyConsent.Toml.Text
/-!
# Numbers and moments in a configuration file

Integers of 64 bits with a sign, in decimal or, without a sign, in base 16, 8 or 2, with single underscores between
digits; floats; dates and times of day that the calendar has.
-/
namespace PasskeyConsent.Toml

def isDigit (c : Char) : Bool := '0' ≤ c && c ≤ '9'

def isDigitOf (base : Nat) (c : Char) : Bool := (Bytes.hexValue? c).any (· < base)

/-- More digits, each perhaps behind an underscore. -/
def readMoreDigits (base : Nat) : Reader (List Char)
  | [] => some ([], [])
  | ['_'] => none
  | '_' :: d :: rest =>
    if isDigitOf base d then (readMoreDigits base rest).map fun (ds, rest) => (d :: ds, rest) else none
  | d :: rest =>
    if isDigitOf base d then (readMoreDigits base rest).map fun (ds, rest) => (d :: ds, rest) else some ([], d :: rest)

/-- Digits with single underscores between them. -/
def readDigits (base : Nat) : Reader (List Char)
  | [] => none
  | d :: rest =>
    if isDigitOf base d then (readMoreDigits base rest).map fun (ds, rest) => (d :: ds, rest) else none

def valueOf (base : Nat) (ds : List Char) : Nat := ds.foldl (fun n d => base * n + (Bytes.hexValue? d).getD 0) 0

def greatest : Nat := Nat.pow 2 63 - 1

/-- A number in another base than ten, behind what marks the base. -/
def readRadix (base : Nat) (cs : List Char) : Option (Toml × List Char) := do
  let (ds, rest) ← readDigits base cs
  if valueOf base ds ≤ greatest then some (.integer (valueOf base ds), rest) else none

/-- Decimal digits without a leading zero. -/
def readWhole : Reader (List Char)
  | '0' :: rest => some (['0'], rest)
  | cs => readDigits 10 cs

/-- Whether `significand · 10 ^ exponent` is too large for a double. -/
def overflows (significand : Nat) (exponent : Int) : Bool :=
  let magnitude := exponent + (Nat.toDigits 10 significand).length
  if significand = 0 ∨ magnitude < 309 then false
  else if 310 ≤ magnitude then true
  else
    match exponent with
    | .ofNat e => Nat.pow 2 1024 - Nat.pow 2 970 ≤ significand * Nat.pow 10 e
    | .negSucc e => (Nat.pow 2 1024 - Nat.pow 2 970) * Nat.pow 10 (e + 1) ≤ significand

/-- The exponent of a float behind its letter. -/
def readExponent : Reader Int
  | '-' :: rest => (readDigits 10 rest).map fun (ds, rest) => (-(valueOf 10 ds : Int), rest)
  | '+' :: rest => (readDigits 10 rest).map fun (ds, rest) => ((valueOf 10 ds : Int), rest)
  | cs => (readDigits 10 cs).map fun (ds, rest) => ((valueOf 10 ds : Int), rest)

def isExponentLetter (c : Char) : Bool := c == 'e' || c == 'E'

/-- The end of a number behind its whole digits.  A float that is too large is refused unless it is negative. -/
def readFraction (negative : Bool) (whole : List Char) (cs : List Char) : Option (Toml × List Char) := do
  let finish (ds : List Char) (exponent : Int) (rest : List Char) : Option (Toml × List Char) :=
    if !negative && overflows (valueOf 10 ds) exponent then none else some (.float, rest)
  match cs with
  | '.' :: rest =>
    let (fraction, rest) ← readDigits 10 rest
    let ds := whole ++ fraction
    match rest with
    | c :: more =>
      if isExponentLetter c then
        let (e, rest) ← readExponent more
        finish ds (e - fraction.length) rest
      else finish ds (-fraction.length) rest
    | [] => finish ds (-fraction.length) []
  | c :: rest =>
    if isExponentLetter c then
      let (e, rest) ← readExponent rest
      finish whole e rest
    else readInteger whole cs
  | [] => readInteger whole []
where
  readInteger (whole cs : List Char) : Option (Toml × List Char) :=
    let n := valueOf 10 whole
    if n ≤ greatest then some (.integer (if negative then -n else n), cs)
    else if negative ∧ n = greatest + 1 then some (.integer (-n), cs)
    else none

def readSigned (negative : Bool) : List Char → Option (Toml × List Char)
  | 'i' :: 'n' :: 'f' :: rest => some (.float, rest)
  | 'n' :: 'a' :: 'n' :: rest => some (.float, rest)
  | cs => do
    let (whole, rest) ← readWhole cs
    readFraction negative whole rest

def readNumber : List Char → Option (Toml × List Char)
  | '0' :: 'x' :: rest => readRadix 16 rest
  | '0' :: 'o' :: rest => readRadix 8 rest
  | '0' :: 'b' :: rest => readRadix 2 rest
  | '+' :: rest => readSigned false rest
  | '-' :: rest => readSigned true rest
  | cs => readSigned false cs

/-! ## Moments -/

/-- Exactly so many digits. -/
def takeDigits (count : Nat) (cs : List Char) : Option (Nat × List Char) :=
  let ds := cs.take count
  if ds.length = count ∧ ds.all isDigit then some (valueOf 10 ds, cs.drop count) else none

/-- Two digits within bounds. -/
def takePair (low high : Nat) (cs : List Char) : Option (List Char) := do
  let (n, rest) ← takeDigits 2 cs
  if low ≤ n ∧ n ≤ high then some rest else none

def expect (c : Char) : List Char → Option (List Char)
  | d :: rest => if d = c then some rest else none
  | [] => none

def daysIn (year month : Nat) : Nat :=
  if month = 2 then if year % 4 = 0 ∧ (year % 100 ≠ 0 ∨ year % 400 = 0) then 29 else 28
  else if [4, 6, 9, 11].contains month then 30 else 31

/-- What follows a time of day. -/
def readTime (cs : List Char) : Option (List Char) := do
  let cs ← expect ':' (← takePair 0 23 cs)
  let cs ← expect ':' (← takePair 0 59 cs)
  let cs ← takePair 0 60 cs
  match cs with
  | '.' :: rest => if rest.head?.any isDigit then some (rest.dropWhile isDigit) else some cs
  | cs => some cs

/-- What follows the distance from universal time. -/
def readOffset : List Char → Option (List Char)
  | 'Z' :: rest => some rest
  | 'z' :: rest => some rest
  | '+' :: rest => do takePair 0 59 (← expect ':' (← takePair 0 23 rest))
  | '-' :: rest => do takePair 0 59 (← expect ':' (← takePair 0 23 rest))
  | cs => some cs

/-- What follows a date, with a time of day behind it if there is one. -/
def readDate (cs : List Char) : Option (List Char) := do
  let (year, cs) ← takeDigits 4 cs
  let (month, cs) ← takeDigits 2 (← expect '-' cs)
  let (day, cs) ← takeDigits 2 (← expect '-' cs)
  if month = 0 ∨ 12 < month ∨ day = 0 ∨ daysIn year month < day then none
  match cs with
  | c :: rest =>
    if c = 'T' ∨ c = 't' ∨ c = ' ' then
      match readTime rest with
      | some rest => readOffset rest
      | none => some cs
    else some cs
  | [] => some []

/-- A number or a moment: four digits and a hyphen begin a date, two digits and a colon a time. -/
def readNumeral (cs : List Char) : Option (Toml × List Char) :=
  if ((takeDigits 4 cs).bind fun (_, rest) => expect '-' rest).isSome then (readDate cs).map (.moment, ·)
  else if ((takeDigits 2 cs).bind fun (_, rest) => expect ':' rest).isSome then (readTime cs).map (.moment, ·)
  else readNumber cs

end PasskeyConsent.Toml

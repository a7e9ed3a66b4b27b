import PasskeyConsent.Text.Split
import PasskeyConsent.Bytes.Basic
/-!
# IPv4 addresses in host names

One to four numbers with dots between, a last dot allowed.  Each is decimal, octal after a `0` or hexadecimal after
`0x`; the last one fills all bytes that the others leave.  A name whose last part reads as a number has to be an address.
-/
namespace PasskeyConsent.Ipv4

def isDigit (c : Char) : Bool := '0' ≤ c && c ≤ '9'

/-- The value of a numeral all of whose digits are below the base. -/
def readInBase (base : Nat) (cs : List Char) : Option Nat :=
  cs.foldl (fun acc c => do
    let n ← acc
    let d ← Bytes.hexValue? c
    if d < base then some (base * n + d) else none) (some 0)

/-- A number of an address; nothing behind `0x` is zero, and so is nothing behind a `0` that stands for octal. -/
def readNumber : List Char → Option Nat
  | [] => none
  | '0' :: 'x' :: rest => readInBase 16 rest
  | '0' :: 'X' :: rest => readInBase 16 rest
  | ['0'] => some 0
  | '0' :: rest => readInBase 8 rest
  | cs => readInBase 10 cs

/-- The parts of a name, without the empty one behind a last dot. -/
def parts (name : List Char) : List (List Char) :=
  match (Text.splitAt '.' name).reverse with
  | [] :: rest => rest.reverse
  | all => all.reverse

def endsInNumber (name : List Char) : Bool :=
  match (parts name).reverse with
  | [] => false
  | last :: _ => (!last.isEmpty && last.all isDigit) || (readNumber last).isSome

/-- Puts the numbers of an address together, the last one over all bytes that are left. -/
def assemble : List Nat → Option Nat
  | [] => none
  | numbers =>
    let last := numbers.getLast?.getD 0
    let front := numbers.dropLast
    if 4 < numbers.length ∨ front.any (255 < ·) ∨ Nat.pow 256 (4 - front.length) ≤ last then none
    else some (front.zipIdx.foldl (fun acc (n, i) => acc + n * Nat.pow 256 (3 - i)) last)

def read (name : List Char) : Option Nat := ((parts name).mapM readNumber).bind assemble

def text (address : Nat) : String :=
  Text.join "." ([3, 2, 1, 0].map fun i => toString (address / Nat.pow 256 i % 256))

end PasskeyConsent.Ipv4

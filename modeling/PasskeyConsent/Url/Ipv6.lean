import PasskeyConsent.Text.Split
import PasskeyConsent.Text.Quoted
/-!
# IPv6 addresses

Eight groups of up to four hexadecimal digits with colons between; one gap `::` stands for at least one group of zeros,
and the last two groups may be written as four decimal bytes.  Written out, the longest run of two or more zero groups
becomes the gap, the first of several equally long ones.
-/
namespace PasskeyConsent.Ipv6

def readGroup (cs : List Char) : Option Nat :=
  if cs.isEmpty ∨ 4 < cs.length then none
  else cs.foldl (fun acc c => acc.bind fun n => (Bytes.hexValue? c).map fun d => 16 * n + d) (some 0)

/-- A byte in decimal without a leading zero. -/
def readByte (cs : List Char) : Option Nat :=
  if cs.isEmpty ∨ 3 < cs.length ∨ (cs.head? = some '0' ∧ cs ≠ ['0']) ∨ !cs.all Char.isDigit then none
  else
    let n := cs.foldl (fun n c => 10 * n + (c.toNat - 48)) 0
    if n ≤ 255 then some n else none

/-- Four decimal bytes, as two groups. -/
def readDotted (cs : List Char) : Option (List Nat) := do
  match ← (Text.splitAt '.' cs).mapM readByte with
  | [a, b, c, d] => some [256 * a + b, 256 * c + d]
  | _ => none

def readGroups : List (List Char) → Option (List Nat)
  | [] => some []
  | [last] => if last.contains '.' then readDotted last else (readGroup last).map fun n => [n]
  | g :: rest => do
    let n ← readGroup g
    return n :: (← readGroups rest)

/-- The groups on one side of the gap; there may be none. -/
def readSide (cs : List Char) : Option (List Nat) := if cs.isEmpty then some [] else readGroups (Text.splitAt ':' cs)

/-- What stands before and behind the first gap. -/
def splitGap : List Char → Option (List Char × List Char)
  | ':' :: ':' :: rest => some ([], rest)
  | c :: rest => (splitGap rest).map fun (a, b) => (c :: a, b)
  | [] => none

def read (cs : List Char) : Option (List Nat) :=
  match splitGap cs with
  | none => do
    let groups ← readSide cs
    if groups.length = 8 then some groups else none
  | some (left, right) => do
    if left.contains '.' then none
    let front ← readSide left
    let back ← readSide right
    if front.length + back.length ≤ 7 then
      some (front ++ List.replicate (8 - front.length - back.length) 0 ++ back)
    else none

/-- The start and length of the first longest run of zeros. -/
def longestZeros (groups : List Nat) : Nat × Nat :=
  ((List.range groups.length).map fun i => (i, ((groups.drop i).takeWhile (· == 0)).length)).foldl
    (fun best run => if best.2 < run.2 then run else best) (0, 0)

def groupsText (groups : List Nat) : String := Text.join ":" (groups.map fun n => String.ofList (Text.hexDigits n))

def text (groups : List Nat) : String :=
  let (start, length) := longestZeros groups
  if length < 2 then groupsText groups
  else groupsText (groups.take start) ++ "::" ++ groupsText (groups.drop (start + length))

end PasskeyConsent.Ipv6

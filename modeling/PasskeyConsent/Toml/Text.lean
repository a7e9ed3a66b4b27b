import PasskeyConsent.Bytes.Basic
/-!
# Texts in a configuration file

A TOML text stands between quotation marks, with escapes, or between apostrophes, as it is; with one of them or with
three, and only then over several lines.  A writer takes the first form that shows the text without escapes, and a form
with escapes if there is none.
-/
namespace PasskeyConsent.Toml

/-- What is read, and what is left behind it. -/
abbrev Reader (α : Type) := List Char → Option (α × List Char)

def isSpace (c : Char) : Bool := c == ' ' || c == '\t'

/-- Everything but controls; a tab is not one here. -/
def isShown (c : Char) : Bool := c == '\t' || (0x20 ≤ c.toNat && c.toNat != 0x7F)

def skipSpaces (cs : List Char) : List Char := cs.dropWhile isSpace

/-- What follows an end of line. -/
def newline? : List Char → Option (List Char)
  | '\n' :: rest => some rest
  | '\r' :: '\n' :: rest => some rest
  | _ => none

/-! ## Reading -/

def simpleEscape? : Char → Option Char
  | 'b' => some '\x08'
  | 't' => some '\t'
  | 'n' => some '\n'
  | 'f' => some '\x0c'
  | 'r' => some '\r'
  | '"' => some '"'
  | '\\' => some '\\'
  | _ => none

def codePoint? (digits : List Char) : Option Char := do
  let n ← digits.foldl (fun acc d => acc.bind fun n => (Bytes.hexValue? d).map fun x => 16 * n + x) (some 0)
  if h : n.isValidChar then some (Char.ofNatAux n h) else none

/-- The character of an escape behind its backslash. -/
def escape? : Reader Char
  | 'u' :: a :: b :: c :: d :: rest => (codePoint? [a, b, c, d]).map (·, rest)
  | 'U' :: a :: b :: c :: d :: e :: f :: g :: h :: rest => (codePoint? [a, b, c, d, e, f, g, h]).map (·, rest)
  | c :: rest => (simpleEscape? c).map (·, rest)
  | [] => none

/-- A text on one line, behind its quotation mark. -/
def readBasic : Nat → Reader (List Char)
  | 0, _ => none
  | _ + 1, [] => none
  | _ + 1, '"' :: rest => some ([], rest)
  | fuel + 1, '\\' :: rest => do
    let (c, rest) ← escape? rest
    let (text, rest) ← readBasic fuel rest
    return (c :: text, rest)
  | fuel + 1, c :: rest => do
    if !isShown c then none
    let (text, rest) ← readBasic fuel rest
    return (c :: text, rest)

/-- A text as it is on one line, behind its apostrophe. -/
def readLiteral : Reader (List Char)
  | [] => none
  | '\'' :: rest => some ([], rest)
  | c :: rest => do
    if !isShown c then none
    let (text, rest) ← readLiteral rest
    return (c :: text, rest)

/-- The end of a text in triple marks: up to two more marks in front of the three belong to the text. -/
def tripleEnd? (mark : Char) (cs : List Char) : Option (List Char × List Char) :=
  let run := (cs.takeWhile (· == mark)).length
  if run < 3 then none else some (List.replicate (min (run - 3) 2) mark, cs.drop (min run 5))

/-- What follows a backslash at the end of a line: everything up to the next character that shows. -/
def continuation? (cs : List Char) : Option (List Char) :=
  (newline? (skipSpaces cs)).map (skipBlanks cs.length)
where
  skipBlanks : Nat → List Char → List Char
    | 0, cs => cs
    | fuel + 1, cs =>
      match newline? (skipSpaces cs) with
      | some rest => skipBlanks fuel rest
      | none => skipSpaces cs

/-- A text over several lines, behind its three marks; between quotation marks there are escapes. -/
def readLines (mark : Char) : Nat → Reader (List Char)
  | 0, _ => none
  | fuel + 1, cs =>
    match tripleEnd? mark cs, newline? cs, cs with
    | some (text, rest), _, _ => some (text, rest)
    | none, some rest, _ => (readLines mark fuel rest).map fun (text, rest) => ('\n' :: text, rest)
    | none, none, c :: rest =>
      if c = '\\' ∧ mark = '"' then
        match continuation? rest with
        | some rest => readLines mark fuel rest
        | none => do
          let (c, rest) ← escape? rest
          let (text, rest) ← readLines mark fuel rest
          return (c :: text, rest)
      else if isShown c then (readLines mark fuel rest).map fun (text, rest) => (c :: text, rest)
      else none
    | none, none, [] => none

/-- A text on one line. -/
def readLine : Reader String
  | '"' :: rest => (readBasic (rest.length + 1) rest).map fun (text, rest) => (String.ofList text, rest)
  | '\'' :: rest => (readLiteral rest).map fun (text, rest) => (String.ofList text, rest)
  | _ => none

/-- A text in any form; an end of line right behind three marks does not belong to it. -/
def readText (cs : List Char) : Option (String × List Char) :=
  let lines (mark : Char) (rest : List Char) : Option (String × List Char) :=
    (readLines mark (rest.length + 1) ((newline? rest).getD rest)).map fun (text, rest) => (String.ofList text, rest)
  match cs with
  | '"' :: '"' :: '"' :: rest => lines '"' rest
  | '\'' :: '\'' :: '\'' :: rest => lines '\'' rest
  | cs => readLine cs

/-! ## Writing -/

inductive Form where
  | basic
  | literal
  | basicLines
  | literalLines
deriving DecidableEq, Repr

/-- The longest run of a character. -/
def longestRun (mark : Char) (cs : List Char) : Nat :=
  (cs.foldl (fun (best, run) c => if c = mark then (max best (run + 1), run + 1) else (best, 0)) (0, 0)).1

/-- Whether a character can only be given by an escape. -/
def needsCode (c : Char) : Bool := !isShown c && c != '\n'

/-- The form in which a text is written. -/
def formOf (cs : List Char) : Form :=
  let coded := cs.any needsCode
  let backslash := cs.contains '\\'
  let lines := cs.contains '\n'
  if !coded && !backslash && longestRun '"' cs = 0 && !lines then .basic
  else if !coded && longestRun '\'' cs = 0 && !lines then .literal
  else if !coded && !backslash && longestRun '"' cs ≤ 2 then .basicLines
  else if !coded && longestRun '\'' cs ≤ 2 then .literalLines
  else if lines then .basicLines
  else .basic

def upperHexDigit (n : Nat) : Char := Char.ofNat (if n < 10 then 48 + n else 55 + n)

def escapeChar (lines : Bool) (c : Char) : List Char :=
  match c with
  | '\x08' => ['\\', 'b']
  | '\t' => ['\\', 't']
  | '\n' => if lines then ['\n'] else ['\\', 'n']
  | '\x0c' => ['\\', 'f']
  | '\r' => ['\\', 'r']
  | '\\' => ['\\', '\\']
  | c => if needsCode c then ['\\', 'u', '0', '0', upperHexDigit (c.toNat / 16), upperHexDigit (c.toNat % 16)] else [c]

/-- Escapes a text; of a run of quotation marks, as many as `allowed` stand as they are. -/
def escape (lines : Bool) (allowed : Nat) : Nat → List Char → List Char
  | _, [] => []
  | run, '"' :: rest =>
    if run < allowed then '"' :: escape lines allowed (run + 1) rest else '\\' :: '"' :: escape lines allowed 0 rest
  | _, c :: rest => escapeChar lines c ++ escape lines allowed 0 rest

def writeText (s : String) : List Char :=
  let cs := s.toList
  let first := if cs.contains '\n' then ['\n'] else []
  match formOf cs with
  | .basic => '"' :: (escape false 0 0 cs ++ ['"'])
  | .literal => '\'' :: (cs ++ ['\''])
  | .basicLines => ['"', '"', '"'] ++ first ++ escape true 2 0 cs ++ ['"', '"', '"']
  | .literalLines => ['\'', '\'', '\''] ++ first ++ cs ++ ['\'', '\'', '\'']

end PasskeyConsent.Toml

import PasskeyConsent.Config.Environment
import PasskeyConsent.Settings.File
import PasskeyConsent.Text.Alphanumeric
import PasskeyConsent.Text.Blank
/-!
# Files of variables

A file of lines `KEY=value` that adds to an environment and never changes a variable that has a text.  A value may be
quoted and go over several lines, holds escapes outside of apostrophes, and names other variables behind a dollar sign;
the environment goes before the file there.  The first line that is wrong ends the reading; what stands above it counts.
-/
namespace PasskeyConsent.Dotenv

/-! ## Lines -/

/-- Where a character stands: outside of everything, behind a blank there, in a quotation, or behind a backslash. -/
inductive Position where
  | plain
  | blank
  | escaped
  | strong
  | strongEscaped
  | weak
  | weakEscaped
deriving DecidableEq, Repr

def Position.outside (c : Char) : Position :=
  if c = '\\' then .escaped else if c = '"' then .weak else if c = '\'' then .strong else .plain

/-- The position behind a character; nothing where a comment begins, which is behind a blank. -/
def Position.next (p : Position) (c : Char) : Option Position :=
  match p with
  | .plain => some (if Text.isBlank c ∧ c ≠ '\n' ∧ c ≠ '\r' then .blank else outside c)
  | .blank => if c = '#' then none else some (outside c)
  | .escaped => some .plain
  | .weak => some (if c = '\\' then .weakEscaped else if c = '"' then .plain else .weak)
  | .weakEscaped => some .weak
  | .strong => some (if c = '\\' then .strongEscaped else if c = '\'' then .plain else .strong)
  | .strongEscaped => some .strong

/-- A line up to its comment, and the position at its end if it has none. -/
def scan : Position → List Char → List Char × Option Position
  | p, [] => ([], some p)
  | p, c :: rest =>
    match p.next c with
    | none => ([], none)
    | some q => ((scan q rest).map (c :: ·) id)

/-- A line of a file as the reader sees it: a quotation joins lines. -/
inductive NextLine where
  | none
  | broken
  | line (text : List Char) (rest : List (Option String))

/-- The next line, `text` being what has been joined so far.  A line that is no text is `none`. -/
def nextLine : Position → List Char → List (Option String) → NextLine
  | p, _, [] => if p = .plain then .none else .broken
  | _, _, none :: _ => .broken
  | p, text, some l :: rest =>
    if (((text ++ l.toList).dropWhile Text.isBlank).head? = some '#') then .line [] rest
    else
      match scan p l.toList with
      | (kept, none) => .line (text ++ kept) rest
      | (_, some .plain) => .line (text ++ l.toList) rest
      | (_, some q) => nextLine q (text ++ l.toList) rest

/-! ## Values -/

/-- A variable that is being named: behind the dollar sign, or in braces behind it. -/
inductive Naming where
  | none
  | plain (name : List Char)
  | braced (name : List Char)
deriving DecidableEq, Repr

structure Value where
  text : List Char := []
  strong : Bool := false
  weak : Bool := false
  escaped : Bool := false
  /-- Behind a blank, where only a comment may follow. -/
  ended : Bool := false
  naming : Naming := .none

namespace Value

def push (v : Value) (c : Char) : Value := { v with text := v.text ++ [c] }

/-- Puts in the value of the variable that has been named. -/
def substitute (lookup : String → String) (v : Value) : Value :=
  match v.naming with
  | .none => v
  | .plain name | .braced name => { v with text := v.text ++ (lookup (String.ofList name)).toList, naming := .none }

def escape? : Char → Option Char
  | 'n' => some '\n'
  | c => if ['\\', '\'', '"', '$', ' '].contains c then some c else none

def name (lookup : String → String) (v : Value) (c : Char) : Value :=
  match v.naming with
  | .none => v
  | .plain n =>
    if Text.isAlphanumeric c then { v with naming := .plain (n ++ [c]) }
    else if c = '\x7b' ∧ n.isEmpty then { v with naming := .braced [] }
    else if c = '$' then { v.substitute lookup with naming := .plain [] }
    else (v.substitute lookup).push c
  | .braced n => if c = '\x7d' then v.substitute lookup else { v with naming := .braced (n ++ [c]) }

/-- The value behind a character that is in no quotation of apostrophes and names no variable. -/
def plain (v : Value) (c : Char) : Value :=
  if c = '$' then { v with naming := .plain [] }
  else if c = '\\' then { v with escaped := true }
  else if v.weak then if c = '"' then { v with weak := false } else v.push c
  else if c = '\'' then { v with strong := true }
  else if c = '"' then { v with weak := true }
  else if c = ' ' ∨ c = '\t' then { v with ended := true }
  else v.push c

/-- The text at the end of a value; every quotation and every brace has to be closed. -/
def finish (lookup : String → String) (v : Value) : Option String :=
  match v.naming with
  | .braced _ => Option.none
  | _ => if v.strong ∨ v.weak then Option.none else some (String.ofList (v.substitute lookup).text)

def read (lookup : String → String) : Value → List Char → Option String
  | v, [] => v.finish lookup
  | v, c :: rest =>
    if v.ended then
      if c = ' ' ∨ c = '\t' then read lookup v rest else if c = '#' then v.finish lookup else Option.none
    else if v.escaped then
      match escape? c with
      | some d => read lookup { v.push d with escaped := false } rest
      | Option.none => Option.none
    else if v.strong then read lookup (if c = '\'' then { v with strong := false } else v.push c) rest
    else if v.naming ≠ .none then read lookup (v.name lookup c) rest
    else read lookup (v.plain c) rest

end Value

/-! ## Assignments -/

def isKeyStart (c : Char) : Bool := ('a' ≤ c && c ≤ 'z') || ('A' ≤ c && c ≤ 'Z') || c == '_'

def isKeyCharacter (c : Char) : Bool := isKeyStart c || ('0' ≤ c && c ≤ '9') || c == '.'

def skipBlanks (cs : List Char) : List Char := cs.dropWhile Text.isBlank

def readKey (cs : List Char) : Option (String × List Char) :=
  if cs.head?.any isKeyStart then
    some (String.ofList (cs.takeWhile isKeyCharacter), skipBlanks (cs.dropWhile isKeyCharacter))
  else none

def readEquals : List Char → Option (List Char)
  | '=' :: rest => some (skipBlanks rest)
  | _ => none

/-- The key of a line and what its value is read from.  The word `export` may stand in front of a key or be one. -/
def readTarget (cs : List Char) : Option (String × List Char) := do
  let (key, rest) ← readKey cs
  match readEquals rest with
  | some rest => return (key, rest)
  | none =>
    if key ≠ "export" then none
    let (key, rest) ← readKey rest
    return (key, ← readEquals rest)

def isEmptyOrComment (cs : List Char) : Bool := cs.isEmpty || cs.head? == some '#'

/-! ## Files -/

structure Loading where
  environment : Environment
  /-- What the file itself has given each key. -/
  given : Table String := {}

/-- A named variable's value: the environment's if it is a text, else what the file has given, else nothing. -/
def Loading.lookup (l : Loading) (name : String) : String :=
  (((l.environment.get? name).bind Environment.textOf).orElse fun _ => l.given.get? name).getD ""

/-- Sets a variable unless it has a text. -/
def Loading.give (l : Loading) (key value : String) : Loading where
  given := l.given.put key value
  environment :=
    if ((l.environment.get? key).bind Environment.textOf).isSome then l.environment
    else l.environment.put key (Bytes.ofText value)

/-- Takes in one line; nothing when it is wrong. -/
def Loading.line (l : Loading) (text : List Char) : Option Loading :=
  let cs := Text.trimList text
  if isEmptyOrComment cs then some l
  else do
    let (key, rest) ← readTarget cs
    let value ← if isEmptyOrComment rest then some "" else Value.read l.lookup {} rest
    return l.give key value

def Loading.lines : Nat → Loading → List (Option String) → Loading
  | 0, l, _ => l
  | fuel + 1, l, source =>
    match nextLine .plain [] source with
    | .none | .broken => l
    | .line text rest =>
      match l.line text with
      | none => l
      | some l => lines fuel l rest

/-- The lines of a file with their ends. -/
def splitLines : Bytes → List Bytes
  | [] => []
  | b :: rest =>
    if b = 10 then [b] :: splitLines rest
    else
      match splitLines rest with
      | [] => [[b]]
      | l :: more => (b :: l) :: more

def withoutMark : Bytes → Bytes
  | 0xEF :: 0xBB :: 0xBF :: rest => rest
  | bytes => bytes

/-- The environment with what a file adds to it; nothing when that is more than a process can have. -/
def load (env : Environment) : FileState → Option Environment
  | .content bytes =>
    let source := (splitLines (withoutMark bytes)).map Environment.textOf
    let loaded := (Loading.lines source.length { environment := env } source).environment
    if loaded.isPossible then some loaded else none
  | _ => some env

end PasskeyConsent.Dotenv

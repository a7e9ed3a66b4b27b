import PasskeyConsent.Toml.Number
/-!
# Reading a configuration file

A file is a sequence of statements, one a line: a key and its value, or a header.  Arrays may go over lines and hold
comments; tables in braces may not.
-/
namespace PasskeyConsent.Toml

/-- The greatest number of brackets and braces that a value may stand in, and of parts a key may have. -/
def nesting : Nat := 79

def isBareKeyCharacter (c : Char) : Bool :=
  isDigit c || ('a' ≤ c && c ≤ 'z') || ('A' ≤ c && c ≤ 'Z') || c == '-' || c == '_'

def readSimpleKey (cs : List Char) : Option (String × List Char) :=
  match cs with
  | '"' :: _ | '\'' :: _ => readLine cs
  | cs =>
    let name := cs.takeWhile isBareKeyCharacter
    if name.isEmpty then none else some (String.ofList name, cs.drop name.length)

/-- The parts of a key, with blanks around each. -/
def readKey : Nat → Reader (List String)
  | 0, _ => none
  | parts + 1, cs => do
    let (name, rest) ← readSimpleKey (skipSpaces cs)
    match skipSpaces rest with
    | '.' :: more =>
      let (names, rest) ← readKey parts more
      return (name :: names, rest)
    | rest => return ([name], rest)

/-- What follows a comment, if there is one. -/
def skipComment : List Char → List Char
  | '#' :: rest => rest.dropWhile isShown
  | cs => cs

/-- What follows blanks, comments and ends of lines. -/
def skipLines : Nat → List Char → Option (List Char)
  | 0, _ => none
  | fuel + 1, cs =>
    match skipSpaces cs with
    | '#' :: rest => (newline? (skipComment ('#' :: rest))).bind (skipLines fuel)
    | rest =>
      match newline? rest with
      | some rest => skipLines fuel rest
      | none => some rest

/-- The rest of an array, in front of an item or its end. -/
def readItems (value : Reader Toml) : Nat → Reader (List Toml)
  | 0, _ => none
  | fuel + 1, cs => do
    match ← skipLines (cs.length + 1) cs with
    | ']' :: rest => return ([], rest)
    | cs =>
      let (item, rest) ← value cs
      match ← skipLines (rest.length + 1) rest with
      | ',' :: rest =>
        let (items, rest) ← readItems value fuel rest
        return (item :: items, rest)
      | ']' :: rest => return ([item], rest)
      | _ => none

/-- The rest of a table in braces, in front of a key. -/
def readEntries (value : Reader Toml) : Nat → Toml → Reader Toml
  | 0, _, _ => none
  | fuel + 1, t, cs => do
    let (names, rest) ← readKey nesting cs
    let (v, rest) ← value (skipSpaces (← expect '=' rest))
    let t ← t.assign names.dropLast (names.getLast?.getD "") v
    match skipSpaces rest with
    | ',' :: rest => readEntries value fuel t rest
    | '\x7d' :: rest => return (t, rest)
    | _ => none

def readScalar (cs : List Char) : Option (Toml × List Char) :=
  match cs with
  | '"' :: _ | '\'' :: _ => (readText cs).map fun (s, rest) => (.string s, rest)
  | 't' :: 'r' :: 'u' :: 'e' :: rest => some (.boolean true, rest)
  | 'f' :: 'a' :: 'l' :: 's' :: 'e' :: rest => some (.boolean false, rest)
  | cs => readNumeral cs

/-- A value inside of which brackets may still be opened `depth` times over. -/
def readValue : Nat → Reader Toml
  | 0, cs => readScalar cs
  | depth + 1, cs =>
    match cs with
    | '[' :: rest => (readItems (readValue depth) rest.length rest).map fun (items, rest) => (.array items, rest)
    | '\x7b' :: rest =>
      match skipSpaces rest with
      | '\x7d' :: rest => some (.table .braces [], rest)
      | _ => readEntries (readValue depth) rest.length (.table .braces []) rest
    | cs => readScalar cs

/-- What follows the end of a statement's line. -/
def endLine (cs : List Char) : Option (List Char) :=
  match skipComment (skipSpaces cs) with
  | [] => some []
  | cs => newline? cs

def readHeader (b : Builder) (cs : List Char) : Option (Builder × List Char) := do
  match cs with
  | '[' :: rest =>
    let (path, rest) ← readKey nesting rest
    let rest ← endLine (← expect ']' (← expect ']' rest))
    return (← b.openListed path, rest)
  | cs =>
    let (path, rest) ← readKey nesting cs
    let rest ← endLine (← expect ']' rest)
    return (← b.openTable path, rest)

def readAssignment (b : Builder) (cs : List Char) : Option (Builder × List Char) := do
  let (path, rest) ← readKey nesting cs
  let (value, rest) ← readValue nesting (skipSpaces (← expect '=' rest))
  let rest ← endLine rest
  return (← b.assign path.dropLast (path.getLast?.getD "") value, rest)

def readStatements : Nat → Builder → List Char → Option Builder
  | 0, _, _ => none
  | fuel + 1, b, cs =>
    match skipSpaces cs with
    | [] => some b
    | '#' :: rest => (endLine ('#' :: rest)).bind (readStatements fuel b)
    | '[' :: rest => do
      let (b, rest) ← readHeader b rest
      readStatements fuel b rest
    | c :: rest =>
      match newline? (c :: rest) with
      | some rest => readStatements fuel b rest
      | none => do
        let (b, rest) ← readAssignment b (c :: rest)
        readStatements fuel b rest

/-- The table a file holds; a byte order mark in front of it is passed over. -/
def read (s : String) : Option Toml :=
  let cs := match s.toList with
    | '\ufeff' :: rest => rest
    | cs => cs
  (readStatements (cs.length + 1) {} cs).bind Builder.finish

end PasskeyConsent.Toml

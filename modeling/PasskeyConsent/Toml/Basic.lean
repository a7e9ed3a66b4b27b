import PasskeyConsent.Json.Document
/-!
# Values of a configuration file

The values that a TOML file holds, and the rules by which its statements build them up.  A table remembers how it came
about, for that decides what may still be added to it: a table written in braces is closed, one opened by a header takes
no second header and no dotted key, one that only a longer header named may get its own header once, and one that dotted
keys made takes further dotted keys.
-/
namespace PasskeyConsent

/-- How a table came about. -/
inductive TableOrigin where
  | braces
  | header
  | implied
  | dotted
deriving DecidableEq, Repr

/-- A value; of a float and of a moment only the kind is kept, since no setting is one.  `tables` are those of a header
in double brackets. -/
inductive Toml where
  | string (s : String)
  | integer (n : Int)
  | float
  | boolean (b : Bool)
  | moment
  | array (items : List Toml)
  | table (origin : TableOrigin) (entries : List (String × Toml))
  | tables (items : List Toml)

namespace Toml

/-! ## Growing tables -/

def replaceEntry (key : String) (t : Toml) (entries : List (String × Toml)) : List (String × Toml) :=
  entries.map fun e => if e.1 = key then (key, t) else e

/-- Changes the table that a path leads to, making the tables on the way.  A dotted key makes and enters other tables
than a header does; in a list of tables both mean the last. -/
def within (dotted : Bool) (change : Toml → Option Toml) : List String → Toml → Option Toml
  | [], t => change t
  | key :: path, .table origin entries =>
    match entries.lookup key with
    | none =>
      (within dotted change path (.table (if dotted then .dotted else .implied) [])).map fun t =>
        .table origin (entries ++ [(key, t)])
    | some (.table o es) =>
      if o = .braces ∨ (dotted ∧ o = .header) then none
      else (within dotted change path (.table o es)).map fun t => .table origin (replaceEntry key t entries)
    | some (.tables items) =>
      match items.getLast? with
      | none => none
      | some last =>
        (within dotted change path last).map fun t =>
          .table origin (replaceEntry key (.tables (items.dropLast ++ [t])) entries)
    | some _ => none
  | _ :: _, _ => none

/-- Adds an entry that is not there yet. -/
def addEntry (key : String) (value : Toml) : Toml → Option Toml
  | .table origin entries =>
    if (entries.lookup key).isSome then none else some (.table origin (entries ++ [(key, value)]))
  | _ => none

/-- Whether a table is one that dotted keys made. -/
def isDotted : Toml → Bool
  | .table .dotted _ => true
  | _ => false

/-- Adds the value of a key, all parts of which but the last name tables that dotted keys make. -/
def assign (t : Toml) (path : List String) (key : String) (value : Toml) : Option Toml :=
  within true (fun last => if last.isDotted = path.isEmpty then none else addEntry key value last) path t

/-- Adds one more table under the key of a header in double brackets. -/
def addTable (key : String) (new : Toml) : Toml → Option Toml
  | .table origin entries =>
    match entries.lookup key with
    | none => some (.table origin (entries ++ [(key, .tables [new])]))
    | some (.tables items) => some (.table origin (replaceEntry key (.tables (items ++ [new])) entries))
    | some _ => none
  | _ => none

/-! ## Reading a file statement by statement -/

/-- The table that statements go to, and where it is put once the next header or the end of the file comes. -/
structure Builder where
  root : Toml := .table .header []
  current : Toml := .table .header []
  path : List String := []
  isListed : Bool := false

namespace Builder

/-- The file's table with the current table at its place. -/
def finish (b : Builder) : Option Toml :=
  match b.path.getLast? with
  | none => some b.current
  | some key =>
    within false (if b.isListed then addTable key b.current else addEntry key b.current) b.path.dropLast b.root

def assign (b : Builder) (path : List String) (key : String) (value : Toml) : Option Builder :=
  (b.current.assign path key value).map fun current => { b with current }

/-- What a header takes over from tables that longer headers made; nothing when the table has been opened before. -/
def reopened (key : String) : Toml → Option Toml
  | .table _ entries =>
    match entries.lookup key with
    | none => some (.table .header [])
    | some (.table .implied es) => some (.table .header es)
    | some _ => none
  | _ => none

def removeEntry (key : String) : Toml → Toml
  | .table origin entries => .table origin (entries.filter fun e => e.1 ≠ key)
  | t => t

/-- The table that a path leads to, along the last tables of lists. -/
def reach : List String → Toml → Option Toml
  | [], t => some t
  | key :: path, .table _ entries =>
    match entries.lookup key with
    | some (.tables items) => items.getLast?.bind (reach path)
    | some t => reach path t
    | none => none
  | _ :: _, _ => none

/-- Opens the table of a header. -/
def openTable (b : Builder) (path : List String) : Option Builder := do
  let key ← path.getLast?
  let parents := path.dropLast
  let root ← within false some parents (← b.finish)
  let current ← (reach parents root).bind (reopened key)
  let root ← within false (some ∘ removeEntry key) parents root
  return { root, current, path }

/-- Opens one more table of a header in double brackets. -/
def openListed (b : Builder) (path : List String) : Option Builder := do
  let key ← path.getLast?
  let root ← b.finish
  let _ ← within false (addTable key (.table .header [])) path.dropLast root
  return { root, path, isListed := true }

end Builder

/-! ## As a document -/

mutual

/-- The document that settings are read from.  A moment reads as a table with one key of its own. -/
def toDocument : Toml → Document
  | .string s => .str none s
  | .integer n => .int none n
  | .float => .float none .zero
  | .boolean b => .bool none b
  | .moment => .obj none 0 [(⟨.ok "$moment", none, none, none⟩, .str none "")] .lax
  | .array items | .tables items => .arr none 0 (itemDocuments items) .lax
  | .table _ entries => .obj none 0 (entryDocuments entries) .lax

def itemDocuments : List Toml → List Document
  | [] => []
  | t :: rest => t.toDocument :: itemDocuments rest

def entryDocuments : List (String × Toml) → List (Key × Document)
  | [] => []
  | (k, t) :: rest => (⟨.ok k, none, none, none⟩, t.toDocument) :: entryDocuments rest

end

end Toml
end PasskeyConsent

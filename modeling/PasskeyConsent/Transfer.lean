import PasskeyConsent.Json.Basic
import PasskeyConsent.Json.Printer
import PasskeyConsent.Text.Quoted
/-!
# Transfer

A value before it crosses to another context may hold callbacks and handles of mounted surfaces beside plain data.
`Transferable.sanitize` is what crosses: callbacks, handles and the members under an internal key are dropped from
arrays and objects, and a callback or handle that is the whole value becomes null.
-/
namespace PasskeyConsent

/-- The reference to a mounted confirmation surface. -/
structure UiHandle where
  number : Nat
deriving DecidableEq, Repr

inductive Transferable where
  | null
  | bool (b : Bool)
  | int (n : Int)
  | float (x : Binary64)
  | str (s : String)
  | arr (items : List Transferable)
  | obj (members : List (String × Transferable))
  | callback
  | handle (h : UiHandle)
deriving Inhabited

/-- The keys that mean something in the context of origin alone. -/
def internalKeys : List String := ["_confirmHandle", "confirmHandle", "_uiElement"]

namespace Transferable

def ofJson : Json → Transferable
  | .null => .null
  | .bool b => .bool b
  | .int n => .int n
  | .float x => .float x
  | .str s => .str s
  | .arr items => .arr (ofItems items)
  | .obj members => .obj (ofMembers members)
where
  ofItems : List Json → List Transferable
    | [] => []
    | x :: rest => ofJson x :: ofItems rest
  ofMembers : List (String × Json) → List (String × Transferable)
    | [] => []
    | (k, v) :: rest => (k, ofJson v) :: ofMembers rest

/-- Whether a value can cross at all. -/
def crosses : Transferable → Bool
  | .callback | .handle _ => false
  | _ => true

def insertMember (key : String) (value : Transferable) : List (String × Transferable) → List (String × Transferable)
  | [] => [(key, value)]
  | (k, v) :: rest =>
    if key < k then (key, value) :: (k, v) :: rest
    else if key = k then (key, value) :: rest
    else (k, v) :: insertMember key value rest

/-- Sets a member of an object and leaves any other value as it is. -/
def insert (t : Transferable) (key : String) (value : Transferable) : Transferable :=
  match t with
  | .obj members => .obj (insertMember key value members)
  | t => t

/-- What crosses. -/
def sanitize : Transferable → Json
  | .null | .callback | .handle _ => .null
  | .bool b => .bool b
  | .int n => .int n
  | .float x => .float x
  | .str s => .str s
  | .arr items => .arr (sanitizeItems items)
  | .obj members => .obj (sanitizeMembers members)
where
  sanitizeItems : List Transferable → List Json
    | [] => []
    | t :: rest => if t.crosses then sanitize t :: sanitizeItems rest else sanitizeItems rest
  sanitizeMembers : List (String × Transferable) → List (String × Json)
    | [] => []
    | (k, t) :: rest =>
      if t.crosses && !internalKeys.contains k then (k, sanitize t) :: sanitizeMembers rest else sanitizeMembers rest

/-! ## For the log -/

/-- The value as a log shows it, with the name of each node's kind. -/
def describe : Transferable → String
  | .null => "Null"
  | .bool b => "Bool(" ++ toString b ++ ")"
  | .int n => "Number(Number(" ++ String.ofList (Json.intText n) ++ "))"
  | .float x => "Number(Number(" ++ x.text ++ "))"
  | .str s => "String(" ++ Text.quoted s ++ ")"
  | .arr items => "Array([" ++ describeItems items ++ "])"
  | .obj members => "Object(\x7b" ++ describeMembers members ++ "\x7d)"
  | .callback => "Callback(..)"
  | .handle h => "Handle(UiHandle(" ++ toString h.number ++ "))"
where
  describeItems : List Transferable → String
    | [] => ""
    | [t] => describe t
    | t :: rest => describe t ++ ", " ++ describeItems rest
  describeMembers : List (String × Transferable) → String
    | [] => ""
    | [(k, t)] => Text.quoted k ++ ": " ++ describe t
    | (k, t) :: rest => Text.quoted k ++ ": " ++ describe t ++ ", " ++ describeMembers rest

end Transferable
end PasskeyConsent

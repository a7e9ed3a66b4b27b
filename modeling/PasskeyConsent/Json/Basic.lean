import PasskeyConsent.Number.Binary64
import PasskeyConsent.Text.Split
/-!
# JSON values

A value as it travels between the wallet's contexts.  Integers between -2⁶³ and 2⁶⁴-1 are exact; every other number is
a double.  An object made by `Json.object` or by a reader holds each key once, in code point order, which is the order
every compact rendering and every traversal of this library follows.
-/
namespace PasskeyConsent

inductive Json where
  | null
  | bool (b : Bool)
  | int (n : Int)
  | float (x : Binary64)
  | str (s : String)
  | arr (items : List Json)
  | obj (members : List (String × Json))
deriving Repr, Inhabited

namespace Json

/-! ## Members -/

/-- Adds a member at its place in key order, in place of an earlier member with the same key. -/
def insertMember (key : String) (value : Json) : List (String × Json) → List (String × Json)
  | [] => [(key, value)]
  | (k, v) :: rest =>
    if key < k then (key, value) :: (k, v) :: rest
    else if key = k then (key, value) :: rest
    else (k, v) :: insertMember key value rest

def sortMembers (members : List (String × Json)) : List (String × Json) :=
  members.foldl (fun acc m => insertMember m.1 m.2 acc) []

/-- The object with the given members, in key order; of two with one key the later counts. -/
def object (members : List (String × Json)) : Json := .obj (sortMembers members)

def lookup (key : String) : List (String × Json) → Option Json
  | [] => none
  | (k, v) :: rest => if k = key then some v else lookup key rest

/-- The member of an object under a key; nothing for a value that is not an object. -/
def get? (key : String) : Json → Option Json
  | .obj members => lookup key members
  | _ => none

def asString? : Json → Option String
  | .str s => some s
  | _ => none

/-- The value of an integer that is not negative. -/
def asNat? : Json → Option Nat
  | .int n => if 0 ≤ n then some n.toNat else none
  | _ => none

def asBool? : Json → Option Bool
  | .bool b => some b
  | _ => none

def asArray? : Json → Option (List Json)
  | .arr items => some items
  | _ => none

def isObject : Json → Bool
  | .obj _ => true
  | _ => false

def isNull : Json → Bool
  | .null => true
  | _ => false

/-- Sets a member of an object and leaves any other value as it is. -/
def setMember (j : Json) (key : String) (value : Json) : Json :=
  match j with
  | .obj members => .obj (insertMember key value members)
  | j => j

def ofOption (encode : α → Json) : Option α → Json
  | none => .null
  | some a => encode a

def nat (n : Nat) : Json := .int n

def strings (ss : List String) : Json := .arr (ss.map .str)

/-- A member that is written only when there is a value. -/
def optional (key : String) (encode : α → Json) : Option α → List (String × Json)
  | none => []
  | some a => [(key, encode a)]

/-! ## Equality -/

def beq : Json → Json → Bool
  | .null, .null => true
  | .bool a, .bool b => a == b
  | .int a, .int b => a == b
  | .float a, .float b => a == b
  | .str a, .str b => a == b
  | .arr a, .arr b => beqItems a b
  | .obj a, .obj b => beqMembers a b
  | _, _ => false
where
  beqItems : List Json → List Json → Bool
    | [], [] => true
    | a :: as, b :: bs => beq a b && beqItems as bs
    | _, _ => false
  beqMembers : List (String × Json) → List (String × Json) → Bool
    | [], [] => true
    | (k, a) :: as, (l, b) :: bs => k == l && beq a b && beqMembers as bs
    | _, _ => false

instance : BEq Json := ⟨beq⟩

mutual

theorem eq_of_beq : ∀ {a b : Json}, beq a b = true → a = b
  | .null, b, h => by cases b <;> simp [beq] at h ⊢
  | .bool x, b, h => by cases b <;> simp [beq] at h ⊢; exact h
  | .int x, b, h => by cases b <;> simp [beq] at h ⊢; exact h
  | .float x, b, h => by cases b <;> simp [beq] at h ⊢; exact h
  | .str x, b, h => by cases b <;> simp [beq] at h ⊢; exact h
  | .arr xs, b, h => by cases b <;> simp [beq] at h ⊢; exact eq_of_beqItems h
  | .obj xs, b, h => by cases b <;> simp [beq] at h ⊢; exact eq_of_beqMembers h

theorem eq_of_beqItems : ∀ {as bs : List Json}, beq.beqItems as bs = true → as = bs
  | [], bs, h => by cases bs <;> simp [beq.beqItems] at h ⊢
  | a :: as, bs, h => by
    cases bs with
    | nil => simp [beq.beqItems] at h
    | cons b bs =>
      simp only [beq.beqItems, Bool.and_eq_true] at h
      rw [eq_of_beq h.1, eq_of_beqItems h.2]

theorem eq_of_beqMembers : ∀ {as bs : List (String × Json)}, beq.beqMembers as bs = true → as = bs
  | [], bs, h => by cases bs <;> simp [beq.beqMembers] at h ⊢
  | (k, a) :: as, bs, h => by
    cases bs with
    | nil => simp [beq.beqMembers] at h
    | cons b bs =>
      obtain ⟨l, b⟩ := b
      simp only [beq.beqMembers, Bool.and_eq_true, beq_iff_eq] at h
      rw [h.1.1, eq_of_beq h.1.2, eq_of_beqMembers h.2]

end

mutual

theorem beq_self : ∀ a : Json, beq a a = true
  | .null => rfl
  | .bool x => by simp [beq]
  | .int x => by simp [beq]
  | .float x => by simp [beq]
  | .str x => by simp [beq]
  | .arr xs => beqItems_self xs
  | .obj xs => beqMembers_self xs

theorem beqItems_self : ∀ as : List Json, beq.beqItems as as = true
  | [] => rfl
  | a :: as => by simp [beq.beqItems, beq_self a, beqItems_self as]

theorem beqMembers_self : ∀ as : List (String × Json), beq.beqMembers as as = true
  | [] => rfl
  | (k, a) :: as => by simp [beq.beqMembers, beq_self a, beqMembers_self as]

end

instance : LawfulBEq Json where
  eq_of_beq := eq_of_beq
  rfl := beq_self _

instance : DecidableEq Json := fun a b =>
  if h : a == b then isTrue (LawfulBEq.eq_of_beq h) else isFalse fun e => h (e ▸ beq_self a)

/-! ## Pointers -/

/-- Steps of a pointer: member names, or positions in an array. -/
abbrev Pointer := List String

/-- A position is written in decimal without a sign or a leading zero. -/
def position? (step : String) : Option Nat :=
  match step.toList with
  | ['0'] => some 0
  | '0' :: _ => none
  | cs => if !cs.isEmpty && cs.all Char.isDigit then some (cs.foldl (fun n c => 10 * n + (c.toNat - 48)) 0) else none

/-- The part of a value a pointer leads to. -/
def at? : Json → Pointer → Option Json
  | j, [] => some j
  | .obj members, step :: rest => (lookup step members).bind (at? · rest)
  | .arr items, step :: rest => ((position? step).bind (items[·]?)).bind (at? · rest)
  | _, _ :: _ => none
termination_by _ p => p.length

/-- Puts a value in place of the part a pointer leads to. -/
def replaceAt (new : Json) : Pointer → Json → Json
  | [], _ => new
  | step :: rest, .obj members =>
    match lookup step members with
    | some child => .obj (insertMember step (replaceAt new rest child) members)
    | none => .obj members
  | step :: rest, .arr items =>
    match position? step with
    | some i => .arr (items.modify i (replaceAt new rest))
    | none => .arr items
  | _ :: _, j => j

/-- A step in a pointer's text, with `~1` for a slash and `~0` for a tilde. -/
def unescapeStep : List Char → List Char
  | [] => []
  | '~' :: '1' :: rest => '/' :: unescapeStep rest
  | '~' :: '0' :: rest => '~' :: unescapeStep rest
  | c :: rest => c :: unescapeStep rest

/-- The pointer a text denotes: empty for the whole value, else steps each begun by a slash. -/
def pointerOfText? (s : String) : Option Pointer :=
  match s.toList with
  | [] => some []
  | '/' :: rest => some ((Text.splitAt '/' rest).map fun step => String.ofList (unescapeStep step))
  | _ => none

end Json
end PasskeyConsent

import PasskeyConsent.Json.Document
import PasskeyConsent.Json.Printer
import PasskeyConsent.Text.Quoted
/-!
# Codecs

A `Codec` writes a type as JSON and reads it back from a document.  Records are described once, by the `Shape` of their
fields, and that description gives the writer, the reader of objects and the reader of arrays, which hold the fields in
declaration order.  An object's members are taken in the order in which they stand; a name that no field has is skipped
or refused, a field met twice is refused, and what is missing is reported last.  An enumeration is written as its name
and is also read from an object with that name as only key and null under it.
-/
namespace PasskeyConsent

/-! ## Faults -/

/-- What stands where something else was wanted. -/
inductive Found where
  | null
  | boolean (b : Bool)
  | integer (n : Int)
  | float (x : Binary64)
  | string (s : String)
  | sequence
  | map
deriving DecidableEq, Repr

def Found.message : Found → String
  | .null => "null"
  | .boolean b => "boolean `" ++ toString b ++ "`"
  | .integer n => "integer `" ++ String.ofList (Json.intText n) ++ "`"
  | .float x => "floating point `" ++ x.text ++ "`"
  | .string s => "string " ++ Text.quoted s
  | .sequence => "sequence"
  | .map => "map"

/-- What a reader wants. -/
inductive Wanted where
  | string
  | sequence
  | boolean
  | u32
  | u64
  | unit
  | enumeration
  | singleKeyMap
  | timestamp
  | record (title : String)
  | tagged (title : String)
  | variantName
  | fewerItems
  | elements (kind title : String) (count : Nat)
  | itemsInSequence (count : Nat)
deriving DecidableEq, Repr

def countOf (n : Nat) (noun : String) : String := toString n ++ " " ++ noun ++ (if n = 1 then "" else "s")

def Wanted.message : Wanted → String
  | .string => "a string"
  | .sequence => "a sequence"
  | .boolean => "a boolean"
  | .u32 => "u32"
  | .u64 => "u64"
  | .unit => "unit"
  | .enumeration => "string or map"
  | .singleKeyMap => "map with a single key"
  | .timestamp => "an RFC 3339 formatted date and time string"
  | .record title => "struct " ++ title
  | .tagged title => "internally tagged enum " ++ title
  | .variantName => "variant identifier"
  | .fewerItems => "fewer elements in array"
  | .elements kind title n => kind ++ " " ++ title ++ " with " ++ countOf n "element"
  | .itemsInSequence n => countOf n "element" ++ " in sequence"

inductive Cause where
  | invalidType (found : Found) (wanted : Wanted)
  | invalidValue (found : Found) (wanted : Wanted)
  | invalidLength (length : Nat) (wanted : Wanted)
  | missingField (name : String)
  | duplicateField (name : String)
  | unknownField (name : String) (expected : List String)
  | unknownVariant (name : String) (expected : List String)
  | malformed (what : Malformed)
  | other (message : String)
deriving DecidableEq, Repr

/-- Names to choose from, each between backquotes. -/
def alternatives : List String → String
  | [] => "there are no variants"
  | [a] => "expected `" ++ a ++ "`"
  | [a, b] => "expected `" ++ a ++ "` or `" ++ b ++ "`"
  | names => "expected one of " ++ Text.join ", " (names.map fun n => "`" ++ n ++ "`")

def Cause.message : Cause → String
  | .invalidType f w => "invalid type: " ++ f.message ++ ", expected " ++ w.message
  | .invalidValue f w => "invalid value: " ++ f.message ++ ", expected " ++ w.message
  | .invalidLength n w => "invalid length " ++ toString n ++ ", expected " ++ w.message
  | .missingField n => "missing field `" ++ n ++ "`"
  | .duplicateField n => "duplicate field `" ++ n ++ "`"
  | .unknownField n expected => "unknown field `" ++ n ++ "`, " ++ alternatives expected
  | .unknownVariant n expected => "unknown variant `" ++ n ++ "`, " ++ alternatives expected
  | .malformed w => w.message
  | .other m => m

/-- Why a document is not of the type read, and where in the text, for a document that has one. -/
structure Fault where
  cause : Cause
  place : Option Place
deriving DecidableEq, Repr

def Fault.message (f : Fault) : String :=
  match f.place with
  | none => f.cause.message
  | some p => f.cause.message ++ " at line " ++ toString p.line ++ " column " ++ toString p.column

def Fault.ofFlaw (f : Flaw) : Fault := ⟨.malformed f.what, some f.place⟩

/-- A step that goes well has gone well up to its end. -/
theorem ok_of_bind {ε α β : Type} {x : Except ε α} {f : α → Except ε β} {b : β} (h : x >>= f = .ok b) :
    ∃ a, x = .ok a ∧ f a = .ok b := by
  cases x with
  | error e => cases h
  | ok a => exact ⟨a, rfl, h⟩

theorem mapError_eq_ok_iff {ε ε' α : Type} {x : Except ε α} {f : ε → ε'} {a : α} : x.mapError f = .ok a ↔ x = .ok a := by
  cases x with
  | error e => exact ⟨nofun, nofun⟩
  | ok b => exact ⟨fun h => congrArg Except.ok (Except.ok.inj h), fun h => congrArg Except.ok (Except.ok.inj h)⟩

abbrev Decoder (α : Type) := Document → Except Fault α

structure Codec (α : Type) where
  encode : α → Json
  decode : Decoder α

/-! ## Ends of arrays and objects -/

namespace Close

/-- The fault of an array or object that is read on and has no further part. -/
def reading (isObject : Bool) : Close → Option Fault
  | .lax | .sealed _ => none
  | .textEnds p => some ⟨.malformed (if isObject then .eofObject else .eofList), some p⟩
  | .stray p => some ⟨.malformed (if isObject then .expectedObjectEnd else .expectedListEnd), some p⟩
  | .trailingComma p => some ⟨.malformed .trailingComma, some p⟩
  | .textEndsAfterComma p => some ⟨.malformed .eofValue, some p⟩
  | .keyExpected p => some ⟨.malformed .keyMustBeString, some p⟩

/-- The fault of an array or object that is skipped. -/
def skipping (isObject : Bool) : Close → Option Fault
  | .trailingComma p => some ⟨.malformed (if isObject then .keyMustBeString else .expectedValue), some p⟩
  | .textEndsAfterComma p => some ⟨.malformed (if isObject then .eofObject else .eofValue), some p⟩
  | c => c.reading isObject

/-- The fault of an array of which everything wanted has been read. -/
def finishing : Close → Option Fault
  | .lax | .sealed _ => none
  | .textEnds p => some ⟨.malformed .eofList, some p⟩
  | .trailingComma p => some ⟨.malformed .trailingComma, some p⟩
  | .stray p | .textEndsAfterComma p | .keyExpected p => some ⟨.malformed .trailingCharacters, some p⟩

def after : Close → Option Place
  | .sealed p => p
  | _ => none

end Close

def orFault : Option Fault → Except Fault Unit
  | none => .ok ()
  | some f => .error f

namespace Document

def found : Document → Found
  | .null _ => .null
  | .bool _ b => .boolean b
  | .int _ n => .integer n
  | .float _ x => .float x
  | .str _ s => .string s
  | .arr .. => .sequence
  | .obj .. => .map
  | .unreadable .. | .broken .. => .null

/-- Refuses a document that is not of the wanted kind; a token that cannot be read is refused for that. -/
def mismatch (wanted : Wanted) (d : Document) : Except Fault α :=
  match d with
  | .unreadable _ _ f | .broken _ _ f _ => .error (.ofFlaw f)
  | d => .error ⟨.invalidType d.found wanted, d.place?⟩

/-- The greatest number of brackets a value may stand in. -/
def depthLimit : Nat := 127

def depthFault (peek : Option Place) (depth : Nat) : Except Fault Unit :=
  if depth ≤ depthLimit then .ok () else .error ⟨.malformed .tooDeep, peek⟩

/-- Passes over a document without reading it. -/
def skip : Document → Except Fault Unit
  | .broken _ _ _ f => .error (.ofFlaw f)
  | .arr _ _ items close => do skipItems items; orFault (close.skipping false)
  | .obj _ _ members close => do skipMembers members; orFault (close.skipping true)
  | _ => .ok ()
where
  skipItems : List Document → Except Fault Unit
    | [] => .ok ()
    | d :: rest => do skip d; skipItems rest
  skipMembers : List (Key × Document) → Except Fault Unit
    | [] => .ok ()
    | (_, d) :: rest => do skip d; skipMembers rest

def keyName (k : Key) : Except Fault String :=
  match k.name with
  | .ok s => .ok s
  | .error f => .error (.ofFlaw f)

/-- The value a document holds; of two members with one key the later counts. -/
def toJson : Document → Except Fault Json
  | .null _ => .ok .null
  | .bool _ b => .ok (.bool b)
  | .int _ n => .ok (.int n)
  | .float _ x => .ok (.float x)
  | .str _ s => .ok (.str s)
  | .unreadable _ _ f | .broken _ _ f _ => .error (.ofFlaw f)
  | .arr peek depth items close => do
    depthFault peek depth
    let xs ← itemsToJson items
    orFault (close.reading false)
    return .arr xs
  | .obj peek depth members close => do
    depthFault peek depth
    let ms ← membersToJson members
    orFault (close.reading true)
    return .object ms
where
  itemsToJson : List Document → Except Fault (List Json)
    | [] => .ok []
    | d :: rest => do
      let x ← toJson d
      return x :: (← itemsToJson rest)
  membersToJson : List (Key × Document) → Except Fault (List (String × Json))
    | [] => .ok []
    | (k, d) :: rest => do
      let name ← keyName k
      let x ← toJson d
      return (name, x) :: (← membersToJson rest)

end Document

/-! ## Scalars -/

namespace Codec

open Document

/-- Reads and writes a type through another one. -/
def imap (f : α → β) (g : β → α) (c : Codec α) : Codec β where
  encode b := c.encode (g b)
  decode d := (c.decode d).map f

def json : Codec Json := ⟨id, toJson⟩

def string : Codec String where
  encode := .str
  decode
    | .str _ s => .ok s
    | d => mismatch .string d

def boolean : Codec Bool where
  encode := .bool
  decode
    | .bool _ b => .ok b
    | d => mismatch .boolean d

def unsigned (wanted : Wanted) (limit : Nat) : Codec Nat where
  encode n := .int n
  decode
    | .int span n =>
      if 0 ≤ n ∧ n.toNat ≤ limit then .ok n.toNat
      else .error ⟨.invalidValue (.integer n) wanted, span.map (·.after)⟩
    | d => mismatch wanted d

def u64 : Codec UInt64 := (unsigned .u64 Text.maxU64).imap .ofNat UInt64.toNat

def u32 : Codec UInt32 := (unsigned .u32 Text.maxU32).imap .ofNat UInt32.toNat

/-! ## Composites -/

def optional (c : Codec α) : Codec (Option α) where
  encode
    | none => .null
    | some a => c.encode a
  decode
    | .null _ => .ok none
    | .broken _ (some 'n') f _ => .error (.ofFlaw f)
    | d => (c.decode d).map some

def decodeItems (decode : Decoder α) : List Document → Except Fault (List α)
  | [] => .ok []
  | d :: rest => do
    let a ← decode d
    return a :: (← decodeItems decode rest)

def array (c : Codec α) : Codec (List α) where
  encode as := .arr (as.map c.encode)
  decode
    | .arr peek depth items close => do
      depthFault peek depth
      let as ← decodeItems c.decode items
      orFault (close.reading false)
      return as
    | d => mismatch .sequence d

/-- The constructor with a name, at a place of the text. -/
def variant (names : List (String × α)) (name : String) (place : Option Place) : Except Fault α :=
  match names.lookup name with
  | some a => .ok a
  | none => .error ⟨.unknownVariant name (names.map (·.1)), place⟩

/-- The rest of an object that names a constructor, behind the value under its only key. -/
def variantEnd (next : Option Place) (more : Bool) (close : Close) : Except Fault Unit :=
  match more, close with
  | false, .textEnds p => .error ⟨.malformed .eofObject, some p⟩
  | false, .sealed _ => .ok ()
  | _, _ => .error ⟨.malformed .expectedValue, next⟩

def enumeration [BEq α] (names : List (String × α)) : Codec α where
  encode a := .str (((names.find? fun p => p.2 == a).map (·.1)).getD "")
  decode
    | .str span s => variant names s (span.map (·.after))
    | .obj none _ members _ =>
      match members with
      | [(k, d)] => do
        let a ← variant names (← keyName k) none
        match d with
        | .null _ | .obj _ _ [] .lax | .arr _ _ [] .lax => return a
        | d => mismatch .unit d
      | _ => .error ⟨.invalidValue .map .singleKeyMap, none⟩
    | .obj (some peek) depth members close => do
      depthFault (some peek) depth
      match members with
      | [] =>
        match close with
        | .lax => .error ⟨.malformed .expectedValue, none⟩
        | .sealed p => .error ⟨.malformed .expectedValue, p⟩
        | .textEnds p => .error ⟨.malformed .eofObject, some p⟩
        | .stray p | .trailingComma p | .textEndsAfterComma p | .keyExpected p =>
          .error ⟨.malformed .keyMustBeString, some p⟩
      | (k, d) :: rest =>
        let a ← variant names (← keyName k) k.close
        match d with
        | .null _ => do
          variantEnd k.next (!rest.isEmpty) close
          return a
        | d => mismatch .unit d
    | .unreadable peek head f =>
      .error (if head = '"' then .ofFlaw f else ⟨.malformed .expectedValue, some peek⟩)
    | .broken peek head f _ =>
      .error (if head = none ∨ head = some '"' then .ofFlaw f else ⟨.malformed .expectedValue, some peek⟩)
    | d =>
      .error (match d.peek? with
        | none => ⟨.invalidType d.found .enumeration, none⟩
        | some p => ⟨.malformed .expectedValue, some p⟩)

end Codec

/-! ## Records -/

/-- One field of a record: the name it is written under, every name it is read under, its value when it is missing, and
the values with which it is not written. -/
structure Field (α : Type) where
  key : String
  names : List String
  codec : Codec α
  default : Option α
  hidden : α → Bool

namespace Field

/-- A field that must be given. -/
def required (key : String) (c : Codec α) : Field α := ⟨key, [key], c, none, fun _ => false⟩

/-- A field with a value for when it is missing. -/
def withDefault (key : String) (c : Codec α) (a : α) : Field α := ⟨key, [key], c, some a, fun _ => false⟩

/-- A field that is null when there is no value. -/
def nullable (key : String) (c : Codec α) : Field (Option α) := ⟨key, [key], c.optional, some none, fun _ => false⟩

/-- A field that is left out when there is no value. -/
def omitted (key : String) (c : Codec α) : Field (Option α) := ⟨key, [key], c.optional, some none, Option.isNone⟩

/-- A list that is left out when it is empty. -/
def omittedList (key : String) (c : Codec α) : Field (List α) := ⟨key, [key], c.array, some [], List.isEmpty⟩

end Field

/-- The fields of a record, in declaration order. -/
inductive Shape : Type → Type 1 where
  | nil : Shape Unit
  | cons {α β : Type} (field : Field α) (rest : Shape β) : Shape (α × β)

namespace Shape

/-- What has been read of each field. -/
@[reducible] def Slots : {τ : Type} → Shape τ → Type
  | _, .nil => Unit
  | _, .cons (α := α) _ rest => Option α × rest.Slots

def empty : {τ : Type} → (s : Shape τ) → s.Slots
  | _, .nil => ()
  | _, .cons _ rest => (none, rest.empty)

def size : {τ : Type} → Shape τ → Nat
  | _, .nil => 0
  | _, .cons _ rest => rest.size + 1

/-- Every name a field is read under. -/
def names : {τ : Type} → Shape τ → List String
  | _, .nil => []
  | _, .cons f rest => f.names ++ rest.names

def members : {τ : Type} → Shape τ → τ → List (String × Json)
  | _, .nil, _ => []
  | _, .cons f rest, (a, b) => (if f.hidden a then [] else [(f.key, f.codec.encode a)]) ++ rest.members b

/-- Reads one member into its slot; nothing when no field has the name. -/
def put : {τ : Type} → (s : Shape τ) → s.Slots → String → Option Place → Document → Option (Except Fault s.Slots)
  | _, .nil, _, _, _, _ => none
  | _, .cons f rest, slots, name, place, d =>
    if f.names.contains name then
      some (match slots.1 with
        | some _ => .error ⟨.duplicateField f.key, place⟩
        | none => (f.codec.decode d).map fun a => (some a, slots.2))
    else (rest.put slots.2 name place d).map fun r => r.map fun others => (slots.1, others)

/-- The record the slots make, or the first field that is missing. -/
def finish : {τ : Type} → (s : Shape τ) → s.Slots → Option Place → Except Fault τ
  | _, .nil, _, _ => .ok ()
  | _, .cons f rest, slots, place =>
    match slots.1.or f.default with
    | none => .error ⟨.missingField f.key, place⟩
    | some a => (rest.finish slots.2 place).map fun b => (a, b)

def putMembers (s : Shape τ) (strict : Bool) : s.Slots → List (Key × Document) → Except Fault s.Slots
  | slots, [] => .ok slots
  | slots, (k, d) :: rest => do
    let name ← Document.keyName k
    match s.put slots name k.after d with
    | some r => putMembers s strict (← r) rest
    | none => do
      if strict then throw ⟨.unknownField name s.names, k.after⟩
      d.skip
      putMembers s strict slots rest

/-- Reads the items of an array into the fields in order, and gives back the items left over.  `wanted` is what the
whole record is called when it has too few items. -/
def readItems (wanted : Wanted) (close : Close) :
    {τ : Type} → Shape τ → Nat → List Document → Except Fault (τ × List Document)
  | _, .nil, _, items => .ok ((), items)
  | _, .cons f rest, i, d :: items => do
    let a ← f.codec.decode d
    let (b, left) ← rest.readItems wanted close (i + 1) items
    return ((a, b), left)
  | _, .cons f rest, i, [] => do
    orFault (close.reading false)
    match f.default with
    | none => throw ⟨.invalidLength i wanted, close.after⟩
    | some a =>
      let (b, left) ← rest.readItems wanted close (i + 1) []
      return ((a, b), left)

/-- The end of an array of which `left` is not wanted. -/
def endItems (count : Nat) (left : List Document) (close : Close) : Except Fault Unit :=
  match left with
  | [] => orFault close.finishing
  | d :: _ =>
    if close = .lax then .ok ()
    else match d.peek? with
    | none => .error ⟨.invalidLength count .fewerItems, none⟩
    | some p => .error ⟨.malformed .trailingCharacters, some p⟩

def decode (title : String) (strict : Bool) (s : Shape τ) : Decoder τ
  | .obj peek depth members close => do
    Document.depthFault peek depth
    let slots ← s.putMembers strict s.empty members
    orFault (close.reading true)
    s.finish slots close.after
  | .arr peek depth items close => do
    Document.depthFault peek depth
    let (a, left) ← s.readItems (.elements "struct" title s.size) close 0 items
    endItems items.length left close
    return a
  | d => d.mismatch (.record title)

end Shape

/-- The codec of a record from its fields and the two ways between the fields and the record. -/
def Codec.record (title : String) (shape : Shape τ) (make : τ → α) (fields : α → τ) : Codec α where
  encode a := .object (shape.members (fields a))
  decode d := (shape.decode title false d).map make

/-- A record that refuses members it has no field for. -/
def Codec.strictRecord (title : String) (shape : Shape τ) (make : τ → α) (fields : α → τ) : Codec α where
  encode a := .object (shape.members (fields a))
  decode d := (shape.decode title true d).map make

/-! ## Whole values, texts and bytes -/

namespace Json

/-- What stands in for a stray among bytes: the character U+FFFD, which has no place outside of strings, and the escape
of a lone surrogate, for which a string is refused where it is read and not where it is skipped. -/
def strayChars : List Char := [Char.ofNat 0xFFFD, '\\', 'u', 'd', 'c', '0', '0']

/-- A text that is read as some bytes are: a stray in a string is minded only where the string is read, and a stray
anywhere else is. -/
def textOfBytes (bs : Bytes) : String := String.ofList ((Bytes.pieces bs).flatMap fun p => p.elim strayChars ([·]))

@[simp] theorem textOfBytes_ofText (s : String) : textOfBytes (Bytes.ofText s) = s := by
  have hchars : (s.toList.map some).flatMap (fun p => p.elim strayChars ([·])) = s.toList :=
    (List.flatMap_map _ _ _).trans (List.flatMap_singleton' _)
  rw [textOfBytes, Bytes.pieces_ofText, hchars, String.ofList_toList]

/-- **A string with a stray is refused where it is read**, and goes on behind the stray where it is skipped. -/
theorem stringToken_strayChars (fuel : Nat) (acc rest : List Char) (place : Place) :
    ∃ flaw place', stringToken (fuel + 2) acc ⟨strayChars ++ rest, place⟩ =
      ⟨.error flaw, skipString fuel ⟨rest, place'⟩⟩ :=
  ⟨_, _, rfl⟩

end Json

namespace Codec

/-- Reads a value. -/
def ofJson (c : Codec α) (j : Json) : Except Fault α := c.decode (.ofJson j)

/-- Reads a text that holds one value and nothing else. -/
def ofText (c : Codec α) (s : String) : Except Fault α := do
  let (d, trailing) := Document.ofText s
  let a ← c.decode d
  match trailing with
  | none => return a
  | some f => throw (.ofFlaw f)

/-- Reads bytes that hold one value and nothing else. -/
def ofBytes (c : Codec α) (bs : Bytes) : Except Fault α := c.ofText (Json.textOfBytes bs)

end Codec

/-- Reads the value a text holds. -/
def Json.ofText (s : String) : Except Fault Json := Codec.json.ofText s

end PasskeyConsent

import PasskeyConsent.Json.Codec
/-!
# Control messages

The messages that attach a session to the signing worker, told apart by their `type`.  A message is also read from an
array that begins with the type; what follows the type is then the session's id.  The rest of a message is read only
after the type has been found, wherever it stands, so a fault in it has no place in the text.
-/
namespace PasskeyConsent

inductive ControlMessage where
  | attach (session : String)
  | attachOk (session : String)
  | seedReady (session : String)
deriving DecidableEq, Repr

/-- The kinds of control message. -/
inductive ControlKind where
  | attach
  | attachOk
  | seedReady
deriving DecidableEq, Repr

namespace ControlKind

def table : List (String × ControlKind) := [("ATTACH", .attach), ("ATTACH_OK", .attachOk), ("SEED_READY", .seedReady)]

def name : ControlKind → String
  | .attach => "ATTACH"
  | .attachOk => "ATTACH_OK"
  | .seedReady => "SEED_READY"

def title : ControlKind → String
  | .attach => "ControlMessage::Attach"
  | .attachOk => "ControlMessage::AttachOk"
  | .seedReady => "ControlMessage::SeedReady"

def message (session : String) : ControlKind → ControlMessage
  | .attach => .attach session
  | .attachOk => .attachOk session
  | .seedReady => .seedReady session

end ControlKind

namespace ControlMessage

def kind : ControlMessage → ControlKind
  | .attach _ => .attach
  | .attachOk _ => .attachOk
  | .seedReady _ => .seedReady

def session : ControlMessage → String
  | .attach s | .attachOk s | .seedReady s => s

def encode (m : ControlMessage) : Json := .object [("type", .str m.kind.name), ("sessionId", .str m.session)]

def readKind : Decoder ControlKind
  | .str span s => Codec.variant ControlKind.table s (span.map (·.after))
  | d => d.mismatch .variantName

/-- The type among the members, and the other members as values in the order in which they stand. -/
def splitMembers (found : Option ControlKind) : List (Key × Document) →
    Except Fault (Option ControlKind × List (String × Json))
  | [] => .ok (found, [])
  | (k, d) :: rest => do
    let name ← Document.keyName k
    if name = "type" then
      match found with
      | some _ => throw ⟨.duplicateField "type", k.after⟩
      | none => splitMembers (some (← readKind d)) rest
    else
      let j ← d.toJson
      let (kind, others) ← splitMembers found rest
      return (kind, (name, j) :: others)

def sessionShape : Shape (String × Unit) := .cons (.required "sessionId" .string) .nil

/-- Reads the rest of a message from members that are already values. -/
def ofMembers (kind : ControlKind) (members : List (String × Json)) : Except Fault ControlMessage := do
  let docs := members.map fun (k, v) => ((⟨.ok k, none, none, none⟩ : Key), Document.ofJson v)
  let slots ← sessionShape.putMembers false sessionShape.empty docs
  let (s, ()) ← sessionShape.finish slots none
  return kind.message s

def ofItems (kind : ControlKind) (items : List Json) : Except Fault ControlMessage := do
  let docs := items.map Document.ofJson
  let ((s, ()), left) ← sessionShape.readItems (.elements "struct variant" kind.title 1) (.sealed none) 0 docs
  if left.isEmpty then return kind.message s else throw ⟨.invalidLength items.length (.itemsInSequence 1), none⟩

def decode : Decoder ControlMessage
  | .obj peek depth members close => do
    Document.depthFault peek depth
    let (kind, others) ← splitMembers none members
    orFault (close.reading true)
    match kind with
    | none => throw ⟨.missingField "type", close.after⟩
    | some kind => ofMembers kind others
  | .arr peek depth items close => do
    Document.depthFault peek depth
    match items with
    | [] => do
      orFault (close.reading false)
      throw ⟨.missingField "type", close.after⟩
    | d :: rest => do
      let kind ← readKind d
      let others ← Codec.decodeItems Document.toJson rest
      orFault (close.reading false)
      ofItems kind others
  | d => d.mismatch (.tagged "ControlMessage")

def codec : Codec ControlMessage := ⟨encode, decode⟩

end ControlMessage
end PasskeyConsent

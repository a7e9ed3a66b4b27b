import PasskeyConsent.Chain.Block
import PasskeyConsent.Error
import PasskeyConsent.Json.Codec
import PasskeyConsent.Json.Printer
import PasskeyConsent.Url.Basic
/-!
# Calls to a chain node

The three calls that are made to a node, as JSON-RPC requests, and what its replies mean.  A reply counts only with a
status of success and an envelope without an error; an error may also stand as a text inside the result.  That an access
key does not exist is told from the text of a failed call, wherever on the way it failed.  A client makes its calls under
numbers that count up.
-/
namespace PasskeyConsent

/-- A call to a node. -/
inductive ChainCall where
  | block
  | accessKey (account publicKey : String)
  | broadcast (transaction : String)
deriving DecidableEq, Repr

/-- What comes of a request: nothing, for a reason, or a reply with a status, whose body may break off for a reason. -/
inductive ChainReply where
  | failure (reason : String)
  | reply (status : Nat) (body : Except String Bytes)

namespace ChainCall

def method : ChainCall → String
  | .block => "block"
  | .accessKey .. => "query"
  | .broadcast _ => "broadcast_tx_commit"

def params : ChainCall → Json
  | .block => .object [("finality", .str "final")]
  | .accessKey account publicKey =>
    .object [("request_type", .str "view_access_key"), ("finality", .str "final"), ("account_id", .str account),
      ("public_key", .str publicKey)]
  | .broadcast transaction => .arr [.str transaction]

def request (call : ChainCall) (id : Nat) : Json :=
  .object [("jsonrpc", .str "2.0"), ("id", .str (toString id)), ("method", .str call.method), ("params", call.params)]

end ChainCall

/-! ## Replies -/

/-- What a status of failure is called. -/
def statusNames : List (Nat × String) :=
  [(100, "Continue"), (101, "Switching Protocols"), (102, "Processing"), (300, "Multiple Choices"),
   (301, "Moved Permanently"), (302, "Found"), (303, "See Other"), (304, "Not Modified"), (305, "Use Proxy"),
   (307, "Temporary Redirect"), (308, "Permanent Redirect"), (400, "Bad Request"), (401, "Unauthorized"),
   (402, "Payment Required"), (403, "Forbidden"), (404, "Not Found"), (405, "Method Not Allowed"),
   (406, "Not Acceptable"), (407, "Proxy Authentication Required"), (408, "Request Timeout"), (409, "Conflict"),
   (410, "Gone"), (411, "Length Required"), (412, "Precondition Failed"), (413, "Payload Too Large"),
   (414, "URI Too Long"), (415, "Unsupported Media Type"), (416, "Range Not Satisfiable"), (417, "Expectation Failed"),
   (418, "I'm a teapot"), (421, "Misdirected Request"), (422, "Unprocessable Entity"), (423, "Locked"),
   (424, "Failed Dependency"), (425, "Too Early"), (426, "Upgrade Required"), (428, "Precondition Required"),
   (429, "Too Many Requests"), (431, "Request Header Fields Too Large"), (451, "Unavailable For Legal Reasons"),
   (500, "Internal Server Error"), (501, "Not Implemented"), (502, "Bad Gateway"), (503, "Service Unavailable"),
   (504, "Gateway Timeout"), (505, "HTTP Version Not Supported"), (506, "Variant Also Negotiates"),
   (507, "Insufficient Storage"), (508, "Loop Detected"), (510, "Not Extended"),
   (511, "Network Authentication Required")]

def statusText (status : Nat) : String :=
  toString status ++ " " ++ (statusNames.lookup status).getD "<unknown status code>"

def isSuccess (status : Nat) : Bool := 200 ≤ status && status < 300

/-- The envelope of a reply. -/
structure ChainEnvelope where
  result : Option Json
  error : Option Json
deriving DecidableEq

def ChainEnvelope.codec : Codec ChainEnvelope :=
  .record "RpcEnvelope" (.cons (.nullable "result" .json) (.cons (.nullable "error" .json) .nil))
    (fun (r, e, ()) => ⟨r, e⟩) (fun e => (e.result, e.error, ()))

/-- The result that an envelope carries. -/
def ChainEnvelope.outcome (method : String) (e : ChainEnvelope) : Except ChainError Json :=
  match e.error, e.result with
  | some error, _ => .error (.requestFailed method error.compact)
  | none, none => .error (.invalidResponse method "missing result")
  | none, some result =>
    match result.get? "error" with
    | some (.str reason) => .error (.requestFailed method reason)
    | _ => .ok result

/-- What is said of a body that is no envelope. -/
def undecodable : String := "error decoding response body"

/-- The envelope in a body. -/
def envelopeOf : Except String Bytes → Except ChainError ChainEnvelope
  | .error reason => .error (.http reason)
  | .ok bytes => (ChainEnvelope.codec.ofBytes bytes).mapError fun _ => .http undecodable

/-- What is shown of the body of a failure: nothing if it has broken off. -/
def pageOf : Except String Bytes → String
  | .error _ => ""
  | .ok bytes => bytes.shown

/-- The result of a call. -/
def ChainReply.outcome (method : String) : ChainReply → Except ChainError Json
  | .failure reason => .error (.requestFailed method reason)
  | .reply status body =>
    if isSuccess status then (envelopeOf body).bind (·.outcome method)
    else .error (.requestFailed method ("HTTP " ++ statusText status ++ ": " ++ pageOf body))

/-! ## Answers -/

/-- Whether the reason of a failure says that there is no such access key. -/
def saysUnknownKey (reason : String) : Bool :=
  Text.contains "does not exist" reason || Text.contains "UNKNOWN_ACCESS_KEY" reason

def orUnknownKey (account publicKey : String) : ChainError → ChainError
  | .requestFailed method reason =>
    if saysUnknownKey reason then .accessKeyNotFound account publicKey else .requestFailed method reason
  | e => e

namespace ChainReply

/-- The reply to a call for a block. -/
def block (r : ChainReply) : Except ChainError BlockInfo := do
  let result ← r.outcome ChainCall.block.method
  (BlockInfo.codec.ofJson result).mapError fun f => .invalidResponse "block" f.message

/-- The reply to a call for an access key. -/
def accessKey (account publicKey : String) (r : ChainReply) : Except ChainError AccessKeyInfo := do
  let result ← (r.outcome (ChainCall.accessKey account publicKey).method).mapError (orUnknownKey account publicKey)
  (AccessKeyInfo.codec.ofJson result).mapError fun f => .invalidResponse "query.view_access_key" f.message

/-- The reply to a broadcast. -/
def broadcast (transaction : String) (r : ChainReply) : Except ChainError Json :=
  r.outcome (ChainCall.broadcast transaction).method

end ChainReply

/-- What a call comes to. -/
inductive ChainAnswer where
  | block (result : Except ChainError BlockInfo)
  | accessKey (result : Except ChainError AccessKeyInfo)
  | broadcast (result : Except ChainError Json)

def ChainReply.answer (r : ChainReply) : ChainCall → ChainAnswer
  | .block => .block r.block
  | .accessKey account publicKey => .accessKey (r.accessKey account publicKey)
  | .broadcast transaction => .broadcast (r.broadcast transaction)

/-! ## A client -/

/-- A client of one node, with the number that its next request gets. -/
structure ChainClient where
  endpoint : Url
  nextId : Nat := 1

/-- A call that was made: its request, and what it came to. -/
structure ChainExchange where
  request : Json
  answer : ChainAnswer

namespace ChainClient

def request (c : ChainClient) (call : ChainCall) : Json × ChainClient :=
  (call.request c.nextId, { c with nextId := c.nextId + 1 })

/-- Makes calls one after another, each with what comes of its request. -/
def converse (c : ChainClient) : List (ChainCall × ChainReply) → List ChainExchange
  | [] => []
  | (call, reply) :: rest =>
    let (request, c) := c.request call
    ⟨request, reply.answer call⟩ :: c.converse rest

/-- What comes of a request that the node cannot be reached for. -/
def unreachable (c : ChainClient) : ChainReply := .failure ("error sending request for url (" ++ c.endpoint.text ++ ")")

end ChainClient
end PasskeyConsent

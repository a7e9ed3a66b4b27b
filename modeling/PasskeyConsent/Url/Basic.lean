import PasskeyConsent.Url.Percent
import PasskeyConsent.Url.Ipv4
import PasskeyConsent.Url.Ipv6
import PasskeyConsent.Url.Domain
/-!
# Addresses

An absolute address in its parts, how it is read from a text, and how it is written.  Reading follows the living
standard for addresses: blanks and controls at the ends and line breaks anywhere are dropped, a web scheme takes any
number of slashes in either direction and always has a host and a path, dot segments are resolved, and every part is
percent-encoded as it has to be.  What is written is therefore one form of many that read alike.
-/
namespace PasskeyConsent

inductive UrlFault where
  | emptyHost
  | invalidDomain
  | invalidPort
  | invalidIpv4
  | invalidIpv6
  | invalidHostCharacter
  | relative
deriving DecidableEq, Repr

def UrlFault.message : UrlFault → String
  | .emptyHost => "empty host"
  | .invalidDomain => "invalid international domain name"
  | .invalidPort => "invalid port number"
  | .invalidIpv4 => "invalid IPv4 address"
  | .invalidIpv6 => "invalid IPv6 address"
  | .invalidHostCharacter => "invalid domain character"
  | .relative => "relative URL without a base"

inductive UrlHost where
  | domain (name : String)
  | ipv4 (address : Nat)
  | ipv6 (groups : List Nat)
deriving DecidableEq, Repr

def UrlHost.text : UrlHost → String
  | .domain name => name
  | .ipv4 address => Ipv4.text address
  | .ipv6 groups => "[" ++ Ipv6.text groups ++ "]"

structure Url where
  scheme : String
  username : String := ""
  password : Option String := none
  host : Option UrlHost := none
  port : Option Nat := none
  path : String := ""
  query : Option String := none
  fragment : Option String := none
deriving DecidableEq, Repr

namespace Url

/-! ## Writing -/

def credentialsText (u : Url) : String :=
  if u.username.isEmpty ∧ u.password.isNone then ""
  else u.username ++ (u.password.map (":" ++ ·)).getD "" ++ "@"

def text (u : Url) : String :=
  u.scheme ++ ":" ++
    (match u.host with
      | none => ""
      | some h => "//" ++ u.credentialsText ++ h.text ++ (u.port.map fun p => ":" ++ toString p).getD "") ++
    u.path ++ (u.query.map ("?" ++ ·)).getD "" ++ (u.fragment.map ("#" ++ ·)).getD ""

/-! ## Schemes -/

/-- How the rest of an address is read depends on its scheme. -/
inductive SchemeKind where
  | web
  | file
  | other
deriving DecidableEq, Repr

def defaultPorts : List (String × Nat) := [("http", 80), ("https", 443), ("ws", 80), ("wss", 443), ("ftp", 21)]

def kindOf (scheme : String) : SchemeKind :=
  if scheme = "file" then .file else if (defaultPorts.lookup scheme).isSome then .web else .other

def SchemeKind.isSpecial : SchemeKind → Bool
  | .other => false
  | _ => true

def isLetter (c : Char) : Bool := ('a' ≤ c && c ≤ 'z') || ('A' ≤ c && c ≤ 'Z')

def isSchemeCharacter (c : Char) : Bool := isLetter c || Ipv4.isDigit c || ['+', '-', '.'].contains c

/-- The scheme in lower case and what follows its colon. -/
def readScheme (cs : List Char) : Option (String × List Char) :=
  let name := cs.takeWhile isSchemeCharacter
  match cs.drop name.length with
  | ':' :: rest => if name.head?.any isLetter then some (String.ofList (name.map Char.toLower), rest) else none
  | _ => none

/-! ## Authorities -/

/-- The characters that end an authority. -/
def endsAuthority (kind : SchemeKind) (c : Char) : Bool :=
  c == '/' || c == '?' || c == '#' || (kind.isSpecial && c == '\\')

/-- What stands before the last `@` of an authority, and what follows it. -/
def splitCredentials (kind : SchemeKind) (cs : List Char) : Option (List Char × List Char) :=
  let authority := cs.takeWhile (!endsAuthority kind ·)
  let host := (authority.reverse.takeWhile (· != '@')).reverse
  if host.length = authority.length then none
  else some (authority.take (authority.length - host.length - 1), cs.drop (authority.length - host.length))

structure Credentials where
  username : List Char := []
  password : Option (List Char) := none

def Credentials.areGiven (c : Credentials) : Bool := !c.username.isEmpty || c.password.isSome

def Credentials.ofText (cs : List Char) : Credentials :=
  let username := cs.takeWhile (· != ':')
  let password := cs.drop (username.length + 1)
  ⟨Percent.encode Percent.inCredentials username,
    if password.isEmpty then none else some (Percent.encode Percent.inCredentials password)⟩

/-- The credentials of an authority; a host has to follow an `@`. -/
def readCredentials (kind : SchemeKind) (cs : List Char) : Except UrlFault (Credentials × List Char) :=
  match splitCredentials kind cs with
  | none => .ok ({}, cs)
  | some ([], rest) => if rest.head?.any (endsAuthority kind) then .error .emptyHost else .ok ({}, rest)
  | some (given, rest) => .ok (.ofText given, rest)

/-- The characters up to the colon of a port or the end of the authority; a colon in brackets is part of the host. -/
def takeHost (kind : SchemeKind) : Bool → List Char → List Char
  | _, [] => []
  | bracketed, c :: rest =>
    if endsAuthority kind c || (c == ':' && !bracketed) then []
    else c :: takeHost kind (if c == '[' then true else if c == ']' then false else bracketed) rest

def readBracketed (cs : List Char) : Except UrlFault UrlHost :=
  match cs.reverse with
  | ']' :: inner =>
    match Ipv6.read (inner.reverse.drop 1) with
    | some groups => .ok (.ipv6 groups)
    | none => .error .invalidIpv6
  | _ => .error .invalidIpv6

/-- The characters that the percent-encoded bytes of a domain name give. -/
def decodeDomain (cs : List Char) : Option (List Char) :=
  (String.fromUTF8? ⟨(Percent.decode (Bytes.ofText (String.ofList cs))).toArray⟩).map String.toList

/-- A host that is a domain name or an address. -/
def readDomain (cs : List Char) : Except UrlFault UrlHost :=
  if cs.head? = some '[' then readBracketed cs
  else
    match (decodeDomain cs).bind Domain.send with
    | none => .error .invalidDomain
    | some [] => .error .emptyHost
    | some name =>
      if Ipv4.endsInNumber name then
        match Ipv4.read name with
        | some address => .ok (.ipv4 address)
        | none => .error .invalidIpv4
      else .ok (.domain (String.ofList name))

def isForbiddenInHost (c : Char) : Bool := "\x00\t\n\r #/:<>?@[\\]^|".toList.contains c

/-- The host of a scheme that gives hosts no meaning; there may be none. -/
def readOpaqueHost (cs : List Char) : Except UrlFault (Option UrlHost) :=
  if cs.head? = some '[' then (readBracketed cs).map some
  else if cs.any isForbiddenInHost then .error .invalidHostCharacter
  else if cs.isEmpty then .ok none
  else .ok (some (.domain (String.ofList (Percent.encode Percent.isForeign cs))))

def readHost (kind : SchemeKind) (cs : List Char) : Except UrlFault (Option UrlHost) :=
  match kind with
  | .other => readOpaqueHost cs
  | _ => if cs.isEmpty then .error .emptyHost else (readDomain cs).map some

/-- The number behind a colon; no digits stand for the port of the scheme. -/
def readPort (scheme : String) (cs : List Char) : Except UrlFault (Option Nat × List Char) :=
  let digits := cs.takeWhile Ipv4.isDigit
  let rest := cs.drop digits.length
  let port := digits.foldl (fun n c => 10 * n + (c.toNat - 48)) 0
  if 65535 < port ∨ rest.head?.any (!endsAuthority .web ·) then .error .invalidPort
  else .ok (if digits.isEmpty ∨ defaultPorts.lookup scheme = some port then none else some port, rest)

structure Authority where
  credentials : Credentials
  host : Option UrlHost
  port : Option Nat

/-- The authority behind its two slashes, and what follows it. -/
def readAuthority (scheme : String) (kind : SchemeKind) (cs : List Char) : Except UrlFault (Authority × List Char) := do
  let (credentials, cs) ← readCredentials kind cs
  let name := takeHost kind false cs
  let host ← readHost kind name
  let (port, rest) ← match cs.drop name.length with
    | ':' :: rest => if host.isNone then throw .emptyHost else readPort scheme rest
    | rest => pure (none, rest)
  if host.isNone ∧ credentials.areGiven then throw .emptyHost
  return (⟨credentials, host, port⟩, rest)

/-! ## Paths -/

def isSingleDot (segment : List Char) : Bool :=
  [".", "%2e", "%2E"].contains (String.ofList segment)

def isDoubleDot (segment : List Char) : Bool :=
  ["..", "%2e%2e", "%2e%2E", "%2E%2e", "%2E%2E", "%2e.", "%2E.", ".%2e", ".%2E"].contains (String.ofList segment)

/-- A letter with a colon or a bar: the name of a drive, which no dot segment leads out of. -/
def isDrive : List Char → Bool
  | [c, d] => isLetter c && (d == ':' || d == '|')
  | _ => false

/-- The path so far, latest segment first, behind one more segment that a slash follows. -/
def enter (path : List (List Char)) (segment : List Char) : List (List Char) :=
  if isSingleDot segment then path
  else if isDoubleDot segment then
    match path with
    | [] => []
    | last :: rest => if isDrive last then last :: rest else rest
  else segment :: path

/-- Resolves the dot segments of a path. -/
def resolve (path : List (List Char)) : List (List Char) → List (List Char)
  | [] => path.reverse
  | [last] =>
    if isSingleDot last ∨ isDoubleDot last then (enter path last).reverse ++ [[]] else (last :: path).reverse
  | segment :: rest => resolve (enter path segment) rest

def isSlash (kind : SchemeKind) (c : Char) : Bool := c == '/' || (kind.isSpecial && c == '\\')

/-- The segments of a path behind its first slash, encoded and resolved. -/
def readSegments (kind : SchemeKind) (cs : List Char) : List (List Char) :=
  resolve [] ((Text.splitAt '/' (cs.map fun c => if isSlash kind c then '/' else c)).map (Percent.encode Percent.inPath))

def pathText (segments : List (List Char)) : String :=
  String.ofList (segments.flatMap fun s => '/' :: s)

/-- The path behind an authority.  A web address has one even if none is given. -/
def readPath (kind : SchemeKind) (cs : List Char) : List (List Char) :=
  match cs with
  | [] => if kind.isSpecial then [[]] else []
  | c :: rest => if isSlash kind c then readSegments kind rest else readSegments kind cs

/-! ## Whole addresses -/

def splitTail (cs : List Char) : List Char × Option (List Char) × Option (List Char) :=
  let path := cs.takeWhile fun c => c != '?' && c != '#'
  match cs.drop path.length with
  | '?' :: rest =>
    let query := rest.takeWhile (· != '#')
    (path, some query, if query.length < rest.length then some (rest.drop (query.length + 1)) else none)
  | '#' :: rest => (path, none, some rest)
  | _ => (path, none, none)

/-- The address with the query and the fragment that follow its path. -/
def withTail (u : Url) (kind : SchemeKind) (query fragment : Option (List Char)) : Url :=
  { u with
    query := query.map fun q => String.ofList (Percent.encode (Percent.inQuery kind.isSpecial) q)
    fragment := fragment.map fun f => String.ofList (Percent.encode Percent.inFragment f) }

/-- An address whose host and path follow two slashes. -/
def readBehindSlashes (scheme : String) (kind : SchemeKind) (cs : List Char) : Except UrlFault Url := do
  let (a, cs) ← readAuthority scheme kind cs
  let (path, query, fragment) := splitTail cs
  return withTail
    { scheme := scheme
      username := String.ofList a.credentials.username
      password := a.credentials.password.map String.ofList
      host := a.host
      port := a.port
      path := pathText (readPath kind path) } kind query fragment

/-- An address of a file.  A host that means this machine, or one in front of a drive, is none. -/
def readFile (cs : List Char) : Except UrlFault Url := do
  let (path, query, fragment) := splitTail cs
  match path with
  | a :: b :: rest =>
    if isSlash .file a ∧ isSlash .file b then
      let name := rest.takeWhile (!isSlash .file ·)
      let host ← if name.isEmpty ∨ isDrive name then pure none else (readDomain name).map some
      let segments := readPath .file (if isDrive name then rest else rest.drop name.length)
      let host := if host = some (.domain "localhost") ∨ segments.head?.any isDrive then none else host
      return withTail { scheme := "file", host := host, path := pathText segments } .file query fragment
    else return withTail { scheme := "file", path := pathText (readPath .file path) } .file query fragment
  | _ => return withTail { scheme := "file", path := pathText (readPath .file path) } .file query fragment

/-- An address without an authority. -/
def readPlain (scheme : String) (cs : List Char) : Url :=
  let (path, query, fragment) := splitTail cs
  let text := match path with
    | '/' :: rest => pathText (readSegments .other rest)
    | _ => String.ofList (Percent.encode Percent.isForeign path)
  withTail { scheme := scheme, path := text } .other query fragment

/-- The text without what an address never holds: controls and blanks at its ends, tabs and line breaks anywhere. -/
def clean (s : String) : List Char :=
  let ends (cs : List Char) := cs.dropWhile (·.toNat ≤ 0x20)
  (ends (ends s.toList).reverse).reverse.filter fun c => c != '\t' && c != '\n' && c != '\r'

def read (s : String) : Except UrlFault Url :=
  match readScheme (clean s) with
  | none => .error .relative
  | some (scheme, rest) =>
    match kindOf scheme, rest with
    | .file, _ => readFile rest
    | .web, _ => readBehindSlashes scheme .web (rest.dropWhile (isSlash .web))
    | .other, '/' :: '/' :: rest => readBehindSlashes scheme .other rest
    | .other, _ => .ok (readPlain scheme rest)

end Url
end PasskeyConsent

import PasskeyConsent.Error
import PasskeyConsent.Text.Blank
import PasskeyConsent.Url.Basic
/-!
# Endpoints

The address of a chain node has to be reached safely: by `https`, or by `http` on this machine, and it must not carry
credentials.
-/
namespace PasskeyConsent.Endpoint

/-- The hosts that mean this machine. -/
def loopbackHosts : List String := ["localhost", "127.0.0.1", "::1", "[::1]"]

inductive Fault where
  | unreadable (cause : UrlFault)
  | credentials
  | noHost
  | insecure (host : String)
  | scheme (name : String)
deriving DecidableEq, Repr

def Fault.message : Fault → String
  | .unreadable cause => "URL parse failed: " ++ cause.message
  | .credentials => "URL contains userinfo which is not allowed"
  | .noHost => "URL has no host"
  | .insecure host => "insecure scheme for non-loopback host " ++ host ++ " (only https allowed)"
  | .scheme name => "unsupported scheme: " ++ name

def inspect (u : Url) : Except Fault Url :=
  if !u.username.isEmpty ∨ u.password.isSome then .error .credentials
  else
    match u.host with
    | none => .error .noHost
    | some host =>
      let name := String.ofList (host.text.toList.map Char.toLower)
      if u.scheme = "https" then .ok u
      else if u.scheme ≠ "http" then .error (.scheme u.scheme)
      else if loopbackHosts.contains name then .ok u
      else .error (.insecure name)

/-- Reads an endpoint that is given under a key. -/
def read (key text : String) : Except ConfigError Url :=
  match (Url.read (Text.trim text)).mapError Fault.unreadable |>.bind inspect with
  | .ok u => .ok u
  | .error f => .error (.invalidValue key f.message)

end PasskeyConsent.Endpoint

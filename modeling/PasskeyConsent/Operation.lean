import PasskeyConsent.Json.Codec
/-!
# Operations

What a user can be asked to confirm.  Two of the operations hand the account to another key or device; they are the
ones that an embedding page must not be able to push through without a click.
-/
namespace PasskeyConsent

inductive Operation where
  | signTransaction
  | registerAccount
  | decryptPrivateKey
  | signMessage
  | linkDevice
  | showPrivateKey
deriving DecidableEq, Repr

namespace Operation

def all : List Operation :=
  [.signTransaction, .registerAccount, .decryptPrivateKey, .signMessage, .linkDevice, .showPrivateKey]

def name : Operation → String
  | .signTransaction => "signTransaction"
  | .registerAccount => "registerAccount"
  | .decryptPrivateKey => "decryptPrivateKey"
  | .signMessage => "signMessage"
  | .linkDevice => "linkDevice"
  | .showPrivateKey => "showPrivateKey"

def ofName? (s : String) : Option Operation := all.find? fun k => k.name == s

def isHighRisk : Operation → Bool
  | .registerAccount | .linkDevice => true
  | _ => false

theorem mem_all (k : Operation) : k ∈ all := by cases k <;> decide

theorem ofName?_name (k : Operation) : ofName? k.name = some k := by cases k <;> decide

def codec : Codec Operation := .enumeration (all.map fun k => (k.name, k))

end Operation
end PasskeyConsent

import PasskeyConsent.Operation
/-!
# Request payloads

What each operation needs to be told.  The actions of a transaction are opaque: they are carried and hashed, never
looked into.
-/
namespace PasskeyConsent

/-- How a signing request authenticates. -/
inductive SigningAuthMode where
  | webAuthn
  | warmSession
deriving DecidableEq, Repr

/-- Who may receive the secret that a decryption derives. -/
inductive DecryptFlow where
  | workerOnly
  | localOnly
deriving DecidableEq, Repr

structure Transaction where
  receiverId : String
  actions : List Json
deriving DecidableEq, Repr

structure SignTransactionPayload where
  account : String
  transactions : List Transaction
  authMode : SigningAuthMode
  sessionId : Option String
  intentDigest : Option String
deriving DecidableEq, Repr

structure RegisterAccountPayload where
  account : String
  deviceNumber : Option UInt32
deriving DecidableEq, Repr

structure DecryptPrivateKeyPayload where
  account : String
  flow : DecryptFlow
deriving DecidableEq, Repr

structure SignMessagePayload where
  account : String
  message : String
  recipient : String
  state : Option String
deriving DecidableEq, Repr

structure LinkDevicePayload where
  account : String
  deviceNumber : UInt32
  transactions : List Transaction
deriving DecidableEq, Repr

structure ShowPrivateKeyPayload where
  account : String
deriving DecidableEq, Repr

def SigningAuthMode.codec : Codec SigningAuthMode :=
  .enumeration [("webAuthn", .webAuthn), ("warmSession", .warmSession)]

def DecryptFlow.codec : Codec DecryptFlow := .enumeration [("workerOnly", .workerOnly), ("localOnly", .localOnly)]

def Transaction.codec : Codec Transaction :=
  .record "TransactionInput"
    (.cons (.required "receiverId" .string) (.cons (.withDefault "actions" (Codec.array .json) []) .nil))
    (fun (r, as, ()) => ⟨r, as⟩) (fun t => (t.receiverId, t.actions, ()))

def SignTransactionPayload.codec : Codec SignTransactionPayload :=
  .record "SignTransactionPayload"
    (.cons (.required "nearAccountId" .string)
      (.cons (.required "txSigningRequests" Transaction.codec.array)
        (.cons (.withDefault "signingAuthMode" SigningAuthMode.codec .webAuthn)
          (.cons (.nullable "sessionId" .string) (.cons (.nullable "intentDigest" .string) .nil)))))
    (fun (a, ts, m, s, d, ()) => ⟨a, ts, m, s, d⟩)
    (fun p => (p.account, p.transactions, p.authMode, p.sessionId, p.intentDigest, ()))

def RegisterAccountPayload.codec : Codec RegisterAccountPayload :=
  .record "RegisterAccountPayload"
    (.cons (.required "nearAccountId" .string) (.cons (.nullable "deviceNumber" .u32) .nil))
    (fun (a, n, ()) => ⟨a, n⟩) (fun p => (p.account, p.deviceNumber, ()))

def DecryptPrivateKeyPayload.codec : Codec DecryptPrivateKeyPayload :=
  .record "DecryptPrivateKeyPayload"
    (.cons (.required "nearAccountId" .string) (.cons (.withDefault "flow" DecryptFlow.codec .workerOnly) .nil))
    (fun (a, f, ()) => ⟨a, f⟩) (fun p => (p.account, p.flow, ()))

def SignMessagePayload.codec : Codec SignMessagePayload :=
  .record "SignMessagePayload"
    (.cons (.required "nearAccountId" .string)
      (.cons (.required "message" .string)
        (.cons (.required "recipient" .string) (.cons (.nullable "state" .string) .nil))))
    (fun (a, m, r, s, ()) => ⟨a, m, r, s⟩) (fun p => (p.account, p.message, p.recipient, p.state, ()))

def LinkDevicePayload.codec : Codec LinkDevicePayload :=
  .record "LinkDevicePayload"
    (.cons (.required "nearAccountId" .string)
      (.cons (.required "deviceNumber" .u32)
        (.cons (.withDefault "txSigningRequests" Transaction.codec.array []) .nil)))
    (fun (a, n, ts, ()) => ⟨a, n, ts⟩) (fun p => (p.account, p.deviceNumber, p.transactions, ()))

def ShowPrivateKeyPayload.codec : Codec ShowPrivateKeyPayload :=
  .record "ShowPrivateKeyPayload" (.cons (.required "nearAccountId" .string) .nil) (fun (a, ()) => ⟨a⟩)
    (fun p => (p.account, ()))

/-- The payload of a request, by operation. -/
inductive Payload where
  | signTransaction (p : SignTransactionPayload)
  | registerAccount (p : RegisterAccountPayload)
  | decryptPrivateKey (p : DecryptPrivateKeyPayload)
  | signMessage (p : SignMessagePayload)
  | linkDevice (p : LinkDevicePayload)
  | showPrivateKey (p : ShowPrivateKeyPayload)
deriving DecidableEq, Repr

namespace Payload

def operation : Payload → Operation
  | .signTransaction _ => .signTransaction
  | .registerAccount _ => .registerAccount
  | .decryptPrivateKey _ => .decryptPrivateKey
  | .signMessage _ => .signMessage
  | .linkDevice _ => .linkDevice
  | .showPrivateKey _ => .showPrivateKey

def account : Payload → String
  | .signTransaction p => p.account
  | .registerAccount p => p.account
  | .decryptPrivateKey p => p.account
  | .signMessage p => p.account
  | .linkDevice p => p.account
  | .showPrivateKey p => p.account

/-- How many sequence numbers the request needs: one per transaction and at least one, for the operations that send
transactions. -/
def nonceCount : Payload → Nat
  | .signTransaction p => max p.transactions.length 1
  | .linkDevice p => max p.transactions.length 1
  | _ => 0

def encode : Payload → Json
  | .signTransaction p => SignTransactionPayload.codec.encode p
  | .registerAccount p => RegisterAccountPayload.codec.encode p
  | .decryptPrivateKey p => DecryptPrivateKeyPayload.codec.encode p
  | .signMessage p => SignMessagePayload.codec.encode p
  | .linkDevice p => LinkDevicePayload.codec.encode p
  | .showPrivateKey p => ShowPrivateKeyPayload.codec.encode p

/-- Reads the payload of an operation. -/
def decode : Operation → Json → Except Fault Payload
  | .signTransaction, j => (SignTransactionPayload.codec.ofJson j).map .signTransaction
  | .registerAccount, j => (RegisterAccountPayload.codec.ofJson j).map .registerAccount
  | .decryptPrivateKey, j => (DecryptPrivateKeyPayload.codec.ofJson j).map .decryptPrivateKey
  | .signMessage, j => (SignMessagePayload.codec.ofJson j).map .signMessage
  | .linkDevice, j => (LinkDevicePayload.codec.ofJson j).map .linkDevice
  | .showPrivateKey, j => (ShowPrivateKeyPayload.codec.ofJson j).map .showPrivateKey

end Payload
end PasskeyConsent

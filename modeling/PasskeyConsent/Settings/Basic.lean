import PasskeyConsent.Policy.Basic
/-!
# Settings

What the user may choose, in sections.  Every value has a default, so that settings can be read from a document that
names only what differs from it.
-/
namespace PasskeyConsent

/-- The chain node. -/
structure RpcSettings where
  network : String := "testnet"
  /-- The address of the node; without one, that of the network. -/
  url : Option String := none
  timeoutMs : UInt64 := 10000
deriving DecidableEq, Repr

/-- The domain that credentials belong to. -/
structure WebAuthnSettings where
  rpId : String := "localhost"
deriving DecidableEq, Repr

structure WarmSessionSettings where
  maxUses : UInt32 := 3
  ttlSecs : UInt64 := 300
deriving DecidableEq, Repr

structure NonceSettings where
  /-- How old a cached context may be within one turn. -/
  baseContextMaxAgeMs : UInt64 := 30000
deriving DecidableEq, Repr

structure WorkerSettings where
  waitTimeoutMs : UInt64 := 60000
deriving DecidableEq, Repr

structure LoggingSettings where
  format : String := "pretty"
deriving DecidableEq, Repr

structure Settings where
  rpc : RpcSettings := {}
  webauthn : WebAuthnSettings := {}
  confirmation : ConfirmationPolicy := {}
  warmSession : WarmSessionSettings := {}
  nonce : NonceSettings := {}
  worker : WorkerSettings := {}
  logging : LoggingSettings := {}
deriving DecidableEq, Repr

/-! ## Codecs -/

namespace RpcSettings

def shape : Shape (String × Option String × UInt64 × Unit) :=
  .cons (.withDefault "network" .string "testnet")
    (.cons (.nullable "url" .string) (.cons (.withDefault "timeout_ms" .u64 10000) .nil))

def fields (s : RpcSettings) : String × Option String × UInt64 × Unit := (s.network, s.url, s.timeoutMs, ())

def codec : Codec RpcSettings := .record "RpcSettings" shape (fun (n, u, t, ()) => ⟨n, u, t⟩) fields

end RpcSettings

namespace WebAuthnSettings

def shape : Shape (String × Unit) := .cons (.withDefault "rp_id" .string "localhost") .nil

def fields (s : WebAuthnSettings) : String × Unit := (s.rpId, ())

def codec : Codec WebAuthnSettings := .record "WebAuthnSettings" shape (fun (r, ()) => ⟨r⟩) fields

end WebAuthnSettings

namespace WarmSessionSettings

def shape : Shape (UInt32 × UInt64 × Unit) :=
  .cons (.withDefault "max_uses" .u32 3) (.cons (.withDefault "ttl_secs" .u64 300) .nil)

def fields (s : WarmSessionSettings) : UInt32 × UInt64 × Unit := (s.maxUses, s.ttlSecs, ())

def codec : Codec WarmSessionSettings := .record "WarmSessionSettings" shape (fun (m, t, ()) => ⟨m, t⟩) fields

end WarmSessionSettings

namespace NonceSettings

def shape : Shape (UInt64 × Unit) := .cons (.withDefault "base_context_max_age_ms" .u64 30000) .nil

def fields (s : NonceSettings) : UInt64 × Unit := (s.baseContextMaxAgeMs, ())

def codec : Codec NonceSettings := .record "NonceSettings" shape (fun (a, ()) => ⟨a⟩) fields

end NonceSettings

namespace WorkerSettings

def shape : Shape (UInt64 × Unit) := .cons (.withDefault "wait_timeout_ms" .u64 60000) .nil

def fields (s : WorkerSettings) : UInt64 × Unit := (s.waitTimeoutMs, ())

def codec : Codec WorkerSettings := .record "WorkerSettings" shape (fun (w, ()) => ⟨w⟩) fields

end WorkerSettings

namespace LoggingSettings

def shape : Shape (String × Unit) := .cons (.withDefault "format" .string "pretty") .nil

def fields (s : LoggingSettings) : String × Unit := (s.format, ())

def codec : Codec LoggingSettings := .record "LoggingSettings" shape (fun (f, ()) => ⟨f⟩) fields

end LoggingSettings

namespace Settings

def shape : Shape (RpcSettings × WebAuthnSettings × ConfirmationPolicy × WarmSessionSettings × NonceSettings ×
    WorkerSettings × LoggingSettings × Unit) :=
  .cons (.withDefault "rpc" RpcSettings.codec {})
    (.cons (.withDefault "webauthn" WebAuthnSettings.codec {})
      (.cons (.withDefault "confirmation" ConfirmationPolicy.codec {})
        (.cons (.withDefault "warm_session" WarmSessionSettings.codec {})
          (.cons (.withDefault "nonce" NonceSettings.codec {})
            (.cons (.withDefault "worker" WorkerSettings.codec {})
              (.cons (.withDefault "logging" LoggingSettings.codec {}) .nil))))))

def codec : Codec Settings :=
  .record "Settings" shape (fun (r, a, c, s, n, w, l, ()) => ⟨r, a, c, s, n, w, l⟩)
    (fun s => (s.rpc, s.webauthn, s.confirmation, s.warmSession, s.nonce, s.worker, s.logging, ()))

/-- The sections with their entries, both in the order in which a person reads them. -/
def sections (s : Settings) : List (String × List (String × Json)) :=
  [("rpc", RpcSettings.shape.members s.rpc.fields), ("webauthn", WebAuthnSettings.shape.members s.webauthn.fields),
   ("confirmation", ConfirmationPolicy.shape.members s.confirmation.fields),
   ("warm_session", WarmSessionSettings.shape.members s.warmSession.fields),
   ("nonce", NonceSettings.shape.members s.nonce.fields), ("worker", WorkerSettings.shape.members s.worker.fields),
   ("logging", LoggingSettings.shape.members s.logging.fields)]

end Settings
end PasskeyConsent

import PasskeyConsent.Config.Environment
import PasskeyConsent.Settings.Path
import PasskeyConsent.Session.Ledger
/-!
# Configuration

What the wallet runs with: each value from its variable if that is set, else from the settings.  A value is checked
wherever it comes from, and its fault is reported under the variable's name.  Sections are resolved one after the other
and the first fault counts.
-/
namespace PasskeyConsent

inductive Network where
  | mainnet
  | testnet
deriving DecidableEq, Repr

def Network.defaultUrl : Network → String
  | .mainnet => "https://rpc.mainnet.near.org"
  | .testnet => "https://rpc.testnet.near.org"

inductive LogFormat where
  | pretty
  | json
deriving DecidableEq, Repr

/-- The filter of log entries when none is asked for. -/
def defaultLogFilter : String := "passkey_confirm=info"

structure Config where
  network : Network
  url : Url
  rpcTimeout : Duration
  rpId : String
  embedding : Embedding
  confirmation : ConfirmationPolicy
  warmSession : SessionLimits
  baseContextMaxAge : Duration
  waitTimeout : Duration
  logFormat : LogFormat
  logFilter : String := defaultLogFilter
deriving DecidableEq, Repr

namespace Config

/-- The form in which choices are compared: no capitals, and an underscore for a hyphen or a space. -/
def plainForm (s : String) : String :=
  String.ofList ((Text.trimList s.toList).map fun c => if c = '-' ∨ c = ' ' then '_' else c.toLower)

/-- Reads one of a few choices, each under all its names; `wanted` lists the names to use. -/
def choice (names : List (String × α)) (wanted key text : String) : Except ConfigError α :=
  match names.lookup (plainForm text) with
  | some a => .ok a
  | none => .error (.invalidValue key ("expected " ++ wanted ++ ", got '" ++ text ++ "'"))

def readNetwork : String → String → Except ConfigError Network :=
  choice [("mainnet", .mainnet), ("testnet", .testnet)] "'mainnet' or 'testnet'"

def readEmbedded : String → String → Except ConfigError Embedding :=
  choice [("1", .embedded), ("true", .embedded), ("yes", .embedded), ("0", .topLevel), ("false", .topLevel),
    ("no", .topLevel)] "a boolean"

def readUiMode : String → String → Except ConfigError UiMode :=
  choice [("skip", .skip), ("none", .skip), ("modal", .modal), ("drawer", .drawer)] "'skip', 'modal', or 'drawer'"

def readBehavior : String → String → Except ConfigError Behavior :=
  choice [("auto_proceed", .autoProceed), ("autoproceed", .autoProceed), ("auto", .autoProceed),
    ("require_click", .requireClick), ("requireclick", .requireClick), ("click", .requireClick)]
    "'auto_proceed' or 'require_click'"

def readTheme : String → String → Except ConfigError Theme :=
  choice [("dark", .dark), ("light", .light)] "'dark' or 'light'"

def readLogFormat : String → String → Except ConfigError LogFormat :=
  choice [("pretty", .pretty), ("text", .pretty), ("json", .json)] "'pretty' or 'json'"

/-- The choice that a variable makes, or `default` where it is unset. -/
def chosen (env : Environment) (read : String → String → Except ConfigError α) (key : String) (default : α) :
    Except ConfigError α := do
  match ← env.value? key with
  | none => return default
  | some text => read key text

def positive (key : String) (n : Nat) : Except ConfigError Nat :=
  if n = 0 then .error (.invalidValue key "must be > 0") else .ok n

/-- A domain that credentials can belong to stands alone, without a scheme or a path. -/
def bareDomain (key text : String) : Except ConfigError String :=
  if text.toList.contains '/' then .error (.invalidValue key ("must be a bare domain, got '" ++ text ++ "'"))
  else .ok text

def resolveRpc (env : Environment) (s : RpcSettings) : Except ConfigError (Network × Url × Duration) := do
  let network ← readNetwork "CONFIRM_NETWORK" ((← env.value? "CONFIRM_NETWORK").getD s.network)
  let address := ((← env.value? "CONFIRM_RPC_URL").or s.url).getD network.defaultUrl
  let url ← Endpoint.read "CONFIRM_RPC_URL" address
  let timeout ← env.number Text.readU64 "CONFIRM_RPC_TIMEOUT_MS" s.timeoutMs.toNat
  return (network, url, .ofMillis (← positive "CONFIRM_RPC_TIMEOUT_MS" timeout))

def resolveWebAuthn (env : Environment) (s : WebAuthnSettings) : Except ConfigError (String × Embedding) := do
  let rpId ← bareDomain "CONFIRM_RP_ID" ((← env.value? "CONFIRM_RP_ID").getD s.rpId)
  return (rpId, ← chosen env readEmbedded "CONFIRM_EMBEDDED" .topLevel)

def resolveConfirmation (env : Environment) (s : ConfirmationPolicy) : Except ConfigError ConfirmationPolicy := do
  let uiMode ← chosen env readUiMode "CONFIRM_UI_MODE" s.uiMode
  let behavior ← chosen env readBehavior "CONFIRM_BEHAVIOR" s.behavior
  let theme ← chosen env readTheme "CONFIRM_THEME" s.theme
  let delay ← env.number Text.readU64 "CONFIRM_AUTO_PROCEED_DELAY_MS" s.autoProceedDelayMs.toNat
  return ⟨uiMode, behavior, .ofNat delay, theme⟩

def resolveWarmSession (env : Environment) (s : WarmSessionSettings) : Except ConfigError SessionLimits := do
  let maxUses ← env.number Text.readU32 "CONFIRM_WARM_SESSION_MAX_USES" s.maxUses.toNat
  let ttl ← env.number Text.readU64 "CONFIRM_WARM_SESSION_TTL_SECS" s.ttlSecs.toNat
  let maxUses ← positive "CONFIRM_WARM_SESSION_MAX_USES" maxUses
  let ttl ← positive "CONFIRM_WARM_SESSION_TTL_SECS" ttl
  return ⟨.ofNat maxUses, .ofSeconds ttl⟩

/-- The configuration that an environment and settings make. -/
def resolve (env : Environment) (s : Settings) : Except ConfigError Config := do
  let (network, url, rpcTimeout) ← resolveRpc env s.rpc
  let (rpId, embedding) ← resolveWebAuthn env s.webauthn
  let confirmation ← resolveConfirmation env s.confirmation
  let warmSession ← resolveWarmSession env s.warmSession
  let maxAge ← env.number Text.readU64 "CONFIRM_BASE_CONTEXT_MAX_AGE_MS" s.nonce.baseContextMaxAgeMs.toNat
  let wait ← env.number Text.readU64 "CONFIRM_WAIT_TIMEOUT_MS" s.worker.waitTimeoutMs.toNat
  let wait ← positive "CONFIRM_WAIT_TIMEOUT_MS" wait
  let logFormat ← readLogFormat "CONFIRM_LOG_FORMAT" ((← env.value? "CONFIRM_LOG_FORMAT").getD s.logging.format)
  return {
    network, url, rpcTimeout, rpId, embedding, confirmation, warmSession, logFormat
    baseContextMaxAge := .ofMillis maxAge
    waitTimeout := .ofMillis wait }

/-- A ledger of warm sessions without any. -/
def ledger (c : Config) : Ledger := { limits := c.warmSession }

end Config
end PasskeyConsent

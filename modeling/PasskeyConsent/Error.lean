import PasskeyConsent.Duration
/-!
# Errors

One type of errors per part of the flow, each constructor a cause; the wording stands in the `message` functions and
nowhere else.  `Error` is any of them, told apart in its text by the part it comes from.
-/
namespace PasskeyConsent

inductive ConfigError where
  | missingRequired (key hint : String)
  | invalidValue (key message : String)
  | parseError (message : String)
  | io (message : String)
deriving DecidableEq, Repr

def ConfigError.message : ConfigError → String
  | .missingRequired key hint => "Missing required configuration: " ++ key ++ ". " ++ hint
  | .invalidValue key message => "Invalid configuration value for " ++ key ++ ": " ++ message
  | .parseError message => "Failed to parse configuration: " ++ message
  | .io message => "IO error: " ++ message

/-- What a setting's text has to be. -/
inductive Expectation where
  | boolean
  | integer
  | document
deriving DecidableEq, Repr

def Expectation.message : Expectation → String
  | .boolean => "true or false"
  | .integer => "an integer"
  | .document => "a JSON document"

inductive SettingsError where
  | unknownPath (path : String)
  | typeMismatch (path : String) (expected : Expectation) (value : String)
  | rejected (path message : String)
  | io (path message : String)
  | malformed (path message : String)
  | encode (message : String)
deriving DecidableEq, Repr

def SettingsError.message : SettingsError → String
  | .unknownPath path => "no setting at '" ++ path ++ "'"
  | .typeMismatch path expected value => "'" ++ path ++ "' expects " ++ expected.message ++ ", got '" ++ value ++ "'"
  | .rejected path message => "'" ++ path ++ "' rejected: " ++ message
  | .io path message => path ++ ": " ++ message
  | .malformed path message => "cannot decode " ++ path ++ ": " ++ message
  | .encode message => "cannot encode settings: " ++ message

/-- Why a request envelope is refused. -/
inductive ValidationError where
  | schemaVersion (expected : Nat) (actual : String)
  | missingRequestId
  | missingKind
  | unsupportedKind (name : String)
  | invalidPayload (kind reason : String)
  | duplicateRequestId (id : String)
  | malformed (message : String)
deriving DecidableEq, Repr

def ValidationError.message : ValidationError → String
  | .schemaVersion expected actual => "schemaVersion must be " ++ toString expected ++ ", got " ++ actual
  | .missingRequestId => "requestId is required"
  | .missingKind => "type is required"
  | .unsupportedKind name => "unsupported confirmation type: " ++ name
  | .invalidPayload kind reason => "invalid payload for " ++ kind ++ ": " ++ reason
  | .duplicateRequestId id => "request " ++ id ++ " is already pending"
  | .malformed message => "malformed request envelope: " ++ message

inductive ChainError where
  | requestFailed (method reason : String)
  | invalidResponse (method reason : String)
  | accessKeyNotFound (account publicKey : String)
  | notInitialized
  | invalidNonce (value : String)
  | http (message : String)
deriving DecidableEq, Repr

def ChainError.message : ChainError → String
  | .requestFailed method reason => "RPC request " ++ method ++ " failed: " ++ reason
  | .invalidResponse method reason => "Invalid RPC response for " ++ method ++ ": " ++ reason
  | .accessKeyNotFound account publicKey => "Access key " ++ publicKey ++ " not found for " ++ account
  | .notInitialized => "Nonce sequencer is not initialized for an account"
  | .invalidNonce value => "Invalid nonce value: " ++ value
  | .http message => "HTTP error: " ++ message

inductive CredentialError where
  | missingPrfResult
  | noCredentials (account : String)
  | authenticatorFailed (message : String)
  | dismissed
  | store (message : String)
deriving DecidableEq, Repr

def CredentialError.message : CredentialError → String
  | .missingPrfResult => "Missing PRF result in authenticator response"
  | .noCredentials account => "No passkey registered for " ++ account ++ " on this device"
  | .authenticatorFailed message => "Authenticator prompt failed: " ++ message
  | .dismissed => "Authenticator prompt was dismissed"
  | .store message => "Credential store error: " ++ message

/-- Whether the error ends a request without any answer: a ceremony without the requested extension result cannot be
trusted, not even to have been declined. -/
def CredentialError.isFatal : CredentialError → Bool
  | .missingPrfResult => true
  | _ => false

inductive FreshnessError where
  | noBootstrap
  | keypairNotLoaded
  | generationFailed (message : String)
deriving DecidableEq, Repr

def FreshnessError.message : FreshnessError → String
  | .noBootstrap => "No bootstrap challenge is available"
  | .keypairNotLoaded => "VRF keypair is not loaded"
  | .generationFailed message => "VRF generation failed: " ++ message

/-- How a wait for one correlated message can end without it. -/
inductive WaitError where
  | timedOut (id : String) (timeout : Duration)
  | aborted (id : String)
  | closed (id : String)
deriving DecidableEq, Repr

def WaitError.message : WaitError → String
  | .timedOut id timeout => "Request " ++ id ++ " timed out after " ++ timeout.text
  | .aborted id => "Request " ++ id ++ " aborted"
  | .closed id => "Response channel closed while waiting for " ++ id

inductive ChannelError where
  | notAttached (session : String)
  | alreadyAttached (session : String)
  | seedConsumed (session : String)
  | sendFailed (name reason : String)
  | handshake (cause : WaitError)
  | serialization (message : String)
deriving DecidableEq, Repr

def ChannelError.message : ChannelError → String
  | .notAttached session => "Session " ++ session ++ " is not attached"
  | .alreadyAttached session => "Session " ++ session ++ " is already attached"
  | .seedConsumed session => "Seed for session " ++ session ++ " was already consumed"
  | .sendFailed name reason => "Failed to send on channel " ++ name ++ ": " ++ reason
  | .handshake cause => "Channel handshake failed: " ++ cause.message
  | .serialization message => "Serialization error: " ++ message

inductive SessionError where
  | notFound (session : String)
  | expired (session : String)
  | exhausted (session : String)
  | dispenseFailed (message : String)
deriving DecidableEq, Repr

def SessionError.message : SessionError → String
  | .notFound session => "Warm session " ++ session ++ " not found"
  | .expired session => "Warm session " ++ session ++ " expired"
  | .exhausted session => "Warm session " ++ session ++ " has no remaining uses"
  | .dispenseFailed message => "Session key dispense failed: " ++ message

inductive Error where
  | config (e : ConfigError)
  | validation (e : ValidationError)
  | chain (e : ChainError)
  | credential (e : CredentialError)
  | freshness (e : FreshnessError)
  | wait (e : WaitError)
  | channel (e : ChannelError)
  | session (e : SessionError)
  | settings (e : SettingsError)
deriving DecidableEq, Repr

/-- The text of the part's own error. -/
def Error.source : Error → String
  | .config e => e.message
  | .validation e => e.message
  | .chain e => e.message
  | .credential e => e.message
  | .freshness e => e.message
  | .wait e => e.message
  | .channel e => e.message
  | .session e => e.message
  | .settings e => e.message

def Error.part : Error → String
  | .config _ => "Configuration error"
  | .validation _ => "Validation error"
  | .chain _ => "Chain error"
  | .credential _ => "Credential error"
  | .freshness _ => "Freshness error"
  | .wait _ => "Wait error"
  | .channel _ => "Channel error"
  | .session _ => "Session error"
  | .settings _ => "Settings error"

def Error.message (e : Error) : String := e.part ++ ": " ++ e.source

/-- The stable code of a negative answer. -/
inductive ErrorCode where
  | validationFailed
  | userCancelled
  | chainUnavailable
  | wrongPasskey
  | warmSessionUnavailable
  | challengeUnavailable
  | credentialFailed
  | signerUnavailable
deriving DecidableEq, Repr

def ErrorCode.table : List (String × ErrorCode) :=
  [("validation_failed", .validationFailed), ("user_cancelled", .userCancelled),
   ("chain_unavailable", .chainUnavailable), ("wrong_passkey", .wrongPasskey),
   ("warm_session_unavailable", .warmSessionUnavailable), ("challenge_unavailable", .challengeUnavailable),
   ("credential_failed", .credentialFailed), ("signer_unavailable", .signerUnavailable)]

end PasskeyConsent

import PasskeyConsent.Error
/-!
# Kinds of errors

A stable name for each cause, by which a log or another process tells errors apart without reading their texts.
-/
namespace PasskeyConsent

def ConfigError.kind : ConfigError → String
  | .missingRequired .. => "MissingRequired"
  | .invalidValue .. => "InvalidValue"
  | .parseError .. => "ParseError"
  | .io .. => "Io"

def SettingsError.kind : SettingsError → String
  | .unknownPath .. => "UnknownPath"
  | .typeMismatch .. => "TypeMismatch"
  | .rejected .. => "Rejected"
  | .io .. => "Io"
  | .malformed .. => "Malformed"
  | .encode .. => "Encode"

def ValidationError.kind : ValidationError → String
  | .schemaVersion .. => "SchemaVersion"
  | .missingRequestId => "MissingRequestId"
  | .missingKind => "MissingKind"
  | .unsupportedKind .. => "UnsupportedKind"
  | .invalidPayload .. => "InvalidPayload"
  | .duplicateRequestId .. => "DuplicateRequestId"
  | .malformed .. => "Malformed"

def ChainError.kind : ChainError → String
  | .requestFailed .. => "RequestFailed"
  | .invalidResponse .. => "InvalidResponse"
  | .accessKeyNotFound .. => "AccessKeyNotFound"
  | .notInitialized => "NotInitialized"
  | .invalidNonce .. => "InvalidNonce"
  | .http .. => "Http"

def CredentialError.kind : CredentialError → String
  | .missingPrfResult => "MissingPrfResult"
  | .noCredentials .. => "NoCredentials"
  | .authenticatorFailed .. => "AuthenticatorFailed"
  | .dismissed => "Dismissed"
  | .store .. => "Store"

def FreshnessError.kind : FreshnessError → String
  | .noBootstrap => "NoBootstrap"
  | .keypairNotLoaded => "KeypairNotLoaded"
  | .generationFailed .. => "GenerationFailed"

def WaitError.kind : WaitError → String
  | .timedOut .. => "TimedOut"
  | .aborted .. => "Aborted"
  | .closed .. => "Closed"

def ChannelError.kind : ChannelError → String
  | .notAttached .. => "NotAttached"
  | .alreadyAttached .. => "AlreadyAttached"
  | .seedConsumed .. => "SeedConsumed"
  | .sendFailed .. => "SendFailed"
  | .handshake .. => "Handshake"
  | .serialization .. => "Serialization"

def SessionError.kind : SessionError → String
  | .notFound .. => "NotFound"
  | .expired .. => "Expired"
  | .exhausted .. => "Exhausted"
  | .dispenseFailed .. => "DispenseFailed"

def Error.kind : Error → String
  | .config e => e.kind
  | .validation e => e.kind
  | .chain e => e.kind
  | .credential e => e.kind
  | .freshness e => e.kind
  | .wait e => e.kind
  | .channel e => e.kind
  | .session e => e.kind
  | .settings e => e.kind

end PasskeyConsent

import PasskeyConsent.Config.Basic
import PasskeyConsent.Proofs.Settings.Leaves
/-!
# How a configuration is resolved

Every leaf of the settings has a variable and a place in the configuration.  `Config.value_of_resolve` is the one
inversion of the resolution: what a leaf has become was read from its variable's text if that is set, and made from the
settings' value otherwise.
-/
namespace PasskeyConsent

theorem ok_of_any {ε α : Type} {r : Except ε α} {p : α → Bool} (h : r.toOption.any p = true) :
    ∃ a, r = .ok a ∧ p a = true := by
  cases r with
  | error e => cases h
  | ok a => exact ⟨a, rfl, h⟩

/-- The number that a variable's text gives. -/
def Environment.numberOf (read : String → Except Text.NumeralFault Nat) (key text : String) : Except ConfigError Nat :=
  (read text).mapError fun f => .invalidValue key ("must be a valid number: " ++ f.message)

/-- What is made of a number was made of its variable's text, or of the default. -/
theorem Environment.number_bind_eq_ok {α : Type} {env : Environment} {read : String → Except Text.NumeralFault Nat}
    {key : String} {default n : Nat} {f : Nat → Except ConfigError α} {a : α} (hn : env.number read key default = .ok n)
    (ha : f n = .ok a) :
    ∃ given, env.value? key = .ok given ∧
      (match given with
        | some text => numberOf read key text >>= f
        | none => f default) = .ok a := by
  obtain ⟨given, hgiven, hn⟩ := ok_of_bind hn
  refine ⟨given, hgiven, ?_⟩
  cases given with
  | none => exact Except.ok.inj hn ▸ ha
  | some text =>
    dsimp only at hn ⊢
    unfold numberOf
    cases hread : read text <;> rw [hread] at hn
    · cases hn
    · exact Except.ok.inj hn ▸ ha

namespace Config

open Settings (Leaf)

/-- What a leaf is in a configuration. -/
@[reducible] def Resolved : Leaf → Type
  | .network => Network
  | .url => Url
  | .rpcTimeout | .timeToLive | .contextAge | .waitTimeout => Duration
  | .rpId => String
  | .uiMode => UiMode
  | .behavior => Behavior
  | .proceedDelay => UInt64
  | .theme => Theme
  | .maxUses => UInt32
  | .logFormat => LogFormat

def value (c : Config) : (ℓ : Leaf) → Resolved ℓ
  | .network => c.network
  | .url => c.url
  | .rpcTimeout => c.rpcTimeout
  | .rpId => c.rpId
  | .uiMode => c.confirmation.uiMode
  | .behavior => c.confirmation.behavior
  | .proceedDelay => c.confirmation.autoProceedDelayMs
  | .theme => c.confirmation.theme
  | .maxUses => c.warmSession.maxUses
  | .timeToLive => c.warmSession.timeToLive
  | .contextAge => c.baseContextMaxAge
  | .waitTimeout => c.waitTimeout
  | .logFormat => c.logFormat

/-- The variable that goes before a leaf. -/
def variableOf : Leaf → String
  | .network => "CONFIRM_NETWORK"
  | .url => "CONFIRM_RPC_URL"
  | .rpcTimeout => "CONFIRM_RPC_TIMEOUT_MS"
  | .rpId => "CONFIRM_RP_ID"
  | .uiMode => "CONFIRM_UI_MODE"
  | .behavior => "CONFIRM_BEHAVIOR"
  | .proceedDelay => "CONFIRM_AUTO_PROCEED_DELAY_MS"
  | .theme => "CONFIRM_THEME"
  | .maxUses => "CONFIRM_WARM_SESSION_MAX_USES"
  | .timeToLive => "CONFIRM_WARM_SESSION_TTL_SECS"
  | .contextAge => "CONFIRM_BASE_CONTEXT_MAX_AGE_MS"
  | .waitTimeout => "CONFIRM_WAIT_TIMEOUT_MS"
  | .logFormat => "CONFIRM_LOG_FORMAT"

/-- What a leaf becomes by the text of its variable. -/
def readText : (ℓ : Leaf) → (key text : String) → Except ConfigError (Resolved ℓ)
  | .network => readNetwork
  | .url => Endpoint.read
  | .rpcTimeout | .waitTimeout => fun key text => do
    return .ofMillis (← positive key (← Environment.numberOf Text.readU64 key text))
  | .rpId => bareDomain
  | .uiMode => readUiMode
  | .behavior => readBehavior
  | .proceedDelay => fun key text => do return .ofNat (← Environment.numberOf Text.readU64 key text)
  | .theme => readTheme
  | .maxUses => fun key text => do return .ofNat (← positive key (← Environment.numberOf Text.readU32 key text))
  | .timeToLive => fun key text => do
    return .ofSeconds (← positive key (← Environment.numberOf Text.readU64 key text))
  | .contextAge => fun key text => do return .ofMillis (← Environment.numberOf Text.readU64 key text)
  | .logFormat => readLogFormat

/-- What a leaf becomes by its value in the settings; the address of the node may be left to the network. -/
def readValue (network : Network) : (ℓ : Leaf) → (key : String) → ℓ.Value → Except ConfigError (Resolved ℓ)
  | .network => readNetwork
  | .url => fun key url => Endpoint.read key (url.getD network.defaultUrl)
  | .rpcTimeout | .waitTimeout => fun key n => do return .ofMillis (← positive key n.toNat)
  | .rpId => bareDomain
  | .uiMode | .behavior | .theme | .proceedDelay => fun _ v => .ok v
  | .maxUses => fun key n => do return .ofNat (← positive key n.toNat)
  | .timeToLive => fun key n => do return .ofSeconds (← positive key n.toNat)
  | .contextAge => fun _ n => .ok (.ofMillis n.toNat)
  | .logFormat => readLogFormat

/-- What a leaf becomes: its variable goes before the settings. -/
def readLeaf (network : Network) (ℓ : Leaf) (given : Option String) (v : ℓ.Value) : Except ConfigError (Resolved ℓ) :=
  match given with
  | some text => readText ℓ (variableOf ℓ) text
  | none => readValue network ℓ (variableOf ℓ) v

variable {env : Environment} {s : Settings} {c : Config}

theorem chosen_eq_ok {α : Type} {read : String → String → Except ConfigError α} {key : String} {default a : α}
    (h : chosen env read key default = .ok a) :
    ∃ given, env.value? key = .ok given ∧
      (match given with
        | some text => read key text
        | none => .ok default) = .ok a := by
  obtain ⟨given, hgiven, h⟩ := ok_of_bind h
  exact ⟨given, hgiven, by cases given <;> exact h⟩

/-- The parts of a configuration, each of which has been resolved for itself. -/
theorem parts_of_resolve (h : resolve env s = .ok c) :
    resolveRpc env s.rpc = .ok (c.network, c.url, c.rpcTimeout) ∧
    resolveWebAuthn env s.webauthn = .ok (c.rpId, c.embedding) ∧
    resolveConfirmation env s.confirmation = .ok c.confirmation ∧
    resolveWarmSession env s.warmSession = .ok c.warmSession ∧
    (∃ n, env.number Text.readU64 (variableOf .contextAge) s.nonce.baseContextMaxAgeMs.toNat = .ok n ∧
      c.baseContextMaxAge = .ofMillis n) ∧
    (∃ m n, env.number Text.readU64 (variableOf .waitTimeout) s.worker.waitTimeoutMs.toNat = .ok m ∧
      positive (variableOf .waitTimeout) m = .ok n ∧ c.waitTimeout = .ofMillis n) ∧
    ∃ given, env.value? (variableOf .logFormat) = .ok given ∧
      readLogFormat (variableOf .logFormat) (given.getD s.logging.format) = .ok c.logFormat := by
  obtain ⟨⟨network, url, timeout⟩, hrpc, h⟩ := ok_of_bind h
  obtain ⟨⟨rpId, embedding⟩, hwebauthn, h⟩ := ok_of_bind h
  obtain ⟨confirmation, hconfirmation, h⟩ := ok_of_bind h
  obtain ⟨warm, hwarm, h⟩ := ok_of_bind h
  obtain ⟨age, hage, h⟩ := ok_of_bind h
  obtain ⟨m, hm, h⟩ := ok_of_bind h
  obtain ⟨n, hn, h⟩ := ok_of_bind h
  obtain ⟨given, hgiven, h⟩ := ok_of_bind h
  obtain ⟨format, hformat, h⟩ := ok_of_bind h
  cases h
  exact ⟨hrpc, hwebauthn, hconfirmation, hwarm, ⟨age, hage, rfl⟩, ⟨m, n, hm, hn, rfl⟩, given, hgiven, hformat⟩

/-- That a leaf has become what its variable makes of it, or its value in the settings where the variable is unset. -/
def Settles (env : Environment) (network : Network) (ℓ : Leaf) (v : ℓ.Value) (r : Resolved ℓ) : Prop :=
  ∃ given, env.value? (variableOf ℓ) = .ok given ∧ readLeaf network ℓ given v = .ok r

/-- A number that may not be zero, and what is made of it. -/
theorem settles_positive {network : Network} (ℓ : Leaf) {v : ℓ.Value} {read : String → Except Text.NumeralFault Nat}
    {default m n : Nat} (make : Nat → Resolved ℓ) (hm : env.number read (variableOf ℓ) default = .ok m)
    (hn : positive (variableOf ℓ) m = .ok n)
    (hread : ∀ given, readLeaf network ℓ given v = match given with
      | some text => do return make (← positive (variableOf ℓ) (← Environment.numberOf read (variableOf ℓ) text))
      | none => do return make (← positive (variableOf ℓ) default)) :
    Settles env network ℓ v (make n) := by
  let f (m : Nat) : Except ConfigError (Resolved ℓ) := do return make (← positive (variableOf ℓ) m)
  have hmade : f m = .ok (make n) := by
    show (positive (variableOf ℓ) m >>= _) = _
    rw [hn]
    rfl
  obtain ⟨given, hgiven, h⟩ := Environment.number_bind_eq_ok hm hmade
  exact ⟨given, hgiven, (hread given).trans h⟩

theorem settles_rpc {s : RpcSettings} {network : Network} {url : Url} {timeout : Duration}
    (h : resolveRpc env s = .ok (network, url, timeout)) :
    Settles env network .network s.network network ∧ Settles env network .url s.url url ∧
      Settles env network .rpcTimeout s.timeoutMs timeout := by
  obtain ⟨g₁, hg₁, h⟩ := ok_of_bind h
  obtain ⟨_, hnetwork, h⟩ := ok_of_bind h
  obtain ⟨g₂, hg₂, h⟩ := ok_of_bind h
  obtain ⟨_, hurl, h⟩ := ok_of_bind h
  obtain ⟨m, hm, h⟩ := ok_of_bind h
  obtain ⟨n, hn, h⟩ := ok_of_bind h
  cases h
  refine ⟨⟨g₁, hg₁, ?_⟩, ⟨g₂, hg₂, ?_⟩, settles_positive .rpcTimeout .ofMillis hm hn fun g => by cases g <;> rfl⟩
  · cases g₁ <;> exact hnetwork
  · cases g₂ <;> exact hurl

theorem settles_webauthn {s : WebAuthnSettings} {rpId : String} {embedding : Embedding} (network : Network)
    (h : resolveWebAuthn env s = .ok (rpId, embedding)) :
    Settles env network .rpId s.rpId rpId ∧ chosen env readEmbedded "CONFIRM_EMBEDDED" .topLevel = .ok embedding := by
  obtain ⟨given, hgiven, h⟩ := ok_of_bind h
  obtain ⟨_, hdomain, h⟩ := ok_of_bind h
  obtain ⟨_, hembedding, h⟩ := ok_of_bind h
  cases h
  exact ⟨⟨given, hgiven, by cases given <;> exact hdomain⟩, hembedding⟩

theorem settles_confirmation {s p : ConfirmationPolicy} {network : Network} (h : resolveConfirmation env s = .ok p) :
    Settles env network .uiMode s.uiMode p.uiMode ∧ Settles env network .behavior s.behavior p.behavior ∧
      Settles env network .proceedDelay s.autoProceedDelayMs p.autoProceedDelayMs ∧
      Settles env network .theme s.theme p.theme := by
  obtain ⟨_, huiMode, h⟩ := ok_of_bind h
  obtain ⟨_, hbehavior, h⟩ := ok_of_bind h
  obtain ⟨_, htheme, h⟩ := ok_of_bind h
  obtain ⟨n, hn, h⟩ := ok_of_bind h
  cases h
  obtain ⟨g₁, hg₁, huiMode⟩ := chosen_eq_ok huiMode
  obtain ⟨g₂, hg₂, hbehavior⟩ := chosen_eq_ok hbehavior
  obtain ⟨g₃, hg₃, hn⟩ := Environment.number_bind_eq_ok (f := fun n => .ok (UInt64.ofNat n)) hn rfl
  obtain ⟨g₄, hg₄, htheme⟩ := chosen_eq_ok htheme
  refine ⟨⟨g₁, hg₁, ?_⟩, ⟨g₂, hg₂, ?_⟩, ⟨g₃, hg₃, ?_⟩, ⟨g₄, hg₄, ?_⟩⟩
  · cases g₁ <;> exact huiMode
  · cases g₂ <;> exact hbehavior
  · cases g₃ with
    | none => exact hn.symm ▸ congrArg Except.ok (UInt64.ofNat_toNat).symm
    | some text => exact hn
  · cases g₄ <;> exact htheme

theorem settles_warmSession {s : WarmSessionSettings} {network : Network} {limits : SessionLimits}
    (h : resolveWarmSession env s = .ok limits) :
    Settles env network .maxUses s.maxUses limits.maxUses ∧
      Settles env network .timeToLive s.ttlSecs limits.timeToLive := by
  obtain ⟨m₁, hm₁, h⟩ := ok_of_bind h
  obtain ⟨m₂, hm₂, h⟩ := ok_of_bind h
  obtain ⟨n₁, hn₁, h⟩ := ok_of_bind h
  obtain ⟨n₂, hn₂, h⟩ := ok_of_bind h
  cases h
  exact ⟨settles_positive .maxUses .ofNat hm₁ hn₁ fun g => by cases g <;> rfl,
    settles_positive .timeToLive .ofSeconds hm₂ hn₂ fun g => by cases g <;> rfl⟩

/-- **What each leaf has become**: it was read from its variable, or from the settings where that is unset. -/
theorem settles_of_resolve (h : resolve env s = .ok c) (ℓ : Leaf) :
    Settles env c.network ℓ (s.value ℓ) (c.value ℓ) := by
  obtain ⟨hrpc, hwebauthn, hconfirmation, hwarm, ⟨age, hage, hage'⟩, ⟨m, n, hm, hn, hwait⟩, given, hgiven, hformat⟩ :=
    parts_of_resolve h
  cases ℓ with
  | network => exact (settles_rpc hrpc).1
  | url => exact (settles_rpc hrpc).2.1
  | rpcTimeout => exact (settles_rpc hrpc).2.2
  | rpId => exact (settles_webauthn _ hwebauthn).1
  | uiMode => exact (settles_confirmation hconfirmation).1
  | behavior => exact (settles_confirmation hconfirmation).2.1
  | proceedDelay => exact (settles_confirmation hconfirmation).2.2.1
  | theme => exact (settles_confirmation hconfirmation).2.2.2
  | maxUses => exact (settles_warmSession hwarm).1
  | timeToLive => exact (settles_warmSession hwarm).2
  | contextAge =>
    obtain ⟨g, hg, h⟩ := Environment.number_bind_eq_ok (f := fun n => .ok (Duration.ofMillis n)) hage rfl
    show Settles env c.network .contextAge s.nonce.baseContextMaxAgeMs c.baseContextMaxAge
    exact hage' ▸ ⟨g, hg, by cases g <;> exact h⟩
  | waitTimeout =>
    show Settles env c.network .waitTimeout s.worker.waitTimeoutMs c.waitTimeout
    exact hwait ▸ settles_positive .waitTimeout .ofMillis hm hn fun g => by cases g <;> rfl
  | logFormat => exact ⟨given, hgiven, by cases given <;> exact hformat⟩

end Config
end PasskeyConsent

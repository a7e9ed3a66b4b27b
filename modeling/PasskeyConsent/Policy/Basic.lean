import PasskeyConsent.Operation
/-!
# Confirmation policy

How a confirmation is presented: stored preferences, a partial override that a request may carry, and `resolvePolicy`,
which gives the policy that a request runs under.  Decrypting a key shows no surface unless an override asks for one.
Inside another origin's page a high-risk operation without an override gets a surface with a click, whatever is stored;
any override, also an empty one, is taken as the caller's own decision and lifts that clamp.
-/
namespace PasskeyConsent

inductive UiMode where
  | skip
  | modal
  | drawer
deriving DecidableEq, Repr

inductive Behavior where
  | autoProceed
  | requireClick
deriving DecidableEq, Repr

inductive Theme where
  | dark
  | light
deriving DecidableEq, Repr

def UiMode.codec : Codec UiMode := .enumeration [("skip", .skip), ("modal", .modal), ("drawer", .drawer)]

def Behavior.codec : Codec Behavior :=
  .enumeration [("autoProceed", .autoProceed), ("requireClick", .requireClick)]

def Theme.codec : Codec Theme := .enumeration [("dark", .dark), ("light", .light)]

def defaultAutoProceedDelay : UInt64 := 1000

structure ConfirmationPolicy where
  uiMode : UiMode := .modal
  behavior : Behavior := .requireClick
  autoProceedDelayMs : UInt64 := defaultAutoProceedDelay
  theme : Theme := .dark
deriving DecidableEq, Repr

/-- A partial policy; what it leaves open is taken from the stored preferences. -/
structure PolicyOverride where
  uiMode : Option UiMode := none
  behavior : Option Behavior := none
  autoProceedDelayMs : Option UInt64 := none
  theme : Option Theme := none
deriving DecidableEq, Repr

/-- The delay is read under a short name too. -/
def delayNames : List String := ["autoProceedDelay", "autoProceedDelayMs"]

namespace ConfirmationPolicy

def default : ConfirmationPolicy := {}

def shape : Shape (UiMode × Behavior × UInt64 × Theme × Unit) :=
  .cons (.withDefault "uiMode" UiMode.codec .modal)
    (.cons (.withDefault "behavior" Behavior.codec .requireClick)
      (.cons { Field.withDefault "autoProceedDelayMs" .u64 defaultAutoProceedDelay with names := delayNames }
        (.cons (.withDefault "theme" Theme.codec .dark) .nil)))

def fields (p : ConfirmationPolicy) : UiMode × Behavior × UInt64 × Theme × Unit :=
  (p.uiMode, p.behavior, p.autoProceedDelayMs, p.theme, ())

def codec : Codec ConfirmationPolicy :=
  .record "ConfirmationPolicy" shape (fun (u, b, d, t, ()) => ⟨u, b, d, t⟩) fields

/-- Whether a surface is shown at all. -/
def showsUi (p : ConfirmationPolicy) : Bool := p.uiMode != .skip

end ConfirmationPolicy

namespace PolicyOverride

def shape : Shape (Option UiMode × Option Behavior × Option UInt64 × Option Theme × Unit) :=
  .cons (.nullable "uiMode" UiMode.codec)
    (.cons (.nullable "behavior" Behavior.codec)
      (.cons { Field.nullable "autoProceedDelayMs" .u64 with names := delayNames }
        (.cons (.nullable "theme" Theme.codec) .nil)))

def codec : Codec PolicyOverride :=
  .strictRecord "PolicyOverride" shape (fun (u, b, d, t, ()) => ⟨u, b, d, t⟩)
    (fun o => (o.uiMode, o.behavior, o.autoProceedDelayMs, o.theme, ()))

def apply (o : PolicyOverride) (base : ConfirmationPolicy) : ConfirmationPolicy where
  uiMode := o.uiMode.getD base.uiMode
  behavior := o.behavior.getD base.behavior
  autoProceedDelayMs := o.autoProceedDelayMs.getD base.autoProceedDelayMs
  theme := o.theme.getD base.theme

end PolicyOverride

/-- Where the wallet runs relative to the page that uses it. -/
inductive Embedding where
  | topLevel
  | embedded
deriving DecidableEq, Repr

/-- The policy that a request runs under. -/
def resolvePolicy (stored : ConfirmationPolicy) (requested : Option PolicyOverride) (op : Operation)
    (embedding : Embedding) : ConfirmationPolicy :=
  let base := if op = .decryptPrivateKey then { stored with uiMode := .skip } else stored
  match requested with
  | some o => o.apply base
  | none =>
    if op.isHighRisk && embedding = .embedded then { stored with uiMode := .modal, behavior := .requireClick } else base

end PasskeyConsent

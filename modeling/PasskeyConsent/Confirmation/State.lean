import PasskeyConsent.Response
import PasskeyConsent.Transfer
/-!
# States and holdings of a request

The states a request passes through, and what it has taken on the way that must be given back if it does not end in an
approval.
-/
namespace PasskeyConsent

inductive ConfirmState where
  | validating
  | policyResolved
  | uiWait
  | collecting
  | freshnessBinding
  | nonceReserving
  | responding
  | cancelled
  | failed
deriving DecidableEq, Repr

namespace ConfirmState

def all : List ConfirmState :=
  [.validating, .policyResolved, .uiWait, .collecting, .freshnessBinding, .nonceReserving, .responding, .cancelled,
   .failed]

def name : ConfirmState → String
  | .validating => "validating"
  | .policyResolved => "policy_resolved"
  | .uiWait => "ui_wait"
  | .collecting => "collecting"
  | .freshnessBinding => "freshness_binding"
  | .nonceReserving => "nonce_reserving"
  | .responding => "responding"
  | .cancelled => "cancelled"
  | .failed => "failed"

def isTerminal : ConfirmState → Bool
  | .responding | .cancelled | .failed => true
  | _ => false

end ConfirmState

/-- What a request holds while it runs. -/
structure Holdings where
  /-- Sequence numbers reserved for it. -/
  nonces : List Nat := []
  /-- The use it took of a warm session, and the account it took it for. -/
  warmUse : Option (WarmSessionGrant × String) := none
  /-- The session it is attaching to the signing worker. -/
  channel : Option String := none
  /-- The surface mounted for it. -/
  surface : Option UiHandle := none
deriving DecidableEq, Repr

end PasskeyConsent

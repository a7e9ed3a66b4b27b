import PasskeyConsent.Error
/-!
# Waiting for a correlated message

A mailbox holds the messages that have arrived and whether more can come.  `Mailbox.look` is one look at it on behalf
of a wait for one id: an abort comes before a deadline that has passed, and that before any message; messages for
others are dropped on the way to the first that answers, and nothing behind it is touched.
-/
namespace PasskeyConsent

structure Mailbox (α : Type) where
  messages : List α := []
  closed : Bool := false
deriving DecidableEq, Repr

/-- What has happened to a wait apart from messages. -/
structure WaitSigns where
  aborted : Bool
  overdue : Bool
deriving DecidableEq, Repr

inductive WaitOutcome (α : Type) where
  | received (message : α)
  | aborted
  | timedOut
  | closed
deriving DecidableEq, Repr

namespace WaitOutcome

def toExcept (id : String) (timeout : Duration) : WaitOutcome α → Except WaitError α
  | .received m => .ok m
  | .aborted => .error (.aborted id)
  | .timedOut => .error (.timedOut id timeout)
  | .closed => .error (.closed id)

end WaitOutcome

namespace Mailbox

def deliver (b : Mailbox α) (m : α) : Mailbox α := { b with messages := b.messages ++ [m] }

/-- The first message that answers, and what is behind it. -/
def firstAnswer (answers : α → Bool) : List α → Option (α × List α)
  | [] => none
  | m :: rest => if answers m then some (m, rest) else firstAnswer answers rest

/-- One look; no outcome means that the wait goes on. -/
def look (b : Mailbox α) (answers : α → Bool) (signs : WaitSigns) : Option (WaitOutcome α) × Mailbox α :=
  if signs.aborted then (some .aborted, b)
  else if signs.overdue then (some .timedOut, b)
  else
    match firstAnswer answers b.messages with
    | some (m, rest) => (some (.received m), { b with messages := rest })
    | none => (if b.closed then some .closed else none, { b with messages := [] })

end Mailbox
end PasskeyConsent

import PasskeyConsent.Collections.Table
import PasskeyConsent.Error
import PasskeyConsent.Response
import PasskeyConsent.Text.Numeral
/-!
# The warm-session ledger

A warm session lets an account sign a number of times without another ceremony.  The ledger holds, per session, the
account it was granted to, the uses that remain and when it ends.  Every operation that looks at the clock is given its
reading.
-/
namespace PasskeyConsent

/-- The limits of a new session. -/
structure SessionLimits where
  maxUses : UInt32
  timeToLive : Duration
deriving DecidableEq, Repr

structure WarmSession where
  account : String
  remainingUses : UInt32
  expiresAt : Instant
deriving DecidableEq, Repr

namespace WarmSession

def isOver (s : WarmSession) (now : Instant) : Bool := s.expiresAt.le now

def isUsable (s : WarmSession) (now : Instant) : Bool := s.remainingUses != 0 && !s.isOver now

def grant (s : WarmSession) (id : String) : WarmSessionGrant := ⟨id, s.remainingUses, s.expiresAt⟩

end WarmSession

structure Ledger where
  limits : SessionLimits
  sessions : Table WarmSession := {}
deriving DecidableEq, Repr

namespace Ledger

/-- The longest time to live that the calendar can count, in milliseconds; a longer one counts as none at all. -/
def longestMillis : Nat := Nat.pow 2 63 - 1

/-- The time to live in nanoseconds. -/
def timeToLive (l : Ledger) : Nat :=
  if l.limits.timeToLive.nanos ≤ longestMillis * 1000000 then l.limits.timeToLive.nanos else 0

/-- Opens or renews a session with the full budget.  There is no session whose end lies past the end of the
calendar. -/
def grant (l : Ledger) (now : Instant) (id account : String) : Option (WarmSessionGrant × Ledger) :=
  (now.addNanos? l.timeToLive).map fun expiresAt =>
    let s : WarmSession := ⟨account, l.limits.maxUses, expiresAt⟩
    (s.grant id, { l with sessions := l.sessions.put id s })

/-- Takes one use.  A session that is over or used up is removed. -/
def consume (l : Ledger) (now : Instant) (id account : String) : Except SessionError WarmSessionGrant × Ledger :=
  match l.sessions.get? id with
  | none => (.error (.notFound id), l)
  | some s =>
    if s.account ≠ account then (.error (.notFound id), l)
    else if s.isOver now then (.error (.expired id), { l with sessions := l.sessions.erase id })
    else if s.remainingUses = 0 then (.error (.exhausted id), { l with sessions := l.sessions.erase id })
    else
      let s := { s with remainingUses := s.remainingUses - 1 }
      (.ok (s.grant id), { l with sessions := l.sessions.put id s })

/-- Gives back a use, up to the full budget; nothing happens to a session that is gone or over. -/
def restore (l : Ledger) (now : Instant) (id : String) : Option UInt32 × Ledger :=
  match l.sessions.get? id with
  | none => (none, l)
  | some s =>
    if s.isOver now then (none, l)
    else
      let uses := if s.remainingUses < l.limits.maxUses then s.remainingUses + 1 else l.limits.maxUses
      (some uses, { l with sessions := l.sessions.put id { s with remainingUses := uses } })

/-- The state of a session that can still be used. -/
def status (l : Ledger) (now : Instant) (id : String) : Option WarmSessionGrant :=
  (l.sessions.get? id).bind fun s => if s.isUsable now then some (s.grant id) else none

def revoke (l : Ledger) (id : String) : Bool × Ledger :=
  (l.sessions.contains id, { l with sessions := l.sessions.erase id })

/-- Drops every session that cannot be used any more, and counts them. -/
def purge (l : Ledger) (now : Instant) : Nat × Ledger :=
  let kept := l.sessions.keep (·.isUsable now)
  (l.sessions.size - kept.size, { l with sessions := kept })

end Ledger
end PasskeyConsent

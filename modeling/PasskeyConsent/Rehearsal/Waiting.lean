import PasskeyConsent.Channel.Mailbox
/-!
# Rehearsing a wait

A wait for one correlated message against a timetable of what happens to it: messages, the end of the channel and an
abort, each at its time.  The wait looks once when it begins and again whenever something has happened.
-/
namespace PasskeyConsent.Rehearsal

/-- The abort signal of a wait. -/
inductive AbortPlan where
  | absent
  | before
  | dropped
  | at (time : Nat)
  | held
deriving DecidableEq

structure WaitPlan (α : Type) where
  id : String
  timeout : Nat
  /-- Messages and their times; those at time zero are there before the wait. -/
  messages : List (Nat × α)
  closesAt : Option Nat
  abort : AbortPlan

structure WaitReport (α : Type) where
  outcome : WaitOutcome α
  elapsed : Nat
  /-- Whether the signal shows an abort afterwards. -/
  aborted : Bool
  unread : Nat

namespace WaitPlan

variable {α : Type}

/-- What has come to the mailbox at a time. -/
def arrive (p : WaitPlan α) (time : Nat) (b : Mailbox α) : Mailbox α :=
  let b := (p.messages.filter (·.1 == time)).foldl (fun b m => b.deliver m.2) b
  { b with closed := b.closed || p.closesAt == some time }

def abortedBy (p : WaitPlan α) (time : Nat) : Bool :=
  match p.abort with
  | .before => true
  | .at t => t ≤ time
  | _ => false

/-- The times at which something happens, in order and each once. -/
def times (p : WaitPlan α) : List Nat :=
  let abort := match p.abort with
    | .at t => [t]
    | _ => []
  let all := 0 :: p.timeout :: p.messages.map (·.1) ++ p.closesAt.toList ++ abort
  (all.mergeSort (· ≤ ·)).eraseDups

def playAt (p : WaitPlan α) (answers : α → Bool) : List Nat → Mailbox α → Option (WaitReport α)
  | [], _ => none
  | t :: rest, b =>
    let b := p.arrive t b
    match b.look answers ⟨p.abortedBy t, p.timeout ≤ t⟩ with
    | (some o, b) => some ⟨o, t, p.abortedBy t, b.messages.length⟩
    | (none, b) => p.playAt answers rest b

/-- How the wait ends. -/
def play (p : WaitPlan α) (answers : α → Bool) : WaitReport α :=
  (p.playAt answers p.times {}).getD ⟨.timedOut, p.timeout, false, 0⟩

end WaitPlan
end PasskeyConsent.Rehearsal

import PasskeyConsent.Error
import PasskeyConsent.Response
import PasskeyConsent.Text.Numeral
/-!
# The nonce sequencer

Sequence numbers for the transactions of one access key.  The sequencer knows the key it is bound to, the next number
that the last answer of the chain allows, the highest number a broadcast transaction is known to have used, and the
numbers reserved for transactions that are still pending.  `reserve` scans upward from the next number past the
reserved ones; `absorb` takes in an answer of the chain, which may lag behind what has been broadcast.
-/
namespace PasskeyConsent

/-- The chain's state of an access key together with a block, as one turn uses them. -/
structure BaseContext where
  publicKey : String
  accessKeyNonce : Nat
  nextNonce : Nat
  blockHeight : UInt64
  blockHash : String
deriving DecidableEq, Repr

namespace BaseContext

def toJson (c : BaseContext) : Json :=
  .object [("publicKeyString", .str c.publicKey), ("accessKeyNonce", .nat c.accessKeyNonce),
    ("nextNonce", .nat c.nextNonce), ("blockHeight", .nat c.blockHeight.toNat), ("blockHash", .str c.blockHash)]

/-- What a response tells of the context, with the numbers reserved for its transactions. -/
def toTransactionContext (c : BaseContext) (reserved : List String) : TransactionContext where
  publicKey := c.publicKey
  accessKeyNonce := toString c.accessKeyNonce
  nextNonce := reserved.head?.getD (toString c.nextNonce)
  blockHeight := toString c.blockHeight.toNat
  blockHash := c.blockHash
  reservedNonces := reserved

end BaseContext

/-- An account and the public key of one of its access keys. -/
structure AccessKey where
  account : String
  publicKey : String
deriving DecidableEq, Repr

structure Sequencer where
  key : Option AccessKey := none
  /-- In increasing order. -/
  reserved : List Nat := []
  next : Option Nat := none
  floor : Option Nat := none
deriving DecidableEq, Repr

namespace Sequencer

open Text (maxU64)

def insertSorted (n : Nat) : List Nat → List Nat
  | [] => [n]
  | m :: rest => if n < m then n :: m :: rest else if n = m then m :: rest else m :: insertSorted n rest

/-- One more, or the greatest number if there is no more. -/
def successor (n : Nat) : Nat := min (n + 1) maxU64

def exhausted : ChainError := .invalidNonce "nonce space exhausted"

def isBoundTo (s : Sequencer) (k : AccessKey) : Bool := s.key == some k

/-- Binds the sequencer to a key; a change of key drops everything known of the old one. -/
def bindTo (s : Sequencer) (k : AccessKey) : Sequencer := if s.isBoundTo k then s else { key := some k }

/-- The first `count` numbers from `candidate` on that are not reserved.  The greatest number of all is never given
out.  A step of the scan either picks a number or passes a reserved one, which bounds the steps. -/
def scan (reserved : List Nat) : (steps count candidate : Nat) → Option (List Nat)
  | _, 0, _ => some []
  | 0, _ + 1, _ => none
  | steps + 1, count + 1, candidate =>
    if candidate < maxU64 then
      if reserved.contains candidate then scan reserved steps (count + 1) (candidate + 1)
      else (scan reserved steps count (candidate + 1)).map (candidate :: ·)
    else none

def reserve (s : Sequencer) (count : Nat) : Except ChainError (List Nat × Sequencer) :=
  match s.next with
  | none => .error .notInitialized
  | some start =>
    match scan s.reserved (count + s.reserved.length) count start with
    | none => .error exhausted
    | some picked => .ok (picked, { s with reserved := picked.foldr insertSorted s.reserved })

def release (s : Sequencer) (n : Nat) : Sequencer := { s with reserved := s.reserved.filter (· != n) }

/-- Releases a number given as text; a text that is no number is ignored. -/
def releaseText (s : Sequencer) (text : String) : Sequencer :=
  match Text.readU64 text with
  | .ok n => s.release n
  | .error _ => s

def releaseAll (s : Sequencer) : Sequencer := { s with reserved := [] }

/-- Records that a broadcast transaction has used a number. -/
def markBroadcast (s : Sequencer) (text : String) : Except ChainError Sequencer :=
  match Text.readU64 text with
  | .error _ => .error (.invalidNonce text)
  | .ok n =>
    if n < maxU64 then
      .ok { s.release n with
        floor := some (max (s.floor.getD n) n)
        next := s.next.map fun next => if next ≤ n then n + 1 else next }
    else .error exhausted

def isReserved (s : Sequencer) (text : String) : Bool :=
  match Text.readU64 text with
  | .ok n => s.reserved.contains n
  | .error _ => false

/-- The number that follows both the chain's answer and every broadcast. -/
def nextAfter (s : Sequencer) (accessNonce : Nat) : Nat :=
  match s.floor with
  | some floor => if successor accessNonce ≤ floor then successor floor else successor accessNonce
  | none => successor accessNonce

/-- Takes in the chain's answer; reservations that the chain has used are dropped. -/
def absorb (s : Sequencer) (accessNonce : Nat) : Sequencer :=
  { s with reserved := s.reserved.filter (accessNonce < ·), next := some (s.nextAfter accessNonce) }

end Sequencer
end PasskeyConsent

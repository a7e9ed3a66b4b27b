import PasskeyConsent.Concurrency.Effect
/-!
# Turns

The context of a turn is fetched by one flow at a time and kept until it is too old, the turn ends or the sequencer is
bound to another key.  The sequencer itself changes at once when a key is bound; dropping the kept context waits for
the flow that is fetching.
-/
namespace PasskeyConsent.Turn

open Program

def drop : Program Unit := do
  wait .turn
  access .dropTurn
  access .leaveTurn

/-- Binds the sequencer to an access key. -/
def bindTo (k : AccessKey) : Program Unit := do
  if ← access (.bindKey k) then drop

/-- Forgets the key and everything known of it. -/
def clear : Program Unit := do
  access .unbindKey
  drop

/-- The context from the chain, kept for the rest of the turn. -/
def fetch : ExceptT ChainError Program BaseContext := do
  let some k ← access .boundKey | throw .notInitialized
  let key ← attempt (call (.accessKey k))
  let block ← attempt (call .latestBlock)
  let next ← access (.absorb key.nonce.toNat)
  let c : BaseContext := ⟨k.publicKey, key.nonce.toNat, next, block.height, block.hash⟩
  access (.keepTurn c)
  return c

/-- The context of the turn; `force` passes over one that is kept. -/
def context (force : Bool) : ExceptT ChainError Program BaseContext := ExceptT.mk do
  wait .turn
  let kept ← access .youngTurn
  let r ← match kept, force with
    | some c, false => pure (.ok c)
    | _, _ => fetch.run
  access .leaveTurn
  return r

end PasskeyConsent.Turn

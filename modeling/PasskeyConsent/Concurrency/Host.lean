import PasskeyConsent.Channel.Hub
import PasskeyConsent.Confirmation.State
import PasskeyConsent.Nonce.Sequencer
import PasskeyConsent.Session.Ledger
/-!
# The host

All that the flows of one wallet share, and the accesses to it.  An access happens at once: no other flow runs in the
middle of it, and it never waits.  What a flow takes for its own request goes into its holdings in the same access, so
that there is no moment at which something is taken and not yet recorded.
-/
namespace PasskeyConsent

/-- The context of the current turn and the reading of the clock when it was fetched. -/
structure CachedTurn where
  context : BaseContext
  fetchedAt : Nat
deriving DecidableEq, Repr

structure Host where
  /-- The clock that delays are measured by, in milliseconds. -/
  now : Nat := 0
  /-- The clock that sessions end by. -/
  wallClock : Instant := ⟨0, 0⟩
  sequencer : Sequencer := {}
  /-- Held by the one flow that reads or fetches the turn's context. -/
  turnLane : Lane := {}
  turn : Option CachedTurn := none
  /-- How long a turn's context may be used, in milliseconds. -/
  maxAge : Nat
  ledger : Ledger
  bootstraps : Table FreshnessChallenge := {}
  hub : Hub := {}
  /-- The requests that run, and whether each has been cancelled. -/
  pending : Table Bool := {}
deriving DecidableEq, Repr

inductive Access where
  | now
  -- The sequencer.
  | boundKey
  | bindKey (k : AccessKey)
  | unbindKey
  | absorb (accessNonce : Nat)
  | reserve (count : Nat)
  | release (nonce : Nat)
  | releaseText (text : String)
  | releaseAll
  | markBroadcast (text : String)
  -- The turn.
  | youngTurn
  | keepTurn (c : BaseContext)
  | dropTurn
  | leaveTurn
  -- The ledger.
  | grant (session account : String)
  | consume (session account : String)
  | restore (session : String)
  | revoke (session : String)
  | purge
  /-- The use that was taken has been earned. -/
  | settleUse
  -- Bootstrap challenges.
  | bootstrap (key : String)
  | keepBootstrap (key : String) (c : FreshnessChallenge)
  | forgetBootstrap (key : String)
  -- The hub.
  | leaveWorker (worker : String)
  | isAttached (session : String)
  | openBox (session : String)
  | abandonBox (box : Nat)
  | attach (session : String) (box : Nat)
  | detach (session : String)
  | deposit (session : String) (seed : SeedMaterial)
  | holdChannel (session : String)
  | settleChannel
  -- The requests that run.
  | register (id : String)
  | unregister (id : String)
  | cancel (id : String)
  | isCancelled (id : String)
  | enter (id : String) (s : ConfirmState)
  | holdSurface (h : UiHandle)
  | holdings
deriving DecidableEq, Repr

namespace Access

@[reducible] def Answer : Access → Type
  | .now => Nat
  | .boundKey => Option AccessKey
  | .bindKey _ => Bool
  | .absorb _ => Nat
  | .reserve _ => Except ChainError (List Nat)
  | .markBroadcast _ => Except ChainError Unit
  | .youngTurn => Option BaseContext
  | .grant .. => Option WarmSessionGrant
  | .consume .. => Except SessionError WarmSessionGrant
  | .restore _ => Option UInt32
  | .revoke _ => Bool
  | .purge => Nat
  | .bootstrap _ => Option FreshnessChallenge
  | .isAttached _ => Bool
  | .openBox _ => Nat
  | .detach _ => Bool
  | .deposit .. => Except ChannelError Unit
  | .register _ => Bool
  | .cancel _ => Bool
  | .isCancelled _ => Bool
  | .holdings => Holdings
  | .unbindKey | .release _ | .releaseText _ | .releaseAll | .keepTurn _ | .dropTurn | .leaveTurn | .settleUse
  | .keepBootstrap .. | .forgetBootstrap _ | .leaveWorker _ | .abandonBox _ | .attach .. | .holdChannel _
  | .settleChannel | .unregister _ | .enter .. | .holdSurface _ => Unit

end Access

namespace Host

/-- The turn's context, if it is young enough to be used again. -/
def youngTurn (h : Host) : Option BaseContext :=
  match h.turn with
  | some t => if h.now - t.fetchedAt < h.maxAge then some t.context else none
  | none => none

/-- Marks a running request as cancelled. -/
def cancel (h : Host) (id : String) : Bool × Host :=
  if h.pending.contains id then (true, { h with pending := h.pending.put id true }) else (false, h)

def isCancelled (h : Host) (id : String) : Bool := (h.pending.get? id).getD false

/-- What an access by a task answers, and what it leaves of the host and of the task's holdings. -/
def access (h : Host) (task : Nat) (own : Holdings) : (a : Access) → a.Answer × Host × Holdings
  | .now => (h.now, h, own)
  | .boundKey => (h.sequencer.key, h, own)
  | .bindKey k => (!h.sequencer.isBoundTo k, { h with sequencer := h.sequencer.bindTo k }, own)
  | .unbindKey => ((), { h with sequencer := {} }, own)
  | .absorb n => (h.sequencer.nextAfter n, { h with sequencer := h.sequencer.absorb n }, own)
  | .reserve count =>
    match h.sequencer.reserve count with
    | .error e => (.error e, h, own)
    | .ok (picked, s) => (.ok picked, { h with sequencer := s }, { own with nonces := own.nonces ++ picked })
  | .release n => ((), { h with sequencer := h.sequencer.release n }, own)
  | .releaseText text => ((), { h with sequencer := h.sequencer.releaseText text }, own)
  | .releaseAll => ((), { h with sequencer := h.sequencer.releaseAll }, own)
  | .markBroadcast text =>
    match h.sequencer.markBroadcast text with
    | .error e => (.error e, h, own)
    | .ok s => (.ok (), { h with sequencer := s }, own)
  | .youngTurn => (h.youngTurn, h, own)
  | .keepTurn c => ((), { h with turn := some ⟨c, h.now⟩ }, own)
  | .dropTurn => ((), { h with turn := none }, own)
  | .leaveTurn => ((), { h with turnLane := h.turnLane.leave task }, own)
  | .grant session account =>
    match h.ledger.grant h.wallClock session account with
    | none => (none, h, own)
    | some (g, l) => (some g, { h with ledger := l }, own)
  | .consume session account =>
    match h.ledger.consume h.wallClock session account with
    | (.error e, l) => (.error e, { h with ledger := l }, own)
    | (.ok g, l) => (.ok g, { h with ledger := l }, { own with warmUse := some (g, account) })
  | .restore session =>
    let (n, l) := h.ledger.restore h.wallClock session
    (n, { h with ledger := l }, own)
  | .revoke session =>
    let (b, l) := h.ledger.revoke session
    (b, { h with ledger := l }, own)
  | .purge =>
    let (n, l) := h.ledger.purge h.wallClock
    (n, { h with ledger := l }, own)
  | .settleUse => ((), h, { own with warmUse := none })
  | .bootstrap key => (h.bootstraps.get? key, h, own)
  | .keepBootstrap key c => ((), { h with bootstraps := h.bootstraps.put key c }, own)
  | .forgetBootstrap key => ((), { h with bootstraps := h.bootstraps.erase key }, own)
  | .leaveWorker worker => ((), { h with hub := { h.hub with queue := h.hub.queue.leave worker task } }, own)
  | .isAttached session => (h.hub.isAttached session, h, own)
  | .openBox session =>
    let (n, hub) := h.hub.openBox task session
    (n, { h with hub }, own)
  | .abandonBox n => ((), { h with hub := h.hub.abandonBox n }, own)
  | .attach session n => ((), { h with hub := h.hub.attach session n }, own)
  | .detach session =>
    let (b, hub) := h.hub.detach session
    (b, { h with hub }, own)
  | .deposit session seed =>
    let (r, hub) := h.hub.deposit session seed
    (r, { h with hub }, own)
  | .holdChannel session => ((), h, { own with channel := some session })
  | .settleChannel => ((), h, { own with channel := none })
  | .register id =>
    if h.pending.contains id then (false, h, own) else (true, { h with pending := h.pending.put id false }, own)
  | .unregister id => ((), { h with pending := h.pending.erase id }, own)
  | .cancel id =>
    let (b, h) := h.cancel id
    (b, h, own)
  | .isCancelled id => (h.isCancelled id, h, own)
  | .enter .. => ((), h, own)
  | .holdSurface s => ((), h, { own with surface := some s })
  | .holdings => (own, h, own)

/-- What a task that is dropped in the middle of a flow leaves behind: its places and its lanes are free again. -/
def abandon (h : Host) (task : Nat) : Host :=
  { h with turnLane := h.turnLane.leave task, hub := h.hub.abandon task }

end Host
end PasskeyConsent

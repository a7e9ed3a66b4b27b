import PasskeyConsent.Proofs.Confirmation.Topics
import PasskeyConsent.Proofs.Nonce.History
/-!
# Taking turns

Where each task is in the turn: outside, or inside with the last answer of the chain that it has there.  The chain is
asked inside and only what it answered there is absorbed (`Program.TakesTurns.meets`), and the lane admits one task at a
time (`Wallet.Goes.admits`), wherever the others are stopped.
-/
namespace PasskeyConsent

open Observer

variable {α : Type}

namespace Program

/-- The topics that have nothing to do with the turn, nor with the key that the sequencer is bound to. -/
def otherTopics : List Topic :=
  [.clock, .key, .chain, .reservation, .release, .session, .freshness, .ceremony, .handover, .registry, .cancellation, .state,
    .surface, .holdings, .preferences, .answer, .breakdown]

/-- **The users of the turn**: programs made of its context, of its ends and of effects about other topics, one after
another and under any watch. -/
inductive TakesTurns : {α : Type} → Program α → Prop
  | done {α : Type} (a : α) : TakesTurns (.done a : Program α)
  | context (force : Bool) : TakesTurns (Turn.context force).run
  | drop : TakesTurns Turn.drop
  | effect (e : Effect) (h : otherTopics.contains e.topic = true) :
    TakesTurns (Flow.perform e : Program e.Answer)
  | bind {α β : Type} {p : Program α} {f : α → Program β} (h : TakesTurns p) (hf : ∀ a, TakesTurns (f a)) :
    TakesTurns (p >>= f)
  | watch {α : Type} {p : Program α} (id : String) (stopped : α) (h : TakesTurns p) : TakesTurns (p.watch id stopped)

end Program

/-- Where a task is in the turn. -/
inductive TurnPhase where
  | outside
  | inside (answer : Option Nat)
deriving DecidableEq, Repr

namespace TurnPhase

def after (s : TurnPhase) : Event → TurnPhase
  | .waited .turn _ => .inside none
  | .answered (.accessKey _) (.ok info) => .inside (some info.nonce.toNat)
  | .accessed .leaveTurn _ | .stopped => .outside
  | _ => s

/-- The one who watches the turn: the chain is asked inside, and what is absorbed is the last answer; the key that the
sequencer is bound to does not change. -/
def watcher : Observer TurnPhase where
  after := after
  allows
    | s, .answered (.accessKey _) _ => s ≠ .outside
    | s, .accessed (.absorb n) _ => s = .inside (some n)
    | _, .accessed (.bindKey _) _ | _, .accessed .unbindKey _ => False
    | _, _ => True

theorem watcher_overlooks : watcher.OverlooksTopics Program.otherTopics := by
  refine .of_events rfl fun e he s => ?_
  cases e with
  | accessed a x => cases a <;> first | exact absurd he Bool.false_ne_true | exact ⟨trivial, rfl⟩
  | called c => cases c <;> first | exact absurd he Bool.false_ne_true | exact ⟨trivial, rfl⟩
  | answered c x => cases c <;> first | exact absurd he Bool.false_ne_true | exact ⟨trivial, rfl⟩
  | waited w x => cases w <;> first | exact absurd he Bool.false_ne_true | exact ⟨trivial, rfl⟩
  | stopped => exact absurd he Bool.false_ne_true

theorem meets_fetch (own : Holdings) :
    watcher.Meets anywhere Turn.fetch.run (fun _ _ _ => True) own (.inside none) := by
  have hinside (a : Option Nat) : TurnPhase.inside a ≠ .outside := fun h => by cases h
  refine meets_liftAccess fun k _ => ⟨trivial, ?_⟩
  cases k with
  | none => trivial
  | some k =>
    refine meets_call ⟨trivial, trivial, trivial, fun answer => ⟨hinside none, ?_⟩⟩
    cases answer with
    | error e => trivial
    | ok info =>
      refine meets_call ⟨trivial, trivial, trivial, fun block => ⟨trivial, ?_⟩⟩
      cases block with
      | error e => trivial
      | ok block =>
        refine meets_liftAccess fun next _ => ⟨rfl, ?_⟩
        exact meets_liftAccess fun _ _ => ⟨trivial, trivial⟩

theorem meets_context (force : Bool) (own : Holdings) :
    watcher.Meets anywhere (Turn.context force).run (fun _ _ s => s = .outside) own .outside := by
  exact Observer.meets_context (fun _ _ _ => True) trivial trivial (fun _ => trivial) (fun _ _ => trivial)
    (fun _ _ => meets_fetch own) fun _ _ _ _ => ⟨trivial, rfl⟩

theorem meets_drop (own : Holdings) :
    watcher.Meets anywhere Turn.drop (fun _ _ s => s = .outside) own .outside :=
  meets_wait ⟨fun _ => trivial, fun _ => ⟨trivial, meets_access fun _ _ => ⟨trivial, meets_access fun _ _ =>
    ⟨trivial, rfl⟩⟩⟩⟩

end TurnPhase

open TurnPhase (watcher)

/-- **Who takes turns leaves them**, wherever it is stopped. -/
theorem Program.TakesTurns.meets {p : Program α} (h : p.TakesTurns) (own : Holdings) :
    watcher.Meets anywhere p (fun _ _ s => s = .outside) own .outside := by
  induction h generalizing own with
  | done a => rfl
  | context force => exact TurnPhase.meets_context force own
  | drop => exact TurnPhase.meets_drop own
  | effect e he =>
    have honly : Program.KeepsTo Program.otherTopics Program.anyResult (Flow.perform e) := ⟨he, fun _ => trivial⟩
    exact meets_of_overlooked_topics TurnPhase.watcher_overlooks honly (fun _ => trivial) fun _ _ _ => rfl
  | bind _ _ ih ihf =>
    refine meets_bind ((ih own).imp fun a own s hs => ?_)
    subst hs
    exact ihf a own
  | watch id stopped _ ih => exact meets_watch (ih own) fun _ _ _ => ⟨trivial, rfl⟩

/-! ## The lane admits one -/

theorem Host.access_turnLane (h : Host) (task : Nat) (own : Holdings) {a : Access} (ha : a ≠ .leaveTurn) :
    (h.access task own a).2.1.turnLane = h.turnLane := by
  have change := h.access_changes task own a
  generalize (h.access task own a).2.1 = h' at change ⊢
  cases change with
  | leaveTurn => exact absurd rfl ha
  | _ => rfl

theorem Host.look_turnLane (h : Host) (task : Nat) {w : Wait} (hw : w ≠ .turn) :
    (h.look task w).2.turnLane = h.turnLane := by
  cases w with
  | turn => exact absurd rfl hw
  | _ => rfl

/-- Who is inside the turn holds the lane. -/
def Admits (l : Lane) (phases : Nat → TurnPhase) : Prop := ∀ i, phases i ≠ .outside → l.holder = some i

namespace Admits

variable {l l' : Lane} {phases : Nat → TurnPhase} {i : Nat} {e : Event}

theorem event (admits : Admits l phases) (hself : watcher.after (phases i) e ≠ .outside → l'.holder = some i)
    (hother : ∀ j, i ≠ j → l.holder = some j → l'.holder = some j) :
    Admits l' (watcher.afterAll phases (e.happening i)) := by
  intro j hj
  by_cases hij : i = j
  · subst hij
    rw [afterAll_self] at hj
    exact hself hj
  · rw [afterAll_of_ne _ _ hij] at hj
    exact hother j hij (admits j hj)

/-- An event that enters the turn only where the task is inside already. -/
theorem stays (admits : Admits l phases) (h : watcher.after (phases i) e ≠ .outside → phases i ≠ .outside) :
    Admits l (watcher.afterAll phases (e.happening i)) := admits.event (fun hself => admits i (h hself)) fun _ _ => id

end Admits

/-- What can happen beside those that take turns: outside of them nobody touches the turn or binds the sequencer. -/
def Move.TakesTurns : Move α → Prop
  | .start p => p.TakesTurns
  | .outside a => Program.otherTopics.contains a.topic = true
  | _ => True

theorem Wallet.Goes.admits {w w' : Wallet α} {m : Move α} {happening : Happening} (g : w.Goes m happening w')
    {phases : Nat → TurnPhase} (hm : m.TakesTurns)
    (hallows : ∀ i e, happening.event? i = some e → watcher.allows (phases i) e)
    (admits : Admits w.host.turnLane phases) : Admits w'.host.turnLane (watcher.afterAll phases happening) := by
  cases g with
  | start p =>
    rw [afterAll_none _ _ fun _ => rfl]
    exact admits
  | @access i t a next ht hp =>
    by_cases ha : a = .leaveTurn
    · subst ha
      exact admits.event (e := .accessed .leaveTurn ()) (fun h => absurd rfl h) fun j hij hj => Lane.holder_leave hj hij
    · have hstays : Admits w.host.turnLane (watcher.afterAll phases (.accessed i a (w.host.access i t.own a).1)) := by
        refine admits.stays (e := .accessed a _) fun h => ?_
        cases a <;> first | exact h | exact absurd rfl ha
      rw [Wallet.setTask_host]
      show Admits (w.host.access i t.own a).2.1.turnLane _
      rw [w.host.access_turnLane i t.own ha]
      exact hstays
  | @call i t c ht hs hc => exact admits.stays (e := .called c) id
  | @look i t u ht hs hl =>
    rw [afterAll_none _ _ fun _ => rfl]
    by_cases hu : u = .turn
    · subst hu
      exact fun j hj => Lane.holder_ask (admits j hj)
    · show Admits (w.host.look i u).2.turnLane phases
      rw [w.host.look_turnLane i hu]
      exact admits
  | @wait i t t' u x ht hl hr =>
    by_cases hu : u = .turn
    · subst hu
      have hmine : (w.host.turnLane.ask i).1 = true := by
        simp only [Host.look] at hl
        split at hl
        · assumption
        · cases hl
      exact admits.event (e := .waited .turn x) (fun _ => Lane.holder_of_ask hmine) fun j _ hj => Lane.holder_ask hj
    · have hstays : Admits w.host.turnLane (watcher.afterAll phases (.looked i u (some x))) := by
        refine admits.stays (e := .waited u x) fun h => ?_
        cases u <;> first | exact h | exact absurd rfl hu
      show Admits (w.host.look i u).2.turnLane _
      rw [w.host.look_turnLane i hu]
      exact hstays
  | @answer i t t' c x ht hc hr =>
    refine admits.stays (e := .answered c x) fun h => ?_
    cases c with
    | accessKey k => exact hallows i _ (Event.event?_happening i (.answered (.accessKey k) x))
    | _ => exact h
  | @stop i t t' ht hs =>
    exact admits.event (e := .stopped) (fun h => absurd rfl h) fun j hij hj => Lane.holder_leave hj hij
  | outside a =>
    rw [afterAll_none _ _ fun _ => rfl]
    have ha : a ≠ .leaveTurn := by
      rintro rfl
      exact absurd hm Bool.false_ne_true
    show Admits (w.host.access _ _ a).2.1.turnLane phases
    rw [w.host.access_turnLane _ _ ha]
    exact admits
  | pass ms =>
    rw [afterAll_none _ _ fun _ => rfl]
    exact admits
  | setClock t =>
    rw [afterAll_none _ _ fun _ => rfl]
    exact admits
  | signer m =>
    rw [afterAll_none _ _ fun _ => rfl]
    exact admits

end PasskeyConsent

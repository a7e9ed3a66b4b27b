import PasskeyConsent.Channel.Handover
import PasskeyConsent.Proofs.Channel.Hub
import PasskeyConsent.Proofs.Concurrency.Composition
/-!
# Users of the hub

An attach has the worker's lane to itself.  It finds the session not attached, makes a box, sends the box's endpoint,
waits for the acknowledgement and only then hands the opening over to the table; wherever it fails or is stopped, the
opening is dropped.  `AttachPhase.porter` follows a task through these steps, every program that uses the hub keeps to
them (`Program.UsesHub.meets`), and the lane admits one at a time (`Wallet.Goes.laneHeld`).
-/
namespace PasskeyConsent

open Observer

variable {α : Type}

/-! ## The steps of an attach -/

/-- Where a task is in an attach. -/
inductive AttachPhase where
  | out
  /-- In the worker's lane, without a box. -/
  | entered
  | vacant (session : String)
  | opened (session : String) (box : Nat)
  | sent (session : String) (box : Nat)
  | acked (session : String) (box : Nat)
deriving DecidableEq, Repr

namespace AttachPhase

/-- The session that the task has found not attached. -/
def session? : AttachPhase → Option String
  | out | entered => none
  | vacant session | opened session _ | sent session _ | acked session _ => some session

/-- The box that the task has made, with its session. -/
def box? : AttachPhase → Option (String × Nat)
  | out | entered | vacant _ => none
  | opened session n | sent session n | acked session n => some (session, n)

def after (s : AttachPhase) : Event → AttachPhase
  | .waited (.worker _) _ => entered
  | .accessed (.isAttached session) false => if s = entered then vacant session else s
  | .accessed (.openBox session) n => opened session n
  | .waited (.send _) (.ok ()) =>
    match s with
    | opened session n => sent session n
    | _ => s
  | .waited (.ack ..) (.received _) =>
    match s with
    | sent session n => acked session n
    | _ => s
  | .accessed (.attach ..) _ | .accessed (.abandonBox _) _ => entered
  | .accessed (.leaveWorker _) _ | .stopped => out
  | _ => s

/-- The one who sees to it that an attach takes its steps in order, each with the session and the box of the step
before, and that nobody takes one outside of an attach. -/
def porter : Observer AttachPhase where
  after := after
  allows
    | s, .waited (.worker name) _ => name = Hub.signerName ∧ s = out
    | s, .accessed (.openBox session) _ => s = vacant session
    | s, .waited (.send e) _ => (∃ session n, s = opened session n ∧ e = ⟨.attach session, some n⟩) ∨
        e.message.kind ≠ .attach ∧ e.box = none ∧ s = out
    | s, .waited (.ack session _) _ => ∃ n, s = sent session n
    | s, .accessed (.attach session n) _ => s = acked session n
    | s, .accessed (.abandonBox n) _ => ∃ session, s = opened session n ∨ s = sent session n
    | s, .accessed (.leaveWorker name) _ => name = Hub.signerName ∧ s = entered
    | _, _ => True

end AttachPhase

open AttachPhase (porter)

/-- The accesses that only an attach makes. -/
def Access.isOfAttach : Access → Bool
  | .leaveWorker _ | .openBox _ | .abandonBox _ | .attach .. => true
  | _ => false

/-- The effects that only an attach has. -/
def Effect.isOfAttach : Effect → Bool
  | .access a => a.isOfAttach
  | .suspend (.wait (.worker _)) | .suspend (.wait (.ack ..)) => true
  | .suspend (.wait (.send e)) => e.message.kind == .attach || e.box.isSome
  | .watched .. => true
  | _ => false

/-- **The users of the hub**: programs made of attaches and of any effects that are not parts of one, a deposit or a
detach among them, one after another and under any watch. -/
inductive Program.UsesHub : {α : Type} → Program α → Prop
  | done {α : Type} (a : α) : UsesHub (.done a : Program α)
  | attach (timeout : Duration) (session : String) : UsesHub (Handover.attach timeout session).run
  | effect (e : Effect) (h : e.isOfAttach = false) : UsesHub (Flow.perform e : Program e.Answer)
  | bind {α β : Type} {p : Program α} {f : α → Program β} (h : UsesHub p) (hf : ∀ a, UsesHub (f a)) : UsesHub (p >>= f)
  | watch {α : Type} {p : Program α} (id : String) (stopped : α) (h : UsesHub p) : UsesHub (p.watch id stopped)

/-- What can happen beside those that use the hub: whatever anyone can do outside of an attach. -/
def Move.UsesHub : Move α → Prop
  | .start p => p.UsesHub
  | .outside a => a.isOfAttach = false
  | _ => True

namespace AttachPhase

theorem meets_attachInLane (timeout : Duration) (session : String) (own : Holdings) :
    porter.Meets anywhere (Handover.attachInLane timeout session) (fun _ _ s => s = entered) own entered := by
  refine meets_access fun there _ => ⟨trivial, ?_⟩
  cases there with
  | true => rfl
  | false =>
    refine meets_access fun n _ => ⟨rfl, ?_⟩
    refine meets_wait ⟨fun _ => trivial, fun r => ⟨.inl ⟨session, n, rfl, rfl⟩, ?_⟩⟩
    cases r with
    | error e => exact meets_access fun _ _ => ⟨⟨session, .inl rfl⟩, rfl⟩
    | ok =>
      refine meets_access fun _ _ => ⟨trivial, ?_⟩
      refine meets_wait ⟨fun _ => trivial, fun outcome => ⟨⟨n, rfl⟩, ?_⟩⟩
      cases outcome with
      | received m => exact meets_access fun _ _ => ⟨rfl, rfl⟩
      | _ => exact meets_access fun _ _ => ⟨⟨session, .inr rfl⟩, rfl⟩

theorem meets_attach (timeout : Duration) (session : String) (own : Holdings) :
    porter.Meets anywhere (Handover.attach timeout session).run (fun _ _ s => s = out) own out := by
  refine meets_wait ⟨fun _ => trivial, fun _ => ⟨⟨rfl, rfl⟩, meets_bind ?_⟩⟩
  refine (meets_attachInLane timeout session own).imp fun _ _ s hs => ?_
  subst hs
  exact meets_access fun _ _ => ⟨⟨rfl, rfl⟩, rfl⟩

/-- What is not part of an attach can be done outside of one and stays there. -/
theorem allows_of_not_isOfAttach {e : Effect} (he : e.isOfAttach = false) {event : Event} (hevent : e.Yields event) :
    porter.allows out event ∧ porter.after out event = out := by
  cases hevent with
  | access a x =>
    cases a with
    | leaveWorker | openBox | abandonBox | attach => cases he
    | isAttached session => cases x <;> exact ⟨trivial, rfl⟩
    | _ => exact ⟨trivial, rfl⟩
  | call c => exact ⟨trivial, rfl⟩
  | answer c x => exact ⟨trivial, rfl⟩
  | wait w x =>
    cases w with
    | worker | ack => cases he
    | send envelope =>
      obtain ⟨hkind, hbox⟩ := Bool.or_eq_false_iff.1 he
      refine ⟨.inr ⟨fun hk => ?_, Option.isSome_eq_false_iff.1 hbox |> Option.isNone_iff_eq_none.1, rfl⟩, ?_⟩
      · rw [hk] at hkind
        exact absurd hkind (by decide)
      · rcases x with _ | ⟨⟩ <;> rfl
    | _ => exact ⟨trivial, rfl⟩
  | stop | watched => cases he

end AttachPhase

/-- What is so of the attaches is so of those who use the hub: a contract from a record to itself, if what is not part
of an attach leaves that record as it is and a stop leads back to it. -/
theorem Program.UsesHub.meets_of {σ : Type} {o : Observer σ} {start : σ} {p : Program α} (h : p.UsesHub)
    (hattach : ∀ timeout session own,
      o.Meets anywhere (Handover.attach timeout session).run (fun _ _ s => s = start) own start)
    (heffect : ∀ e : Effect, e.isOfAttach = false → ∀ event, e.Yields event →
      o.allows start event ∧ o.after start event = start)
    (hstop : ∀ s, o.allows s .stopped ∧ o.after s .stopped = start) (own : Holdings) :
    o.Meets anywhere p (fun _ _ s => s = start) own start := by
  induction h generalizing own with
  | done a => rfl
  | attach timeout session => exact hattach timeout session own
  | effect e he =>
    have hkept : Program.Only (fun e => ∀ event, e.Yields event → ∀ s, s = start →
        o.allows s event ∧ o.after s event = start) (fun _ => True) (Flow.perform e : Program e.Answer) := by
      refine ⟨fun event hevent s hs => ?_, fun _ => trivial⟩
      subst hs
      exact heffect e he event hevent
    exact (meets_of_kept hkept own rfl).mono (fun _ _ _ => trivial) fun _ _ _ hs => hs
  | bind _ _ ih ihf =>
    refine meets_bind ((ih own).imp fun a own s hs => ?_)
    subst hs
    exact ihf a own
  | watch id stopped _ ih => exact meets_watch (ih own) fun _ s _ => hstop s

/-- **Who uses the hub is out of every attach in the end**, wherever it is stopped. -/
theorem Program.UsesHub.meets {p : Program α} (h : p.UsesHub) (own : Holdings) :
    porter.Meets anywhere p (fun _ _ s => s = .out) own .out :=
  h.meets_of AttachPhase.meets_attach (fun _ he _ hevent => AttachPhase.allows_of_not_isOfAttach he hevent)
    (fun _ => ⟨trivial, rfl⟩) own

theorem Program.UsesHub.deposit (session : String) (seed : SeedMaterial) :
    (Handover.deposit session seed).run.UsesHub := by
  refine .bind (p := Program.access (.deposit session seed)) (.effect (.access (.deposit session seed)) rfl) fun r => ?_
  cases r with
  | ok => exact .effect (.suspend (.wait (.send ⟨.seedReady session, none⟩))) rfl
  | error e => exact .done _

/-- What is so of all programs that use the hub is so of those that are started. -/
theorem Run.starts_of_usesHub {σ : Type} {o : Observer σ} {post : α → Holdings → σ → Prop} {start : σ}
    {ss : List (Step α)} (hmeets : ∀ p : Program α, p.UsesHub → o.Meets anywhere p post {} start)
    (h : ∀ st ∈ ss, st.move.UsesHub) : Run.Starts o post start ss := by
  intro st hst p hp
  have hmove := h st hst
  rw [hp] at hmove
  exact hmeets p hmove

theorem Run.starts_usesHub {ss : List (Step α)} (h : ∀ st ∈ ss, st.move.UsesHub) :
    Run.Starts porter (fun _ _ s => s = .out) .out ss := Run.starts_of_usesHub (fun _ hp => hp.meets {}) h

/-! ## The lane admits one -/

namespace WorkerQueue

variable (q : WorkerQueue) (task : Nat)

theorem lane_put (name : String) (l : Lane) (other : String) :
    (WorkerQueue.mk (q.lanes.put name l)).lane other = if other = name then l else q.lane other := by
  unfold lane
  split
  · rename_i h
    rw [h, Table.get?_put_self]
    rfl
  · rename_i h
    rw [Table.get?_put_of_ne _ h]

/-- Who gives up every lane leaves each of them. -/
theorem lane_abandon (name : String) : (q.abandon task).lane name = (q.lane name).leave task := by
  have hlookup (entries : List (String × Lane)) :
      (entries.map fun e => (e.1, e.2.leave task)).lookup name =
        (entries.lookup name).map (·.leave task) := by
    induction entries with
    | nil => rfl
    | cons e entries ih =>
      rw [List.map_cons, List.lookup_cons, List.lookup_cons, ih]
      cases name == e.1 <;> rfl
  unfold lane Table.get?
  rw [show (q.abandon task).lanes.entries.lookup name = _ from hlookup _]
  cases q.lanes.entries.lookup name <;> rfl

end WorkerQueue

/-- Who is in an attach holds the signing worker's lane. -/
def LaneHeld (q : WorkerQueue) (phases : Nat → AttachPhase) : Prop :=
  ∀ i, phases i ≠ .out → (q.lane Hub.signerName).holder = some i

namespace LaneHeld

variable {q : WorkerQueue} {phases : Nat → AttachPhase} {i j : Nat}

/-- Two that are in an attach are the same. -/
theorem unique (held : LaneHeld q phases) (hi : phases i ≠ .out) (hj : phases j ≠ .out) : i = j :=
  Option.some.inj ((held i hi).symm.trans (held j hj))

end LaneHeld

theorem Host.access_queue (h : Host) (task : Nat) (own : Holdings) {a : Access} (ha : ∀ name, a ≠ .leaveWorker name) :
    (h.access task own a).2.1.hub.queue = h.hub.queue := by
  have change := h.access_changes task own a
  generalize (h.access task own a).2.1 = h' at change ⊢
  cases change with
  | leaveWorker name => exact absurd rfl (ha name)
  | detach session =>
    obtain ⟨boxes, attached, heq⟩ := h.hub.detach_changes session
    rw [heq]
  | deposit session seed =>
    obtain ⟨boxes, attached, heq⟩ := h.hub.deposit_changes session seed
    rw [heq]
  | _ => rfl

theorem Host.look_queue (h : Host) (task : Nat) {w : Wait} (hw : ∀ name, w ≠ .worker name) :
    (h.look task w).2.hub.queue = h.hub.queue := by
  cases w with
  | worker name => exact absurd rfl (hw name)
  | send e =>
    obtain ⟨sending, inbox, heq⟩ := h.hub.send_changes task e
    show (h.hub.send task e).2.queue = h.hub.queue
    rw [heq]
  | _ => rfl

/-- What is allowed only inside leaves the task inside or lets it out. -/
theorem AttachPhase.of_after_ne_out {s : AttachPhase} {e : Event} (hallowed : porter.allows s e)
    (hworker : ∀ name x, e ≠ .waited (.worker name) x) (h : porter.after s e ≠ .out) : s ≠ .out := by
  rintro rfl
  cases e with
  | accessed a x =>
    cases a with
    | isAttached session => cases x <;> exact h rfl
    | openBox session => cases hallowed
    | attach session n => cases hallowed
    | abandonBox n => rcases hallowed with ⟨session, h | h⟩ <;> cases h
    | _ => exact h rfl
  | waited w x =>
    cases w with
    | worker name => exact hworker name x rfl
    | send e => rcases x with _ | ⟨⟩ <;> exact h rfl
    | ack session due => obtain ⟨n, hn⟩ := hallowed; cases hn
    | _ => exact h rfl
  | _ => exact h rfl

/-- What can change who has the signing worker's lane and who waits for it. -/
def Happening.turns : Happening → Bool
  | .looked _ (.worker name) _ | .accessed _ (.leaveWorker name) _ => name == Hub.signerName
  | .stopped _ => true
  | _ => false

/-- **Everything that can become of the signing worker's lane**, with what happens. -/
inductive Lane.Passes (l : Lane) : Happening → Lane → Prop
  | rest {happening : Happening} (hidle : happening.turns = false) : Passes l happening l
  | asked (i : Nat) {x : Option Unit} (hx : x.isSome = (l.ask i).1) :
    Passes l (.looked i (.worker Hub.signerName) x) (l.ask i).2
  | left (i : Nat) : Passes l (.accessed i (.leaveWorker Hub.signerName) ()) (l.leave i)
  | stopped (i : Nat) : Passes l (.stopped i) (l.leave i)

/-- A look at whether a wait is over leaves the lane as its answer says. -/
theorem Host.look_passes (h : Host) (task : Nat) (w : Wait) :
    (h.hub.queue.lane Hub.signerName).Passes (.looked task w (h.look task w).1)
      ((h.look task w).2.hub.queue.lane Hub.signerName) := by
  by_cases hw : ∃ name, w = .worker name
  · obtain ⟨name, rfl⟩ := hw
    show Lane.Passes _ _
      ((WorkerQueue.mk (h.hub.queue.lanes.put name ((h.hub.queue.lane name).ask task).2)).lane Hub.signerName)
    rw [WorkerQueue.lane_put]
    by_cases hname : Hub.signerName = name
    · subst hname
      rw [if_pos rfl]
      refine .asked task ?_
      show (if ((h.hub.queue.lane Hub.signerName).ask task).1 then some () else none).isSome = _
      cases ((h.hub.queue.lane Hub.signerName).ask task).1 <;> rfl
    · rw [if_neg hname]
      exact .rest (beq_false_of_ne (Ne.symm hname))
  · rw [h.look_queue task fun name heq => hw ⟨name, heq⟩]
    refine .rest ?_
    cases w with
    | worker name => exact absurd ⟨name, rfl⟩ hw
    | _ => rfl

/-- **A move leaves the lane** as what happens says. -/
theorem Wallet.Goes.passes {w w' : Wallet α} {m : Move α} {happening : Happening} (g : w.Goes m happening w')
    (hm : m.UsesHub) :
    (w.host.hub.queue.lane Hub.signerName).Passes happening (w'.host.hub.queue.lane Hub.signerName) := by
  cases g with
  | @access i t a next ht hp =>
    rw [Wallet.setTask_host]
    by_cases ha : ∃ name, a = .leaveWorker name
    · obtain ⟨name, rfl⟩ := ha
      show Lane.Passes _ (.accessed i (.leaveWorker name) ())
        ((WorkerQueue.mk (w.host.hub.queue.lanes.put name _)).lane Hub.signerName)
      rw [WorkerQueue.lane_put]
      by_cases hname : Hub.signerName = name
      · subst hname
        rw [if_pos rfl]
        exact .left i
      · rw [if_neg hname]
        exact .rest (beq_false_of_ne (Ne.symm hname))
    · show Lane.Passes _ _ ((w.host.access i t.own a).2.1.hub.queue.lane Hub.signerName)
      rw [w.host.access_queue i t.own fun name heq => ha ⟨name, heq⟩]
      refine .rest ?_
      cases a with
      | leaveWorker name => exact absurd ⟨name, rfl⟩ ha
      | _ => rfl
  | @look i t u ht hs hl => exact hl ▸ w.host.look_passes i u
  | @wait i t t' u x ht hl hr => exact hl ▸ w.host.look_passes i u
  | @stop i t t' ht hs =>
    show Lane.Passes _ _ ((w.host.hub.queue.abandon i).lane Hub.signerName)
    rw [WorkerQueue.lane_abandon]
    exact .stopped i
  | outside a =>
    have ha (name : String) : a ≠ .leaveWorker name := by
      rintro rfl
      cases hm
    show Lane.Passes _ _ ((w.host.access _ _ a).2.1.hub.queue.lane Hub.signerName)
    rw [w.host.access_queue _ _ ha]
    exact .rest rfl
  | signer m =>
    show Lane.Passes _ _ ((w.host.hub.afterSigner m).queue.lane Hub.signerName)
    rw [Hub.queue_afterSigner]
    exact .rest rfl
  | _ => exact .rest rfl

section

variable {l l' : Lane} {happening : Happening} {j : Nat}

/-- Who has the lane has it until it leaves or is stopped. -/
theorem Lane.Passes.holder_kept (passes : l.Passes happening l') (hl : l.holder = some j)
    (hleft : happening ≠ .accessed j (.leaveWorker Hub.signerName) ()) (hstop : happening ≠ .stopped j) :
    l'.holder = some j := by
  cases passes with
  | rest => exact hl
  | asked i => exact Lane.holder_ask hl
  | left i => exact Lane.holder_leave hl fun heq => hleft (by rw [heq])
  | stopped i => exact Lane.holder_leave hl fun heq => hstop (by rw [heq])

/-- Who is let in has the lane. -/
theorem Lane.Passes.holder_of_entered (passes : l.Passes (.looked j (.worker Hub.signerName) (some ())) l') :
    l'.holder = some j := by
  cases passes with
  | rest hidle => cases hidle
  | asked _ hx => exact Lane.holder_of_ask hx.symm

end

/-- **The lane admits one attach at a time.** -/
theorem Wallet.Goes.laneHeld {w w' : Wallet α} {m : Move α} {happening : Happening} (g : w.Goes m happening w')
    {phases : Nat → AttachPhase} (hm : m.UsesHub)
    (hallows : ∀ i e, happening.event? i = some e → porter.allows (phases i) e)
    (held : LaneHeld w.host.hub.queue phases) : LaneHeld w'.host.hub.queue (porter.afterAll phases happening) := by
  intro j hj
  have passes := g.passes hm
  unfold afterAll at hj
  cases he : happening.event? j with
  | none =>
    rw [he] at hj
    refine passes.holder_kept (held j hj) ?_ ?_ <;>
    · rintro rfl
      simp [Happening.event?] at he
  | some e =>
    rw [he] at hj
    have hallowed := hallows j e he
    cases Happening.eq_of_event? he
    by_cases hworker : ∃ name x, e = .waited (.worker name) x
    · obtain ⟨name, x, rfl⟩ := hworker
      obtain ⟨rfl, -⟩ := hallowed
      exact passes.holder_of_entered
    · have hin := AttachPhase.of_after_ne_out hallowed (fun name x heq => hworker ⟨name, x, heq⟩) hj
      refine passes.holder_kept (held j hin) (fun heq => hj ?_) fun heq => hj ?_ <;>
      · cases e <;> cases heq
        rfl

end PasskeyConsent

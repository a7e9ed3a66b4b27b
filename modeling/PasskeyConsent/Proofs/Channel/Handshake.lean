import PasskeyConsent.Proofs.Channel.Delivery
import PasskeyConsent.Proofs.Channel.Messages
/-!
# Whose acknowledgement it is

An attach waits for a message with its session's id, whatever the kind of the message and whenever it was put on the
channel: what an earlier attach did not wait for is still there.  So an attach that succeeds has been acknowledged by
the worker after the worker has read this attach's request, provided that the worker answers each request that it reads
at most once and says nothing else, and that no attach of the session was given up after it had sent its request
(`attach_ok_acknowledged`).  `Exchange` follows the requests and the answers of one session: as long as both are so,
never more than one of them is on its way.
-/
namespace PasskeyConsent

open Observer
open AttachPhase (porter)

variable {α : Type}

/-! ## One request at a time -/

/-- How far the worker has got with the requests for a session: there is none, or one attach has sent one, which is in
the inbox, read, answered, or lost. -/
inductive ExchangeStage where
  | idle
  | asked (i n : Nat)
  | read (i n : Nat)
  | answered (i n : Nat)
  | lost (i n : Nat)

namespace ExchangeStage

/-- The attach that waits, with its box. -/
def who? : ExchangeStage → Option (Nat × Nat)
  | idle => none
  | asked i n | read i n | answered i n | lost i n => some (i, n)

/-- The requests that the worker has not read. -/
def unread (session : String) : ExchangeStage → List Envelope
  | asked _ n => [⟨.attach session, some n⟩]
  | _ => []

/-- The messages for the session that no one has taken. -/
def untaken (session : String) : ExchangeStage → List ControlMessage
  | answered .. => [.attachOk session]
  | _ => []

/-- How many answers the worker owes. -/
def owed : ExchangeStage → Nat
  | read .. => 1
  | _ => 0

/-- What must have happened. -/
def Past (session : String) (ss : List (Step α)) : ExchangeStage → Prop
  | read i n => Heard ss i session n
  | answered i n => Acknowledged ss i session n
  | _ => True

theorem Past.append {session : String} {ss : List (Step α)} {stage : ExchangeStage} (h : stage.Past session ss)
    (more : List (Step α)) : stage.Past session (ss ++ more) := by
  cases stage with
  | read => exact Heard.append h more
  | answered => exact Acknowledged.append h more
  | _ => exact trivial

end ExchangeStage

/-- **How things stand between the attaches of a session and the worker.** -/
structure Exchange (session : String) (stage : ExchangeStage) (done : List (Step α)) (h : Hub)
    (phases : Nat → AttachPhase) : Prop where
  unread : (h.inbox.filter fun e => e.message = .attach session) = stage.unread session
  untaken : h.acks.messages.filter (·.session == session) = stage.untaken session
  owed : saysOf done session + stage.owed = asksOf done session
  waits : ∀ i n, phases i = .sent session n ↔ stage.who? = some (i, n)
  past : stage.Past session done

section

variable {session : String} {done : List (Step α)} {st : Step α} {h : Hub} {phases : Nat → AttachPhase}

/-- **Nobody begins to wait or stops waiting**, but by a send or with an answer. -/
theorem Correspondence.sent_iff (known : Correspondence done h phases)
    (hallows : ∀ i e, st.happening.event? i = some e → porter.allows (phases i) e)
    (hkept : ¬ GivenUp (done ++ [st]) session)
    (hsend : ∀ i n envelope, phases i = .opened session n → st.happening ≠ .looked i (.send envelope) (some (.ok ())))
    (htake : ∀ i due m, st.happening ≠ .looked i (.ack session due) (some (.received m))) (i n : Nat) :
    porter.afterAll phases st.happening i = .sent session n ↔ phases i = .sent session n := by
  unfold afterAll
  cases he : st.happening.event? i with
  | none => exact Iff.rfl
  | some e =>
    have hallowed := hallows i e he
    have hnow := Happening.eq_of_event? he
    rw [AttachPhase.after_eq_sent_iff hallowed]
    constructor
    · rintro (⟨hopened, envelope, rfl⟩ | ⟨hsent, -⟩)
      · exact absurd hnow (hsend i n envelope hopened)
      · exact hsent
    · refine fun hsent => .inr ⟨hsent, fun hends => ?_⟩
      have hwaiting := known.waiting i session n hsent
      cases e with
      | waited w x =>
        cases w with
        | ack found due =>
          cases x with
          | received m =>
            obtain ⟨m', hsent'⟩ := hallowed
            cases hsent.symm.trans hsent'
            exact htake i due m hnow
          | _ => exact hends
        | _ => exact hends
      | accessed a x =>
        cases a with
        | abandonBox m =>
          obtain ⟨found, hfound | hfound⟩ := hallowed <;> cases hsent.symm.trans hfound
          exact hkept ⟨i, n, done, st, [], rfl, hwaiting, .inl hnow⟩
        | _ => exact hends
      | stopped => exact hkept ⟨i, n, done, st, [], rfl, hwaiting, .inr hnow⟩
      | _ => exact hends

end

namespace Exchange

variable {session : String} {stage : ExchangeStage} {done : List (Step α)} {st : Step α} {h h' : Hub}
  {phases phases' : Nat → AttachPhase} {q : WorkerQueue}

theorem fresh : Exchange session .idle ([] : List (Step α)) {} fun _ => .out :=
  ⟨rfl, rfl, rfl, fun _ _ => ⟨nofun, nofun⟩, trivial⟩

/-- A step that has nothing to do with the session. -/
theorem same (exchange : Exchange session stage done h phases)
    (hinbox : h'.inbox.filter (fun e => e.message = .attach session) =
      h.inbox.filter fun e => e.message = .attach session)
    (hacks : h'.acks.messages.filter (·.session == session) = h.acks.messages.filter (·.session == session))
    (hread : st.read?.toList.countP (fun e => e.message = .attach session) = 0)
    (hsaid : st.said?.toList.countP (fun m => m.session = session) = 0)
    (hwaits : ∀ i n, phases' i = .sent session n ↔ phases i = .sent session n) :
    Exchange session stage (done ++ [st]) h' phases' where
  unread := hinbox.trans exchange.unread
  untaken := hacks.trans exchange.untaken
  owed := by
    rw [asksOf_snoc, saysOf_snoc, hread, hsaid]
    exact exchange.owed
  waits i n := (hwaits i n).trans (exchange.waits i n)
  past := exchange.past.append [st]

/-- While a task is in an attach and does not wait for the session, nobody does. -/
theorem idle_of_held (exchange : Exchange session stage done h phases) (held : LaneHeld q phases) {i : Nat}
    (hi : phases i ≠ .out) (hne : ∀ n, phases i ≠ .sent session n) : stage = .idle := by
  cases hwho : stage.who? with
  | none => cases stage <;> first | rfl | cases hwho
  | some p =>
    obtain ⟨j, n⟩ := p
    have hj := (exchange.waits j n).2 hwho
    cases held.unique hi (j := j) (by rw [hj]; nofun)
    exact absurd hj (hne n)

/-- An attach of the session sends its request: it is the only one on its way. -/
theorem asked (exchange : Exchange session stage done h phases) (held : LaneHeld q phases) {i n : Nat}
    (hi : phases i = .opened session n)
    (hnow : st.happening = .looked i (.send ⟨.attach session, some n⟩) (some (.ok ())))
    (hinbox : h'.inbox = h.inbox ++ [⟨.attach session, some n⟩]) (hacks : h'.acks.messages = h.acks.messages) :
    Exchange session (.asked i n) (done ++ [st]) h' (porter.afterAll phases st.happening) := by
  cases exchange.idle_of_held held (i := i) (by rw [hi]; nofun) (by rw [hi]; nofun)
  have hread : st.read? = none := by unfold Step.read?; rw [hnow]
  have hsaid : st.said? = none := by unfold Step.said?; rw [hnow]
  refine ⟨?_, hacks ▸ exchange.untaken, ?_, fun j m => ?_, trivial⟩
  · rw [hinbox, List.filter_append, exchange.unread]
    simp [ExchangeStage.unread]
  · rw [asksOf_snoc, saysOf_snoc, hread, hsaid]
    exact exchange.owed
  · rw [hnow]
    show porter.afterAll phases ((Event.waited (.send ⟨.attach session, some n⟩) (.ok ())).happening i) j = _ ↔ _
    by_cases hij : i = j
    · subst hij
      rw [afterAll_self, hi]
      show AttachPhase.sent session n = .sent session m ↔ some (i, n) = some (i, m)
      simp
    · rw [afterAll_of_ne _ _ hij, exchange.waits]
      refine ⟨nofun, fun h => ?_⟩
      cases h
      exact absurd rfl hij

/-- An attach of the session takes its answer: it was acknowledged, and nothing is left. -/
theorem taken (exchange : Exchange session stage done h phases) {i n due : Nat} {m : ControlMessage}
    (hi : phases i = .sent session n) (hnow : st.happening = .looked i (.ack session due) (some (.received m)))
    (hinbox : h'.inbox = h.inbox)
    (hm : Mailbox.firstAnswer (·.session == session) h.acks.messages = some (m, h'.acks.messages)) :
    Acknowledged done i session n ∧
      Exchange session .idle (done ++ [st]) h' (porter.afterAll phases st.happening) := by
  have hwho := (exchange.waits i n).1 hi
  obtain ⟨skipped, heq, hskipped, hsession⟩ := Mailbox.firstAnswer_eq_some hm
  have huntaken := exchange.untaken
  rw [heq, List.filter_append, hskipped, List.nil_append,
    List.filter_cons_of_pos (p := fun x : ControlMessage => x.session == session) hsession] at huntaken
  have hread : st.read? = none := by unfold Step.read?; rw [hnow]
  have hsaid : st.said? = none := by unfold Step.said?; rw [hnow]
  cases stage with
  | answered j n' =>
    cases hwho
    refine ⟨exchange.past, by rw [hinbox]; exact exchange.unread, (List.cons.inj huntaken).2, ?_, fun j m' => ?_,
      trivial⟩
    · rw [asksOf_snoc, saysOf_snoc, hread, hsaid]
      exact exchange.owed
    · rw [hnow]
      show porter.afterAll phases ((Event.waited (.ack session due) (.received m)).happening i) j = _ ↔ _
      refine ⟨fun h => ?_, nofun⟩
      by_cases hij : i = j
      · subst hij
        rw [afterAll_self, hi] at h
        cases h
      · rw [afterAll_of_ne _ _ hij, exchange.waits] at h
        cases h
        exact absurd rfl hij
  | _ => cases huntaken

/-- A look that does not find an answer can lose one of the session to an attach of another. -/
theorem missed (exchange : Exchange session stage done h phases) (hread : st.read? = none) (hsaid : st.said? = none)
    (hinbox : h'.inbox = h.inbox) (hacks : h'.acks.messages = [])
    (hwaits : ∀ i n, phases' i = .sent session n ↔ phases i = .sent session n) :
    ∃ stage', Exchange session stage' (done ++ [st]) h' phases' := by
  have howed : saysOf (done ++ [st]) session + stage.owed = asksOf (done ++ [st]) session := by
    rw [asksOf_snoc, saysOf_snoc, hread, hsaid]
    exact exchange.owed
  have hunread := exchange.unread
  rw [← hinbox] at hunread
  have hwaits j m := (hwaits j m).trans (exchange.waits j m)
  cases stage with
  | answered i n => exact ⟨.lost i n, hunread, by rw [hacks]; rfl, howed, hwaits, trivial⟩
  | _ => exact ⟨_, hunread, by rw [hacks]; rfl, howed, hwaits, exchange.past.append [st]⟩

/-- The worker reads the next message of its inbox, if there is one. -/
theorem received (exchange : Exchange session stage done st.before.host.hub phases)
    (known : Correspondence done st.before.host.hub phases) (hnow : st.happening = .signed .receive) :
    ∃ stage', Exchange session stage' (done ++ [st]) (st.before.host.hub.afterSigner .receive) phases := by
  have hsaid : st.said? = none := by unfold Step.said?; rw [hnow]
  have hread : st.read? = st.before.host.hub.inbox.head? := by unfold Step.read?; rw [hnow]
  cases hinbox : st.before.host.hub.inbox with
  | nil =>
    have hsame : st.before.host.hub.afterSigner .receive = st.before.host.hub := by
      simp only [Hub.afterSigner, Hub.receive, hinbox]
      rfl
    rw [hsame]
    exact ⟨stage, exchange.same rfl rfl (by rw [hread, hinbox]; rfl) (by rw [hsaid]; rfl) fun _ _ => Iff.rfl⟩
  | cons e rest =>
    have hafter : st.before.host.hub.afterSigner .receive = { st.before.host.hub with inbox := rest } := by
      simp only [Hub.afterSigner, Hub.receive, hinbox]
      rfl
    rw [hinbox] at hread
    rw [hafter]
    by_cases he : e.message = .attach session
    · have hunread := exchange.unread
      rw [hinbox, List.filter_cons_of_pos (by simpa using he)] at hunread
      cases stage with
      | asked i n =>
        obtain ⟨rfl, hrest⟩ := List.cons.inj hunread
        obtain ⟨ss₁, sending, ss₂, rfl, hsends, -⟩ := known.waiting i session n ((exchange.waits i n).2 rfl)
        refine ⟨.read i n, hrest, exchange.untaken, ?_, exchange.waits, ?_⟩
        · rw [asksOf_snoc, saysOf_snoc, hread, hsaid, ← exchange.owed]
          simp [ExchangeStage.owed]
        · exact ⟨ss₁, sending, ss₂, st, [], by rw [List.append_assoc, List.cons_append], hsends, hread⟩
      | _ => cases hunread
    · refine ⟨stage, exchange.same ?_ rfl ?_ (by rw [hsaid]; rfl) fun _ _ => Iff.rfl⟩
      · rw [hinbox, List.filter_cons_of_neg (by simpa using he)]
      · rw [hread]
        simpa using he

/-- The worker puts an answer into its box. -/
theorem answered (exchange : Exchange session stage done st.before.host.hub phases) {said : ControlMessage}
    (hnow : st.happening = .signed (.acknowledge said)) (hprompt : ¬ Unprompted (done ++ [st]) session) :
    ∃ stage', Exchange session stage' (done ++ [st]) (st.before.host.hub.afterSigner (.acknowledge said)) phases := by
  have hunread : st.read? = none := by unfold Step.read?; rw [hnow]
  have hsaid : st.said? = some said := by unfold Step.said?; rw [hnow]
  by_cases hsession : said.session = session
  · have hok : said = .attachOk session ∧ saysOf done session < asksOf done session := by
      refine ⟨Classical.byContradiction fun hne => ?_, Nat.lt_of_not_le fun hle => ?_⟩
      · exact hprompt ⟨done, st, [], said, rfl, hsaid, hsession, .inl hne⟩
      · exact hprompt ⟨done, st, [], said, rfl, hsaid, hsession, .inr hle⟩
    obtain ⟨rfl, hlt⟩ := hok
    have howed := exchange.owed
    cases stage with
    | read i n =>
      refine ⟨.answered i n, exchange.unread, ?_, ?_, exchange.waits, ?_⟩
      · show (st.before.host.hub.acks.messages ++ [ControlMessage.attachOk session]).filter _ = _
        rw [List.filter_append, exchange.untaken]
        simp [ExchangeStage.untaken, ControlMessage.session]
      · rw [asksOf_snoc, saysOf_snoc, hunread, hsaid, ← exchange.owed]
        simp [ExchangeStage.owed, ControlMessage.session]
      · exact ⟨done, st, [], rfl, hsaid, exchange.past⟩
    | _ => exact absurd hlt (Nat.not_lt.2 (Nat.le_of_eq howed.symm))
  · refine ⟨stage, exchange.same rfl ?_ (by rw [hunread]; rfl) ?_ fun _ _ => Iff.rfl⟩
    · show (st.before.host.hub.acks.messages ++ [said]).filter _ = _
      rw [List.filter_append, List.filter_cons_of_neg (by simpa using hsession)]
      exact List.append_nil _
    · rw [hsaid]
      simpa using hsession

/-- The worker reads a request, answers it, or loses it. -/
theorem signed (exchange : Exchange session stage done st.before.host.hub phases)
    (known : Correspondence done st.before.host.hub phases) {m : SignerMove} (hnow : st.happening = .signed m)
    (hprompt : ¬ Unprompted (done ++ [st]) session) :
    ∃ stage', Exchange session stage' (done ++ [st]) (st.before.host.hub.afterSigner m) phases := by
  -- A move that has nothing to do with messages.
  have hidle (hread : st.read? = none) (hsaid : st.said? = none)
      (hinbox : (st.before.host.hub.afterSigner m).inbox = st.before.host.hub.inbox)
      (hacks : (st.before.host.hub.afterSigner m).acks.messages = st.before.host.hub.acks.messages) :
      ∃ stage', Exchange session stage' (done ++ [st]) (st.before.host.hub.afterSigner m) phases :=
    ⟨stage, exchange.same (by rw [hinbox]) (by rw [hacks]) (by rw [hread]; rfl) (by rw [hsaid]; rfl) fun _ _ => Iff.rfl⟩
  cases m with
  | receive => exact exchange.received known hnow
  | acknowledge said => exact exchange.answered hnow hprompt
  | closeInbox =>
    have hread : st.read? = none := by unfold Step.read?; rw [hnow]
    have hsaid : st.said? = none := by unfold Step.said?; rw [hnow]
    have howed : saysOf (done ++ [st]) session + stage.owed = asksOf (done ++ [st]) session := by
      rw [asksOf_snoc, saysOf_snoc, hread, hsaid]
      exact exchange.owed
    cases stage with
    | asked i n => exact ⟨.lost i n, rfl, exchange.untaken, howed, exchange.waits, trivial⟩
    | _ => exact ⟨_, rfl, exchange.untaken, howed, exchange.waits, exchange.past.append [st]⟩
  | take n =>
    obtain ⟨boxes, heq⟩ := st.before.host.hub.take_eq n
    refine hidle (by unfold Step.read?; rw [hnow]) (by unfold Step.said?; rw [hnow]) ?_ ?_ <;>
      simp only [Hub.afterSigner, heq]
  | _ => exact hidle (by unfold Step.read?; rw [hnow]) (by unfold Step.said?; rw [hnow]) rfl rfl

/-- **Every step keeps to the exchange**, unless the worker speaks unprompted or an attach is given up. -/
theorem step (exchange : Exchange session stage done st.before.host.hub phases)
    (known : Correspondence done st.before.host.hub phases) (held : LaneHeld q phases)
    (relays : st.before.host.hub.Relays st.happening st.after.host.hub)
    (hallows : ∀ i e, st.happening.event? i = some e → porter.allows (phases i) e)
    (hprompt : ¬ Unprompted (done ++ [st]) session) (hkept : ¬ GivenUp (done ++ [st]) session) :
    ∃ stage', Exchange session stage' (done ++ [st]) st.after.host.hub (porter.afterAll phases st.happening) := by
  have hwaits := known.sent_iff hallows hkept
  have hquiet (hsigned : ∀ m, st.happening ≠ .signed m) : st.read? = none ∧ st.said? = none := by
    unfold Step.read? Step.said?
    constructor <;> split <;> first | rfl | exact absurd ‹_› (hsigned _)
  generalize hnow : st.happening = happening, hafter : st.after.host.hub = h' at relays
  cases relays with
  | rest hidle hinbox hacks =>
    have hnot {other : Happening} (h : other.relays = true) : st.happening ≠ other := by
      rintro heq
      rw [← hnow, heq, h] at hidle
      cases hidle
    obtain ⟨hread, hsaid⟩ := hquiet fun m => hnot rfl
    rw [hnow] at hwaits
    exact ⟨stage, exchange.same (by rw [hinbox]) (by rw [hacks]) (by rw [hread]; rfl) (by rw [hsaid]; rfl)
      (hwaits (fun _ _ _ _ => hnow ▸ hnot rfl) fun _ _ _ => hnow ▸ hnot rfl)⟩
  | sent i e hinbox hacks =>
    obtain ⟨hread, hsaid⟩ := hquiet fun m => by rw [hnow]; nofun
    have hother (he : e.message ≠ .attach session) (hi : ∀ n, phases i ≠ .opened session n) :
        Exchange session stage (done ++ [st]) h' (porter.afterAll phases st.happening) := by
      refine exchange.same ?_ (by rw [hacks]) (by rw [hread]; rfl) (by rw [hsaid]; rfl)
        (hwaits (fun j n envelope hj hsend => ?_) fun j due m => by rw [hnow]; nofun)
      · rw [hinbox, List.filter_append, List.filter_cons_of_neg (by simpa using he)]
        exact List.append_nil _
      · cases hnow.symm.trans hsend
        exact hi n hj
    rw [← hnow]
    rcases hallows i (.waited (.send e) (.ok ())) (Happening.event?_of_eq hnow) with
      ⟨found, n, hopened, rfl⟩ | ⟨hkind, -, hout⟩
    · by_cases hfound : found = session
      · subst hfound
        exact ⟨.asked i n, exchange.asked held hopened hnow hinbox hacks⟩
      · refine ⟨stage, hother (fun he => hfound (ControlMessage.attach.inj he)) fun m hm => hfound ?_⟩
        cases hopened.symm.trans hm
        rfl
    · exact ⟨stage, hother (fun he => hkind (by rw [he]; rfl)) fun m hm => by cases hout.symm.trans hm⟩
  | taken i found due hinbox hm =>
    rw [← hnow]
    obtain ⟨n, hsent⟩ := hallows i (.waited (.ack found due) (.received _)) (Happening.event?_of_eq hnow)
    by_cases hfound : found = session
    · subst hfound
      exact ⟨.idle, (exchange.taken hsent hnow hinbox hm).2⟩
    · obtain ⟨hread, hsaid⟩ := hquiet fun m => by rw [hnow]; nofun
      cases exchange.idle_of_held held (i := i) (by rw [hsent]; nofun) fun m hm => by
        cases hsent.symm.trans hm
        exact hfound rfl
      refine ⟨.idle, exchange.same (by rw [hinbox]) ?_ (by rw [hread]; rfl) (by rw [hsaid]; rfl)
        (hwaits (fun j n envelope _ => by rw [hnow]; nofun) fun j due m htake => ?_)⟩
      · obtain ⟨skipped, heq, -, -⟩ := Mailbox.firstAnswer_eq_some hm
        have huntaken := exchange.untaken
        refine Eq.trans (List.filter_eq_nil_iff.2 fun answer hanswer => ?_) huntaken.symm
        refine List.filter_eq_nil_iff.1 huntaken answer ?_
        rw [heq]
        exact List.mem_append_right _ (List.mem_cons_of_mem _ hanswer)
      · cases hnow.symm.trans htake
        exact hfound rfl
  | missed i found due hmissed hinbox hacks =>
    rw [← hnow]
    obtain ⟨hread, hsaid⟩ := hquiet fun m => by rw [hnow]; nofun
    have hwaits := hwaits (fun j n envelope _ => by rw [hnow]; nofun) fun j due m htake => by
      cases hnow.symm.trans htake
      exact hmissed m rfl
    rcases hacks with hacks | hacks
    · exact ⟨stage, exchange.same (by rw [hinbox]) (by rw [hacks]) (by rw [hread]; rfl) (by rw [hsaid]; rfl) hwaits⟩
    · exact exchange.missed hread hsaid hinbox hacks hwaits
  | signed m =>
    rw [afterAll_none _ _ fun _ => rfl]
    exact exchange.signed known hnow hprompt

end Exchange

/-! ## Along a run -/

section

variable {w w' : Wallet α} {ss ss₁ ss₂ : List (Step α)} {handing : Step α} {i : Nat} {session : String} {n : Nat}

/-- **How things stand between every attach and the worker**, in every run of the users of a new hub. -/
theorem Run.exchange (run : Run w ss w') (hempty : w.tasks = []) (hnew : w.host.hub = {})
    (huses : ∀ st ∈ ss, st.move.UsesHub) :
    LaneHeld w'.host.hub.queue (fun i => porter.seen .out (historyOf i ss)) ∧
      Correspondence ss w'.host.hub (fun i => porter.seen .out (historyOf i ss)) ∧
      ∀ session, Unprompted ss session ∨ GivenUp ss session ∨
        (∃ stage, Exchange session stage ss w'.host.hub fun i => porter.seen .out (historyOf i ss)) ∧
        ∀ i n, porter.seen .out (historyOf i ss) = .acked session n → Acknowledged ss i session n := by
  refine run.invariant (I := fun done w phases => LaneHeld w.host.hub.queue phases ∧
    Correspondence done w.host.hub phases ∧ ∀ session, Unprompted done session ∨ GivenUp done session ∨
      (∃ stage, Exchange session stage done w.host.hub phases) ∧
      ∀ i n, phases i = .acked session n → Acknowledged done i session n) hempty (Run.starts_usesHub huses)
    ⟨fun i hi => absurd rfl hi, ⟨?_, nofun, nofun⟩, fun session => .inr (.inr ⟨⟨.idle, hnew ▸ .fresh⟩, nofun⟩)⟩
    fun done st hst phases g hallows hthere => ?_
  · rw [hnew]
    nofun
  · obtain ⟨held, known, exchanges⟩ := hthere
    have relays := g.relays
    refine ⟨g.laneHeld (huses st hst) hallows held, known.step relays hallows, fun session => ?_⟩
    by_cases hprompt : Unprompted (done ++ [st]) session
    · exact .inl hprompt
    by_cases hkept : GivenUp (done ++ [st]) session
    · exact .inr (.inl hkept)
    obtain ⟨⟨stage, exchange⟩, hacknowledged⟩ := ((exchanges session).resolve_left fun h =>
      hprompt (h.append [st])).resolve_left fun h => hkept (h.append [st])
    refine .inr (.inr ⟨exchange.step known held relays hallows hprompt hkept, fun i n hi => ?_⟩)
    unfold afterAll at hi
    cases he : st.happening.event? i with
    | none =>
      rw [he] at hi
      exact (hacknowledged i n hi).append [st]
    | some e =>
      rw [he] at hi
      rcases AttachPhase.acked_from (hallows i e he) hi with hacked | ⟨hsent, due, m, rfl⟩
      · exact (hacknowledged i n hacked).append [st]
      · have hnow : st.happening = .looked i (.ack session due) (some (.received m)) := Happening.eq_of_event? he
        obtain ⟨hinbox, hm⟩ := (hnow ▸ relays).of_taken
        exact (exchange.taken hsent hnow hinbox hm).1.append [st]

/-- An attach that hands its opening over has taken a message for its session that the worker had put on the channel;
and the worker had read this attach's request and acknowledged the session afterwards, unless the worker had spoken
unprompted or an attach of the session had been given up while it waited. -/
theorem Run.acknowledged (run : Run w (ss₁ ++ handing :: ss₂) w') (hempty : w.tasks = []) (hnew : w.host.hub = {})
    (huses : ∀ st ∈ ss₁ ++ handing :: ss₂, st.move.UsesHub)
    (hnow : handing.happening = .accessed i (.attach session n) ()) :
    Replied ss₁ i session n ∧ (Acknowledged ss₁ i session n ∨ Unprompted ss₁ session ∨ GivenUp ss₁ session) := by
  have hallowed : porter.allows (porter.seen .out (historyOf i ss₁)) (.accessed (.attach session n) ()) :=
    run.allowedAll hempty (Run.starts_usesHub huses) (Happening.event?_of_eq hnow)
  have hacked : porter.seen .out (historyOf i ss₁) = .acked session n := hallowed
  obtain ⟨-, known, exchanges⟩ := run.cut.1.exchange hempty hnew fun st hst => huses st (List.mem_append_left _ hst)
  refine ⟨known.answered i session n hacked, ?_⟩
  rcases exchanges session with hprompt | hgiven | ⟨-, hacknowledged⟩
  · exact .inr (.inl hprompt)
  · exact .inr (.inr hgiven)
  · exact .inl (hacknowledged i n hacked)

end

/-- An attach that returns no error has handed its opening over. -/
theorem Handover.meets_attach_ok (timeout : Duration) (session : String) (own : Holdings) (h : History) :
    recorder.Meets anywhere (Handover.attach timeout session).run
      (fun r _ h => r = .ok () → ∃ n, .accessed (.attach session n) () ∈ h) own h := by
  refine meets_wait ⟨fun _ => trivial, fun _ => ⟨trivial, meets_bind ?_⟩⟩
  -- What the lane is left with does not matter.
  have hleave (r : Except ChannelError Unit) (own : Holdings) (h : History)
      (hr : r = .ok () → ∃ n, .accessed (.attach session n) () ∈ h) :
      recorder.Meets anywhere (do Program.access (.leaveWorker Hub.signerName); return r)
        (fun r _ h => r = .ok () → ∃ n, .accessed (.attach session n) () ∈ h) own h := by
    refine meets_access fun _ _ => ⟨trivial, fun hok => ?_⟩
    obtain ⟨n, hn⟩ := hr hok
    exact ⟨n, List.mem_append_left _ hn⟩
  refine Meets.imp ?_ hleave
  refine meets_access fun there _ => ⟨trivial, ?_⟩
  cases there with
  | true => exact nofun
  | false =>
    refine meets_access fun n _ => ⟨trivial, meets_wait ⟨fun _ => trivial, fun r => ⟨trivial, ?_⟩⟩⟩
    cases r with
    | error e => exact meets_access fun _ _ => ⟨trivial, nofun⟩
    | ok =>
      refine meets_access fun _ _ => ⟨trivial, meets_wait ⟨fun _ => trivial, fun outcome => ⟨trivial, ?_⟩⟩⟩
      cases outcome with
      | received m => exact meets_access fun _ _ => ⟨trivial, fun _ => ⟨n, List.mem_append_right _ List.mem_cons_self⟩⟩
      | _ => exact meets_access fun _ _ => ⟨trivial, nofun⟩

/-- **An attach that succeeds was acknowledged**: it sent its request and then took a message for its session that the
worker had put on the channel; and the worker had read this very request and acknowledged the session afterwards, unless
before that it put a message for the session on the channel that acknowledges nothing it has read, or an attach of the
session was given up while it waited, so that its acknowledgement could come too late. -/
theorem attach_ok_acknowledged {w w' : Wallet (Except ChannelError Unit)} {ss : List (Step (Except ChannelError Unit))}
    (run : Run w ss w') (hempty : w.tasks = []) (hnew : w.host.hub = {}) (huses : ∀ st ∈ ss, st.move.UsesHub)
    {st : Step (Except ChannelError Unit)} (hst : st ∈ ss) {timeout : Duration} {session : String}
    (hstart : st.move = .start (Handover.attach timeout session).run) {i : Nat} (hi : st.before.tasks.length = i)
    (hok : w'.result? i = some (.ok ())) :
    ∃ n ss₁ handing ss₂, ss = ss₁ ++ handing :: ss₂ ∧ handing.happening = .accessed i (.attach session n) () ∧
      Replied ss₁ i session n ∧ (Acknowledged ss₁ i session n ∨ Unprompted ss₁ session ∨ GivenUp ss₁ session) := by
  obtain ⟨-, hpost⟩ := run.result_since_start hst hstart hi (Handover.meets_attach_ok timeout session {} []) hok
  obtain ⟨n, hn⟩ := hpost rfl
  rw [recorder_seen, List.nil_append] at hn
  obtain ⟨h₁, h₂, hhistory⟩ := List.append_of_mem hn
  obtain ⟨ss₁, handing, ss₂, rfl, -, he, -⟩ := Run.step_of_event hhistory
  have hnow : handing.happening = .accessed i (.attach session n) () := Happening.eq_of_event? he
  exact ⟨n, ss₁, handing, ss₂, rfl, hnow, run.acknowledged hempty hnew huses hnow⟩

/-! An attach that is acknowledged, and one that takes an acknowledgement from before it began. -/

def attachOnce : List (Move (Except ChannelError Unit)) :=
  Move.start (Handover.attach (.ofMillis 20) "s").run :: List.replicate 5 (Move.advance 0) ++
  [Move.signer .receive, Move.signer (.acknowledge (.attachOk "s"))] ++ List.replicate 3 (Move.advance 0)

theorem attach_ok_acknowledged_attachOnce :
    ∃ ss w', Run ⟨idleHost, []⟩ ss w' ∧ ss.map (·.move) = attachOnce ∧ w'.result? 0 = some (.ok ()) ∧
      ∃ n ss₁ handing ss₂, ss = ss₁ ++ handing :: ss₂ ∧ handing.happening = .accessed 0 (.attach "s" n) () ∧
        Replied ss₁ 0 "s" n ∧ (Acknowledged ss₁ 0 "s" n ∨ Unprompted ss₁ "s" ∨ GivenUp ss₁ "s") := by
  obtain ⟨⟨ss, w'⟩, htrace, hok⟩ : ∃ r, (Wallet.mk idleHost []).trace? attachOnce = some r ∧
      r.2.result? 0 = some (.ok ()) := ⟨_, rfl, rfl⟩
  have run := Run.of_trace? htrace
  have hmoves := Wallet.moves_of_trace? htrace
  refine ⟨ss, w', run, hmoves, hok, ?_⟩
  have huses (st : Step (Except ChannelError Unit)) (hst : st ∈ ss) : st.move.UsesHub := by
    have hmem : st.move ∈ attachOnce := hmoves ▸ List.mem_map_of_mem hst
    generalize st.move = m at hmem
    simp only [attachOnce, List.cons_append, List.mem_append, List.mem_cons, List.mem_replicate, List.not_mem_nil,
      or_false] at hmem
    rcases hmem with rfl | ((⟨-, rfl⟩ | rfl | rfl) | ⟨-, rfl⟩)
    · exact .attach _ _
    all_goals trivial
  cases run with
  | nil => cases hmoves
  | cons first rest =>
    have hstart := (List.cons.inj hmoves).1
    exact attach_ok_acknowledged (.cons first rest) rfl rfl huses List.mem_cons_self hstart rfl hok

/-- The worker acknowledges the session before anyone attaches it, reads the request, and says nothing more. -/
def acknowledgeEarly : List (Move (Except ChannelError Unit)) :=
  Move.signer (.acknowledge (.attachOk "s")) :: Move.start (Handover.attach (.ofMillis 20) "s").run ::
  List.replicate 5 (Move.advance 0) ++ [Move.signer .receive] ++ List.replicate 3 (Move.advance 0)

theorem attach_ok_unacknowledged :
    ∃ ss w', Run ⟨idleHost, []⟩ ss w' ∧ ss.map (·.move) = acknowledgeEarly ∧ w'.result? 0 = some (.ok ()) ∧
      ∀ n, ¬ Acknowledged ss 0 "s" n := by
  obtain ⟨⟨ss, w'⟩, htrace, hok, hlater⟩ : ∃ r, (Wallet.mk idleHost []).trace? acknowledgeEarly = some r ∧
      r.2.result? 0 = some (.ok ()) ∧ r.1.tail.filterMap Step.said? = [] := ⟨_, rfl, rfl, rfl⟩
  refine ⟨ss, w', .of_trace? htrace, Wallet.moves_of_trace? htrace, hok, ?_⟩
  rintro n ⟨ss₁, saying, ss₂, rfl, hsaid, heard⟩
  cases ss₁ with
  | nil =>
    obtain ⟨ss₁, sending, ss₂, reading, ss₃, h, -⟩ := heard
    exact absurd h.symm (List.append_ne_nil_of_right_ne_nil _ (List.cons_ne_nil _ _))
  | cons first ss₁ =>
    rw [List.filterMap_eq_nil_iff.1 hlater saying (List.mem_append_right _ List.mem_cons_self)] at hsaid
    cases hsaid

end PasskeyConsent

import PasskeyConsent.Proofs.Channel.Handshake
import PasskeyConsent.Proofs.Channel.Turns
/-!
# Waiting for an answer

An attach that has sent its request reads the clock once and then waits for its answer, until it finds one or its time
over or is dropped (`Run.inProgress`).  All attaches look for their answers on one channel, and a look drops what it
does not look for; but while an attach is in progress nobody else looks (`Run.eq_of_looked`), so an answer that is on
the channel for it stays there (`Run.answer_kept`).
-/
namespace PasskeyConsent

open Observer
open AttachPhase (porter)

variable {α : Type}

/-! ## Waiting for an answer -/

/-- Where a task is in the wait for the answer to its request. -/
inductive AckPhase where
  | idle
  /-- The request is sent, and the time until which to wait is not settled yet. -/
  | asked (session : String)
  | waiting (session : String)
deriving DecidableEq, Repr

namespace AckPhase

/-- The session whose answer is awaited. -/
def awaited? : AckPhase → Option String
  | idle => none
  | asked session | waiting session => some session

def after (s : AckPhase) : Event → AckPhase
  | .waited (.send e) (.ok ()) => if e.box.isSome then asked e.message.session else s
  | .accessed .now _ =>
    match s with
    | asked session => waiting session
    | _ => s
  | .waited (.ack ..) _ | .stopped => idle
  | _ => s

/-- The one who sees to it that a task that has sent its request does nothing but read the clock once and wait for the
answer. -/
def attendant : Observer AckPhase where
  after := after
  allows
    | idle, _ => True
    | asked _, .accessed .now _ | asked _, .stopped | waiting _, .stopped => True
    | waiting session, .waited (.ack found _) _ => found = session
    | _, _ => False

theorem meets_attach (timeout : Duration) (session : String) (own : Holdings) :
    attendant.Meets anywhere (Handover.attach timeout session).run (fun _ _ s => s = idle) own idle := by
  refine meets_wait ⟨fun _ => trivial, fun _ => ⟨trivial, meets_bind ?_⟩⟩
  have hleave (r : Except ChannelError Unit) (own : Holdings) :
      attendant.Meets anywhere (do Program.access (.leaveWorker Hub.signerName); return r) (fun _ _ s => s = idle)
        own idle := meets_access fun _ _ => ⟨trivial, rfl⟩
  refine meets_access fun there _ => ⟨trivial, ?_⟩
  cases there with
  | true => exact hleave _ _
  | false =>
    refine meets_access fun n _ => ⟨trivial, meets_wait ⟨fun _ => trivial, fun r => ⟨trivial, ?_⟩⟩⟩
    cases r with
    | error e => exact meets_access fun _ _ => ⟨trivial, hleave _ _⟩
    | ok =>
      refine meets_access fun _ _ => ⟨trivial, meets_wait ⟨fun _ => trivial, fun outcome => ⟨rfl, ?_⟩⟩⟩
      cases outcome with
      | received m => exact meets_access fun _ _ => ⟨trivial, hleave _ _⟩
      | _ => exact meets_access fun _ _ => ⟨trivial, hleave _ _⟩

/-- What is not part of an attach sends no request. -/
theorem after_of_not_isOfAttach {e : Effect} (he : e.isOfAttach = false) {event : Event} (hevent : e.Yields event) :
    attendant.after idle event = idle := by
  cases hevent with
  | access a x => cases a <;> rfl
  | wait w x =>
    cases w with
    | send envelope =>
      obtain ⟨-, hbox⟩ := Bool.or_eq_false_iff.1 he
      rcases x with _ | ⟨⟩
      · rfl
      · show (if envelope.box.isSome then asked envelope.message.session else idle) = idle
        rw [hbox]
        rfl
    | _ => rfl
  | call | answer => rfl
  | stop | watched => cases he

end AckPhase

open AckPhase (attendant)

/-- **Who uses the hub awaits no answer in the end**, wherever it is stopped. -/
theorem Program.UsesHub.meets_attendant {p : Program α} (h : p.UsesHub) (own : Holdings) :
    attendant.Meets anywhere p (fun _ _ s => s = .idle) own .idle :=
  h.meets_of AckPhase.meets_attach (fun _ he _ hevent => ⟨trivial, AckPhase.after_of_not_isOfAttach he hevent⟩)
    (fun s => ⟨by cases s <;> trivial, rfl⟩) own

theorem Run.starts_attendant {ss : List (Step α)} (h : ∀ st ∈ ss, st.move.UsesHub) :
    Run.Starts attendant (fun _ _ s => s = .idle) .idle ss :=
  Run.starts_of_usesHub (fun _ hp => hp.meets_attendant {}) h

/-! ## An attach in progress -/

/-- The wait of the task for an answer is over: it has found one or none, or it is dropped. -/
def Step.Concludes (st : Step α) (i : Nat) : Prop :=
  (∃ session due outcome, st.happening = .looked i (.ack session due) (some outcome)) ∨ st.happening = .stopped i

/-- The task whose wait for an answer is over. -/
def Step.concluder? (st : Step α) : Option Nat :=
  match st.happening with
  | .looked i (.ack _ _) (some _) | .stopped i => some i
  | _ => none

/-- The task that sends something to the worker, and what it sends. -/
def Step.sent? (st : Step α) : Option (Nat × Envelope) :=
  match st.happening with
  | .looked i (.send e) (some (.ok ())) => some (i, e)
  | _ => none

theorem Step.concluder?_of_concludes {st : Step α} {i : Nat} (h : st.Concludes i) : st.concluder? = some i := by
  unfold concluder?
  rcases h with ⟨_, _, _, h⟩ | h <;> rw [h]

theorem Step.sends_of_sent? {st : Step α} {i n : Nat} {session : String}
    (h : st.sent? = some (i, ⟨.attach session, some n⟩)) : st.Sends i session n := by
  unfold sent? at h
  split at h
  · rename_i hnow
    cases h
    exact hnow
  · cases h

/-- The task has sent the request of its attach and still waits for the answer. -/
def InProgress (ss : List (Step α)) (i : Nat) (session : String) (n : Nat) : Prop :=
  Since (·.Sends i session n) (·.Concludes i) ss

section

variable {w w' : Wallet α} {ss ss₁ ss₂ : List (Step α)} {st : Step α} {i j : Nat} {session found : String} {n due : Nat}

/-- A task that awaits an answer reads the clock or concludes. -/
theorem AckPhase.of_awaited {s : AckPhase} {e : Event} (hs : s.awaited? = some session)
    (hallowed : attendant.allows s e) : (∃ x, e = .accessed .now x ∧ s = .asked session) ∨ e = .stopped ∨
      ∃ due outcome, e = .waited (.ack session due) outcome := by
  cases s with
  | idle => cases hs
  | asked session' =>
    cases hs
    cases e with
    | accessed a x => cases a <;> first | exact .inl ⟨x, rfl, rfl⟩ | exact hallowed.elim
    | stopped => exact .inr (.inl rfl)
    | _ => exact hallowed.elim
  | waiting session' =>
    cases hs
    cases e with
    | waited u x =>
      cases u with
      | ack found due =>
        cases hallowed
        exact .inr (.inr ⟨due, x, rfl⟩)
      | _ => exact hallowed.elim
    | stopped => exact .inr (.inl rfl)
    | _ => exact hallowed.elim

/-- **Where a task is whose attach is in progress.** -/
theorem Run.inProgress (run : Run w ss w') (hempty : w.tasks = []) (huses : ∀ st ∈ ss, st.move.UsesHub)
    (h : InProgress ss i session n) : porter.seen .out (historyOf i ss) = .sent session n ∧
      (attendant.seen .idle (historyOf i ss)).awaited? = some session ∧
      ∃ t, w'.tasks[i]? = some t ∧ t.calling = false := by
  refine run.along (I := fun done w => InProgress done i session n →
    porter.seen .out (historyOf i done) = .sent session n ∧
      (attendant.seen .idle (historyOf i done)).awaited? = some session ∧
      ∃ t, w.tasks[i]? = some t ∧ t.calling = false) (fun h => absurd h not_since_nil)
    (fun done st rest hss before g hthere hprogress => ?_) h
  have hbefore : ∀ st' ∈ done, st'.move.UsesHub := fun st' h => huses st' (hss ▸ List.mem_append_left _ h)
  have hallows {e : Event} (he : st.happening.event? i = some e) :
      porter.allows (porter.seen .out (historyOf i done)) e ∧
        attendant.allows (attendant.seen .idle (historyOf i done)) e :=
    ⟨(before.followsAll hempty (Run.starts_usesHub hbefore)).allows g he,
      (before.followsAll hempty (Run.starts_attendant hbefore)).allows g he⟩
  rcases since_snoc.1 hprogress with hsends | ⟨hprogress, hgoes⟩
  · have he := (Happening.eq_iff_event? (.waited (.send ⟨.attach session, some n⟩) (.ok ()))).1 hsends
    obtain ⟨t, t', -, hnotices, ht'⟩ := g.noticed he
    rw [porter.seen_snoc_some _ _ he, attendant.seen_snoc_some _ _ he]
    refine ⟨?_, rfl, t', ht', by cases hnotices <;> rfl⟩
    rcases (hallows he).1 with ⟨session', n', hopened, heq⟩ | ⟨hkind, -⟩
    · cases heq
      rw [hopened]
      rfl
    · exact absurd rfl hkind
  · obtain ⟨hphase, hawaited, t, ht, hcalling⟩ := hthere hprogress
    cases he : st.happening.event? i with
    | none =>
      rw [porter.seen_snoc_none _ _ he, attendant.seen_snoc_none _ _ he]
      refine ⟨hphase, hawaited, t, ?_, hcalling⟩
      rcases g.task ht with ⟨-, ht'⟩ | ⟨e, t', hsome, -⟩
      · exact ht'
      · rw [he] at hsome
        cases hsome
    | some e =>
      have hnow := Happening.eq_of_event? he
      rcases AckPhase.of_awaited hawaited (hallows he).2 with ⟨x, rfl, hasked⟩ | rfl | ⟨due, outcome, rfl⟩
      · rw [porter.seen_snoc_some _ _ he, attendant.seen_snoc_some _ _ he, hphase, hasked]
        obtain ⟨u, t', hu, hnotices, ht'⟩ := g.noticed he
        cases ht.symm.trans hu
        refine ⟨rfl, rfl, t', ht', ?_⟩
        cases hnotices
        exact hcalling
      · exact absurd (.inr hnow) hgoes
      · exact absurd (.inl ⟨_, _, _, hnow⟩) hgoes

/-- Who looks for an answer has sent its request. -/
theorem Run.sent_of_looked (run : Run w (ss₁ ++ st :: ss₂) w') (hempty : w.tasks = [])
    (huses : ∀ st' ∈ ss₁ ++ st :: ss₂, st'.move.UsesHub) {outcome : Option (WaitOutcome ControlMessage)}
    (hnow : st.happening = .looked j (.ack found due) outcome) :
    ∃ m, porter.seen .out (historyOf j ss₁) = .sent found m :=
  run.allowed_look (o := porter) hempty (Run.starts_usesHub huses) hnow .timedOut

/-- **While an attach is in progress nobody else looks for an answer.** -/
theorem Run.eq_of_looked (run : Run w (ss₁ ++ st :: ss₂) w') (hempty : w.tasks = []) (hnew : w.host.hub = {})
    (huses : ∀ st' ∈ ss₁ ++ st :: ss₂, st'.move.UsesHub) (hprogress : InProgress ss₁ i session n)
    {outcome : Option (WaitOutcome ControlMessage)} (hnow : st.happening = .looked j (.ack found due) outcome) :
    j = i ∧ found = session := by
  have hbefore : ∀ st' ∈ ss₁, st'.move.UsesHub := fun st' h => huses st' (List.mem_append_left _ h)
  obtain ⟨m, hj⟩ := run.sent_of_looked hempty huses hnow
  obtain ⟨hi, -⟩ := run.cut.1.inProgress hempty hbefore hprogress
  obtain ⟨held, -⟩ := run.cut.1.turns hempty hnew hbefore
  cases held.unique (i := j) (j := i) (by rw [hj]; nofun) (by rw [hi]; nofun)
  cases hj.symm.trans hi
  exact ⟨rfl, rfl⟩

end

/-! ## What is on the channel -/

/-- The answer that is found is the first message for the session. -/
theorem Mailbox.firstAnswer_fst {β : Type} (p : β → Bool) (l : List β) :
    (firstAnswer p l).map (·.1) = l.find? p := by
  induction l with
  | nil => rfl
  | cons m l ih =>
    unfold firstAnswer
    by_cases hm : p m = true
    · rw [if_pos hm, List.find?_cons_of_pos hm]
      rfl
    · rw [if_neg hm, List.find?_cons_of_neg hm, ih]

/-- A look for an answer that is there finds it, unless the time is over. -/
theorem Host.look_ack (h : Host) (task : Nat) {session : String} (due : Nat) {m : ControlMessage}
    (hm : h.hub.acks.messages.find? (·.session == session) = some m) :
    (h.look task (.ack session due)).1 = some (if due ≤ h.now then .timedOut else .received m) := by
  show (h.hub.acks.look _ ⟨false, due ≤ h.now⟩).1 = _
  unfold Mailbox.look
  by_cases hdue : due ≤ h.now
  · simp [hdue]
  · rw [← Mailbox.firstAnswer_fst] at hm
    obtain ⟨⟨m', rest⟩, hfirst, rfl⟩ := Option.map_eq_some_iff.1 hm
    simp [hdue, hfirst]

/-- Nothing is taken off the channel but by a look for an answer. -/
theorem Hub.Relays.acks_of_not_looked {h h' : Hub} {happening : Happening} (relays : h.Relays happening h')
    (hnot : ∀ i session due outcome, happening ≠ .looked i (.ack session due) outcome) :
    ∃ more, h'.acks.messages = h.acks.messages ++ more := by
  cases relays with
  | rest _ _ hacks => exact ⟨[], by rw [hacks, List.append_nil]⟩
  | sent _ _ _ hacks => exact ⟨[], by rw [hacks, List.append_nil]⟩
  | taken => exact absurd rfl (hnot _ _ _ _)
  | missed => exact absurd rfl (hnot _ _ _ _)
  | signed move =>
    cases move with
    | acknowledge m => exact ⟨[m], rfl⟩
    | receive =>
      refine ⟨[], ?_⟩
      simp only [afterSigner, receive]
      split <;> exact (List.append_nil _).symm
    | take n =>
      obtain ⟨boxes, heq⟩ := h.take_eq n
      refine ⟨[], ?_⟩
      simp only [afterSigner, heq, List.append_nil]
    | _ => exact ⟨[], (List.append_nil _).symm⟩

theorem Hub.Relays.of_signed {h h' : Hub} {m : SignerMove} (relays : h.Relays (.signed m) h') :
    h' = h.afterSigner m := by
  cases relays with
  | rest hidle => cases hidle
  | signed => rfl

section

variable {w w' : Wallet α} {ss ss₁ ss₂ : List (Step α)} {saying : Step α} {i : Nat} {session : String} {n : Nat}
  {m : ControlMessage}

/-- **An answer stays on the channel** as long as the attach that it is for is in progress. -/
theorem Run.answer_kept (run : Run w (ss₁ ++ saying :: ss₂) w') (hempty : w.tasks = []) (hnew : w.host.hub = {})
    (huses : ∀ st ∈ ss₁ ++ saying :: ss₂, st.move.UsesHub) (hprogress : InProgress (ss₁ ++ [saying]) i session n)
    (hm : saying.after.host.hub.acks.messages.find? (·.session == session) = some m)
    (hgoes : ∀ st ∈ ss₂, ¬ st.Concludes i) :
    w'.host.hub.acks.messages.find? (·.session == session) = some m := by
  refine run.cut.2.2.along (I := fun _ w => w.host.hub.acks.messages.find? (·.session == session) = some m) hm
    fun done st rest hss _ g hthere => ?_
  subst hss
  have hst : ¬ st.Concludes i := hgoes st (List.mem_append_right _ List.mem_cons_self)
  -- A look would be the attach's own, and find the answer.
  have hnot (j : Nat) (found : String) (due : Nat) (outcome : Option (WaitOutcome ControlMessage)) :
      st.happening ≠ .looked j (.ack found due) outcome := by
    intro hnow
    rw [List.append_cons, ← List.append_assoc] at run huses
    have hthen : InProgress ((ss₁ ++ [saying]) ++ done) i session n :=
      hprogress.append fun st' h => hgoes st' (List.mem_append_left _ h)
    obtain ⟨rfl, rfl⟩ := run.eq_of_looked hempty hnew huses hthen hnow
    rw [hnow] at g
    have houtcome := g.of_looked.2.1
    rw [st.before.host.look_ack j due hthere] at houtcome
    exact hst (.inl ⟨found, due, _, hnow.trans (by rw [← houtcome])⟩)
  obtain ⟨more, hmore⟩ := g.relays.acks_of_not_looked hnot
  rw [hmore, List.find?_append, hthere]
  rfl

end

/-! ## Whose answer it is -/

/-- The session that an attach sends its request for. -/
def Step.requested? (st : Step α) : Option String :=
  match st.happening with
  | .looked _ (.send ⟨.attach session, _⟩) (some (.ok ())) => some session
  | _ => none

section

variable {w w' : Wallet α} {ss ss₁ ss₂ : List (Step α)} {st saying : Step α} {i : Nat} {session : String} {n : Nat}

theorem Step.requested?_of_sends (h : st.Sends i session n) : st.requested? = some session := by
  unfold requested?
  rw [h]

/-- What the worker says comes behind what is on the channel. -/
theorem Run.acks_of_said (run : Run w (ss₁ ++ saying :: ss₂) w') {m : ControlMessage} (hsaid : saying.said? = some m) :
    saying.after.host.hub.acks.messages = saying.before.host.hub.acks.messages ++ [m] := by
  have relays := (Wallet.Goes.of_step? run.cut.2.1).relays
  unfold Step.said? at hsaid
  split at hsaid
  · rename_i hnow
    cases hsaid
    rw [hnow] at relays
    rw [relays.of_signed]
    rfl
  · cases hsaid

/-- No attach of the session has been given up while the only one is in progress. -/
theorem Run.not_givenUp (run : Run w ss w') (hempty : w.tasks = []) (huses : ∀ st ∈ ss, st.move.UsesHub)
    (hdistinct : (ss.filterMap Step.requested?).Nodup) (hprogress : InProgress ss i session n) :
    ¬ GivenUp ss session := by
  rintro ⟨j, m, _, leaving, later, rfl, ⟨pre, sending, between, rfl, hsends, -⟩, hleaving⟩
  obtain ⟨pre', sending', between', heq, hsends', hgoes⟩ := hprogress
  rw [List.append_assoc, List.cons_append] at heq hdistinct
  obtain ⟨rfl, rfl, rfl⟩ := eq_of_nodup_filterMap (Step.requested?_of_sends hsends)
    (Step.requested?_of_sends hsends') heq hdistinct
  cases hsends.symm.trans hsends'
  rcases hleaving with habandons | hstops
  · have hthen : InProgress (pre ++ sending :: between) i session n :=
      ⟨pre, sending, between, rfl, hsends, fun st h => hgoes st (List.mem_append_left _ h)⟩
    obtain ⟨-, hawaited, -⟩ :=
      run.cut.1.inProgress hempty (fun st h => huses st (List.mem_append_left _ h)) hthen
    have hallowed := run.allowedAll hempty (Run.starts_attendant huses)
      (Happening.event?_of_eq (e := .accessed (.abandonBox n) ()) habandons)
    rcases AckPhase.of_awaited hawaited hallowed with ⟨x, h, -⟩ | h | ⟨due, outcome, h⟩ <;> cases h
  · exact hgoes leaving (List.mem_append_right _ List.mem_cons_self) (.inr hstops)

/-- **What the worker says while the only attach of the session is in progress** answers that attach, and it is the
first message for the session. -/
theorem Run.answers (run : Run w (ss₁ ++ saying :: ss₂) w') (hempty : w.tasks = []) (hnew : w.host.hub = {})
    (huses : ∀ st ∈ ss₁ ++ saying :: ss₂, st.move.UsesHub)
    (hdistinct : ((ss₁ ++ saying :: ss₂).filterMap Step.requested?).Nodup)
    (hprompt : ¬ Unprompted (ss₁ ++ saying :: ss₂) session) (hprogress : InProgress ss₁ i session n)
    (hsaid : saying.said? = some (.attachOk session)) :
    Heard ss₁ i session n ∧
      saying.after.host.hub.acks.messages.find? (·.session == session) = some (.attachOk session) := by
  have hbefore : ∀ st ∈ ss₁, st.move.UsesHub := fun st h => huses st (List.mem_append_left _ h)
  have hdistinct' : (ss₁.filterMap Step.requested?).Nodup :=
    hdistinct.sublist ((List.sublist_append_left ss₁ _).filterMap _)
  obtain ⟨hphase, -⟩ := run.cut.1.inProgress hempty hbefore hprogress
  obtain ⟨-, -, exchanges⟩ := run.cut.1.exchange hempty hnew hbefore
  obtain ⟨⟨stage, exchange⟩, -⟩ := ((exchanges session).resolve_left fun h => hprompt (h.append _)).resolve_left
    (run.cut.1.not_givenUp hempty hbefore hdistinct' hprogress)
  have hwho := (exchange.waits i n).1 hphase
  have howed : saysOf ss₁ session < asksOf ss₁ session :=
    Nat.lt_of_not_le fun hle => hprompt ⟨ss₁, saying, ss₂, _, rfl, hsaid, rfl, .inr hle⟩
  have hcount := exchange.owed
  cases stage with
  | read i' n' =>
    cases hwho
    refine ⟨exchange.past, ?_⟩
    have hnone : saying.before.host.hub.acks.messages.find? (·.session == session) = none :=
      List.find?_eq_none.2 fun m hm hsession => List.filter_eq_nil_iff.1 exchange.untaken m hm hsession
    rw [run.acks_of_said hsaid, List.find?_append, hnone, Option.none_or]
    exact List.find?_cons_of_pos (beq_iff_eq.2 rfl)
  | _ => exact absurd howed (Nat.not_lt.2 (Nat.le_of_eq hcount.symm))

end

end PasskeyConsent

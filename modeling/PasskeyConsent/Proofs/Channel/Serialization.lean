import PasskeyConsent.Proofs.Channel.Awaiting
/-!
# One handshake at a time

An attach sends its request and waits for the answer in its turn in the worker's lane, and the next turn begins when it
is through or dropped.  So an acknowledgement that the worker gives to the attach in progress is lost to no other: that
attach takes it with its next look, unless it finds its time over or is dropped first (`handshakes_serialized`); and it
needs no one else to get to that look (`Run.goes_on`).
-/
namespace PasskeyConsent

open Observer
open AttachPhase (porter)
open AckPhase (attendant)

variable {α : Type}

/-! ## Nothing holds the attach up -/

/-- An effect that can come to an end: who waits for nothing at all goes no further. -/
def Effect.isAnswerable : Effect → Bool
  | .access _ => true
  | .suspend u | .watched _ u => u.isStoppable

/-- A program that breaks down nowhere. -/
def Program.Unbroken (p : Program α) : Prop := p.Only (·.isAnswerable = true) fun _ => True

theorem Handover.unbroken_attach (timeout : Duration) (session : String) :
    (Handover.attach timeout session).run.Unbroken := by
  refine .wait rfl fun _ => .bind (R := fun _ => True) ?_ fun r _ => .access rfl fun _ => trivial
  refine .access rfl fun there => ?_
  cases there with
  | true => trivial
  | false =>
    refine .access rfl fun n => .wait rfl fun r => ?_
    cases r with
    | error e => exact .access rfl fun _ => trivial
    | ok =>
      refine .access rfl fun _ => .wait rfl fun outcome => ?_
      cases outcome with
      | received m => exact .access rfl fun _ => trivial
      | _ => exact .access rfl fun _ => trivial

theorem Program.Unbroken.watch {p : Program α} (h : p.Unbroken) (id : String) (stopped : α) :
    (p.watch id stopped).Unbroken := Program.Only.watch h trivial fun _ hu => hu

/-- **Programs that break down nowhere leave tasks that do not**, wherever the run has got to. -/
theorem Run.unbroken {w w' : Wallet α} {ss : List (Step α)} (run : Run w ss w') (hempty : w.tasks = [])
    (hstart : ∀ st ∈ ss, ∀ p, st.move = .start p → p.Unbroken) :
    ∀ (i : Nat) (t : Task α), w'.tasks[i]? = some t → t.program.Unbroken := run.onlyAll hempty hstart

theorem Wait.nonempty_answer {u : Wait} (h : (Suspension.wait u).isStoppable = true) : Nonempty u.Answer := by
  cases u with
  | turn | worker name | «until» time => exact ⟨()⟩
  | send e => exact ⟨.ok ()⟩
  | ack session due => exact ⟨.timedOut⟩
  | never => cases h

/-- Who awaits an answer is suspended only in the wait for it. -/
theorem AckPhase.suspension_of_awaited {s : AckPhase} {session : String} (hs : s.awaited? = some session)
    {stop : AckPhase → Prop} {u : Suspension} {k : u.Answer → AckPhase → Prop} (hu : u.isStoppable = true)
    (h : attendant.Suspended stop u k s) : ∃ due, u = .wait (.ack session due) := by
  cases u with
  | call c => rcases of_awaited hs h.2.1 with ⟨x, he, -⟩ | he | ⟨due, outcome, he⟩ <;> cases he
  | wait v =>
    obtain ⟨x⟩ := Wait.nonempty_answer hu
    rcases of_awaited hs (h.2 x).1 with ⟨y, he, -⟩ | he | ⟨due, outcome, he⟩ <;> cases he
    exact ⟨due, rfl⟩

/-- What a task does next that awaits an answer. -/
theorem AckPhase.next_of_awaited {s : AckPhase} {session : String} (hs : s.awaited? = some session) {t : Task α}
    (hcalling : t.calling = false) (hunbroken : t.program.Unbroken)
    (follows : attendant.Follows (fun _ _ s => s = .idle) t s) :
    (s = .asked session ∧ ∃ next, t.program = .step (.access .now) next) ∨
      ∃ due, t.suspension? = some (.wait (.ack session due)) := by
  obtain ⟨program, calling, own⟩ := t
  cases hcalling
  cases program with
  | done a =>
    cases (show s = .idle from follows)
    cases hs
  | step e next =>
    cases e with
    | access a =>
      have hallowed := (follows _ (idleHost.canAnswer 0 own a)).1
      rcases of_awaited hs hallowed with ⟨x, he, hasked⟩ | he | ⟨due, outcome, he⟩ <;> cases he
      exact .inl ⟨hasked, next, rfl⟩
    | suspend u =>
      obtain ⟨due, rfl⟩ := suspension_of_awaited hs hunbroken.1 follows
      exact .inr ⟨due, rfl⟩
    | watched id u =>
      obtain ⟨due, rfl⟩ := suspension_of_awaited hs hunbroken.1 follows.2
      exact .inr ⟨due, rfl⟩

section

variable {w w' : Wallet α} {ss : List (Step α)} {i : Nat} {session : String} {n : Nat} {m : ControlMessage}

/-- A task that stands at the wait for an answer that is there can look for it, and does not have to wait. -/
theorem Wallet.look_for_answer {t : Task α} {due : Nat} (ht : w.tasks[i]? = some t)
    (hs : t.suspension? = some (.wait (.ack session due)))
    (hm : w.host.hub.acks.messages.find? (·.session == session) = some m) :
    ∃ w', w.step? (.advance i) =
      some (.looked i (.ack session due) (some (if due ≤ w.host.now then .timedOut else .received m)), w') := by
  obtain ⟨t', ht'⟩ := Task.resume?_of_suspension? hs (if due ≤ w.host.now then .timedOut else .received m)
  exact ⟨_, (Wallet.Goes.wait ht (w.host.look_ack i due hm) ht').step?⟩

/-- Where a task stands whose attach is in progress. -/
theorem Run.next_of_inProgress (run : Run w ss w') (hempty : w.tasks = []) (huses : ∀ st ∈ ss, st.move.UsesHub)
    (hprogress : InProgress ss i session n) (hunbroken : ∀ t, w'.tasks[i]? = some t → t.program.Unbroken) :
    ∃ t, w'.tasks[i]? = some t ∧
      ((attendant.seen .idle (historyOf i ss) = .asked session ∧ ∃ next, t.program = .step (.access .now) next) ∨
        ∃ due, t.suspension? = some (.wait (.ack session due))) := by
  obtain ⟨-, hawaited, t, ht, hcalling⟩ := run.inProgress hempty huses hprogress
  have follows := ((run.followsAll hempty (Run.starts_attendant huses)) i).1 t ht
  exact ⟨t, ht, AckPhase.next_of_awaited hawaited hcalling (hunbroken t ht) follows⟩

/-- **The attach in progress gets to its answer by itself**, in at most two moves. -/
theorem Run.goes_on (run : Run w ss w') (hempty : w.tasks = []) (huses : ∀ st ∈ ss, st.move.UsesHub)
    (hprogress : InProgress ss i session n) (hunbroken : ∀ t, w'.tasks[i]? = some t → t.program.Unbroken)
    (hm : w'.host.hub.acks.messages.find? (·.session == session) = some m) :
    ∃ more w'', Run w' more w'' ∧ (∀ st ∈ more, st.move = .advance i) ∧ more.length ≤ 2 ∧ ∃ st ∈ more, ∃ due,
      st.happening =
        .looked i (.ack session due) (some (if due ≤ st.before.host.now then .timedOut else .received m)) := by
  obtain ⟨t, ht, ⟨hasked, next, hp⟩ | ⟨due, hs⟩⟩ := run.next_of_inProgress hempty huses hprogress hunbroken
  · -- The clock is read first, and the host stays as it is.
    obtain ⟨w₁, first, hhost, hrest⟩ : ∃ w₁, w'.step? (.advance i) = some (.accessed i .now w'.host.now, w₁) ∧
        w₁.host = w'.host ∧ ∀ t₁, w₁.tasks[i]? = some t₁ → t₁.program = next w'.host.now := by
      refine ⟨_, (Wallet.Goes.access ht hp).step?, rfl, fun t₁ ht₁ => ?_⟩
      cases ht₁.symm.trans (Wallet.setTask_self (w := { w' with host := _ }) ht)
      rfl
    have hunbroken₁ (t₁ : Task α) (ht₁ : w₁.tasks[i]? = some t₁) : t₁.program.Unbroken := by
      have hthere := hunbroken t ht
      rw [hp] at hthere
      rw [hrest t₁ ht₁]
      exact hthere.2 _
    let clock : Step α := ⟨w', .advance i, .accessed i .now w'.host.now, w₁⟩
    have huses₁ : ∀ st ∈ ss ++ [clock], st.move.UsesHub :=
      List.forall_mem_append.2 ⟨huses, List.forall_mem_singleton.2 trivial⟩
    have hprogress₁ : InProgress (ss ++ [clock]) i session n :=
      hprogress.append (List.forall_mem_singleton.2 fun h => h.elim (fun ⟨_, _, _, h⟩ => nomatch h) nofun)
    obtain ⟨t₁, ht₁, ⟨hasked₁, -⟩ | ⟨due, hs⟩⟩ :=
      (run.snoc first).next_of_inProgress hempty huses₁ hprogress₁ hunbroken₁
    · rw [attendant.seen_snoc_some .idle ss (Happening.event?_of_eq (e := .accessed .now w'.host.now) rfl), hasked]
        at hasked₁
      cases hasked₁
    · obtain ⟨w'', second⟩ := Wallet.look_for_answer ht₁ hs (hhost ▸ hm)
      exact ⟨_, w'', .cons first (.cons second (.nil w'')), by simp, by simp, _,
        List.mem_cons_of_mem _ List.mem_cons_self, due, rfl⟩
  · obtain ⟨w'', hstep⟩ := Wallet.look_for_answer ht hs hm
    exact ⟨_, w'', .cons hstep (.nil w''), by simp, by simp, _, List.mem_cons_self, due, rfl⟩

end

/-! ## Serialized handshakes -/

/-- **What becomes of an acknowledgement** that the worker has given to a task's attach, in the steps since. -/
structure AckKept (i : Nat) (session : String) (since : List (Step α)) (w : Wallet α) : Prop where
  /-- The next look at the channel is the task's own, and it finds the acknowledgement unless its time is over. -/
  looked : ∀ ss₁ st ss₂ j found due outcome, since = ss₁ ++ st :: ss₂ → (∀ earlier ∈ ss₁, ¬ earlier.Concludes i) →
    st.happening = .looked j (.ack found due) outcome → j = i ∧ found = session ∧
      outcome = some (if due ≤ st.before.host.now then .timedOut else .received (.attachOk session))
  /-- Until then the acknowledgement is the first message for the session on the channel, -/
  waits : (∀ st ∈ since, ¬ st.Concludes i) →
    w.host.hub.acks.messages.find? (·.session == session) = some (.attachOk session)
  /-- and the task needs no one else to get to that look. -/
  goes_on : (∀ st ∈ since, ¬ st.Concludes i) → (∀ t, w.tasks[i]? = some t → t.program.Unbroken) →
    ∃ more w', Run w more w' ∧ (∀ st ∈ more, st.move = .advance i) ∧ more.length ≤ 2 ∧ ∃ st ∈ more, ∃ due,
      st.happening = .looked i (.ack session due)
        (some (if due ≤ st.before.host.now then .timedOut else .received (.attachOk session)))

/-- **How the attaches of a hub take turns**, in a run and where it has got to. -/
structure Serialized (ss : List (Step α)) (w : Wallet α) : Prop where
  /-- One attach at most is in its turn, -/
  alone : ∀ i j, InLane ss i → InLane ss j → i = j
  /-- from before it sends its request until after it has its answer; and nobody looks for an answer otherwise. -/
  sends : ∀ ss₁ st ss₂ i session n, ss = ss₁ ++ st :: ss₂ → st.Sends i session n → InLane ss₁ i
  in_progress : ∀ i session n, InProgress ss i session n → InLane ss i
  looks : ∀ ss₁ st ss₂ i session due outcome, ss = ss₁ ++ st :: ss₂ →
    st.happening = .looked i (.ack session due) outcome → InLane ss₁ i
  /-- The places in the lane are those of the attaches that have asked for a turn and are not through with it, and the
  first is that of the turn. -/
  places : ∀ i, i ∈ w.lane.places ↔ HasPlace ss i
  first : ∀ i, InLane ss i → w.lane.places.head? = some i
  /-- Who asks for a turn gets the last place, and is let in when that has become the first. -/
  asks : ∀ st ∈ ss, ∀ i outcome, st.happening = .looked i (.worker Hub.signerName) outcome →
    st.after.lane.places = (if i ∈ st.before.lane.places then st.before.lane.places else st.before.lane.places ++ [i]) ∧
      (outcome = some () ↔ st.after.lane.places.head? = some i)
  /-- Who is through with its turn, or is dropped in it or before it, leaves its place to those behind. -/
  leaves : ∀ st ∈ ss, ∀ i, st.Leaves i → st.after.lane.places = st.before.lane.places.erase i
  /-- If no two attaches of a session send a request, and the worker answers each request for it at most once and says
  nothing else for it, then what it says while the attach is in progress answers that attach and is kept for it. -/
  kept : (ss.filterMap Step.requested?).Nodup → ∀ session, ¬ Unprompted ss session → ∀ ss₁ saying ss₂ i n,
    ss = ss₁ ++ saying :: ss₂ → saying.said? = some (.attachOk session) → InProgress ss₁ i session n →
    Heard ss₁ i session n ∧ AckKept i session ss₂ w

section

variable {w w' : Wallet α} {ss ss₁ ss₂ : List (Step α)} {saying : Step α} {i : Nat} {session : String} {n : Nat}

theorem Run.kept (run : Run w (ss₁ ++ saying :: ss₂) w') (hempty : w.tasks = []) (hnew : w.host.hub = {})
    (huses : ∀ st ∈ ss₁ ++ saying :: ss₂, st.move.UsesHub) (hprogress : InProgress (ss₁ ++ [saying]) i session n)
    (hm : saying.after.host.hub.acks.messages.find? (·.session == session) = some (.attachOk session)) :
    AckKept i session ss₂ w' := by
  have hthen {between : List (Step α)} (hgoes : ∀ st ∈ between, ¬ st.Concludes i) :
      InProgress (ss₁ ++ saying :: between) i session n := by
    rw [List.append_cons]
    exact hprogress.append hgoes
  refine ⟨?looked, fun hgoes => run.answer_kept hempty hnew huses hprogress hm hgoes, fun hgoes hunbroken =>
    run.goes_on hempty huses (hthen hgoes) hunbroken (run.answer_kept hempty hnew huses hprogress hm hgoes)⟩
  case looked =>
    rintro between st later j found due outcome rfl hgoes hnow
    rw [← List.cons_append, ← List.append_assoc] at run huses
    obtain ⟨rfl, rfl⟩ := run.eq_of_looked hempty hnew huses (hthen hgoes) hnow
    have hbefore : ∀ st' ∈ ss₁ ++ saying :: between, st'.move.UsesHub :=
      fun st' h => huses st' (List.mem_append_left _ h)
    have g := Wallet.Goes.of_step? run.cut.2.1
    rw [hnow] at g
    rw [← g.of_looked.2.1, st.before.host.look_ack j due (run.cut.1.answer_kept hempty hnew hbefore hprogress hm hgoes)]
    exact ⟨rfl, rfl, rfl⟩

/-- **One handshake at a time.**  In every run of any number of attaches on one hub, wherever they are dropped or find
their time over, one at most is between sending its request and its end, the lane goes to who has waited longest as soon
as nobody is in it, and an acknowledgement of the attach that is in progress is lost to no other: the next look at the
channel is that attach's own, which finds it unless its time is over. -/
theorem handshakes_serialized (run : Run w ss w') (hempty : w.tasks = []) (hnew : w.host.hub = {})
    (huses : ∀ st ∈ ss, st.move.UsesHub) : Serialized ss w' := by
  -- What is known where the run has got to.
  have hthere {ss₁ ss₂ : List (Step α)} {st : Step α} (heq : ss = ss₁ ++ st :: ss₂) :
      LaneHeld st.before.host.hub.queue (fun i => porter.seen .out (historyOf i ss₁)) ∧
        Turns ss₁ st.before.lane (fun i => porter.seen .out (historyOf i ss₁)) ∧
        st.before.lane.Passes st.happening st.after.lane := by
    subst heq
    obtain ⟨before, now, -⟩ := run.cut
    obtain ⟨held, turns⟩ := before.turns hempty hnew fun st h => huses st (List.mem_append_left _ h)
    exact ⟨held, turns, (Wallet.Goes.of_step? now).passes (huses st (List.mem_append_right _ List.mem_cons_self))⟩
  obtain ⟨held, turns⟩ := run.turns hempty hnew huses
  refine
    { alone := fun i j hi hj => held.unique ((turns.inside i).1 hi) ((turns.inside j).1 hj)
      sends := ?sends, in_progress := ?progress, looks := ?looks, places := turns.places
      first := fun i hi => turns.sound.holder_eq ▸ held i ((turns.inside i).1 hi)
      asks := ?asks, leaves := ?leaves, kept := ?kept }
  case sends =>
    rintro ss₁ st ss₂ i session n rfl hsends
    have hallowed := run.allowedAll hempty (Run.starts_usesHub huses)
      (Happening.event?_of_eq (e := .waited (.send _) (.ok ())) hsends)
    refine ((hthere rfl).2.1.inside i).2 fun hout => ?_
    rcases hallowed with ⟨session', n', hopened, -⟩ | ⟨hkind, -⟩
    · cases hout.symm.trans hopened
    · exact hkind rfl
  case progress =>
    intro i session n hprogress
    obtain ⟨hphase, -⟩ := run.inProgress hempty huses hprogress
    exact (turns.inside i).2 (by rw [hphase]; nofun)
  case looks =>
    rintro ss₁ st ss₂ i session due outcome rfl hnow
    obtain ⟨m, hphase⟩ := run.sent_of_looked hempty huses hnow
    exact ((hthere rfl).2.1.inside i).2 (by rw [hphase]; nofun)
  case asks =>
    intro st hst i outcome hnow
    obtain ⟨ss₁, ss₂, heq⟩ := List.append_of_mem hst
    obtain ⟨-, turns, passes⟩ := hthere heq
    rw [hnow] at passes
    obtain ⟨hafter, houtcome⟩ := passes.of_asked
    rw [hafter]
    refine ⟨Lane.places_ask turns.sound i, ?_⟩
    rw [← Lane.ask_fst_iff turns.sound, ← houtcome]
    cases outcome <;> simp
  case leaves =>
    intro st hst i hleaves
    obtain ⟨ss₁, ss₂, heq⟩ := List.append_of_mem hst
    obtain ⟨-, turns, passes⟩ := hthere heq
    have hafter : st.after.lane = st.before.lane.leave i := by
      rcases hleaves with hnow | hnow <;> rw [hnow] at passes
      · exact passes.of_left
      · exact passes.of_stopped
    rw [hafter, Lane.places_leave turns.sound]
  case kept =>
    rintro hdistinct session hprompt ss₁ saying ss₂ i n rfl hsaid hprogress
    obtain ⟨hheard, hm⟩ := run.answers hempty hnew huses hdistinct hprompt hprogress hsaid
    refine ⟨hheard, run.kept hempty hnew huses (hprogress.append (List.forall_mem_singleton.2 ?_)) hm⟩
    rintro (⟨_, _, _, hnow⟩ | hnow) <;>
    · unfold Step.said? at hsaid
      rw [hnow] at hsaid
      cases hsaid

end

/-! Three attaches: the first waits for its answer and is given it, the second is dropped while it waits for its turn,
and the third waits for its turn. -/

def firstTurn : List (Move (Except ChannelError Unit)) :=
  [Move.outside (.register "r"), Move.start (Handover.attach (.ofMillis 20) "s").run,
    Move.start ((Handover.attach (.ofMillis 20) "t").run.watch "r" (.error (.notAttached "t"))),
    Move.start (Handover.attach (.ofMillis 20) "u").run] ++ List.replicate 3 (Move.advance 0)

def whileAsked : List (Move (Except ChannelError Unit)) :=
  [Move.advance 0, Move.advance 1, Move.advance 2, Move.outside (.cancel "r"), Move.stop 1, Move.signer .receive]

def threeAttaches : List (Move (Except ChannelError Unit)) :=
  firstTurn ++ Move.advance 0 :: whileAsked ++ [Move.signer (.acknowledge (.attachOk "s"))]

theorem usesHub_threeAttaches {m : Move (Except ChannelError Unit)} (h : m ∈ threeAttaches) :
    m.UsesHub ∧ ∀ p, m = .start p → p.Unbroken := by
  simp only [threeAttaches, firstTurn, whileAsked, List.cons_append, List.nil_append, List.append_assoc,
    List.mem_append, List.mem_cons, List.mem_replicate, List.not_mem_nil, or_false] at h
  rcases h with rfl | rfl | rfl | rfl | ⟨-, rfl⟩ | rfl | rfl | rfl | rfl | rfl | rfl | rfl | rfl
  · exact ⟨rfl, nofun⟩
  · exact ⟨.attach _ _, fun p hp => Move.start.inj hp ▸ Handover.unbroken_attach _ _⟩
  · exact ⟨.watch _ _ (.attach _ _), fun p hp => Move.start.inj hp ▸ (Handover.unbroken_attach _ _).watch _ _⟩
  · exact ⟨.attach _ _, fun p hp => Move.start.inj hp ▸ Handover.unbroken_attach _ _⟩
  all_goals exact ⟨by trivial, nofun⟩

theorem handshakes_serialized_threeAttaches :
    ∃ ss saying w', Run ⟨idleHost, []⟩ (ss ++ [saying]) w' ∧ (ss ++ [saying]).map (·.move) = threeAttaches ∧
      w'.lane.places = [0, 2] ∧ InProgress ss 0 "s" 0 ∧ AckKept 0 "s" [] w' ∧
      ∀ t, w'.tasks[0]? = some t → t.program.Unbroken := by
  have hcut : ((Wallet.mk idleHost []).trace? firstTurn).bind (fun r => (r.2.step? (.advance 0)).bind fun sends =>
      (sends.2.trace? whileAsked).bind fun r' => (r'.2.step? (.signer (.acknowledge (.attachOk "s")))).map fun acks =>
        let sending := ⟨r.2, .advance 0, sends.1, sends.2⟩
        decide (sending.sent? = some (0, ⟨.attach "s", some 0⟩) ∧ r'.1.filterMap Step.concluder? = [1] ∧
          acks.2.lane.places = [0, 2] ∧ (r.1 ++ sending :: r'.1).filterMap Step.read? = [⟨.attach "s", some 0⟩] ∧
          (r.1 ++ sending :: r'.1).filterMap Step.said? = [] ∧
          (r.1 ++ sending :: r'.1).filterMap Step.requested? = ["s"])) = some true := by decide +kernel
  obtain ⟨⟨before, w₁⟩, hbefore, hcut⟩ := Option.bind_eq_some_iff.1 hcut
  obtain ⟨⟨sends, w₂⟩, hsending, hcut⟩ := Option.bind_eq_some_iff.1 hcut
  obtain ⟨⟨since, w₃⟩, hsince, hcut⟩ := Option.bind_eq_some_iff.1 hcut
  obtain ⟨⟨acks, w₄⟩, hsaying, hcut⟩ := Option.map_eq_some_iff.1 hcut
  obtain ⟨hsent, hconcluders, hplaces, hread, hsaid, hrequested⟩ := of_decide_eq_true hcut
  obtain rfl : .signed (.acknowledge (.attachOk "s")) = acks := congrArg Prod.fst (Option.some.inj hsaying)
  let sending : Step (Except ChannelError Unit) := ⟨w₁, .advance 0, sends, w₂⟩
  let saying : Step (Except ChannelError Unit) :=
    ⟨w₃, .signer (.acknowledge (.attachOk "s")), .signed (.acknowledge (.attachOk "s")), w₄⟩
  have run : Run ⟨idleHost, []⟩ ((before ++ sending :: since) ++ [saying]) w₄ :=
    ((Run.of_trace? hbefore).append (.cons hsending (Run.of_trace? hsince))).snoc hsaying
  have hmoves : ((before ++ sending :: since) ++ [saying]).map (·.move) = threeAttaches := by
    rw [List.map_append, List.map_append, List.map_cons, Wallet.moves_of_trace? hbefore,
      Wallet.moves_of_trace? hsince]
    rfl
  have hmove (st) (hst : st ∈ (before ++ sending :: since) ++ [saying]) :=
    usesHub_threeAttaches (hmoves ▸ List.mem_map_of_mem hst)
  have hprogress : InProgress (before ++ sending :: since) 0 "s" 0 := by
    refine ⟨before, sending, since, rfl, Step.sends_of_sent? hsent, fun st hst hconcludes => ?_⟩
    have hmem := List.mem_filterMap.2 ⟨st, hst, Step.concluder?_of_concludes hconcludes⟩
    rw [hconcluders] at hmem
    exact absurd hmem (by decide)
  have hdistinct : (((before ++ sending :: since) ++ [saying]).filterMap Step.requested?).Nodup := by
    rw [List.filterMap_append, hrequested]
    exact List.nodup_cons.2 ⟨List.not_mem_nil, .nil⟩
  have hprompt : ¬ Unprompted ((before ++ sending :: since) ++ [saying]) "s" := by
    rintro ⟨ss₁, said, ss₂, m, heq, hm, -, hbad⟩
    rcases snoc_eq_append_cons heq with ⟨rfl, rfl, rfl⟩ | ⟨ss₃, rfl, hss⟩
    · cases hm
      refine hbad.elim (absurd rfl) fun hle => ?_
      unfold asksOf saysOf at hle
      rw [hread, hsaid] at hle
      exact absurd hle (by decide)
    · rw [hss] at hsaid
      rw [List.filterMap_eq_nil_iff.1 hsaid said (List.mem_append_right _ List.mem_cons_self)] at hm
      cases hm
  have hserialized := handshakes_serialized run rfl rfl fun st hst => (hmove st hst).1
  refine ⟨_, saying, w₄, run, hmoves, hplaces, hprogress,
    (hserialized.kept hdistinct "s" hprompt _ saying [] 0 0 rfl rfl hprogress).2,
    run.unbroken rfl (fun st hst => (hmove st hst).2) 0⟩

end PasskeyConsent

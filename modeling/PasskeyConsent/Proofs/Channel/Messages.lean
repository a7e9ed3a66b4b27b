import PasskeyConsent.Proofs.Channel.Custody
/-!
# What the wallet and the worker say to each other

An attach sends its request and waits for a message with its session's id; the worker reads what is in its inbox and
puts messages of its own on the other channel.  Every message that is there was put there by the worker, and whoever
waits has sent its request and has not taken an answer yet (`Correspondence`).
-/
namespace PasskeyConsent

open Observer
open AttachPhase (porter)

variable {α : Type}

/-! ## What is said -/

/-- The envelope that the worker reads. -/
def Step.read? (st : Step α) : Option Envelope :=
  match st.happening with
  | .signed .receive => st.before.host.hub.inbox.head?
  | _ => none

/-- The message that the worker puts on the channel. -/
def Step.said? (st : Step α) : Option ControlMessage :=
  match st.happening with
  | .signed (.acknowledge m) => some m
  | _ => none

/-- The task sends the request of its attach, with the endpoint of the box that it has made. -/
def Step.Sends (st : Step α) (i : Nat) (session : String) (n : Nat) : Prop :=
  st.happening = .looked i (.send ⟨.attach session, some n⟩) (some (.ok ()))

/-- How many requests to attach a session the worker has read, -/
def asksOf (ss : List (Step α)) (session : String) : Nat :=
  (ss.filterMap Step.read?).countP fun e => e.message = .attach session

/-- and how many messages for the session it has put on the channel. -/
def saysOf (ss : List (Step α)) (session : String) : Nat :=
  (ss.filterMap Step.said?).countP fun m => m.session = session

/-- The task has sent its request and not got an answer since. -/
def Waiting (ss : List (Step α)) (i : Nat) (session : String) (n : Nat) : Prop :=
  ∃ ss₁ sending ss₂, ss = ss₁ ++ sending :: ss₂ ∧ sending.Sends i session n ∧
    ∀ st ∈ ss₂, ∀ due m, st.happening ≠ .looked i (.ack session due) (some (.received m))

/-- The task has sent its request and then taken a message for the session that the worker had put on the channel. -/
def Replied (ss : List (Step α)) (i : Nat) (session : String) (n : Nat) : Prop :=
  ∃ ss₁ taking ss₂ due m, ss = ss₁ ++ taking :: ss₂ ∧
    taking.happening = .looked i (.ack session due) (some (.received m)) ∧ m.session = session ∧
    (∃ st ∈ ss₁, st.said? = some m) ∧ Waiting ss₁ i session n

/-- The worker has read the request that the task sent. -/
def Heard (ss : List (Step α)) (i : Nat) (session : String) (n : Nat) : Prop :=
  ∃ ss₁ sending ss₂ reading ss₃, ss = ss₁ ++ sending :: (ss₂ ++ reading :: ss₃) ∧ sending.Sends i session n ∧
    reading.read? = some ⟨.attach session, some n⟩

/-- The worker has read the request that the task sent, and has acknowledged the session afterwards. -/
def Acknowledged (ss : List (Step α)) (i : Nat) (session : String) (n : Nat) : Prop :=
  ∃ ss₁ saying ss₂, ss = ss₁ ++ saying :: ss₂ ∧ saying.said? = some (.attachOk session) ∧ Heard ss₁ i session n

/-- The worker has put a message for the session on the channel that is no acknowledgement, or that answers no request:
it has answered all that it has read. -/
def Unprompted (ss : List (Step α)) (session : String) : Prop :=
  ∃ ss₁ saying ss₂ m, ss = ss₁ ++ saying :: ss₂ ∧ saying.said? = some m ∧ m.session = session ∧
    (m ≠ .attachOk session ∨ asksOf ss₁ session ≤ saysOf ss₁ session)

/-- An attach of the session has been given up, or stopped, while it waited for its answer. -/
def GivenUp (ss : List (Step α)) (session : String) : Prop :=
  ∃ i n ss₁ leaving ss₂, ss = ss₁ ++ leaving :: ss₂ ∧ Waiting ss₁ i session n ∧
    (leaving.happening = .accessed i (.abandonBox n) () ∨ leaving.happening = .stopped i)

section

variable {ss : List (Step α)} {st : Step α} {i : Nat} {session : String} {n : Nat}

theorem asksOf_snoc (ss : List (Step α)) (st : Step α) (session : String) :
    asksOf (ss ++ [st]) session = asksOf ss session + st.read?.toList.countP fun e => e.message = .attach session := by
  unfold asksOf
  rw [filterMap_snoc, List.countP_append]

theorem saysOf_snoc (ss : List (Step α)) (st : Step α) (session : String) :
    saysOf (ss ++ [st]) session = saysOf ss session + st.said?.toList.countP fun m => m.session = session := by
  unfold saysOf
  rw [filterMap_snoc, List.countP_append]

theorem Waiting.snoc (h : Waiting ss i session n)
    (hst : ∀ due m, st.happening ≠ .looked i (.ack session due) (some (.received m))) :
    Waiting (ss ++ [st]) i session n := by
  obtain ⟨ss₁, sending, ss₂, rfl, hsends, hsilent⟩ := h
  refine ⟨ss₁, sending, ss₂ ++ [st], by rw [List.append_assoc, List.cons_append], hsends, fun st' hst' => ?_⟩
  rcases List.mem_append.1 hst' with hst' | hst'
  · exact hsilent st' hst'
  · cases List.mem_singleton.1 hst'
    exact hst

theorem Replied.append (h : Replied ss i session n) (more : List (Step α)) : Replied (ss ++ more) i session n := by
  obtain ⟨ss₁, taking, ss₂, due, m, rfl, hrest⟩ := h
  exact ⟨ss₁, taking, ss₂ ++ more, due, m, by rw [List.append_assoc, List.cons_append], hrest⟩

theorem Heard.append (h : Heard ss i session n) (more : List (Step α)) : Heard (ss ++ more) i session n := by
  obtain ⟨ss₁, sending, ss₂, reading, ss₃, rfl, hrest⟩ := h
  refine ⟨ss₁, sending, ss₂, reading, ss₃ ++ more, ?_, hrest⟩
  rw [List.append_assoc, List.cons_append, List.append_assoc, List.cons_append]

theorem Acknowledged.append (h : Acknowledged ss i session n) (more : List (Step α)) :
    Acknowledged (ss ++ more) i session n := by
  obtain ⟨ss₁, saying, ss₂, rfl, hrest⟩ := h
  exact ⟨ss₁, saying, ss₂ ++ more, by rw [List.append_assoc, List.cons_append], hrest⟩

theorem Unprompted.append (h : Unprompted ss session) (more : List (Step α)) : Unprompted (ss ++ more) session := by
  obtain ⟨ss₁, saying, ss₂, m, rfl, hrest⟩ := h
  exact ⟨ss₁, saying, ss₂ ++ more, m, by rw [List.append_assoc, List.cons_append], hrest⟩

theorem GivenUp.append (h : GivenUp ss session) (more : List (Step α)) : GivenUp (ss ++ more) session := by
  obtain ⟨i, n, ss₁, leaving, ss₂, rfl, hrest⟩ := h
  exact ⟨i, n, ss₁, leaving, ss₂ ++ more, by rw [List.append_assoc, List.cons_append], hrest⟩

end

/-! ## What becomes of the messages -/

/-- The answer that is found is the first, and what is behind it is left. -/
theorem Mailbox.firstAnswer_eq_some {β : Type} {p : β → Bool} {l rest : List β} {m : β}
    (h : firstAnswer p l = some (m, rest)) :
    ∃ skipped, l = skipped ++ m :: rest ∧ skipped.filter p = [] ∧ p m = true := by
  induction l with
  | nil => cases h
  | cons x l ih =>
    unfold firstAnswer at h
    split at h
    · rename_i hx
      cases h
      exact ⟨[], rfl, rfl, hx⟩
    · rename_i hx
      obtain ⟨skipped, rfl, hskipped, hm⟩ := ih h
      exact ⟨x :: skipped, rfl, by rw [List.filter_cons_of_neg hx, hskipped], hm⟩

/-- What can change the messages that are on their way. -/
def Happening.relays : Happening → Bool
  | .looked _ (.send _) (some (.ok ())) | .looked _ (.ack ..) _ | .signed _ => true
  | _ => false

/-- **Everything that can become of the messages** on their way to the worker and back, with what happens. -/
inductive Hub.Relays (h : Hub) : Happening → Hub → Prop
  | rest {happening : Happening} {h' : Hub} (hidle : happening.relays = false) (hinbox : h'.inbox = h.inbox)
      (hacks : h'.acks.messages = h.acks.messages) : Relays h happening h'
  | sent (i : Nat) (e : Envelope) {h' : Hub} (hinbox : h'.inbox = h.inbox ++ [e])
      (hacks : h'.acks.messages = h.acks.messages) : Relays h (.looked i (.send e) (some (.ok ()))) h'
  | taken (i : Nat) (session : String) (due : Nat) {m : ControlMessage} {h' : Hub} (hinbox : h'.inbox = h.inbox)
      (hm : Mailbox.firstAnswer (·.session == session) h.acks.messages = some (m, h'.acks.messages)) :
    Relays h (.looked i (.ack session due) (some (.received m))) h'
  | missed (i : Nat) (session : String) (due : Nat) {outcome : Option (WaitOutcome ControlMessage)} {h' : Hub}
      (hmissed : ∀ m, outcome ≠ some (.received m)) (hinbox : h'.inbox = h.inbox)
      (hacks : h'.acks.messages = h.acks.messages ∨ h'.acks.messages = []) :
    Relays h (.looked i (.ack session due) outcome) h'
  | signed (m : SignerMove) : Relays h (.signed m) (h.afterSigner m)

theorem Host.access_messages (h : Host) (task : Nat) (own : Holdings) (a : Access) :
    (h.access task own a).2.1.hub.inbox = h.hub.inbox ∧ (h.access task own a).2.1.hub.acks = h.hub.acks := by
  have change := h.access_changes task own a
  generalize (h.access task own a).2.1 = h' at change ⊢
  cases change with
  | detach session =>
    obtain ⟨boxes, attached, heq⟩ := h.hub.detach_changes session
    rw [heq]
    exact ⟨rfl, rfl⟩
  | deposit session seed =>
    obtain ⟨boxes, attached, heq⟩ := h.hub.deposit_changes session seed
    rw [heq]
    exact ⟨rfl, rfl⟩
  | _ => exact ⟨rfl, rfl⟩

/-- A look at whether a wait is over relays messages as its answer says. -/
theorem Host.look_relays (h : Host) (task : Nat) (w : Wait) :
    h.hub.Relays (.looked task w (h.look task w).1) (h.look task w).2.hub := by
  cases w with
  | send e =>
    simp only [Host.look, Hub.send]
    split
    · exact .rest rfl rfl rfl
    · split
      · exact .sent task e rfl rfl
      · split <;> exact .rest rfl rfl rfl
  | ack session due =>
    show Hub.Relays _ (.looked task (.ack session due) (h.hub.lookForAck session (due ≤ h.now)).1)
      (h.hub.lookForAck session (due ≤ h.now)).2
    unfold Hub.lookForAck Mailbox.look
    dsimp only
    split
    · exact .missed task session due (by simp) rfl (.inl rfl)
    · split
      · exact .missed task session due (by simp) rfl (.inl rfl)
      · split
        · rename_i m rest hm
          exact .taken task session due rfl hm
        · refine .missed task session due ?_ rfl (.inr rfl)
          split <;> simp
  | _ => exact .rest rfl rfl rfl

/-- **A move relays the messages** as what happens says. -/
theorem Wallet.Goes.relays {w w' : Wallet α} {m : Move α} {happening : Happening} (g : w.Goes m happening w') :
    w.host.hub.Relays happening w'.host.hub := by
  cases g with
  | @access i t a next ht hp =>
    rw [Wallet.setTask_host]
    obtain ⟨hinbox, hacks⟩ := w.host.access_messages i t.own a
    exact .rest rfl hinbox (congrArg Mailbox.messages hacks)
  | @look i t u ht hs hl => exact hl ▸ w.host.look_relays i u
  | @wait i t t' u x ht hl hr => exact hl ▸ w.host.look_relays i u
  | outside a =>
    obtain ⟨hinbox, hacks⟩ := w.host.access_messages w.tasks.length {} a
    exact .rest rfl hinbox (congrArg Mailbox.messages hacks)
  | signer m => exact .signed m
  | _ => exact .rest rfl rfl rfl

/-! ## Where the tasks are -/

/-- What ends the wait of an attach for its answer. -/
def Event.EndsWait : Event → Prop
  | .waited (.ack ..) (.received _) | .accessed (.abandonBox _) _ | .stopped => True
  | _ => False

namespace AttachPhase

variable {p : AttachPhase} {e : Event} {session : String} {n : Nat}

/-- A task waits for its answer if it has just sent its request, or waits on. -/
theorem after_eq_sent_iff (hallowed : porter.allows p e) :
    porter.after p e = sent session n ↔
      (p = opened session n ∧ ∃ envelope, e = .waited (.send envelope) (.ok ())) ∨
      p = sent session n ∧ ¬ e.EndsWait := by
  -- An event that is neither a send nor the end of a wait.
  have hquiet (hafter : porter.after p e = sent session n ↔ p = sent session n)
      (hsend : ∀ envelope, e ≠ .waited (.send envelope) (.ok ())) (hends : ¬ e.EndsWait) :
      porter.after p e = sent session n ↔
        (p = opened session n ∧ ∃ envelope, e = .waited (.send envelope) (.ok ())) ∨
        p = sent session n ∧ ¬ e.EndsWait := by
    rw [hafter]
    refine ⟨fun h => .inr ⟨h, hends⟩, ?_⟩
    rintro (⟨-, envelope, he⟩ | ⟨h, -⟩)
    · exact absurd he (hsend envelope)
    · exact h
  cases e with
  | accessed a x =>
    cases a with
    | isAttached found =>
      cases x with
      | true => exact hquiet Iff.rfl nofun id
      | false =>
        refine hquiet ?_ nofun id
        show (if p = entered then vacant found else p) = sent session n ↔ _
        split
        · rename_i hp
          rw [hp]
          exact ⟨nofun, nofun⟩
        · exact Iff.rfl
    | openBox found =>
      cases hallowed
      exact hquiet ⟨nofun, nofun⟩ nofun id
    | attach found m =>
      cases hallowed
      exact hquiet ⟨nofun, nofun⟩ nofun id
    | leaveWorker name =>
      obtain ⟨-, rfl⟩ := hallowed
      exact hquiet ⟨nofun, nofun⟩ nofun id
    | abandonBox m =>
      refine ⟨nofun, ?_⟩
      rintro (⟨-, _, h⟩ | ⟨-, h⟩)
      · cases h
      · exact (h trivial).elim
    | _ => exact hquiet Iff.rfl nofun id
  | waited w x =>
    cases w with
    | worker name =>
      obtain ⟨-, rfl⟩ := hallowed
      exact hquiet ⟨nofun, nofun⟩ nofun id
    | send envelope =>
      rcases x with _ | ⟨⟩
      · exact hquiet Iff.rfl nofun id
      · rcases hallowed with ⟨found, m, rfl, -⟩ | ⟨-, -, rfl⟩
        · refine ⟨fun h => ?_, ?_⟩
          · cases h
            exact .inl ⟨rfl, envelope, rfl⟩
          · rintro (⟨h, -⟩ | ⟨h, -⟩) <;> cases h
            rfl
        · exact ⟨nofun, by rintro (⟨h, -⟩ | ⟨h, -⟩) <;> cases h⟩
    | ack found due =>
      obtain ⟨m, rfl⟩ := hallowed
      cases x with
      | received answer =>
        refine ⟨nofun, ?_⟩
        rintro (⟨h, -⟩ | ⟨-, h⟩)
        · cases h
        · exact (h trivial).elim
      | _ => exact hquiet Iff.rfl nofun id
    | _ => exact hquiet Iff.rfl nofun id
  | stopped =>
    refine ⟨nofun, ?_⟩
    rintro (⟨-, _, h⟩ | ⟨-, h⟩)
    · cases h
    · exact (h trivial).elim
  | _ => exact hquiet Iff.rfl nofun id

/-- A task that is acknowledged was so already, or has just taken its answer. -/
theorem acked_from (hallowed : porter.allows p e) (h : porter.after p e = acked session n) :
    p = acked session n ∨ p = sent session n ∧ ∃ due m, e = .waited (.ack session due) (.received m) := by
  cases e with
  | accessed a x =>
    cases a with
    | isAttached found =>
      cases x with
      | true => exact .inl h
      | false =>
        have hafter : porter.after p (.accessed (.isAttached found) false) =
            if p = entered then vacant found else p := rfl
        rw [hafter] at h
        split at h
        · cases h
        · exact .inl h
    | openBox | attach | leaveWorker | abandonBox => cases h
    | _ => exact .inl h
  | waited w x =>
    cases w with
    | worker name => cases h
    | send envelope =>
      rcases x with _ | ⟨⟩
      · exact .inl h
      · cases p <;> cases h
        exact .inl rfl
    | ack found due =>
      obtain ⟨m, rfl⟩ := hallowed
      cases x with
      | received answer =>
        cases h
        exact .inr ⟨rfl, due, answer, rfl⟩
      | _ => exact .inl h
    | _ => exact .inl h
  | stopped => cases h
  | _ => exact .inl h

end AttachPhase

/-! ## What is known of every message -/

namespace Hub.Relays

variable {h h' : Hub} {happening : Happening} {i : Nat} {session : String} {due : Nat} {m : ControlMessage}

/-- A message on the channel was there already, or the worker has just put it there. -/
theorem said_from (relays : h.Relays happening h') (hm : m ∈ h'.acks.messages) :
    m ∈ h.acks.messages ∨ happening = .signed (.acknowledge m) := by
  cases relays with
  | rest _ _ hacks => exact .inl (hacks ▸ hm)
  | sent _ _ _ hacks => exact .inl (hacks ▸ hm)
  | taken _ _ _ _ htaken =>
    obtain ⟨skipped, heq, -, -⟩ := Mailbox.firstAnswer_eq_some htaken
    rw [heq]
    exact .inl (List.mem_append_right _ (List.mem_cons_of_mem _ hm))
  | missed _ _ _ _ _ hacks =>
    rcases hacks with hacks | hacks
    · exact .inl (hacks ▸ hm)
    · rw [hacks] at hm
      cases hm
  | signed move =>
    cases move with
    | acknowledge said =>
      rcases List.mem_append.1 (show m ∈ h.acks.messages ++ [said] from hm) with hm | hm
      · exact .inl hm
      · cases List.mem_singleton.1 hm
        exact .inr rfl
    | receive =>
      refine .inl ?_
      simp only [Hub.afterSigner, Hub.receive] at hm
      split at hm <;> exact hm
    | take n =>
      refine .inl ?_
      obtain ⟨boxes, heq⟩ := h.take_eq n
      simp only [Hub.afterSigner, heq] at hm
      exact hm
    | _ => exact .inl hm

/-- Who takes a message takes the first for the session. -/
theorem of_taken (relays : h.Relays (.looked i (.ack session due) (some (.received m))) h') :
    h'.inbox = h.inbox ∧
      Mailbox.firstAnswer (·.session == session) h.acks.messages = some (m, h'.acks.messages) := by
  cases relays with
  | rest hidle => cases hidle
  | taken _ _ _ hinbox htaken => exact ⟨hinbox, htaken⟩
  | missed _ _ _ hmissed => exact absurd rfl (hmissed m)

end Hub.Relays

/-- **What is known of every message on the channel and of every attach** that waits or has its answer. -/
structure Correspondence (done : List (Step α)) (h : Hub) (phases : Nat → AttachPhase) : Prop where
  said : ∀ m ∈ h.acks.messages, ∃ st ∈ done, st.said? = some m
  waiting : ∀ i session n, phases i = .sent session n → Waiting done i session n
  answered : ∀ i session n, phases i = .acked session n → Replied done i session n

theorem Correspondence.step {done : List (Step α)} {st : Step α} {phases : Nat → AttachPhase}
    (known : Correspondence done st.before.host.hub phases)
    (relays : st.before.host.hub.Relays st.happening st.after.host.hub)
    (hallows : ∀ i e, st.happening.event? i = some e → porter.allows (phases i) e) :
    Correspondence (done ++ [st]) st.after.host.hub (porter.afterAll phases st.happening) := by
  refine ⟨fun m hm => ?said, fun i session n hi => ?waiting, fun i session n hi => ?answered⟩
  case said =>
    rcases relays.said_from hm with hm | hnow
    · obtain ⟨st', hst', hsaid⟩ := known.said m hm
      exact ⟨st', List.mem_append_left _ hst', hsaid⟩
    · refine ⟨st, List.mem_append_right _ List.mem_cons_self, ?_⟩
      unfold Step.said?
      rw [hnow]
  case waiting =>
    unfold afterAll at hi
    cases he : st.happening.event? i with
    | none =>
      rw [he] at hi
      refine (known.waiting i session n hi).snoc fun due m hnow => ?_
      rw [Happening.event?_of_eq (e := .waited (.ack session due) (.received m)) hnow] at he
      cases he
    | some e =>
      rw [he] at hi
      have hallowed := hallows i e he
      have hnow := Happening.eq_of_event? he
      rcases (AttachPhase.after_eq_sent_iff hallowed).1 hi with ⟨hopened, envelope, rfl⟩ | ⟨hsent, hgoes⟩
      · refine ⟨done, st, [], rfl, ?_, fun _ h => absurd h List.not_mem_nil⟩
        rcases hallowed with ⟨session', m, hopened', rfl⟩ | ⟨-, -, hout⟩
        · cases hopened.symm.trans hopened'
          exact hnow
        · cases hopened.symm.trans hout
      · refine (known.waiting i session n hsent).snoc fun due m hnow' => hgoes ?_
        rw [Happening.event?_of_eq (e := .waited (.ack session due) (.received m)) hnow'] at he
        cases he
        exact trivial
  case answered =>
    unfold afterAll at hi
    cases he : st.happening.event? i with
    | none =>
      rw [he] at hi
      exact (known.answered i session n hi).append [st]
    | some e =>
      rw [he] at hi
      rcases AttachPhase.acked_from (hallows i e he) hi with hacked | ⟨hsent, due, m, rfl⟩
      · exact (known.answered i session n hacked).append [st]
      · have hnow : st.happening = .looked i (.ack session due) (some (.received m)) := Happening.eq_of_event? he
        rw [hnow] at relays
        obtain ⟨skipped, heq, -, hsession⟩ := Mailbox.firstAnswer_eq_some relays.of_taken.2
        refine ⟨done, st, [], due, m, rfl, hnow, beq_iff_eq.1 hsession, known.said m ?_,
          known.waiting i session n hsent⟩
        rw [heq]
        exact List.mem_append_right _ List.mem_cons_self

end PasskeyConsent

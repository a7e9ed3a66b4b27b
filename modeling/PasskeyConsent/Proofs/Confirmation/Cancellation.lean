import PasskeyConsent.Proofs.Confirmation.Correlation
import PasskeyConsent.Proofs.Confirmation.Heeding
import PasskeyConsent.Proofs.Confirmation.Settlement
/-!
# Cancelling

An accepted cancel wins until the request begins to respond, and not after (`cancel_wins_unless_responding`): what a
request posts is a confirmation just when it has begun to respond (`confirms_iff_responding`), and a request that was
cancelled before stays doomed as long as it has its id (`Run.stays_doomed`).
-/
namespace PasskeyConsent

open Observer Program Confirmation

variable {α : Type}

/-! ## Responding -/

/-- The one who knows whether a request has begun to respond, and allows it to confirm just when it has. -/
def responder : Observer Bool where
  after begun e := e.responds || begun
  allows
    | begun, .called (.post m) => m.get? "confirmed" = some (.bool begun)
    | _, _ => True

theorem responder_seen (begun : Bool) (h : History) : responder.seen begun h = (begun || h.any Event.responds) := by
  induction h generalizing begun with
  | nil => exact (Bool.or_false begun).symm
  | cons e h ih =>
    rw [seen_cons, ih, List.any_cons]
    show (e.responds || begun || _) = _
    rw [Bool.or_comm e.responds begun, Bool.or_assoc]

theorem responder_overlooks {e : Effect} (h : e.isOnward = true) : responder.Overlooks e := by
  cases e with
  | access a =>
    cases a
    case enter id state => cases state <;> first | exact fun x s => ⟨trivial, rfl⟩ | cases h
    all_goals exact fun x s => ⟨trivial, rfl⟩
  | suspend u =>
    cases u with
    | call c =>
      cases c
      case post => cases h
      all_goals exact fun s => ⟨⟨trivial, rfl⟩, fun x => ⟨trivial, rfl⟩⟩
    | wait w => exact fun x s => ⟨trivial, rfl⟩
  | watched => cases h

theorem responder_overlooks_topics :
    responder.OverlooksTopics [.release, .session, .handover, .surface, .holdings] := by
  intro e he
  cases e with
  | access a => cases a <;> first | exact fun x s => ⟨trivial, rfl⟩ | cases he
  | suspend u =>
    cases u with
    | call c => cases c <;> first | exact fun s => ⟨⟨trivial, rfl⟩, fun x => ⟨trivial, rfl⟩⟩ | cases he
    | wait w => exact fun x s => ⟨trivial, rfl⟩
  | watched => cases he

theorem post_responds {r : Response} {begun : Bool} (h : r.confirmed = begun) {own : Holdings} :
    responder.Meets anywhere (post r) (fun _ _ _ => True) own begun := by
  have hmessage : r.message.get? "confirmed" = some (.bool begun) := h ▸ r.message_confirmed
  refine meets_call ⟨trivial, hmessage, trivial, fun x => ⟨trivial, ?_⟩⟩
  cases x with
  | ok => trivial
  | error e => trivial

theorem conclude_responds {setup : Setup} {id : String} {outcome : Except Stop Response} {own : Holdings}
    (h : ∀ r, outcome = .ok r → r.confirmed = true) :
    responder.Meets anywhere (conclude setup id outcome) (fun _ _ _ => True) own false := by
  have hback {f : Unit → Program (Except Error Unit)} {own held : Holdings}
      (hf : ∀ own, responder.Meets anywhere (f ()) (fun _ _ _ => True) own false) :
      responder.Meets anywhere (rollBack setup held >>= f) (fun _ _ _ => True) own false :=
    meets_bind (meets_of_overlooked_topics responder_overlooks_topics
      (KeepsTo.mono (keepsTo_rollBack setup held) (by simp) fun _ hr => hr) (fun _ => trivial) fun _ own _ => hf own)
  cases outcome with
  | ok r =>
    refine meets_access fun _ _ => ⟨trivial, meets_access fun held _ => ⟨trivial, ?_⟩⟩
    refine meets_bind (meets_of_overlooked_topics responder_overlooks_topics
      (KeepsTo.mono (keepsTo_closeSurface _) (by simp) fun _ hr => hr) (fun _ => trivial) fun _ own _ => ?_)
    exact post_responds (h r rfl)
  | error stop =>
    cases stop with
    | declined code message =>
      have hstate : responder.Overlooks
          (.access (.enter id (if code = .userCancelled then .cancelled else .failed))) :=
        responder_overlooks (by split <;> rfl)
      refine meets_access fun x _ => ⟨trivial, ?_⟩
      rw [(hstate x false).2]
      exact meets_access fun held _ => ⟨trivial, hback fun own => post_responds rfl⟩
    | fatal e =>
      refine meets_access fun _ _ => ⟨trivial, meets_access fun held _ => ⟨trivial, ?_⟩⟩
      exact hback (f := fun _ => return .error e) fun _ => trivial

/-- **A request confirms just when it has begun to respond.** -/
theorem handleRequest_responds (setup : Setup) (r : Request) :
    responder.Meets anywhere (handleRequest setup r) (fun _ _ _ => True) {} false := by
  have hstates (state : ConfirmState) (hne : state ≠ .responding) :
      responder.Overlooks (.access (.enter r.id state)) := by
    cases state
    case responding => exact absurd rfl hne
    all_goals exact fun x s => ⟨trivial, rfl⟩
  have hrun (policy : ConfirmationPolicy) : responder.Meets (fun _ begun => begun = false) (run setup r policy).run
      (fun outcome _ begun => begun = false ∧ ∀ r, outcome = .ok r → r.confirmed = true) {} false := by
    refine meets_of_overlooked (Only.mono (run_goesOn setup r policy) (fun _ => responder_overlooks) fun _ hr => hr)
      (fun _ => rfl) fun outcome _ hr => ⟨rfl, fun r hr' => ?_⟩
    subst hr'
    exact hr
  have hcancelled (r : Response) (h : cancelled = .ok r) : r.confirmed = true := by
    unfold cancelled at h
    cases h
  refine meets_handleRequest hstates (responder_overlooks rfl) (responder_overlooks rfl) (fun _ => trivial) trivial hrun
    (fun _ _ h => ⟨trivial, h, hcancelled⟩) ⟨rfl, hcancelled⟩ fun outcome own begun h => ?_
  obtain ⟨rfl, happroval⟩ := h
  exact (conclude_responds happroval).imp fun _ _ _ _ => ⟨trivial, trivial⟩

/-! ## Runs -/

namespace Account

variable {s : Account} {id : String} {allowed : Bool}

theorem mem_registered_of_mem (e : Event) (h : (id, allowed) ∈ s.registered) :
    (id, allowed) ∈ (s.after e).registered := by
  unfold after
  split
  case h_1 => exact List.mem_append_left _ h
  all_goals first | exact h | (split <;> exact h)

theorem mem_posted_after {m : Json} {e : Event} (h : m ∈ (s.after e).posted) :
    m ∈ s.posted ∨ e = .called (.post m) := by
  unfold after at h
  split at h
  case h_15 =>
    rcases List.mem_append.1 h with h | h
    · exact .inl h
    · rw [List.mem_singleton.1 h]
      exact .inr rfl
  all_goals first | exact .inl h | (split at h <;> exact .inl h)

theorem mem_posted_of_mem {m : Json} (e : Event) (h : m ∈ s.posted) : m ∈ (s.after e).posted := by
  unfold after
  split
  case h_15 => exact List.mem_append_left _ h
  all_goals first | exact h | (split <;> exact h)

/-- Whatever a request posts is in its account. -/
theorem mem_posted_of_called {m : Json} {h : History} (hmem : .called (.post m) ∈ h) (s : Account) :
    m ∈ (keeper.seen s h).posted := by
  obtain ⟨h₁, h₂, rfl⟩ := List.append_of_mem hmem
  rw [seen_append, seen_cons]
  exact seen_keeps (P := fun s : Account => m ∈ s.posted) (fun _ e => mem_posted_of_mem e)
    (List.mem_append_right _ List.mem_cons_self) h₂

/-- Only giving an id up takes it from a request. -/
theorem Holds.after (h : s.Holds id) {e : Event} (he : ∀ id x, e ≠ .accessed (.unregister id) x) :
    (s.after e).Holds id := by
  refine ⟨mem_registered_of_mem e h.registered, ?_⟩
  unfold Account.after
  split
  case h_2 => exact absurd rfl (he _ _)
  all_goals first | exact h.unregistered | (split <;> exact h.unregistered)

theorem mem_unregistered_of_mem (e : Event) (h : id ∈ s.unregistered) : id ∈ (s.after e).unregistered := by
  unfold after
  split
  case h_2 => exact List.mem_append_left _ h
  all_goals first | exact h | (split <;> exact h)

end Account

section

variable {setup : Setup} {raw : Json} {q : Request} {w w₁ w₂ w' : Wallet (Except Error Unit)}
  {ss ss₁ ss₂ ss₃ ss₄ : List (Step (Except Error Unit))} {st cancelling posting : Step (Except Error Unit)} {i : Nat}
  {t : Task (Except Error Unit)} {id : String} {m : Json} {x : Except Error Unit}

/-- A request stays registered. -/
theorem registered_append (h : (id, true) ∈ (accountOf i ss₁).registered) (ss₂ : List (Step (Except Error Unit))) :
    (id, true) ∈ (accountOf i (ss₁ ++ ss₂)).registered := by
  unfold accountOf
  rw [historyOf_append, seen_append]
  exact seen_keeps (P := fun s : Account => (id, true) ∈ s.registered) (fun _ e => Account.mem_registered_of_mem e) h _

/-- What a request does not notice is nothing to its account. -/
theorem accountOf_snoc (h : st.happening.event? i = none) : accountOf i (ss₁ ++ [st]) = accountOf i ss₁ := by
  unfold accountOf
  rw [historyOf_append, historyOf_cons_none h]
  exact congrArg _ (List.append_nil _)

/-- A request that has had its id and has it later has had it all along. -/
theorem holds_between (hfirst : (accountOf i ss₁).Holds id) (hlast : (accountOf i (ss₁ ++ (ss₂ ++ ss₃))).Holds id) :
    (accountOf i (ss₁ ++ ss₂)).Holds id where
  registered := registered_append hfirst.registered ss₂
  unregistered hmem := by
    refine hlast.unregistered ?_
    unfold accountOf
    rw [← List.append_assoc, historyOf_append, seen_append]
    exact seen_keeps (P := fun s : Account => id ∈ s.unregistered) (fun _ e => Account.mem_unregistered_of_mem e) hmem _

/-- An id that a request has and keeps is not given up, by itself or by another. -/
theorem Run.not_unregistered (run : Run w (ss₁ ++ st :: ss₂) w') (hempty : w.tasks = [])
    (hordinary : ∀ st' ∈ ss₁ ++ st :: ss₂, st'.move.IsOrdinary) (hheld : (accountOf i ss₁).Holds id)
    (hkept : (accountOf i (ss₁ ++ [st])).Holds id) (j : Nat) : st.happening ≠ .accessed j (.unregister id) () := by
  intro hj
  have hevent : st.happening.event? j = some (.accessed (.unregister id) ()) := Happening.event?_of_eq hj
  have hallowed : (accountOf j ss₁).Holds id ∧ _ :=
    run.allowedAll hempty (Run.starts_ordinary hordinary) hevent
  have htenure := run.cut.1.tenure hempty fun st hst => hordinary st (List.mem_append_left _ hst)
  have hown : j = i := htenure.unique j i id hallowed.1 hheld
  subst hown
  refine hkept.unregistered ?_
  unfold accountOf
  rw [historyOf_append, seen_append, historyOf_cons_some hevent]
  exact List.mem_append_right _ (List.mem_singleton_self _)

/-- **A cancel stays** as long as the request has its id: nobody gives up the id. -/
theorem Run.stays_cancelled (before : Run w ss₁ w₁) (after : Run w₁ ss₂ w₂) (hempty : w.tasks = [])
    (hordinary : ∀ st ∈ ss₁ ++ ss₂, st.move.IsOrdinary) (hfirst : (accountOf i ss₁).Holds id)
    (hlast : (accountOf i (ss₁ ++ ss₂)).Holds id) (hcancelled : w₁.host.isCancelled id = true) :
    w₂.host.isCancelled id = true := by
  refine after.along (I := fun _ w => w.host.isCancelled id = true) hcancelled fun done st rest hss _ g hc => ?_
  subst hss
  have hwhole := before.append after
  have hkept : (accountOf i (ss₁ ++ done ++ [st])).Holds id := by
    rw [List.append_cons] at hlast
    rw [List.append_assoc]
    exact holds_between hfirst hlast
  rw [← List.append_assoc] at hwhole hordinary
  have hoffered (a : Access) (ha : st.move = .outside a) : a.isOffered = true := by
    have := hordinary st (List.mem_append_right _ List.mem_cons_self)
    rw [ha] at this
    exact this
  exact g.staysCancelled hc (hwhole.not_unregistered hempty hordinary (holds_between hfirst hlast) hkept) hoffered

/-- **A request that is doomed stays doomed** as long as it has its id, if every step heeds cancels. -/
theorem Run.stays_doomed (before : Run w ss₁ w₁) (after : Run w₁ ss₂ w₂) (hempty : w.tasks = [])
    (hordinary : ∀ st ∈ ss₁ ++ ss₂, st.move.IsOrdinary) (hheeds : ∀ st ∈ ss₂, st.heeds = true)
    (hfirst : (accountOf i ss₁).Holds id) (hlast : (accountOf i (ss₁ ++ ss₂)).Holds id)
    (hcancelled : w₁.host.isCancelled id = true) (ht : w₁.tasks[i]? = some t) (hdoomed : t.program.Doomed id) :
    ∃ t', w₂.tasks[i]? = some t' ∧ t'.program.Doomed id := by
  refine after.along (I := fun _ w => ∃ t, w.tasks[i]? = some t ∧ t.program.Doomed id) ⟨t, ht, hdoomed⟩
    fun done st rest hss sofar g hthere => ?_
  obtain ⟨t, ht, hd⟩ := hthere
  have hst : st ∈ ss₂ := hss ▸ List.mem_append_right _ List.mem_cons_self
  subst hss
  have hc : st.before.host.isCancelled id = true := by
    refine before.stays_cancelled sofar hempty (fun st' hst' => hordinary st' ?_) hfirst (holds_between hfirst hlast)
      hcancelled
    rw [← List.append_assoc]
    exact List.mem_append_left _ hst'
  rcases g.task ht with ⟨-, ht'⟩ | ⟨e, t', he, hnotices, ht'⟩
  · exact ⟨t, ht', hd⟩
  · refine ⟨t', ht', (hnotices.doomed hd (fun a x hax => ?_) fun hw => ?_).2⟩
    · rw [hax] at he
      rw [Happening.eq_of_event? he] at g
      exact g.told hc
    · cases hresumes : e.resumes with
      | false => rfl
      | true =>
        rw [Step.not_cancelled_of_heeds (hheeds st hst) he hresumes ht hw] at hc
        cases hc

/-- **What a request posts is a confirmation just when it has begun to respond.** -/
theorem confirms_iff_responding (run : Run w ss w') (hst : st ∈ ss) (hstart : st.move = .start (handle setup raw))
    (hi : st.before.tasks.length = i) (hread : Request.read raw = .ok q) (hss : ss = ss₁ ++ posting :: ss₂)
    (hposting : posting.happening = .called i (.post m)) :
    m.get? "confirmed" = some (.bool (isResponding i ss₁)) := by
  rw [handle_of_read hread] at hstart
  have hevent : posting.happening.event? i = some (.called (.post m)) := Happening.event?_of_eq hposting
  have hallowed : m.get? "confirmed" = some (.bool (responder.seen false (historyOf i ss₁))) :=
    run.allowed_since_start hst hstart hi (handleRequest_responds setup q) hss hevent
  rw [responder_seen, Bool.false_or] at hallowed
  exact hallowed

/-- A request that is suspended before it begins to respond is doomed if it is cancelled. -/
theorem doomed_of_suspended (run : Run w ss₁ w₁) (hst : st ∈ ss₁) (hstart : st.move = .start (handle setup raw))
    (hi : st.before.tasks.length = i) (hread : Request.read raw = .ok q) (hnot : isResponding i ss₁ = false)
    (hsuspended : ((w₁.tasks[i]?).bind Task.suspension?).isSome = true) :
    ∃ t, w₁.tasks[i]? = some t ∧ t.program.Doomed q.id := by
  obtain ⟨pre, rest, rfl⟩ := List.append_of_mem hst
  rw [handle_of_read hread] at hstart
  obtain ⟨after, hthere, hhistory⟩ := run.since_start hstart
  rw [hi] at hthere hhistory
  have hnot' : isResponding i rest = false := by
    unfold isResponding at hnot ⊢
    rw [← hhistory]
    exact hnot
  obtain ⟨t, ht, hheedful⟩ := after.heedful hthere (handleRequest_heedful setup q) hnot'
  rw [ht] at hsuspended
  exact ⟨t, ht, Task.doomed_of_heedful hheedful hsuspended⟩

/-- A cancel that comes before the request responds makes it decline. -/
theorem declines_of_cancel (run : Run w ss w') (hempty : w.tasks = []) (hordinary : ∀ st ∈ ss, st.move.IsOrdinary)
    (hheeds : ∀ st ∈ ss, st.heeds = true) (hss : ss = (ss₁ ++ cancelling :: ss₃) ++ posting :: ss₄) (hst : st ∈ ss₁)
    (hstart : st.move = .start (handle setup raw)) (hi : st.before.tasks.length = i) (hread : Request.read raw = .ok q)
    (hcancel : cancelling.happening = .used (.cancel q.id) true) (hheld : (accountOf i ss₁).Holds q.id)
    (hsuspended : ((cancelling.before.tasks[i]?).bind Task.suspension?).isSome = true)
    (hnot : isResponding i ss₁ = false) (hposting : posting.happening = .called i (.post m)) :
    m.get? "confirmed" = some (.bool false) := by
  subst hss
  have hevent : posting.happening.event? i = some (.called (.post m)) := Happening.event?_of_eq hposting
  obtain ⟨untilPosting, now, -⟩ := run.cut
  obtain ⟨before, atCancel, after⟩ := untilPosting.cut
  have hgoes := Wallet.Goes.of_step? atCancel
  rw [hcancel] at hgoes
  obtain ⟨hcancelled, htasks⟩ := hgoes.cancelled
  obtain ⟨t, ht, hdoomed⟩ := doomed_of_suspended before hst hstart hi hread hnot hsuspended
  rw [← htasks] at ht
  have hsilent : accountOf i (ss₁ ++ [cancelling]) = accountOf i ss₁ := accountOf_snoc (by rw [hcancel]; rfl)
  have hstart' : st.move = .start (handleRequest setup q) := by rw [hstart, handle_of_read hread]
  have hheldLast : (accountOf i (ss₁ ++ cancelling :: ss₃)).Holds q.id ∧ _ :=
    run.allowed_since_start (List.mem_append_left _ (List.mem_append_left _ hst)) hstart' hi
      (Account.handleRequest_correlates q) rfl hevent
  rw [List.append_cons] at hheldLast
  obtain ⟨t', ht', hdoomed'⟩ := Run.stays_doomed (before.snoc atCancel) after hempty
    (fun st hst => hordinary st (List.mem_append_left _ (by rw [List.append_cons]; exact hst)))
    (fun st hst => hheeds st (List.mem_append_left _ (List.mem_append_right _ (List.mem_cons_of_mem _ hst))))
    (hsilent.symm ▸ hheld) hheldLast.1 hcancelled ht hdoomed
  rcases (Wallet.Goes.of_step? now).task ht' with ⟨hnone, -⟩ | ⟨e, t'', hsome, hnotices, -⟩
  · rw [hnone] at hevent
    cases hevent
  · rw [hsome] at hevent
    cases hevent
    exact (hnotices.doomed hdoomed' nofun fun _ => rfl).1 m rfl

/-- A message of the account was posted at some step. -/
theorem posting_of_posted (hm : m ∈ (accountOf i ss).posted) :
    ∃ ss₁ posting ss₂, ss = ss₁ ++ posting :: ss₂ ∧ posting.happening = .called i (.post m) := by
  obtain ⟨_, hevent, rfl⟩ := (mem_seen (fun _ _ _ => Account.mem_posted_after) hm).resolve_left List.not_mem_nil
  obtain ⟨st, hst, he⟩ := List.mem_filterMap.1 hevent
  obtain ⟨ss₁, ss₂, rfl⟩ := List.append_of_mem hst
  exact ⟨ss₁, st, ss₂, rfl, Happening.eq_of_event? he⟩

theorem settled_of_start (run : Run w ss w') (hst : st ∈ ss) (hstart : st.move = .start (handle setup raw))
    (hi : st.before.tasks.length = i) (hreturned : w'.result? i = some x) : (accountOf i ss).Settled := by
  obtain ⟨_, hsettled⟩ := run.result_since_start hst hstart hi (Account.settles_handle setup raw) hreturned
  exact hsettled

/-- A request never confirms that has not begun to respond at some step and only declines from there on. -/
theorem not_confirmed_of_declines (run : Run w ss w') (hst : st ∈ ss) (hstart : st.move = .start (handle setup raw))
    (hi : st.before.tasks.length = i) (hread : Request.read raw = .ok q) (hss : ss = ss₁ ++ cancelling :: ss₂)
    (hnot : isResponding i ss₁ = false) (hsilent : ∀ m, cancelling.happening ≠ .called i (.post m))
    (hdeclines : ∀ ss₃ posting ss₄ m, ss₂ = ss₃ ++ posting :: ss₄ → posting.happening = .called i (.post m) →
      m.get? "confirmed" = some (.bool false)) : ¬ (accountOf i ss).Confirmed := by
  rintro ⟨m, hm, hconfirmed⟩
  obtain ⟨before, posting, after, hposted, hposting⟩ := posting_of_posted hm
  have hconfirms := confirms_iff_responding run hst hstart hi hread hposted hposting
  rw [hss] at hposted
  -- What it posts is posted after the step, at the step or before it.
  rcases List.append_eq_append_iff.1 hposted with ⟨mid, rfl, hrest⟩ | ⟨mid, rfl, hrest⟩
  · cases mid with
    | nil =>
      obtain ⟨rfl, -⟩ := List.cons.inj hrest
      exact hsilent m hposting
    | cons c mid =>
      obtain ⟨rfl, hss₂⟩ := List.cons.inj hrest
      have hdeclined := hdeclines mid posting after m hss₂ hposting
      rw [hconfirmed] at hdeclined
      cases hdeclined
  · rw [isResponding_append, Bool.or_eq_false_iff] at hnot
    rw [hnot.1, hconfirmed] at hconfirms
    cases hconfirms

/-- **An accepted cancel wins unless the request has begun to respond**: cancelled while it is suspended, it posts a
confirmation just when it had begun to respond before.  If it had not, all is made good before its decline is posted,
and it returns without having confirmed and with all that it took given back.  This holds in every run in which cancels
are heeded, beside any number of other requests and whatever the collaborators answer. -/
theorem cancel_wins_unless_responding (run : Run w ss w') (hempty : w.tasks = [])
    (hordinary : ∀ st ∈ ss, st.move.IsOrdinary) (hheeds : ∀ st ∈ ss, st.heeds = true)
    (hss : ss = ss₁ ++ cancelling :: ss₂) (hst : st ∈ ss₁) (hstart : st.move = .start (handle setup raw))
    (hi : st.before.tasks.length = i) (hread : Request.read raw = .ok q)
    (hcancel : cancelling.happening = .used (.cancel q.id) true) (hheld : (accountOf i ss₁).Holds q.id)
    (hsuspended : ((cancelling.before.tasks[i]?).bind Task.suspension?).isSome = true) :
    (∀ ss₃ posting ss₄ m, ss₂ = ss₃ ++ posting :: ss₄ → posting.happening = .called i (.post m) →
      m.get? "confirmed" = some (.bool (isResponding i ss₁)) ∧
      (isResponding i ss₁ = false → MadeGood i (ss₁ ++ cancelling :: ss₃) posting.before.host)) ∧
    ∀ x, w'.result? i = some x → isResponding i ss₁ = false →
      ¬ (accountOf i ss).Confirmed ∧ (accountOf i ss).Returned := by
  have hst' : st ∈ ss := hss ▸ List.mem_append_left _ hst
  have hlater (ss₃ ss₄ : List (Step (Except Error Unit))) (posting : Step (Except Error Unit)) (m : Json)
      (hss₂ : ss₂ = ss₃ ++ posting :: ss₄) (hposting : posting.happening = .called i (.post m)) :
      m.get? "confirmed" = some (.bool (isResponding i ss₁)) ∧
      (isResponding i ss₁ = false → MadeGood i (ss₁ ++ cancelling :: ss₃) posting.before.host) := by
    have hall : ss = (ss₁ ++ cancelling :: ss₃) ++ posting :: ss₄ := by rw [hss, hss₂]; simp
    cases hresponding : isResponding i ss₁ with
    | true =>
      have hconfirms := confirms_iff_responding run hst' hstart hi hread hall hposting
      rw [isResponding_append, hresponding, Bool.true_or] at hconfirms
      exact ⟨hconfirms, nofun⟩
    | false =>
      have hdeclines := declines_of_cancel run hempty hordinary hheeds hall hst hstart hi hread hcancel hheld hsuspended
        hresponding hposting
      exact ⟨hdeclines, fun _ => made_good_of_decline run hempty hordinary hall hposting hdeclines⟩
  refine ⟨fun ss₃ posting ss₄ m => hlater ss₃ ss₄ posting m, fun x hreturned hnot => ?_⟩
  have hsilent (m : Json) : cancelling.happening ≠ .called i (.post m) := by
    rw [hcancel]
    nofun
  have hunconfirmed : ¬ (accountOf i ss).Confirmed := by
    refine not_confirmed_of_declines run hst' hstart hi hread hss hnot hsilent fun ss₃ posting ss₄ m hss₂ hposting => ?_
    rw [← hnot]
    exact (hlater ss₃ ss₄ posting m hss₂ hposting).1
  exact ⟨hunconfirmed, (settled_of_start run hst' hstart hi hreturned).returned_iff.2 (.inl hunconfirmed)⟩

end

/-! A request to show a key is cancelled, once while its user decides and once while its surface is closed. -/

def untilDecision : List (Move (Except Error Unit)) :=
  [Move.start (handle quietSetup showEnvelope)] ++
  List.replicate 3 (Move.advance 0) ++ [Move.answer 0 .preferences {}] ++
  List.replicate 4 (Move.advance 0) ++ [Move.answer 0 (.mount showRequest {}) ⟨7⟩] ++
  List.replicate 2 (Move.advance 0)

def cancelledMessage : Json := (Response.declined "r" .userCancelled "Confirmation was cancelled").message

def giveUp : List (Move (Except Error Unit)) :=
  [Move.stop 0] ++ List.replicate 3 (Move.advance 0) ++ [Move.answer 0 (.unmount ⟨7⟩) ()] ++
  [Move.advance 0, Move.answer 0 (.post cancelledMessage) (.ok ()), Move.advance 0]

def untilResponding : List (Move (Except Error Unit)) :=
  let options : AssertionOptions := ⟨"", Digest.localChallenge "r" "a", ["c"], PrfSalts.forAccount "a"⟩
  untilDecision ++ [Move.answer 0 (.decision ⟨7⟩ none) (some .proceed)] ++
  List.replicate 2 (Move.advance 0) ++ [Move.answer 0 (.authenticators "a") (.ok [])] ++
  [Move.advance 0, Move.answer 0 (.currentPasskey "a" []) (.ok ⟨[⟨"c", 0, []⟩], none⟩)] ++
  [Move.advance 0, Move.answer 0 (.assertion options) (.ok secretCredential)] ++ List.replicate 3 (Move.advance 0)

def shownMessage : Json := { Response.approved "r" with credential := some secretCredential.record }.message

/-- What is asked of a run in which the request is cancelled. -/
def cancelFacts (ss₁ : List (Step (Except Error Unit))) (w₁ : Wallet (Except Error Unit))
    (ss₂ : List (Step (Except Error Unit))) : Bool :=
  w₁.host.pending.contains "r" && ((w₁.tasks[0]?).bind Task.suspension?).isSome &&
    (accountOf 0 ss₁).registered == [("r", true)] && (accountOf 0 ss₁).unregistered == [] && (ss₁ ++ ss₂).all Step.heeds

/-- Moves between which the request is cancelled are a run in which the cancel is accepted. -/
theorem cancelled_run (ms₁ ms₂ : List (Move (Except Error Unit))) (told : Bool × List Json × List Json)
    (h : ((Wallet.mk quietHost []).trace? ms₁).bind (fun r => (r.2.trace? (.outside (.cancel "r") :: ms₂)).map fun r' =>
      (cancelFacts r.1 r.2 r'.1, isResponding 0 r.1, messagesOf 0 r.1, messagesOf 0 r'.1)) = some (true, told)) :
    ∃ ss₁ cancelling ss₂ w', Run ⟨quietHost, []⟩ (ss₁ ++ cancelling :: ss₂) w' ∧
      movesOf (ss₁ ++ cancelling :: ss₂) = ms₁ ++ .outside (.cancel "r") :: ms₂ ∧
      (∀ st ∈ ss₁ ++ cancelling :: ss₂, st.heeds = true) ∧ movesOf ss₁ = ms₁ ∧
      cancelling.happening = .used (.cancel "r") true ∧ (accountOf 0 ss₁).Holds "r" ∧
      ((cancelling.before.tasks[0]?).bind Task.suspension?).isSome = true ∧
      (isResponding 0 ss₁, messagesOf 0 ss₁, messagesOf 0 (cancelling :: ss₂)) = told := by
  obtain ⟨⟨ss₁, w₁⟩, hbefore, h⟩ := Option.bind_eq_some_iff.1 h
  obtain ⟨⟨rest, w'⟩, hafter, h⟩ := Option.map_eq_some_iff.1 h
  obtain ⟨hfacts, htold⟩ := Prod.mk.inj h
  simp only [cancelFacts, Bool.and_eq_true, beq_iff_eq, List.all_eq_true] at hfacts
  obtain ⟨⟨⟨⟨hpending, hsuspended⟩, hregistered⟩, hunregistered⟩, hheeds⟩ := hfacts
  have hmoves₁ : movesOf ss₁ = ms₁ := Wallet.moves_of_trace? hbefore
  have hmoves := Wallet.moves_of_trace? hafter
  obtain ⟨cancelling, ss₂, rfl, hcancelling, hmoves₂⟩ := List.map_eq_cons_iff.1 hmoves
  have hholds : (accountOf 0 ss₁).Holds "r" := by
    refine ⟨?_, ?_⟩
    · rw [hregistered]
      exact List.mem_singleton_self _
    · rw [hunregistered]
      exact List.not_mem_nil
  have after := Run.of_trace? hafter
  have hthere : cancelling.before = w₁ ∧ cancelling.happening = .used (.cancel "r") true := by
    cases after with
    | cons first rest =>
      have hgoes := Wallet.Goes.of_step? first
      cases hcancelling
      exact ⟨rfl, hpending ▸ hgoes.cancel_answer⟩
  refine ⟨ss₁, cancelling, ss₂, w', (Run.of_trace? hbefore).append after, ?_, hheeds, hmoves₁, hthere.2, hholds, ?_,
    htold⟩
  · unfold movesOf at hmoves₁ ⊢
    rw [List.map_append, hmoves, hmoves₁]
  · rw [hthere.1]
    exact hsuspended

theorem cancel_wins_unless_responding_giveUp :
    ∃ ss₁ cancelling ss₂, ∃ w' : Wallet (Except Error Unit), Run ⟨quietHost, []⟩ (ss₁ ++ cancelling :: ss₂) w' ∧
      cancelling.happening = .used (.cancel "r") true ∧ isResponding 0 ss₁ = false ∧
      messagesOf 0 (cancelling :: ss₂) = [cancelledMessage] ∧
      (∀ ss₃ posting ss₄ m, ss₂ = ss₃ ++ posting :: ss₄ → posting.happening = .called 0 (.post m) →
        m.get? "confirmed" = some (.bool (isResponding 0 ss₁)) ∧
        (isResponding 0 ss₁ = false → MadeGood 0 (ss₁ ++ cancelling :: ss₃) posting.before.host)) ∧
      ∀ x, w'.result? 0 = some x → isResponding 0 ss₁ = false →
        ¬ (accountOf 0 (ss₁ ++ cancelling :: ss₂)).Confirmed ∧ (accountOf 0 (ss₁ ++ cancelling :: ss₂)).Returned := by
  obtain ⟨ss₁, cancelling, ss₂, w', run, hmoves, hheeds, hmoves₁, hcancel, hholds, hsuspended, htold⟩ :=
    cancelled_run untilDecision giveUp (false, [], [cancelledMessage]) (by decide +kernel)
  simp only [Prod.mk.injEq] at htold
  have hbefore : ∀ m ∈ untilDecision, m.IsOrdinary :=
    List.forall_mem_cons.2 ⟨.inl ⟨quietSetup, showEnvelope, rfl⟩, .of_all rfl⟩
  have hafter : ∀ m ∈ Move.outside (.cancel "r") :: giveUp, m.IsOrdinary :=
    List.forall_mem_cons.2 ⟨rfl, .of_all rfl⟩
  have hordinary : ∀ st ∈ ss₁ ++ cancelling :: ss₂, st.move.IsOrdinary :=
    forall_move hmoves (List.forall_mem_append.2 ⟨hbefore, hafter⟩)
  obtain ⟨st, rest, rfl, hstart, -⟩ := List.map_eq_cons_iff.1 hmoves₁
  have hcount : st.before.tasks.length = 0 := by
    cases run with
    | cons => rfl
  exact ⟨_, cancelling, ss₂, w', run, hcancel, htold.1, htold.2.2,
    cancel_wins_unless_responding run rfl hordinary hheeds rfl List.mem_cons_self hstart hcount read_showEnvelope hcancel
      hholds hsuspended⟩

/-- Cancelled while its surface is closed, before anything is posted, the request confirms all the same. -/
theorem cancel_ignored_while_responding :
    ∃ ss₁ cancelling ss₂, ∃ w' : Wallet (Except Error Unit), Run ⟨quietHost, []⟩ (ss₁ ++ cancelling :: ss₂) w' ∧
      (∀ st ∈ ss₁ ++ cancelling :: ss₂, st.heeds = true) ∧ cancelling.happening = .used (.cancel "r") true ∧
      (accountOf 0 ss₁).Holds "r" ∧ ((cancelling.before.tasks[0]?).bind Task.suspension?).isSome = true ∧
      messagesOf 0 ss₁ = [] ∧ messagesOf 0 (cancelling :: ss₂) = [shownMessage] ∧
      shownMessage.get? "confirmed" = some (.bool true) := by
  obtain ⟨ss₁, cancelling, ss₂, w', run, -, hheeds, -, hcancel, hholds, hsuspended, htold⟩ :=
    cancelled_run untilResponding [Move.answer 0 (.unmount ⟨7⟩) (), Move.advance 0] (true, [], [shownMessage])
      (by decide +kernel)
  simp only [Prod.mk.injEq] at htold
  exact ⟨ss₁, cancelling, ss₂, w', run, hheeds, hcancel, hholds, hsuspended, htold.2.1, htold.2.2,
    Response.message_confirmed _⟩

end PasskeyConsent

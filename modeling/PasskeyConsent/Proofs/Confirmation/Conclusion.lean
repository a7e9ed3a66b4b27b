import PasskeyConsent.Proofs.Confirmation.Taking
/-!
# How a request is concluded

The rollback gives back all that the account says was taken (`rollBack_settles`), so that every message is posted when
it may be and a request that has an answer gets exactly one (`handleRequest_meets`).
-/
namespace PasskeyConsent.Account

open Observer Program Confirmation

variable {setup : Setup} {id : String} {own : Holdings} {s : Account}

/-! ## Giving back -/

theorem releaseAll_meets : ∀ (ns : List Nat) {s : Account},
    keeper.Meets anywhere (releaseAll ns) (Same own { s with released := s.released ++ ns }) own s
  | [], s => ⟨rfl, by rw [List.append_nil]⟩
  | n :: ns, s => meets_access fun _ _ => ⟨trivial, by
      have := releaseAll_meets ns (s := { s with released := s.released ++ [n] })
      rw [List.append_assoc] at this
      exact this⟩

theorem closeSurface_meets (h : s.returning = false) (surface : Option UiHandle) :
    keeper.Meets anywhere (closeSurface surface)
      (Same own { s with unmounted := s.unmounted ++ surface.toList }) own s := by
  cases surface with
  | none => exact ⟨rfl, by rw [Option.toList_none, List.append_nil]⟩
  | some surface =>
    refine ⟨trivial, trivial, trivial, fun _ => ⟨trivial, rfl, ?_⟩⟩
    show { s with unmounted := s.unmounted ++ [surface], returning := false } = _
    rw [← h]
    rfl

/-- The surface of a request is closed, and it has not been answered. -/
structure Closed (id : String) (missed : Bool) (s : Account) : Prop extends Present id s where
  unmounted : s.unmounted = s.mounted
  once : s.mounted.length ≤ 1
  returning : s.returning = false
  posted : s.posted = []
  missesPrf : s.missesPrf = missed

theorem Running.closed {missed : Bool} (h : Running id missed own s) :
    Closed id missed { s with unmounted := s.unmounted ++ own.surface.toList } where
  toPresent := { h with }
  unmounted := by rw [h.unmounted, h.mounted, List.nil_append]
  once := by
    rw [h.mounted]
    exact Option.length_toList_le
  returning := h.returning
  posted := h.posted
  missesPrf := h.missesPrf

theorem closeSurface_settles {missed : Bool} (h : Running id missed own s) (hback : s.GivenBack) :
    keeper.Meets anywhere (closeSurface own.surface) (fun _ _ s' => Closed id missed s' ∧ s'.GivenBack) own s := by
  refine (closeSurface_meets h.returning own.surface).imp ?_
  rintro _ _ _ ⟨rfl, rfl⟩
  exact ⟨h.closed, { hback with }⟩

/-- What is left of the rollback once numbers and uses are given back. -/
theorem detach_settles {missed : Bool} (h : Running id missed own s) (hback : s.GivenBack) :
    keeper.Meets anywhere
      (match own.channel, setup.signer with
        | some session, some _ => do
          let _ ← access (.detach session)
          closeSurface own.surface
        | _, _ => closeSurface own.surface)
      (fun _ _ s' => Closed id missed s' ∧ s'.GivenBack) own s := by
  have hdetached (session : String) : s.attached.filter (· != session) = [] := by
    rw [hback.attached, List.filter_nil]
  split
  · exact meets_access fun _ _ =>
      ⟨trivial, closeSurface_settles { h with } { hback with attached := hdetached _ }⟩
  · exact closeSurface_settles h hback

/-- **The rollback settles the account.** -/
theorem rollBack_settles {missed : Bool} (h : Tallies id missed own s) :
    keeper.Meets anywhere (rollBack setup own) (fun _ _ s' => Closed id missed s' ∧ s'.GivenBack) own s := by
  refine meets_bind ((releaseAll_meets own.nonces).imp ?_)
  rintro _ own _ ⟨rfl, rfl⟩
  have hreleased : s.released ++ own.nonces = s.reserved := by rw [h.released, h.reserved, List.nil_append]
  have hnodup : s.reserved.Nodup := by rw [h.reserved]; exact h.nodup
  dsimp only
  split
  · rename_i hwarm
    have hnone : s.consumed = [] := by rw [h.consumed, hwarm]; rfl
    exact detach_settles { h.toRunning with }
      { released := hreleased
        nodup := hnodup
        reclaimed := by rw [h.reclaimed, hnone]
        restored := by rw [h.restored, hnone]; rfl
        once := by rw [hnone]; exact Nat.zero_le 1
        attached := h.attached
        returning := h.returning }
  · rename_i g account hwarm
    have hone : s.consumed = [(g, account)] := by rw [h.consumed, hwarm]; rfl
    refine meets_call ⟨trivial, trivial, trivial, fun _ => ⟨trivial, ?_⟩⟩
    refine meets_access fun _ _ => ⟨trivial, ?_⟩
    exact detach_settles { h.toRunning with returning := rfl }
      { released := hreleased
        nodup := hnodup
        reclaimed := by
          show s.reclaimed ++ [(g, account)] = s.consumed
          rw [h.reclaimed, hone]
          rfl
        restored := by
          show s.restored ++ [g.sessionId] = s.consumed.map (·.1.sessionId)
          rw [h.restored, hone]
          rfl
        once := by
          show s.consumed.length ≤ 1
          rw [hone]
          exact Nat.le_refl 1
        attached := h.attached
        returning := rfl }

/-! ## Answering -/

/-- The ways in which a request that was read comes to its end: refused, because its id is already running; broken off,
because the PRF result is missing; or answered, once. -/
inductive Outcome (id : String) : Except Error Unit → Account → Prop
  | refused {s : Account} (registered : s.registered = [(id, false)]) (missesPrf : s.missesPrf = false)
      (posted : s.posted = []) : Outcome id (.error (.validation (.duplicateRequestId id))) s
  | broken {s : Account} (registered : s.registered = [(id, true)]) (missesPrf : s.missesPrf = true)
      (posted : s.posted = []) (closed : s.unmounted = s.mounted) (once : s.mounted.length ≤ 1)
      (givenBack : s.GivenBack) : Outcome id (.error (.credential .missingPrfResult)) s
  | answered {s : Account} (registered : s.registered = [(id, true)]) (missesPrf : s.missesPrf = false) (r : Response)
      (posted : s.posted = [r.message]) (requestId : r.requestId = id) (x : Except ChannelError Unit) :
      Outcome id (x.mapError .channel) s

/-- A response may be posted once the surface is closed and, unless it is an approval, all is given back. -/
theorem Closed.mayPost {r : Response} (h : Closed id false s)
    (hback : r.confirmed = true ∨ r.confirmed = false ∧ s.GivenBack) : s.MayPost r.message where
  first := h.posted
  closed := h.unmounted
  once := h.once
  returning := h.returning
  tenure session hsession := by
    rw [h.attachments session hsession]
    exact h.holds
  givenBack := by
    rw [Response.message_confirmed]
    exact hback.imp (congrArg _ <| congrArg _ ·) (And.imp_left (congrArg _ <| congrArg _ ·))

/-- Posting posts the one message. -/
theorem post_posts {r : Response} (h : Closed id false s)
    (hback : r.confirmed = true ∨ r.confirmed = false ∧ s.GivenBack) :
    keeper.Meets anywhere (post r)
      (fun x _ s' => (∃ y : Except ChannelError Unit, x = y.mapError .channel) ∧ s' = { s with posted := [r.message] })
      own s := by
  have hposted : { s with posted := s.posted ++ [r.message] } = { s with posted := [r.message] } := by
    rw [h.posted, List.nil_append]
  refine meets_call ⟨trivial, h.mayPost hback, trivial, fun x => ⟨trivial, ?_⟩⟩
  cases x with
  | ok => exact ⟨⟨.ok (), rfl⟩, hposted⟩
  | error e => exact ⟨⟨.error e, rfl⟩, hposted⟩

theorem post_meets {r : Response} (h : Closed id false s) (hid : r.requestId = id)
    (hback : r.confirmed = true ∨ r.confirmed = false ∧ s.GivenBack) :
    keeper.Meets anywhere (post r) (fun x _ s' => Outcome id x s' ∧ Present id s') own s := by
  refine (post_posts h hback).imp ?_
  rintro _ _ _ ⟨⟨y, rfl⟩, rfl⟩
  exact ⟨.answered (s := { s with posted := [r.message] }) h.registered h.missesPrf r rfl hid y, { h with }⟩

theorem conclude_meets {outcome : Except Stop Response}
    (h : Ends (Approves id) (Ended id) outcome own s) :
    keeper.Meets anywhere (conclude setup id outcome) (fun x _ s' => Outcome id x s' ∧ Present id s') own s := by
  refine meets_conclude_of_parts (fun _ _ _ => ⟨trivial, rfl⟩) (fun _ _ => ⟨trivial, rfl⟩) ?approved ?declined ?fatal
  case approved =>
    rintro r rfl
    obtain ⟨hrunning, hid, hconfirmed⟩ := h
    refine meets_bind ((closeSurface_meets hrunning.returning own.surface).imp ?_)
    rintro _ _ _ ⟨rfl, rfl⟩
    exact post_meets hrunning.closed hid (.inl hconfirmed)
  case declined =>
    rintro code message rfl
    exact meets_bind ((rollBack_settles h).imp fun _ _ _ hsettled =>
      post_meets hsettled.1 rfl (.inr ⟨rfl, hsettled.2⟩))
  case fatal =>
    rintro e rfl
    obtain ⟨htallies, rfl⟩ := h
    exact meets_bind ((rollBack_settles htallies).imp fun _ _ _ hsettled =>
      ⟨.broken hsettled.1.registered hsettled.1.missesPrf hsettled.1.posted hsettled.1.unmounted hsettled.1.once
        hsettled.2, hsettled.1.toPresent⟩)

/-- Giving up the id changes nothing of the outcome. -/
theorem Outcome.unregister {x : Except Error Unit} (h : Outcome id x s) :
    Outcome id x { s with unregistered := s.unregistered ++ [id] } := by
  cases h with
  | refused registered missesPrf posted => exact .refused registered missesPrf posted
  | broken registered missesPrf posted closed once givenBack =>
    exact .broken registered missesPrf posted closed once { givenBack with }
  | answered registered missesPrf r posted requestId y =>
    exact .answered (s := { s with unregistered := s.unregistered ++ [id] }) registered missesPrf r posted requestId y

/-- A request that was let run has taken nothing yet. -/
theorem Tallies.start (id : String) : Tallies id false {} { registered := [(id, true)] } :=
  { registered := rfl, unregistered := rfl, attachments := fun _ h => by cases h
    mounted := rfl, unmounted := rfl, returning := rfl, posted := rfl, missesPrf := rfl
    reserved := rfl, nodup := .nil, released := rfl, consumed := rfl, reclaimed := rfl, restored := rfl
    attached := rfl }

/-- **A request that was read** is refused, broken off or answered once, wherever it is stopped. -/
theorem handleRequest_meets (r : Request) :
    keeper.Meets anywhere (handleRequest setup r) (fun x _ s' => Outcome r.id x s') {} {} := by
  have hrun (policy : ConfirmationPolicy) :
      Keeps r.id (run setup r policy) (Approves r.id) {} { registered := [(r.id, true)] } :=
    run_keeps (.start r.id) policy
  refine meets_handleRequest (fun _ _ _ _ => ⟨trivial, rfl⟩) (fun _ => ⟨⟨trivial, rfl⟩, fun _ => ⟨trivial, rfl⟩⟩)
    (fun _ _ => ⟨trivial, rfl⟩) (fun _ => trivial) (.refused rfl rfl rfl) hrun (fun _ _ h => ⟨trivial, h⟩)
    (Tallies.start r.id) fun outcome own s h => ?_
  exact (conclude_meets h).imp fun _ _ _ hr => ⟨⟨hr.2.holds, hr.2.attachments⟩, hr.1.unregister⟩

end PasskeyConsent.Account

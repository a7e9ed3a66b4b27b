import PasskeyConsent.Proofs.Confirmation.Endings
/-!
# What a request leaves alone

A request that signs on a warm session prompts for no credential, binds no challenge and hands nothing to the signing
worker; one that shows or decrypts a private key asks nothing of the chain, the random function and the sequencer
(`handle_restrained`).  Neither does its rollback, as a request gives back only what it has taken.  And whoever signs on
a warm session dispenses the key of it once, if at all, and before the confirmation (`handle_wardens`).
-/
namespace PasskeyConsent

open Observer Program Confirmation

variable {α ε : Type}

/-- What is about the passkeys of an account, the challenges that they sign and the secrets that they yield. -/
abbrev Topic.ofPasskeys : List Topic := [.ceremony, .freshness, .handover]

/-- What is about the chain, the numbers of its transactions and the challenges that are bound to its blocks. -/
abbrev Topic.ofChain : List Topic := [.key, .binding, .turn, .chain, .reservation, .release, .freshness]

/-- The topics that a request of some payload has nothing to do with. -/
def Payload.spares : Payload → List Topic
  | .signTransaction p =>
    match p.authMode with
    | .webAuthn => []
    | .warmSession => Topic.ofPasskeys
  | .decryptPrivateKey _ | .showPrivateKey _ => Topic.ofChain
  | .registerAccount _ | .signMessage _ | .linkDevice _ => []

theorem Payload.spares_cases (p : Payload) :
    p.spares = [] ∨ p.spares = Topic.ofPasskeys ∨ p.spares = Topic.ofChain := by
  cases p with
  | signTransaction p =>
    cases hmode : p.authMode with
    | webAuthn => exact .inl (by simp only [spares, hmode])
    | warmSession => exact .inr (.inl (by simp only [spares, hmode]))
  | decryptPrivateKey | showPrivateKey => exact .inr (.inr rfl)
  | registerAccount | signMessage | linkDevice => exact .inl rfl

namespace Restraint

variable {payload : Payload} {own : Holdings} {setup : Setup} {id : String}

/-- The one who sees to it that a request leaves alone what it has nothing to do with. -/
def restrainer (payload : Payload) : Observer Unit where
  after _ _ := ()
  allows _ e := e.topic ∉ payload.spares

/-- An effect about something that a request may have to do with. -/
def Permits (payload : Payload) (e : Effect) : Prop := e.topic ∉ payload.spares ∧ e.topic ≠ .watched

theorem Permits.overlooks {e : Effect} (h : Permits payload e) : (restrainer payload).Overlooks e := by
  cases e with
  | access a => exact fun _ _ => ⟨h.1, rfl⟩
  | suspend u =>
    cases u with
    | call c => exact fun _ => ⟨⟨h.1, rfl⟩, fun _ => ⟨h.1, rfl⟩⟩
    | wait w => exact fun _ _ => ⟨h.1, rfl⟩
  | watched => exact absurd rfl h.2

/-- The topics that every request may have to do with. -/
abbrev commonTopics : List Topic :=
  [.clock, .session, .registry, .cancellation, .state, .surface, .holdings, .preferences, .answer, .breakdown]

theorem not_spared {t : Topic} (h : t ∈ .watched :: commonTopics) : t ∉ payload.spares := by
  revert t
  rcases payload.spares_cases with heq | heq | heq <;>
  · rw [heq]
    decide

theorem permits_of_common {e : Effect} (h : e.topic ∈ commonTopics) : Permits payload e := by
  refine ⟨not_spared (List.mem_cons_of_mem _ h), fun heq => ?_⟩
  rw [heq] at h
  exact absurd h (by decide)

theorem overlooks_common : (restrainer payload).OverlooksTopics commonTopics :=
  fun _ he => (permits_of_common (List.contains_iff_mem.1 he)).overlooks

/-! ## What a request never holds -/

theorem hold_channel {a : Access} (h : a.topic ≠ .handover) (x : a.Answer) (own : Holdings) :
    (a.hold x own).channel = own.channel := by
  cases a with
  | reserve | consume => cases x <;> rfl
  | holdChannel | settleChannel => exact absurd rfl h
  | _ => rfl

theorem hold_nonces {a : Access} (h : a.topic ≠ .reservation) (x : a.Answer) (own : Holdings) :
    (a.hold x own).nonces = own.nonces := by
  cases a with
  | reserve => exact absurd rfl h
  | consume => cases x <;> rfl
  | _ => rfl

/-- A request holds nothing that it would have to give back to someone it has nothing to do with. -/
structure Unburdened (payload : Payload) (own : Holdings) : Prop where
  channel : Topic.handover ∈ payload.spares → own.channel = none
  nonces : Topic.release ∈ payload.spares → own.nonces = []

theorem Unburdened.hold {a : Access} (hown : Unburdened payload own) (h : Permits payload (.access a)) (x : a.Answer) :
    Unburdened payload (a.hold x own) := by
  have hreserves : Topic.release ∈ payload.spares → Topic.reservation ∈ payload.spares := by
    rcases payload.spares_cases with heq | heq | heq <;>
    · rw [heq]
      decide
  refine ⟨fun hspared => ?_, fun hspared => ?_⟩
  · have hne : a.topic ≠ .handover := fun heq => h.1 (show a.topic ∈ payload.spares from heq ▸ hspared)
    rw [hold_channel hne]
    exact hown.channel hspared
  · have hne : a.topic ≠ .reservation := fun heq => h.1 (show a.topic ∈ payload.spares from heq ▸ hreserves hspared)
    rw [hold_nonces hne]
    exact hown.nonces hspared

/-- What is permitted burdens no one. -/
theorem meets_of_permitted {R : α → Prop} {p : Program α} (hp : p.Only (Permits payload) R)
    (hown : Unburdened payload own) :
    (restrainer payload).Meets (fun own _ => Unburdened payload own) p (fun _ own _ => Unburdened payload own) own
      () := by
  induction p generalizing own with
  | done a => exact hown
  | step e next ih =>
    obtain ⟨he, hnext⟩ := hp
    cases e with
    | access a => exact fun x _ => ⟨he.1, ih x (hnext x) (hown.hold he x)⟩
    | suspend u =>
      cases u with
      | call c => exact ⟨hown, he.1, hown, fun x => ⟨he.1, ih x (hnext x) hown⟩⟩
      | wait w => exact ⟨fun _ => hown, fun x => ⟨he.1, ih x (hnext x) hown⟩⟩
    | watched => exact absurd rfl he.2

/-! ## The flows -/

theorem permits_of_topics {topics : List Topic} {R : α → Prop} {p : Program α} (h : p.KeepsTo topics R)
    (spared : List Topic) (hspared : payload.spares = spared) (ht : ∀ t ∈ topics, t ∉ spared ∧ t ≠ .watched) :
    p.Only (Permits payload) anyResult := by
  subst hspared
  exact Only.mono h (fun _ he => ht _ (List.contains_iff_mem.1 he)) fun _ _ => trivial

/-- A part of a flow, among the topics of the whole. -/
theorem part_of {topics topics' : List Topic} {F : Stop → Prop} {p : ExceptT Stop Program α}
    (h : p.run.KeepsTo topics (Ends anyResult F)) (ht : topics ⊆ topics') :
    p.run.KeepsTo topics' (Ends anyResult anyResult) := KeepsTo.mono h ht fun r _ => anyEnd r

theorem keepsTo_signOnSession (p : SignTransactionPayload) (count : Nat) :
    (signOnSession id p count).run.KeepsTo [.key, .turn, .chain, .session, .reservation, .state]
      (Ends anyResult anyResult) := by
  refine Only.bindExcept (part_of (keepsTo_turnContext _) (by decide)) fun base _ => ?_
  refine Only.bindExcept (part_of (keepsTo_consume _ _) (by decide)) fun grant _ => ?_
  refine Only.bindExcept (part_of (keepsTo_dispense grant _) (by decide)) fun _ _ => ?_
  refine Only.bindExcept (part_of (keepsTo_reserveNonces _ _) (by decide)) fun nonces _ => ?_
  exact Only.liftAccess rfl fun _ => trivial

theorem keepsTo_decryptKey (p : DecryptPrivateKeyPayload) :
    (decryptKey setup id p).run.KeepsTo [.ceremony, .state, .handover, .clock] (Ends anyResult anyResult) := by
  refine Only.bindExcept (part_of (keepsTo_collectAssertion _ _ _ _) (by decide)) fun collected _ => ?_
  dsimp only
  split
  · exact trivial
  · exact Only.bindExcept (part_of (keepsTo_deliverSeed _ _ _) (by decide)) fun _ _ => trivial

theorem keepsTo_showKey (p : ShowPrivateKeyPayload) :
    (showKey setup id p).run.KeepsTo [.ceremony, .state, .handover, .clock] (Ends anyResult anyResult) :=
  Only.bindExcept (part_of (keepsTo_collectAssertion _ _ _ _) (by decide)) fun _ _ =>
    Only.bindExcept (part_of (keepsTo_deliverSeed _ _ _) (by decide)) fun _ _ => trivial

theorem perform_permitted (r : Request) : (perform setup r).run.Only (Permits r.payload) anyResult := by
  have hflows := flows_perform setup r
  unfold perform at hflows ⊢
  cases hp : r.payload with
  | signTransaction p =>
    simp only [hp] at hflows ⊢
    cases hmode : p.authMode with
    | webAuthn =>
      simp only [hmode] at hflows ⊢
      exact permits_of_topics hflows [] (by simp only [Payload.spares, hmode]) (by decide)
    | warmSession =>
      exact permits_of_topics (keepsTo_signOnSession p _) Topic.ofPasskeys (by simp only [Payload.spares, hmode])
        (by decide)
  | decryptPrivateKey p => exact permits_of_topics (keepsTo_decryptKey p) Topic.ofChain rfl (by decide)
  | showPrivateKey p => exact permits_of_topics (keepsTo_showKey p) Topic.ofChain rfl (by decide)
  | registerAccount | signMessage | linkDevice =>
    simp only [hp] at hflows ⊢
    exact permits_of_topics hflows [] rfl (by decide)

theorem run_permitted (r : Request) (policy : ConfirmationPolicy) :
    (run setup r policy).run.Only (Permits r.payload) anyResult := by
  unfold run
  split
  · have hcommon : [Topic.state, .surface] ⊆ commonTopics := by decide
    have hawait : (awaitUser r policy).run.Only (Permits r.payload) anyResult :=
      Only.mono (keepsTo_awaitUser r policy) (fun e he => permits_of_common (hcommon (List.contains_iff_mem.1 he)))
        fun _ _ => trivial
    refine Only.bind hawait fun x _ => ?_
    cases x with
    | ok => exact perform_permitted r
    | error e => exact trivial
  · exact perform_permitted r

/-! ## The conclusion -/

/-- **What was not taken is not given back.** -/
theorem rollBack_permitted (hown : Unburdened payload own) : (rollBack setup own).Only (Permits payload) anyResult := by
  have hrelease : (releaseAll own.nonces).Only (Permits payload) anyResult := by
    by_cases hspared : Topic.release ∈ payload.spares
    · rw [hown.nonces hspared]
      exact trivial
    · exact only_releaseAll (fun _ => ⟨hspared, nofun⟩) own.nonces
  have hclose : (closeSurface own.surface).Only (Permits payload) anyResult :=
    only_closeSurface (fun _ => permits_of_common (show Topic.surface ∈ commonTopics by decide)) own.surface
  have hdetach {session : String} (hheld : own.channel = some session) :
      Permits payload (.access (.detach session)) := by
    refine ⟨fun hspared => ?_, nofun⟩
    rw [hown.channel hspared] at hheld
    cases hheld
  refine Only.bind hrelease fun _ _ => ?_
  dsimp only
  split
  case' h_2 g account _ =>
    have hsession : Topic.session ∈ commonTopics := by decide
    refine Only.call (permits_of_common hsession) fun _ => Only.access (permits_of_common hsession) fun _ => ?_
  all_goals
    split
    · rename_i hheld _
      exact Only.access (hdetach hheld) fun _ => hclose
    · exact hclose

theorem post_restrained (r : Response) (own : Holdings) :
    (restrainer payload).Meets anywhere (post r) (fun _ _ _ => True) own () :=
  meets_of_overlooked_topics (overlooks_common.mono (by decide)) (keepsTo_post r) (fun _ => trivial)
    fun _ _ _ => trivial

theorem handleRequest_restrained (r : Request) :
    (restrainer r.payload).Meets anywhere (handleRequest setup r) (fun _ _ _ => True) {} () := by
  have hstart : Unburdened r.payload {} := ⟨fun _ => rfl, fun _ => rfl⟩
  have hcommon {e : Effect} (h : e.topic ∈ commonTopics) : (restrainer r.payload).Overlooks e :=
    (permits_of_common h).overlooks
  have hunregister : Topic.registry ∉ r.payload.spares := not_spared (by decide)
  refine meets_handleRequest (fun _ _ => hcommon (by simp [Effect.topic, Access.topic])) (hcommon (by decide))
    (hcommon (by simp [Effect.topic, Access.topic])) (fun _ => hunregister) trivial
    (fun policy => meets_of_permitted (run_permitted r policy) hstart) (fun own _ hown => ⟨?_, hown⟩) hstart
    fun outcome own _ hown => ?_
  · exact not_spared (by decide)
  · have hback : (restrainer r.payload).Meets anywhere (rollBack setup own) (fun _ _ s' => s' = ()) own () :=
      (meets_of_permitted (rollBack_permitted hown) hown).mono (fun _ _ _ => trivial) fun _ _ _ _ => rfl
    exact (meets_conclude_of_rollBack (overlooks_common.mono (by decide)) hback (fun r _ own => post_restrained r own)
      (fun code message _ own => post_restrained _ own) fun _ _ _ => trivial).imp fun _ _ _ _ => ⟨hunregister, trivial⟩

/-- **The handling of an envelope leaves alone what its payload has nothing to do with.** -/
theorem handle_restrained {raw : Json} {q : Request} (hread : Request.read raw = .ok q) :
    (restrainer q.payload).Meets anywhere (handle setup raw) (fun _ _ _ => True) {} () := by
  rw [handle_of_read hread]
  exact handleRequest_restrained q

end Restraint

/-! ## The key of a session -/

/-- The key of a warm session is dispensed. -/
def Event.isDispense : Event → Bool
  | .called (.dispense ..) => true
  | _ => false

/-- What is dispensed on behalf of a task, in order. -/
def dispensesOf (task : Nat) (ss : List (Step α)) : History := (historyOf task ss).filter Event.isDispense

namespace Restraint

variable {setup : Setup} {id : String} {h : History}

/-- The one who sees to it that the key of a session is dispensed once, and before a confirmation. -/
def warden : Observer History where
  after h e := if e.isDispense then h ++ [e] else h
  allows
    | h, .called (.dispense ..) => h = []
    | h, .called (.post m) => m.get? "confirmed" = some (.bool true) → h.length = 1
    | _, _ => True

theorem warden_seen (h₁ h₂ : History) : warden.seen h₁ h₂ = h₁ ++ h₂.filter Event.isDispense :=
  seen_filter (fun _ _ => rfl) h₁ h₂

/-- The topics that have nothing to do with a dispensed key or an answer. -/
abbrev otherTopics : List Topic :=
  [.clock, .key, .turn, .chain, .reservation, .release, .handover, .registry, .cancellation, .state, .surface,
   .holdings, .preferences]

theorem warden_overlooks : warden.OverlooksTopics otherTopics := by
  refine .of_events rfl fun e he h => ?_
  cases e with
  | called c => cases c <;> first | exact absurd he Bool.false_ne_true | exact ⟨trivial, rfl⟩
  | _ => exact ⟨trivial, rfl⟩

/-- A step goes on as `P` says. -/
abbrev Brings (p : ExceptT ε Program α) (P : α → History → Prop) (h : History) : Prop :=
  warden.Brings (fun _ => True) p P h

theorem after_topics {topics : List Topic} {F : ε → Prop} {β : Type} {p : ExceptT ε Program α}
    {f : α → ExceptT ε Program β} {Q : β → History → Prop} (hp : p.run.KeepsTo topics (Ends anyResult F))
    (ht : topics ⊆ otherTopics) (hf : ∀ a, Brings (f a) Q h) : Brings (p >>= f) Q h :=
  Observer.Brings.after_topics (warden_overlooks.mono ht) hp trivial hf

theorem consume_brings (session account : String) :
    Brings (Stage.orStop (attempt (access (.consume session account))) Stage.sessionUnavailable) (fun _ h' => h' = h)
      h := by
  refine Observer.Brings.orStop fun own r _ => ?_
  cases r with
  | ok g => exact ⟨trivial, rfl⟩
  | error e => exact ⟨trivial, trivial⟩

theorem dispense_brings (grant : WarmSessionGrant) (account : String) :
    Brings (Stage.orStop (attempt (call (.dispense grant account))) Stage.sessionUnavailable)
      (fun _ h' => h'.length = 1) [] := by
  refine Observer.Brings.orStop fun own => ⟨trivial, rfl, trivial, fun x => ⟨trivial, ?_⟩⟩
  cases x with
  | ok => exact rfl
  | error e => exact trivial

theorem signOnSession_brings (p : SignTransactionPayload) (count : Nat) :
    Brings (signOnSession id p count) (fun _ h' => h'.length = 1) [] := by
  refine after_topics (keepsTo_turnContext _) (by decide) fun base => ?_
  refine (consume_brings _ _).bind fun grant h hh => ?_
  subst hh
  refine (dispense_brings grant _).bind fun _ h hh => ?_
  refine after_topics (keepsTo_reserveNonces _ _) (by decide) fun nonces => ?_
  exact fun own => meets_liftAccess fun _ _ => ⟨trivial, hh⟩

theorem run_brings {r : Request} (huses : r.payload.usesSession = true) (policy : ConfirmationPolicy) :
    Brings (run setup r policy) (fun _ h' => h'.length = 1) [] := by
  have hperform : Brings (perform setup r) (fun _ h' => h'.length = 1) [] := by
    unfold perform
    cases hp : r.payload with
    | signTransaction p =>
      rw [hp] at huses
      have hmode : p.authMode = .warmSession := of_decide_eq_true huses
      simp only [hmode]
      exact signOnSession_brings p _
    | registerAccount | decryptPrivateKey | signMessage | linkDevice | showPrivateKey =>
      rw [hp] at huses
      cases huses
  unfold run
  split
  · exact after_topics (keepsTo_awaitUser r policy) (by decide) fun _ => hperform
  · exact hperform

theorem post_wardens {r : Response} {own : Holdings} (hr : r.confirmed = true → h.length = 1) :
    warden.Meets anywhere (post r) (fun _ _ _ => True) own h := by
  have hconfirmed : r.message.get? "confirmed" = some (.bool true) → h.length = 1 := by
    intro hm
    rw [Response.message_confirmed] at hm
    exact hr (Json.bool.inj (Option.some.inj hm))
  refine meets_call ⟨trivial, hconfirmed, trivial, fun x => ⟨trivial, ?_⟩⟩
  cases x with
  | ok => exact trivial
  | error e => exact trivial

theorem rollBack_wardens (own : Holdings) :
    warden.Meets anywhere (rollBack setup own) (fun _ _ h' => h' = h) own h := by
  have hback : (rollBack setup own).Only warden.Overlooks anyResult := by
    refine only_rollBack (fun _ => ?_) (fun _ _ => ?_) (fun _ => ?_) (fun _ => ?_) (fun _ => ?_) setup own
    case refine_2 | refine_5 => exact fun _ => ⟨⟨trivial, rfl⟩, fun _ => ⟨trivial, rfl⟩⟩
    all_goals exact fun _ _ => ⟨trivial, rfl⟩
  exact meets_of_overlooked hback (fun _ => trivial) fun _ _ _ => rfl

/-- **Whoever signs on a session dispenses its key once**, if at all, and before the confirmation. -/
theorem handle_wardens {raw : Json} {q : Request} (hread : Request.read raw = .ok q)
    (huses : q.payload.usesSession = true) : warden.Meets anywhere (handle setup raw) (fun _ _ _ => True) {} [] := by
  rw [handle_of_read hread]
  refine meets_handleRequest (fun _ _ => warden_overlooks _ rfl) (warden_overlooks _ rfl) (warden_overlooks _ rfl)
    (fun _ => trivial) trivial (fun policy => run_brings huses policy {}) (fun _ _ _ => ⟨trivial, trivial⟩) trivial
    fun outcome own h hends => ?_
  refine (meets_conclude_of_rollBack (warden_overlooks.mono (by decide)) (rollBack_wardens own) (fun r hr _ => ?_)
    (fun code message _ _ => post_wardens nofun) fun _ _ _ => trivial).imp fun _ _ _ _ => ⟨trivial, trivial⟩
  subst hr
  exact post_wardens fun _ => hends

end Restraint

/-! ## Runs -/

section

variable {setup : Setup} {raw m : Json} {q : Request} {w w' : Wallet (Except Error Unit)}
  {ss ss₁ ss₂ : List (Step (Except Error Unit))} {st posting : Step (Except Error Unit)}

/-- What a request notices of a run is not about anything that it has nothing to do with. -/
theorem Run.spares (run : Run w ss w') (hst : st ∈ ss) (hstart : st.move = .start (handle setup raw))
    (hread : Request.read raw = .ok q) {e : Event} (he : e ∈ historyOf st.before.tasks.length ss) :
    e.topic ∉ q.payload.spares := by
  obtain ⟨h₁, h₂, hhistory⟩ := List.append_of_mem he
  obtain ⟨ss₁, noticed, ss₂, hss, -, hevent, -⟩ := Run.step_of_event hhistory
  exact run.allowed_since_start hst hstart rfl (Restraint.handle_restrained hread) hss hevent

/-- A request that signs on a session dispenses its key at most once. -/
theorem Run.dispenses_le_one (run : Run w ss w') (hst : st ∈ ss) (hstart : st.move = .start (handle setup raw))
    (hread : Request.read raw = .ok q) (huses : q.payload.usesSession = true) :
    (dispensesOf st.before.tasks.length ss).length ≤ 1 := by
  cases hdispenses : dispensesOf st.before.tasks.length ss with
  | nil => exact Nat.zero_le 1
  | cons first rest =>
    cases rest with
    | nil => exact Nat.le_refl 1
    | cons second rest =>
      -- The second would have been allowed with the first on record.
      obtain ⟨before, dispensing, after, hss, hbefore, hhappening, -⟩ := Run.step_of_filter [first] hdispenses
      have hmem : second ∈ dispensesOf st.before.tasks.length ss := by
        rw [hdispenses]
        exact List.mem_cons_of_mem _ List.mem_cons_self
      have hevent : dispensing.happening.event? st.before.tasks.length = some second :=
        Happening.event?_of_eq hhappening
      have hallowed := run.allowed_since_start hst hstart rfl (Restraint.handle_wardens hread huses) hss hevent
      rw [Restraint.warden_seen, hbefore] at hallowed
      have hdispense : second.isDispense = true := (List.mem_filter.1 hmem).2
      cases second with
      | called c =>
        cases c with
        | dispense => cases hallowed
        | _ => cases hdispense
      | _ => cases hdispense

/-- It has done so when it is confirmed. -/
theorem Run.dispenses_eq_one (run : Run w ss w') (hst : st ∈ ss) (hstart : st.move = .start (handle setup raw))
    (hread : Request.read raw = .ok q) (huses : q.payload.usesSession = true) (hss : ss = ss₁ ++ posting :: ss₂)
    (hposting : posting.happening = .called st.before.tasks.length (.post m))
    (hconfirmed : m.get? "confirmed" = some (.bool true)) : (dispensesOf st.before.tasks.length ss₁).length = 1 := by
  have hevent : posting.happening.event? st.before.tasks.length = some (.called (.post m)) :=
    Happening.event?_of_eq hposting
  have hallowed :=
    run.allowed_since_start hst hstart rfl (Restraint.handle_wardens hread huses) hss hevent hconfirmed
  rwa [Restraint.warden_seen] at hallowed

end

end PasskeyConsent

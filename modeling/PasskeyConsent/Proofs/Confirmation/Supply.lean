import PasskeyConsent.Proofs.Channel.Delivery
import PasskeyConsent.Proofs.Confirmation.Flows
import PasskeyConsent.Proofs.Confirmation.Settlement
/-!
# From the attach to the announcement

What a request does with its seed, as its own events tell it: it attaches one box, puts the seed into it directly
afterwards and then announces it.  `SeedPhase` says how far it has got and `SeedPhase.Goes` what an event can do to
that; stopped or failing it has announced nothing, and approving it has no seed half way (`SeedPhase.handle_meets`).
-/
namespace PasskeyConsent

open Observer Program Confirmation

variable {α : Type}

/-! ## Requests are users of the hub -/

theorem Effect.isOfAttach_eq_false {e : Effect} (hhandover : e.topic ≠ .handover) (hwatched : e.topic ≠ .watched) :
    e.isOfAttach = false := by
  cases e with
  | access a => cases a <;> first | rfl | exact absurd rfl hhandover
  | suspend u =>
    cases u with
    | call c => rfl
    | wait w => cases w <;> first | rfl | exact absurd rfl hhandover
  | watched => exact absurd rfl hwatched

/-- What has nothing to do with the hub. -/
theorem Program.UsesHub.of_topics {topics : List Topic} {R : α → Prop} {p : Program α} (h : p.KeepsTo topics R)
    (hhandover : .handover ∉ topics) (hwatched : .watched ∉ topics) : p.UsesHub := by
  induction p with
  | done a => exact .done a
  | step e next ih =>
    have hmem : e.topic ∈ topics := List.contains_iff_mem.1 h.1
    exact .bind (p := Flow.perform e)
      (.effect e (Effect.isOfAttach_eq_false (fun he => hhandover (he ▸ hmem)) fun he => hwatched (he ▸ hmem)))
      fun x => ih x (h.2 x)

/-- **The handling of every envelope uses the hub** as its users do. -/
theorem handle_usesHub (setup : Setup) (raw : Json) : (handle setup raw).UsesHub := by
  have parts : HasParts @UsesHub :=
    { done := .done
      bind := .bind
      watch := .watch
      plain := fun e h => by
        refine .effect e (Effect.isOfAttach_eq_false ?_ ?_) <;>
        · intro he
          rw [he] at h
          exact absurd h (by decide)
      context := .of_topics (keepsTo_context false) (by decide) (by decide)
      attach := .attach
      deposit := .deposit
      detach := fun session => .effect (.access (.detach session)) rfl
      holdChannel := fun session => .effect (.access (.holdChannel session)) rfl
      settleChannel := .effect (.access .settleChannel) rfl }
  exact parts.handle setup raw

theorem Program.IsOrdinary.usesHub {p : Program (Except Error Unit)} (h : p.IsOrdinary) : p.UsesHub := by
  rcases h with ⟨setup, raw, rfl⟩ | h
  · exact handle_usesHub setup raw
  · exact .of_topics h (by decide) (by decide)

/-- Nobody outside the tasks has to do with the hub. -/
def Move.SparesHub : Move α → Prop
  | .outside a => a.topic ≠ .handover
  | _ => True

theorem Move.IsOrdinary.usesHub {m : Move (Except Error Unit)} (h : m.IsOrdinary) (hspares : m.SparesHub) :
    m.UsesHub := by
  cases m with
  | start p => exact Program.IsOrdinary.usesHub h
  | outside a => cases a <;> first | rfl | exact absurd rfl hspares
  | _ => trivial

/-! ## From the attach to the announcement -/

/-- How far a request has got with its seed. -/
inductive SeedPhase where
  | idle
  /-- It has attached a box that it has not filled. -/
  | holding (session : String) (box : Nat)
  /-- It has put the seed into the box and not announced it. -/
  | filled (session : String) (box : Nat) (seed : SeedMaterial)
  | announced (session : String) (box : Nat) (seed : SeedMaterial)
  /-- It has handed a confirmation to the sink after that. -/
  | confirmed (session : String) (box : Nat) (seed : SeedMaterial)

namespace SeedPhase

/-- What it has put where. -/
def given? : SeedPhase → Option (String × Nat × SeedMaterial)
  | filled session n seed | announced session n seed | confirmed session n seed => some (session, n, seed)
  | _ => none

/-- No seed is announced yet. -/
def isSilent : SeedPhase → Bool
  | announced .. | confirmed .. => false
  | _ => true

def after : SeedPhase → Event → SeedPhase
  | _, .accessed (.attach session n) _ => holding session n
  | holding session n, .accessed (.deposit _ seed) (.ok ()) => filled session n seed
  | holding .., .accessed (.deposit ..) (.error _) => idle
  | filled session n seed, .waited (.send _) (.ok ()) => announced session n seed
  | announced session n seed, .called (.post m) =>
    if m.get? "confirmed" = some (.bool true) then confirmed session n seed else announced session n seed
  | p, _ => p

/-- The one who sees to it that a request attaches one box, fills it directly afterwards, and announces only what it
has filled. -/
def dealer : Observer SeedPhase where
  after := after
  allows
    | p, .accessed (.attach ..) _ => p = idle
    | p, .accessed (.deposit session _) _ => ∃ n, p = holding session n
    | p, .accessed (.unregister _) _ | p, .stopped => ∀ session n, p ≠ holding session n
    | p, .waited (.send e) _ =>
      if e.message.kind = .seedReady then ∃ n seed, p = filled e.message.session n seed else p = idle
    | _, _ => True

/-- The events that a phase depends on, and giving an id up. -/
def isOfSeed : Event → Bool
  | .accessed (.attach ..) _ | .accessed (.deposit ..) _ | .accessed (.unregister _) _ | .waited (.send _) _
  | .called (.post _) => true
  | _ => false

theorem after_eq_self {e : Event} (he : isOfSeed e = false) (p : SeedPhase) : dealer.after p e = p := by
  show p.after e = p
  unfold after
  split
  case h_6 => rfl
  all_goals cases he

/-- **Everything that an allowed event does** to the phase of its request. -/
inductive Goes : SeedPhase → Event → SeedPhase → Prop
  | attach (session : String) (n : Nat) : Goes idle (.accessed (.attach session n) ()) (holding session n)
  | fill (session : String) (n : Nat) (seed : SeedMaterial) :
    Goes (holding session n) (.accessed (.deposit session seed) (.ok ())) (filled session n seed)
  | fail (session : String) (n : Nat) (seed : SeedMaterial) (e : ChannelError) :
    Goes (holding session n) (.accessed (.deposit session seed) (.error e)) idle
  | announce (envelope : Envelope) (n : Nat) (seed : SeedMaterial) :
    Goes (filled envelope.message.session n seed) (.waited (.send envelope) (.ok ()))
      (announced envelope.message.session n seed)
  | confirm (session : String) (n : Nat) (seed : SeedMaterial) (m : Json)
      (hm : m.get? "confirmed" = some (.bool true)) :
    Goes (announced session n seed) (.called (.post m)) (confirmed session n seed)
  | rest (p : SeedPhase) (e : Event) (hattach : ∀ session n x, e ≠ .accessed (.attach session n) x)
      (hdeposit : ∀ session seed x, e ≠ .accessed (.deposit session seed) x)
      (hannounce : ∀ session, e ≠ .waited (.send ⟨.seedReady session, none⟩) (.ok ()))
      (hkept : ∀ session n, p = holding session n → ∀ id x, e ≠ .accessed (.unregister id) x) : Goes p e p

theorem goes_of_not_isOfSeed {e : Event} (he : isOfSeed e = false) (p : SeedPhase) : Goes p e (dealer.after p e) := by
  rw [after_eq_self he]
  refine .rest p e (fun session n x h => ?_) (fun session seed x h => ?_) (fun session h => ?_)
    fun session n _ id x h => ?_
  all_goals
    rw [h] at he
    cases he

theorem goes {p : SeedPhase} {e : Event} (hallowed : dealer.allows p e) : Goes p e (dealer.after p e) := by
  -- What neither attaches nor deposits, announces or confirms.
  have hrest (hafter : dealer.after p e = p) (hattach : ∀ session n x, e ≠ .accessed (.attach session n) x)
      (hdeposit : ∀ session seed x, e ≠ .accessed (.deposit session seed) x)
      (hannounce : ∀ session, e ≠ .waited (.send ⟨.seedReady session, none⟩) (.ok ()))
      (hkept : ∀ session n, p = holding session n → ∀ id x, e ≠ .accessed (.unregister id) x) :
      Goes p e (dealer.after p e) := hafter.symm ▸ .rest p e hattach hdeposit hannounce hkept
  cases e with
  | accessed a x =>
    cases a with
    | attach session n =>
      cases hallowed
      exact .attach session n
    | deposit session seed =>
      obtain ⟨n, rfl⟩ := hallowed
      rcases x with e | ⟨⟩
      · exact .fail session n seed e
      · exact .fill session n seed
    | unregister id =>
      exact hrest (by cases p <;> rfl) nofun nofun nofun fun session n hp => absurd hp (hallowed session n)
    | _ => exact goes_of_not_isOfSeed rfl p
  | called c =>
    cases c with
    | post m =>
      cases p with
      | announced session n seed =>
        by_cases hm : m.get? "confirmed" = some (.bool true)
        · have hafter : dealer.after (announced session n seed) (.called (.post m)) = confirmed session n seed :=
            if_pos hm
          exact hafter.symm ▸ .confirm session n seed m hm
        · exact hrest (if_neg hm) nofun nofun nofun nofun
      | _ => exact hrest rfl nofun nofun nofun nofun
    | _ => exact goes_of_not_isOfSeed rfl p
  | waited w x =>
    cases w with
    | send envelope =>
      by_cases hkind : envelope.message.kind = .seedReady
      · obtain ⟨n, seed, rfl⟩ := (if_pos hkind).mp hallowed
        rcases x with e | ⟨⟩
        · exact hrest rfl nofun nofun nofun nofun
        · exact .announce envelope n seed
      · cases (if_neg hkind).mp hallowed
        refine hrest (by rcases x with _ | ⟨⟩ <;> rfl) nofun nofun (fun session h => ?_) nofun
        cases h
        exact hkind rfl
    | _ => exact goes_of_not_isOfSeed rfl p
  | _ => exact goes_of_not_isOfSeed rfl p

/-- What has been put into a box stays given, and nothing else is. -/
theorem Goes.given? {p p' : SeedPhase} {e : Event} (g : p.Goes e p') :
    p'.given? = p.given? ∨ ∃ session n seed, p = holding session n ∧ e = .accessed (.deposit session seed) (.ok ()) ∧
      p'.given? = some (session, n, seed) := by
  cases g with
  | fill session n seed => exact .inr ⟨session, n, seed, rfl, rfl, rfl⟩
  | _ => exact .inl rfl

/-- **What the phase tells of the history** of its request. -/
structure Recounts (p : SeedPhase) (h : History) : Prop where
  given : ∀ session n seed, p.given? = some (session, n, seed) → .accessed (.deposit session seed) (.ok ()) ∈ h
  deposited : ∀ session seed, .accessed (.deposit session seed) (.ok ()) ∈ h → ∃ n, p.given? = some (session, n, seed)
  silent : p.isSilent = true → ∀ session, .waited (.send ⟨.seedReady session, none⟩) (.ok ()) ∉ h
  confirmed : ∀ session n seed, p = confirmed session n seed →
    ∃ m, .called (.post m) ∈ h ∧ m.get? "confirmed" = some (.bool true)

theorem Recounts.step {p p' : SeedPhase} {e : Event} {h : History} (recounts : p.Recounts h) (g : p.Goes e p') :
    p'.Recounts (h ++ [e]) := by
  refine ⟨fun session n seed hgiven => ?_, fun session seed hmem => ?_, fun hsilent session hmem => ?_,
    fun session n seed hconfirmed => ?_⟩
  · rcases g.given? with heq | ⟨session', n', seed', -, rfl, heq⟩
    · exact List.mem_append_left _ (recounts.given session n seed (heq ▸ hgiven))
    · cases heq.symm.trans hgiven
      exact List.mem_append_right _ List.mem_cons_self
  · rcases List.mem_append.1 hmem with hmem | hmem
    · obtain ⟨n, hn⟩ := recounts.deposited session seed hmem
      rcases g.given? with heq | ⟨session', n', seed', rfl, -, -⟩
      · exact ⟨n, heq.trans hn⟩
      · cases hn
    · cases List.mem_singleton.1 hmem
      cases g with
      | fill => exact ⟨_, rfl⟩
      | rest _ _ _ hdeposit => exact absurd rfl (hdeposit _ _ _)
  · rcases List.mem_append.1 hmem with hmem | hmem
    · refine recounts.silent ?_ session hmem
      cases g <;> first | rfl | exact hsilent
    · cases List.mem_singleton.1 hmem
      cases g with
      | announce => cases hsilent
      | rest _ _ _ _ hannounce => exact hannounce _ rfl
  · cases g with
    | confirm _ _ _ m hm => exact ⟨m, List.mem_append_right _ List.mem_cons_self, hm⟩
    | rest =>
      obtain ⟨m, hmem, hm⟩ := recounts.confirmed session n seed hconfirmed
      exact ⟨m, List.mem_append_left _ hmem, hm⟩
    | _ => cases hconfirmed

/-- How a request can stand that is stopped or fails. -/
def Lapses (p : SeedPhase) : Prop := p = idle ∨ ∃ session n seed, p = filled session n seed

/-- How one can stand that goes on to an approval. -/
def Delivers (p : SeedPhase) : Prop := p = idle ∨ ∃ session n seed, p = announced session n seed

theorem Lapses.not_holding {p : SeedPhase} (h : p.Lapses) (session : String) (n : Nat) : p ≠ holding session n := by
  rcases h with rfl | ⟨_, _, _, rfl⟩ <;> nofun

theorem Lapses.isSilent {p : SeedPhase} (h : p.Lapses) : p.isSilent = true := by
  rcases h with rfl | ⟨_, _, _, rfl⟩ <;> rfl

theorem Lapses.after_stopped {p : SeedPhase} (h : p.Lapses) : dealer.allows p .stopped ∧ (p.after .stopped).Lapses := by
  refine ⟨h.not_holding, ?_⟩
  rcases h with rfl | ⟨session, n, seed, rfl⟩
  · exact .inl rfl
  · exact .inr ⟨session, n, seed, rfl⟩

/-- What has nothing to do with seeds, ids and answers. -/
abbrev otherTopics : List Topic :=
  [.clock, .key, .binding, .turn, .chain, .reservation, .release, .session, .freshness, .ceremony, .cancellation,
   .state, .surface, .holdings, .preferences, .breakdown]

theorem dealer_overlooks : dealer.OverlooksTopics otherTopics := by
  refine .of_events rfl fun e he p => ?_
  cases e with
  | accessed a x => cases a <;> first | exact absurd he Bool.false_ne_true | exact ⟨trivial, after_eq_self rfl p⟩
  | called c => cases c <;> first | exact absurd he Bool.false_ne_true | exact ⟨trivial, after_eq_self rfl p⟩
  | answered c x => cases c <;> first | exact absurd he Bool.false_ne_true | exact ⟨trivial, after_eq_self rfl p⟩
  | waited w x => cases w <;> first | exact absurd he Bool.false_ne_true | exact ⟨trivial, after_eq_self rfl p⟩
  | stopped => exact absurd he Bool.false_ne_true

/-! ## The contract of a request -/

/-- A step goes on as `P` says; wherever it stops or fails, no box is held. -/
abbrev Brings {ε : Type} (p : ExceptT ε Program α) (P : α → SeedPhase → Prop) (s : SeedPhase) : Prop :=
  dealer.Brings Lapses p P s

theorem after_topics {ε β : Type} {topics : List Topic} {F : ε → Prop} {p : ExceptT ε Program α}
    {f : α → ExceptT ε Program β} {Q : β → SeedPhase → Prop} (hp : p.run.KeepsTo topics (Ends anyResult F))
    (ht : topics ⊆ otherTopics) (hf : ∀ a, Brings (f a) Q idle) : Brings (p >>= f) Q idle :=
  Observer.Brings.after_topics (dealer_overlooks.mono ht) hp (.inl rfl) hf

theorem attach_brings (timeout : Duration) (session : String) :
    Brings (Handover.attach timeout session) (fun _ p => ∃ n, p = holding session n) idle := by
  have hidle : Lapses idle := .inl rfl
  intro own
  have hlane : dealer.Meets (fun _ => Lapses) (Handover.attachInLane timeout session)
      (Ends (fun _ _ p => ∃ n, p = holding session n) fun _ _ p => p = idle) own idle := by
    refine meets_access fun there _ => ⟨trivial, ?_⟩
    cases there with
    | true => rfl
    | false =>
      refine meets_access fun n _ => ⟨trivial, meets_wait ⟨fun _ => hidle, fun r => ⟨rfl, ?_⟩⟩⟩
      cases r with
      | error e => exact meets_access fun _ _ => ⟨trivial, rfl⟩
      | ok =>
        refine meets_access fun _ _ => ⟨trivial, meets_wait ⟨fun _ => hidle, fun outcome => ⟨trivial, ?_⟩⟩⟩
        cases outcome with
        | received m => exact meets_access fun _ _ => ⟨rfl, n, rfl⟩
        | _ => exact meets_access fun _ _ => ⟨trivial, rfl⟩
  refine meets_wait ⟨fun _ => hidle, fun _ => ⟨trivial, meets_bind (hlane.imp fun r own p hr => ?_)⟩⟩
  cases r with
  | error e =>
    cases hr
    exact meets_access fun _ _ => ⟨trivial, hidle⟩
  | ok =>
    obtain ⟨n, rfl⟩ := hr
    exact meets_access fun _ _ => ⟨trivial, n, rfl⟩

theorem deposit_brings (session : String) (n : Nat) (seed : SeedMaterial) :
    Brings (Handover.deposit session seed) (fun _ => Delivers) (holding session n) := by
  refine fun own => meets_access fun r _ => ⟨⟨n, rfl⟩, ?_⟩
  cases r with
  | error e => exact .inl rfl
  | ok =>
    have hfilled : Lapses (filled session n seed) := .inr ⟨session, n, seed, rfl⟩
    refine ⟨fun _ => hfilled, fun r => ⟨⟨n, seed, rfl⟩, ?_⟩⟩
    cases r with
    | error e => exact hfilled
    | ok => exact .inr ⟨session, n, seed, rfl⟩

variable {setup : Setup}

theorem deliverSeed_brings (id : String) (prf : PrfOutputs) :
    Brings (Stage.deliverSeed setup id prf) (fun _ => Delivers) idle := by
  unfold Stage.deliverSeed
  split
  · exact Observer.Brings.done (.inl rfl)
  · refine fun own => meets_liftAccess fun _ _ => ⟨trivial, ?_⟩
    refine Observer.Brings.bind (P := fun _ => Delivers) (Observer.Brings.orStop ?_) (fun _ p hp own => ?_) _
    · refine (attach_brings _ id).bind fun _ p hp => ?_
      obtain ⟨n, rfl⟩ := hp
      exact deposit_brings id n _
    · have hkept : dealer.after p (.accessed .settleChannel ()) = p := after_eq_self rfl p
      exact meets_access fun _ _ => ⟨trivial, hkept.symm ▸ hp⟩

theorem deliverSeed_then {β : Type} {id : String} {prf : PrfOutputs} {f : Unit → Stage β} {Q : β → SeedPhase → Prop}
    (hf : ∀ p, p.Delivers → Brings (f ()) Q p) : Brings (Stage.deliverSeed setup id prf >>= f) Q idle :=
  (deliverSeed_brings id prf).bind fun _ p hp => hf p hp

/-- An approval, with no seed half way. -/
def Approves (r : Response) (p : SeedPhase) : Prop := r.confirmed = true ∧ p.Delivers

theorem Delivers.not_holding {p : SeedPhase} (h : p.Delivers) (session : String) (n : Nat) : p ≠ holding session n := by
  rcases h with rfl | ⟨_, _, _, rfl⟩ <;> nofun

/-- One that breaks down holds no box either. -/
theorem grantSession_brings (id session account : String) {p : SeedPhase} (hp : p.Delivers) :
    Brings (Stage.grantSession id session account) (fun _ => Delivers) p := by
  have hkept (x : Option WarmSessionGrant) : dealer.after p (.accessed (.grant session account) x) = p :=
    after_eq_self rfl p
  refine fun own => meets_liftAccess fun x _ => ⟨trivial, ?_⟩
  rw [hkept]
  cases x with
  | some g => exact hp
  | none => exact meets_liftAccess fun _ _ => ⟨hp.not_holding, fun hnever => absurd rfl hnever, nofun⟩

theorem signWithCeremony_brings (id : String) (q : SignTransactionPayload) (count : Nat) :
    Brings (signWithCeremony setup id q count) Approves idle := by
  refine after_topics (keepsTo_turnContext _) (by decide) fun base => ?_
  refine after_topics (keepsTo_bootstrap _ _ _) (by decide) fun _ => ?_
  refine after_topics (keepsTo_bindFreshness _ _ _ _) (by decide) fun challenge => ?_
  refine after_topics (keepsTo_collectAssertion _ _ _ _) (by decide) fun collected => ?_
  refine after_topics (keepsTo_reserveNonces _ _) (by decide) fun nonces => deliverSeed_then fun p hp => ?_
  dsimp only
  split
  · exact Observer.Brings.done ⟨rfl, hp⟩
  · refine Observer.Brings.bind (P := fun _ => Delivers) (fun own => ?_) fun _ _ hp => Observer.Brings.done ⟨rfl, hp⟩
    exact (grantSession_brings id _ q.account hp own).mapExcept fun _ _ _ hp => hp

theorem signOnSession_brings (id : String) (q : SignTransactionPayload) (count : Nat) :
    Brings (signOnSession id q count) Approves idle := by
  refine after_topics (keepsTo_turnContext _) (by decide) fun base => ?_
  refine after_topics (keepsTo_consume _ _) (by decide) fun grant => ?_
  refine after_topics (keepsTo_dispense grant _) (by decide) fun _ => ?_
  refine after_topics (keepsTo_reserveNonces _ _) (by decide) fun nonces => ?_
  exact fun own => meets_liftAccess fun _ _ => ⟨trivial, rfl, .inl rfl⟩

theorem register_brings (id : String) (q : RegisterAccountPayload) :
    Brings (register setup id q) Approves idle := by
  refine after_topics keepsTo_latestBlock (by decide) fun block => ?_
  refine fun own => meets_liftAccess fun _ _ => ⟨trivial, (?_ : Brings _ Approves idle) _⟩
  refine after_topics (keepsTo_bootstrap _ _ _) (by decide) fun _ => ?_
  refine after_topics (keepsTo_bindFreshness _ _ _ _) (by decide) fun challenge => ?_
  refine after_topics (keepsTo_collectAttestation _ _ _ _) (by decide) fun collected => ?_
  exact deliverSeed_then fun p hp => Observer.Brings.done ⟨rfl, hp⟩

theorem decryptKey_brings (id : String) (q : DecryptPrivateKeyPayload) :
    Brings (decryptKey setup id q) Approves idle := by
  refine after_topics (keepsTo_collectAssertion _ _ _ _) (by decide) fun collected => ?_
  dsimp only
  split
  · exact Observer.Brings.done ⟨rfl, .inl rfl⟩
  · exact deliverSeed_then fun p hp => Observer.Brings.done ⟨rfl, hp⟩

theorem signMessage_brings (id : String) (q : SignMessagePayload) :
    Brings (signMessage setup id q) Approves idle := by
  refine after_topics keepsTo_latestBlock (by decide) fun block => ?_
  refine after_topics (keepsTo_bootstrap _ _ _) (by decide) fun _ => ?_
  refine after_topics (keepsTo_bindFreshness _ _ _ _) (by decide) fun challenge => ?_
  refine after_topics (keepsTo_collectAssertion _ _ _ _) (by decide) fun collected => ?_
  exact deliverSeed_then fun p hp => Observer.Brings.done ⟨rfl, hp⟩

theorem linkDevice_brings (id : String) (q : LinkDevicePayload) (count : Nat) :
    Brings (linkDevice setup id q count) Approves idle := by
  refine after_topics (keepsTo_turnContext _) (by decide) fun base => ?_
  refine after_topics (keepsTo_bootstrap _ _ _) (by decide) fun _ => ?_
  refine after_topics (keepsTo_bindFreshness _ _ _ _) (by decide) fun challenge => ?_
  refine after_topics (keepsTo_collectAssertion _ _ _ _) (by decide) fun collected => ?_
  refine after_topics (keepsTo_reserveNonces _ _) (by decide) fun nonces => ?_
  exact deliverSeed_then fun p hp => Observer.Brings.done ⟨rfl, hp⟩

theorem showKey_brings (id : String) (q : ShowPrivateKeyPayload) : Brings (showKey setup id q) Approves idle := by
  refine after_topics (keepsTo_collectAssertion _ _ _ _) (by decide) fun collected => ?_
  exact deliverSeed_then fun p hp => Observer.Brings.done ⟨rfl, hp⟩

theorem perform_brings (r : Request) : Brings (perform setup r) Approves idle := by
  unfold perform
  split
  · split
    · exact signWithCeremony_brings _ _ _
    · exact signOnSession_brings _ _ _
  · exact register_brings _ _
  · exact decryptKey_brings _ _
  · exact signMessage_brings _ _
  · exact linkDevice_brings _ _ _
  · exact showKey_brings _ _

theorem run_brings (r : Request) (policy : ConfirmationPolicy) : Brings (run setup r policy) Approves idle := by
  unfold run
  split
  · exact after_topics (keepsTo_awaitUser _ _) (by decide) fun _ => perform_brings r
  · exact perform_brings r

/-- How a request stands with its seed when it is over: without a seed, with one that it has not announced, or with one
that it has announced and confirmed. -/
def Over (p : SeedPhase) : Prop := p.Lapses ∨ ∃ session n seed, p = confirmed session n seed

/-- The rollback detaches what is attached and touches no seed. -/
theorem rollBack_meets (held own : Holdings) (p : SeedPhase) :
    dealer.Meets anywhere (rollBack setup held) (fun _ _ p' => p' = p) own p := by
  have hback : (rollBack setup held).Only dealer.Overlooks anyResult := by
    refine only_rollBack (fun _ => ?_) (fun _ _ => ?_) (fun _ => ?_) (fun _ => ?_) (fun _ => ?_) setup held
    case refine_2 | refine_5 =>
      exact fun p => ⟨⟨trivial, after_eq_self rfl p⟩, fun x => ⟨trivial, after_eq_self rfl p⟩⟩
    all_goals exact fun x p => ⟨trivial, after_eq_self rfl p⟩
  exact meets_of_overlooked hback (fun _ => trivial) fun _ _ _ => rfl

theorem post_meets {r : Response} {p : SeedPhase} (hp : p.Lapses ∨ Approves r p) (own : Holdings) :
    dealer.Meets anywhere (post r) (fun _ _ => Over) own p := by
  have hover : Over (dealer.after p (.called (.post r.message))) := by
    rcases hp with (rfl | ⟨session, n, seed, rfl⟩) | ⟨hconfirmed, rfl | ⟨session, n, seed, rfl⟩⟩
    · exact .inl (.inl rfl)
    · exact .inl (.inr ⟨session, n, seed, rfl⟩)
    · exact .inl (.inl rfl)
    · have hmessage : r.message.get? "confirmed" = some (.bool true) := hconfirmed ▸ Response.message_confirmed r
      exact .inr ⟨session, n, seed, if_pos hmessage⟩
  refine meets_call ⟨trivial, trivial, trivial, fun x => ⟨trivial, ?_⟩⟩
  have hkept (p : SeedPhase) : dealer.after p (.answered (.post r.message) x) = p := after_eq_self rfl p
  rw [← hkept (dealer.after p (.called (.post r.message)))] at hover
  cases x <;> exact hover

theorem handleRequest_meets (r : Request) :
    dealer.Meets anywhere (handleRequest setup r) (fun _ _ => Over) {} idle := by
  have hover {p : SeedPhase} (h : p.Over) : dealer.allows p (.accessed (.unregister r.id) ()) ∧
      Over (dealer.after p (.accessed (.unregister r.id) ())) := by
    have hkept : dealer.after p (.accessed (.unregister r.id) ()) = p := by cases p <;> rfl
    rw [hkept]
    refine ⟨?_, h⟩
    rcases h with h | ⟨_, _, _, rfl⟩
    · exact h.not_holding
    · exact nofun
  have hrun (policy : ConfirmationPolicy) : dealer.Meets (fun _ => Lapses) (Confirmation.run setup r policy).run
      (Ends (fun a _ => Approves a) fun _ _ => Lapses) {} idle := run_brings r policy {}
  refine meets_handleRequest (fun state _ => dealer_overlooks _ rfl) (dealer_overlooks _ rfl) (dealer_overlooks _ rfl)
    (fun _ => trivial) (.inl (.inl rfl)) hrun (fun _ _ h => h.after_stopped) (.inl rfl) fun outcome own p h => ?_
  refine meets_conclude_of_rollBack (dealer_overlooks.mono (by decide)) (rollBack_meets own own p)
    (fun q hq own => ?_) (fun code message hq own => ?_) fun e hq own => ?_ <;> subst hq
  · exact (post_meets (.inr h) own).imp fun _ _ _ => hover
  · exact (post_meets (.inl h) own).imp fun _ _ _ => hover
  · exact hover (.inl h)

theorem handle_meets (setup : Setup) (raw : Json) :
    dealer.Meets anywhere (handle setup raw) (fun _ _ => Over) {} idle := by
  unfold handle
  split
  · exact post_meets (.inl (.inl rfl)) {}
  · exact handleRequest_meets _

end SeedPhase

open SeedPhase (dealer)

theorem Program.IsOrdinary.deals {p : Program (Except Error Unit)} (h : p.IsOrdinary) :
    dealer.Meets anywhere p (fun _ _ => SeedPhase.Over) {} .idle := by
  rcases h with ⟨setup, raw, rfl⟩ | h
  · exact SeedPhase.handle_meets setup raw
  · exact meets_of_overlooked_topics (SeedPhase.dealer_overlooks.mono (by decide)) h (fun _ => trivial)
      fun _ _ _ => .inl (.inl rfl)

theorem Run.starts_dealing {ss : List (Step (Except Error Unit))} (hordinary : ∀ st ∈ ss, st.move.IsOrdinary) :
    Run.Starts dealer (fun _ _ => SeedPhase.Over) .idle ss := by
  intro st hst p hp
  have hmove := hordinary st hst
  rw [hp] at hmove
  exact hmove.deals

end PasskeyConsent

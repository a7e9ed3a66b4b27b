import PasskeyConsent.Confirmation.Handle
import PasskeyConsent.Proofs.Concurrency.Contract
/-!
# What the steps of a confirmation are about

Every effect has a topic, the part of the wallet that it concerns.  Each step of a confirmation keeps to a few of them
and says how it can end a request; an observer of other topics passes over it (`Observer.meets_of_topics`).  What is
common to all observers is proved once: how a turn's context is come by (`Observer.meets_context`), how a request is
concluded (`Observer.meets_conclude_of_parts`) and how it is handled as a whole (`Observer.meets_handleRequest`).
-/
namespace PasskeyConsent

variable {α β ε σ : Type}

inductive Topic where
  | clock
  | key
  | binding
  | turn
  | chain
  | reservation
  | release
  | session
  | freshness
  | ceremony
  | handover
  | registry
  | cancellation
  | state
  | surface
  | holdings
  | preferences
  | answer
  | breakdown
  | watched
deriving DecidableEq, Repr

def Access.topic : Access → Topic
  | .now => .clock
  | .boundKey => .key
  | .bindKey _ | .unbindKey => .binding
  | .absorb _ | .youngTurn | .keepTurn _ | .dropTurn | .leaveTurn => .turn
  | .reserve _ => .reservation
  | .release _ | .releaseText _ | .releaseAll | .markBroadcast _ => .release
  | .grant .. | .consume .. | .restore _ | .revoke _ | .purge | .settleUse => .session
  | .bootstrap _ | .keepBootstrap .. | .forgetBootstrap _ => .freshness
  | .leaveWorker _ | .isAttached _ | .openBox _ | .abandonBox _ | .attach .. | .detach _ | .deposit .. | .holdChannel _
  | .settleChannel => .handover
  | .register _ | .unregister _ => .registry
  | .cancel _ | .isCancelled _ => .cancellation
  | .enter .. => .state
  | .holdSurface _ => .surface
  | .holdings => .holdings

def Call.topic : Call → Topic
  | .latestBlock => .chain
  | .accessKey _ => .turn
  | .evaluate _ | .evaluateWithNewKeypair _ => .freshness
  | .authenticators _ | .currentPasskey .. | .assertion _ | .attestation _ => .ceremony
  | .preferences => .preferences
  | .mount .. | .decision .. | .unmount _ => .surface
  | .dispense .. | .reclaim .. => .session
  | .post _ => .answer

def Wait.topic : Wait → Topic
  | .turn => .turn
  | .worker _ | .send _ | .ack .. => .handover
  | .until _ => .clock
  | .never => .breakdown

/-- What an effect is about. -/
def Effect.topic : Effect → Topic
  | .access a => a.topic
  | .suspend (.call c) => c.topic
  | .suspend (.wait w) => w.topic
  | .watched .. => .watched

/-- What an event is about. -/
def Event.topic : Event → Topic
  | accessed a _ => a.topic
  | called c | answered c _ => c.topic
  | waited w _ => w.topic
  | stopped => .watched

namespace Program

/-- A program whose effects are about some topics and whose results are as `R` says. -/
abbrev KeepsTo (topics : List Topic) (R : α → Prop) (p : Program α) : Prop :=
  p.Only (fun e => topics.contains e.topic = true) R

theorem KeepsTo.mono {topics topics' : List Topic} {R R' : α → Prop} {p : Program α} (h : p.KeepsTo topics R)
    (ht : topics ⊆ topics') (hR : ∀ a, R a → R' a) : p.KeepsTo topics' R' :=
  Only.mono h (fun _ he => List.contains_iff_mem.2 (ht (List.contains_iff_mem.1 he))) hR

/-- Any result. -/
def anyResult : α → Prop := fun _ => True

theorem only_orStop {E : Effect → Prop} {P : α → Prop} {F : ε → Prop} {G : Stop → Prop}
    {p : ExceptT ε Program α} {stop : ε → Stop} (h : p.run.Only E (Ends P F)) (he : ∀ e, F e → G (stop e)) :
    (Stage.orStop p stop).run.Only E (Ends P G) := by
  refine Only.bind h fun r hr => ?_
  cases r with
  | ok a => exact hr
  | error e => exact he e hr

theorem only_map {E : Effect → Prop} {P : α → Prop} {F : ε → Prop} {p : ExceptT ε Program α} (f : α → β)
    (h : p.run.Only E (Ends P F)) : (f <$> p).run.Only E (Ends anyResult F) := by
  refine Only.bind h fun r hr => ?_
  cases r with
  | ok a => exact trivial
  | error e => exact hr

end Program

namespace Observer

variable {o : Observer σ} {stop : Holdings → σ → Prop}

theorem meets_orStop {P : α → Holdings → σ → Prop} {F : Stop → Holdings → σ → Prop} {p : ExceptT ε Program α}
    {f : ε → Stop} {own : Holdings} {s : σ} (h : o.Meets stop p.run (Ends P fun e => F (f e)) own s) :
    o.Meets stop (Stage.orStop p f).run (Ends P F) own s := by
  refine meets_bind (Meets.imp h fun r own s hr => ?_)
  cases r with
  | ok a => exact hr
  | error e => exact hr

/-- The observer ignores every effect about some topics. -/
def IgnoresTopics (o : Observer σ) (topics : List Topic) : Prop :=
  ∀ e : Effect, topics.contains e.topic = true → o.Ignores e

/-- **What is about topics that an observer ignores can be passed over.** -/
theorem meets_of_topics {topics : List Topic} {R : α → Prop} {p : Program α} (ignored : o.IgnoresTopics topics)
    (h : p.KeepsTo topics R) {post : α → Holdings → σ → Prop} {own : Holdings} {s : σ} (hstop : stop own s)
    (hpost : ∀ a, R a → post a own s) : o.Meets stop p post own s :=
  meets_of_only (Program.Only.mono h ignored fun _ => id) hstop hpost

/-- The observer overlooks every effect about some topics. -/
def OverlooksTopics (o : Observer σ) (topics : List Topic) : Prop :=
  ∀ e : Effect, topics.contains e.topic = true → o.Overlooks e

/-- An observer overlooks the topics whose events it allows and does not note down. -/
theorem OverlooksTopics.of_events {topics : List Topic} (hwatched : topics.contains .watched = false)
    (h : ∀ e : Event, topics.contains e.topic = true → ∀ s, o.allows s e ∧ o.after s e = s) : o.OverlooksTopics topics := by
  intro e he
  cases e with
  | access a => exact fun x => h (.accessed a x) he
  | suspend u =>
    cases u with
    | call c => exact fun s => ⟨h (.called c) he s, fun x => h (.answered c x) he s⟩
    | wait w => exact fun x => h (.waited w x) he
  | watched id u => exact absurd (hwatched.symm.trans he) Bool.false_ne_true

theorem OverlooksTopics.mono {topics topics' : List Topic} (h : o.OverlooksTopics topics) (ht : topics' ⊆ topics) :
    o.OverlooksTopics topics' := fun e he => h e (List.contains_iff_mem.2 (ht (List.contains_iff_mem.1 he)))

theorem meets_of_overlooked_topics {topics : List Topic} {R : α → Prop} {p : Program α}
    (overlooked : o.OverlooksTopics topics) (h : p.KeepsTo topics R) {post : α → Holdings → σ → Prop} {own : Holdings}
    {s : σ} (hstop : ∀ own, stop own s) (hpost : ∀ a own, R a → post a own s) : o.Meets stop p post own s :=
  meets_of_overlooked (Program.Only.mono h overlooked fun _ hr => hr) hstop hpost

/-- **A step goes on as `P` says**; wherever it stops or fails, `stop` holds. -/
abbrev Brings (o : Observer σ) (stop : σ → Prop) (p : ExceptT ε Program α) (P : α → σ → Prop) (s : σ) : Prop :=
  ∀ own, o.Meets (fun _ => stop) p.run (Ends (fun a _ s' => P a s') fun _ _ s' => stop s') own s

section

variable {halt : σ → Prop} {p : ExceptT ε Program α} {P : α → σ → Prop} {s : σ}

theorem Brings.bind {f : α → ExceptT ε Program β} {Q : β → σ → Prop} (h : o.Brings halt p P s)
    (hf : ∀ a s, P a s → o.Brings halt (f a) Q s) : o.Brings halt (p >>= f) Q s :=
  fun own => (h own).thenExcept fun a own s ha => hf a s ha own

theorem Brings.done {a : α} (h : P a s) : o.Brings halt (pure a : ExceptT ε Program α) P s := fun _ => h

theorem Brings.orStop {f : ε → Stop} (h : o.Brings halt p P s) : o.Brings halt (Stage.orStop p f) P s :=
  fun own => meets_orStop (h own)

theorem brings_of_topics {topics : List Topic} {F : ε → Prop} (overlooked : o.OverlooksTopics topics)
    (h : p.run.KeepsTo topics (Ends Program.anyResult F)) (hs : halt s) : o.Brings halt p (fun _ s' => s' = s) s :=
  fun _ => meets_of_overlooked_topics overlooked h (fun _ => hs) fun r _ _ => by
    cases r with
    | ok a => rfl
    | error e => exact hs

/-- A step about other things leaves everything as it was. -/
theorem Brings.after_topics {topics : List Topic} {F : ε → Prop} {f : α → ExceptT ε Program β} {Q : β → σ → Prop}
    (overlooked : o.OverlooksTopics topics) (h : p.run.KeepsTo topics (Ends Program.anyResult F)) (hs : halt s)
    (hf : ∀ a, o.Brings halt (f a) Q s) : o.Brings halt (p >>= f) Q s :=
  (brings_of_topics overlooked h hs).bind fun a s' hs' => by
    subst hs'
    exact hf a

end

/-- **The context of a turn**, by what is fetched: whoever is in the turn leaves it with the context that is kept, or with
what has come of a fetch. -/
theorem meets_context {force : Bool} (mid : Except ChainError BaseContext → Holdings → σ → Prop)
    {post : Except ChainError BaseContext → Holdings → σ → Prop} {own : Holdings} {s : σ} (hstop : stop own s) (hturn : o.allows s (.waited .turn ()))
    (hyoung : ∀ kept, o.allows (o.after s (.waited .turn ())) (.accessed .youngTurn kept))
    (hreuse : ∀ c, force = false → mid (.ok c) own (o.after (o.after s (.waited .turn ())) (.accessed .youngTurn (some c))))
    (hfetch : ∀ kept, (kept.isSome = true → force = true) →
      o.Meets stop Turn.fetch.run mid own (o.after (o.after s (.waited .turn ())) (.accessed .youngTurn kept)))
    (hleave : ∀ r own s, mid r own s →
      o.allows s (.accessed .leaveTurn ()) ∧ post r own (o.after s (.accessed .leaveTurn ()))) :
    o.Meets stop (Turn.context force).run post own s := by
  have hend (r : Except ChainError BaseContext) (own : Holdings) (s : σ) (hr : mid r own s) :
      o.Meets stop (do Program.access .leaveTurn; return r) post own s := meets_access fun _ _ => hleave r own s hr
  refine meets_wait ⟨fun _ => hstop, fun _ => ⟨hturn, meets_access fun kept _ => ⟨hyoung kept, ?_⟩⟩⟩
  have hanew (hforce : kept.isSome = true → force = true) :
      o.Meets stop (Turn.fetch.run >>= fun r => do Program.access .leaveTurn; return r) post own
        (o.after (o.after s (.waited .turn ())) (.accessed .youngTurn kept)) :=
    meets_bind ((hfetch kept hforce).imp hend)
  cases kept with
  | none => exact hanew nofun
  | some c =>
    cases force with
    | true => exact hanew fun _ => rfl
    | false => exact hend _ _ _ (hreuse c rfl)

end Observer

/-! ## The steps -/

/-- A stop that is answered. -/
def Stop.IsDecline : Stop → Prop
  | .declined .. => True
  | .fatal _ => False

namespace Program

theorem keepsTo_call {topics : List Topic} {c : Call} {R : c.Answer → Prop} (h : topics.contains c.topic = true)
    (hR : ∀ x, R x) : (call c).KeepsTo topics R := ⟨h, hR⟩

theorem anyEnd (r : Except ε α) : Ends anyResult anyResult r := by cases r <;> exact trivial

theorem keepsTo_fetch : Turn.fetch.run.KeepsTo [.key, .turn, .chain] (Ends anyResult anyResult) := by
  refine Only.liftAccess rfl fun k => ?_
  cases k with
  | none => exact trivial
  | some k =>
    refine Only.bindExcept (p := attempt (call (.accessKey k))) (keepsTo_call rfl anyEnd) fun key _ => ?_
    refine Only.bindExcept (p := attempt (call .latestBlock)) (keepsTo_call rfl anyEnd) fun block _ => ?_
    exact Only.liftAccess rfl fun _ => Only.liftAccess rfl fun _ => trivial

theorem keepsTo_context (force : Bool) :
    (Turn.context force).run.KeepsTo [.key, .turn, .chain] (Ends anyResult anyResult) := by
  have leave (r : Except ChainError BaseContext) :
      (access .leaveTurn >>= fun _ => pure r).KeepsTo [.key, .turn, .chain] (Ends anyResult anyResult) :=
    Only.access rfl fun _ => anyEnd r
  refine Only.wait rfl fun _ => Only.access rfl fun kept => ?_
  cases kept with
  | none => exact Only.bind keepsTo_fetch fun r _ => leave r
  | some c =>
    cases force with
    | false => exact leave (.ok c)
    | true => exact Only.bind keepsTo_fetch fun r _ => leave r

theorem keepsTo_turnContext (account : String) :
    (Stage.turnContext account).run.KeepsTo [.key, .turn, .chain] (Ends anyResult Stop.IsDecline) := by
  refine Only.liftAccess rfl fun k => ?_
  split
  · exact trivial
  · exact only_orStop (keepsTo_context false) fun _ _ => trivial

theorem keepsTo_latestBlock : Stage.latestBlock.run.KeepsTo [.chain] (Ends anyResult Stop.IsDecline) :=
  only_orStop (p := attempt (call .latestBlock)) (keepsTo_call rfl anyEnd) fun _ _ => trivial

theorem keepsTo_mint (input : FreshnessInput) (path : Freshness.Path) :
    (Freshness.mint input path).run.KeepsTo [.freshness] (Ends anyResult anyResult) := by
  refine Only.bindExcept (p := attempt (Freshness.evaluation path input.derive)) (P := anyResult) ?_ fun _ _ => trivial
  cases path with
  | session => exact keepsTo_call rfl anyEnd
  | newKeypair => exact keepsTo_call rfl anyEnd

theorem keepsTo_freshnessBootstrap (key : String) (input : FreshnessInput) (path : Freshness.Path) :
    (Freshness.bootstrap key input path).run.KeepsTo [.freshness] (Ends anyResult anyResult) :=
  Only.bindExcept (keepsTo_mint input path) fun _ _ => Only.liftAccess rfl fun _ => trivial

theorem keepsTo_freshnessBind (key : String) (input : FreshnessInput) (path : Freshness.Path) :
    (Freshness.bind key input path).run.KeepsTo [.freshness] (Ends anyResult anyResult) := by
  refine Only.access rfl fun kept => ?_
  cases kept with
  | none => exact keepsTo_freshnessBootstrap key input path
  | some kept =>
    refine Only.bind (keepsTo_mint input .session) fun c _ => ?_
    cases c with
    | error e => exact trivial
    | ok c => exact trivial

theorem keepsTo_bootstrap (key : String) (input : FreshnessInput) (path : Freshness.Path) :
    (Stage.bootstrap key input path).run.KeepsTo [.freshness] (Ends anyResult Stop.IsDecline) := by
  refine Only.liftAccess rfl fun kept => ?_
  cases kept with
  | some kept => exact trivial
  | none =>
    exact Only.bindExcept (P := anyResult) (only_orStop (keepsTo_freshnessBootstrap key input path) fun _ _ => trivial)
      fun _ _ => trivial

theorem keepsTo_bindFreshness (id key : String) (input : FreshnessInput) (path : Freshness.Path) :
    (Stage.bindFreshness id key input path).run.KeepsTo [.chain, .freshness, .state]
      (Ends anyResult Stop.IsDecline) := by
  have bind (input : FreshnessInput) :
      (Stage.orStop (Freshness.bind key input path) Stage.challengeUnavailable).run.KeepsTo [.chain, .freshness, .state]
        (Ends anyResult Stop.IsDecline) :=
    only_orStop (KeepsTo.mono (keepsTo_freshnessBind key input path) (by simp) fun _ hr => hr) fun _ _ => trivial
  refine Only.liftAccess rfl fun _ => Only.liftCall rfl fun block => ?_
  cases block with
  | error e => exact bind input
  | ok block => exact bind { input with blockHeight := block.height, blockHash := block.hash }

theorem keepsTo_check {topics : List Topic} (r : Except ε α) :
    (check r).run.KeepsTo topics (Ends anyResult anyResult) := anyEnd r

theorem keepsTo_ceremony_assertion (rpId account : String) (allowed : Option (List String)) (challenge : Bytes) :
    (Credential.collectAssertion rpId account allowed challenge).run.KeepsTo [.ceremony]
      (Ends anyResult anyResult) := by
  refine Only.bindExcept (p := attempt (call (.authenticators account))) (keepsTo_call rfl anyEnd) fun known _ => ?_
  refine Only.bindExcept (p := attempt (call (.currentPasskey account known))) (keepsTo_call rfl anyEnd) fun _ _ => ?_
  split
  · exact trivial
  · dsimp only
    split
    · exact trivial
    · exact Only.bindExcept (p := attempt (call (.assertion _))) (keepsTo_call rfl anyEnd) fun raw _ =>
        Only.bindExcept (keepsTo_check raw.collect) fun _ _ => trivial

theorem keepsTo_ceremony_attestation (rpId account : String) (challenge : Bytes) :
    (Credential.collectAttestation rpId account challenge).run.KeepsTo [.ceremony] (Ends anyResult anyResult) := by
  refine Only.bindExcept (p := attempt (call (.authenticators account))) (keepsTo_call rfl anyEnd) fun known _ => ?_
  exact Only.bindExcept (p := attempt (call (.attestation _))) (keepsTo_call rfl anyEnd) fun raw _ =>
    keepsTo_check raw.collect

theorem keepsTo_collectAssertion (setup : Setup) (id account : String) (challenge : Bytes) :
    (Stage.collectAssertion setup id account challenge).run.KeepsTo [.ceremony, .state] (Ends anyResult anyResult) := by
  refine Only.liftAccess rfl fun _ =>
    Only.bindExcept (P := anyResult) (only_orStop (F := anyResult) ?_ fun _ _ => trivial) fun c _ => ?_
  · exact KeepsTo.mono (keepsTo_ceremony_assertion ..) (by simp) fun _ hr => hr
  · cases c with
    | collected c => exact trivial
    | wrongPasskey message => exact trivial

theorem keepsTo_collectAttestation (setup : Setup) (id account : String) (challenge : Bytes) :
    (Stage.collectAttestation setup id account challenge).run.KeepsTo [.ceremony, .state] (Ends anyResult anyResult) :=
  Only.liftAccess rfl fun _ => only_orStop
    (KeepsTo.mono (keepsTo_ceremony_attestation _ _ _) (by simp) fun _ hr => hr) fun _ _ => trivial

theorem keepsTo_reserveNonces (id : String) (count : Nat) :
    (Stage.reserveNonces id count).run.KeepsTo [.reservation, .state] (Ends anyResult Stop.IsDecline) :=
  Only.liftAccess rfl fun _ => Only.bindExcept (P := anyResult)
    (only_orStop (p := attempt (access (.reserve count))) ⟨rfl, anyEnd⟩ fun _ _ => trivial) fun _ _ => trivial

theorem keepsTo_attach (timeout : Duration) (session : String) :
    (Handover.attach timeout session).run.KeepsTo [.handover, .clock] (Ends anyResult anyResult) := by
  refine Only.wait rfl fun _ => Only.bind (R := Ends anyResult anyResult) (Only.access rfl fun there => ?_) fun r _ =>
    Only.access rfl fun _ => anyEnd r
  cases there with
  | true => exact trivial
  | false =>
    refine Only.access rfl fun box => Only.wait rfl fun sent => ?_
    cases sent with
    | error e => exact Only.access rfl fun _ => trivial
    | ok =>
      refine Only.access rfl fun start => Only.wait rfl fun outcome => ?_
      split
      · exact Only.access rfl fun _ => trivial
      · exact Only.access rfl fun _ => trivial

theorem keepsTo_deposit (session : String) (seed : SeedMaterial) :
    (Handover.deposit session seed).run.KeepsTo [.handover, .clock] (Ends anyResult anyResult) :=
  Only.bindExcept (p := attempt (access (.deposit session seed))) (P := anyResult) ⟨rfl, anyEnd⟩
    fun _ _ => ⟨rfl, anyEnd⟩

theorem keepsTo_deliverSeed (setup : Setup) (id : String) (prf : PrfOutputs) :
    (Stage.deliverSeed setup id prf).run.KeepsTo [.handover, .clock] (Ends anyResult Stop.IsDecline) := by
  unfold Stage.deliverSeed
  split
  · exact trivial
  · refine Only.liftAccess rfl fun _ => Only.bindExcept (P := anyResult)
      (only_orStop (F := anyResult) ?_ fun _ _ => trivial) fun _ _ => Only.access rfl fun _ => trivial
    exact Only.bindExcept (keepsTo_attach _ _) fun _ _ => keepsTo_deposit _ _

theorem keepsTo_grantSession (id session account : String) :
    (Stage.grantSession id session account).run.KeepsTo [.session, .registry, .breakdown]
      (Ends anyResult Stop.IsDecline) := by
  refine Only.liftAccess rfl fun x => ?_
  cases x with
  | some g => exact trivial
  | none => exact Only.liftAccess rfl fun _ => ⟨rfl, fun e => nomatch e⟩

theorem keepsTo_consume (session account : String) :
    (Stage.orStop (attempt (access (.consume session account))) Stage.sessionUnavailable).run.KeepsTo [.session]
      (Ends anyResult Stop.IsDecline) :=
  only_orStop (p := attempt (access (.consume session account))) ⟨rfl, anyEnd⟩ fun _ _ => trivial

theorem keepsTo_dispense (grant : WarmSessionGrant) (account : String) :
    (Stage.orStop (attempt (call (.dispense grant account))) Stage.sessionUnavailable).run.KeepsTo [.session]
      (Ends anyResult Stop.IsDecline) :=
  only_orStop (p := attempt (call (.dispense grant account))) (keepsTo_call rfl anyEnd) fun _ _ => trivial

theorem keepsTo_awaitUser (r : Request) (policy : ConfirmationPolicy) :
    (Confirmation.awaitUser r policy).run.KeepsTo [.state, .surface] (Ends anyResult Stop.IsDecline) := by
  refine Only.liftAccess rfl fun _ => Only.liftCall rfl fun surface => Only.liftAccess rfl fun _ => ?_
  refine Only.liftCall rfl fun decision => ?_
  split <;> exact trivial

/-! ## The flows -/

/-- What the operations are about. -/
abbrev flowTopics : List Topic :=
  [.clock, .key, .turn, .chain, .reservation, .session, .freshness, .ceremony, .handover, .registry, .state, .breakdown]

/-- A part of an operation. -/
abbrev Flows (p : ExceptT Stop Program α) : Prop := p.run.KeepsTo flowTopics (Ends anyResult anyResult)

theorem flows_of_topics {topics : List Topic} {F : Stop → Prop} {p : ExceptT Stop Program α}
    (h : p.run.KeepsTo topics (Ends anyResult F)) (ht : topics ⊆ flowTopics) : Flows p :=
  KeepsTo.mono h ht fun r _ => anyEnd r

theorem flows_signWithCeremony (setup : Setup) (id : String) (p : SignTransactionPayload) (count : Nat) :
    Flows (Confirmation.signWithCeremony setup id p count) := by
  refine Only.bindExcept (flows_of_topics (keepsTo_turnContext _) (by decide)) fun base _ => ?_
  refine Only.bindExcept (flows_of_topics (keepsTo_bootstrap _ _ _) (by decide)) fun _ _ => ?_
  refine Only.bindExcept (flows_of_topics (keepsTo_bindFreshness _ _ _ _) (by decide)) fun challenge _ => ?_
  refine Only.bindExcept (flows_of_topics (keepsTo_collectAssertion _ _ _ _) (by decide)) fun collected _ => ?_
  refine Only.bindExcept (flows_of_topics (keepsTo_reserveNonces _ _) (by decide)) fun nonces _ => ?_
  refine Only.bindExcept (flows_of_topics (keepsTo_deliverSeed _ _ _) (by decide)) fun _ _ => ?_
  dsimp only
  split
  · exact trivial
  · exact Only.bindExcept (flows_of_topics (only_map some (keepsTo_grantSession _ _ _)) (by decide)) fun _ _ => trivial

theorem flows_signOnSession (id : String) (p : SignTransactionPayload) (count : Nat) :
    Flows (Confirmation.signOnSession id p count) := by
  refine Only.bindExcept (flows_of_topics (keepsTo_turnContext _) (by decide)) fun base _ => ?_
  refine Only.bindExcept (flows_of_topics (keepsTo_consume _ _) (by decide)) fun grant _ => ?_
  refine Only.bindExcept (flows_of_topics (keepsTo_dispense grant _) (by decide)) fun _ _ => ?_
  refine Only.bindExcept (flows_of_topics (keepsTo_reserveNonces _ _) (by decide)) fun nonces _ => ?_
  exact Only.liftAccess rfl fun _ => trivial

theorem flows_register (setup : Setup) (id : String) (p : RegisterAccountPayload) :
    Flows (Confirmation.register setup id p) := by
  refine Only.bindExcept (flows_of_topics keepsTo_latestBlock (by decide)) fun block _ => ?_
  refine Only.liftAccess rfl fun _ => ?_
  refine Only.bindExcept (flows_of_topics (keepsTo_bootstrap _ _ _) (by decide)) fun _ _ => ?_
  refine Only.bindExcept (flows_of_topics (keepsTo_bindFreshness _ _ _ _) (by decide)) fun challenge _ => ?_
  refine Only.bindExcept (flows_of_topics (keepsTo_collectAttestation _ _ _ _) (by decide)) fun collected _ => ?_
  exact Only.bindExcept (flows_of_topics (keepsTo_deliverSeed _ _ _) (by decide)) fun _ _ => trivial

theorem flows_decryptKey (setup : Setup) (id : String) (p : DecryptPrivateKeyPayload) :
    Flows (Confirmation.decryptKey setup id p) := by
  refine Only.bindExcept (flows_of_topics (keepsTo_collectAssertion _ _ _ _) (by decide)) fun collected _ => ?_
  dsimp only
  split
  · exact trivial
  · exact Only.bindExcept (flows_of_topics (keepsTo_deliverSeed _ _ _) (by decide)) fun _ _ => trivial

theorem flows_signMessage (setup : Setup) (id : String) (p : SignMessagePayload) :
    Flows (Confirmation.signMessage setup id p) := by
  refine Only.bindExcept (flows_of_topics keepsTo_latestBlock (by decide)) fun block _ => ?_
  refine Only.bindExcept (flows_of_topics (keepsTo_bootstrap _ _ _) (by decide)) fun _ _ => ?_
  refine Only.bindExcept (flows_of_topics (keepsTo_bindFreshness _ _ _ _) (by decide)) fun challenge _ => ?_
  refine Only.bindExcept (flows_of_topics (keepsTo_collectAssertion _ _ _ _) (by decide)) fun collected _ => ?_
  exact Only.bindExcept (flows_of_topics (keepsTo_deliverSeed _ _ _) (by decide)) fun _ _ => trivial

theorem flows_linkDevice (setup : Setup) (id : String) (p : LinkDevicePayload) (count : Nat) :
    Flows (Confirmation.linkDevice setup id p count) := by
  refine Only.bindExcept (flows_of_topics (keepsTo_turnContext _) (by decide)) fun base _ => ?_
  refine Only.bindExcept (flows_of_topics (keepsTo_bootstrap _ _ _) (by decide)) fun _ _ => ?_
  refine Only.bindExcept (flows_of_topics (keepsTo_bindFreshness _ _ _ _) (by decide)) fun challenge _ => ?_
  refine Only.bindExcept (flows_of_topics (keepsTo_collectAssertion _ _ _ _) (by decide)) fun collected _ => ?_
  refine Only.bindExcept (flows_of_topics (keepsTo_reserveNonces _ _) (by decide)) fun nonces _ => ?_
  exact Only.bindExcept (flows_of_topics (keepsTo_deliverSeed _ _ _) (by decide)) fun _ _ => trivial

theorem flows_showKey (setup : Setup) (id : String) (p : ShowPrivateKeyPayload) :
    Flows (Confirmation.showKey setup id p) := by
  refine Only.bindExcept (flows_of_topics (keepsTo_collectAssertion _ _ _ _) (by decide)) fun collected _ => ?_
  exact Only.bindExcept (flows_of_topics (keepsTo_deliverSeed _ _ _) (by decide)) fun _ _ => trivial

/-- **No operation shows a surface, reads preferences or posts.** -/
theorem flows_perform (setup : Setup) (r : Request) : Flows (Confirmation.perform setup r) := by
  unfold Confirmation.perform
  split
  · split
    · exact flows_signWithCeremony _ _ _ _
    · exact flows_signOnSession _ _ _
  · exact flows_register _ _ _
  · exact flows_decryptKey _ _ _
  · exact flows_signMessage _ _ _
  · exact flows_linkDevice _ _ _ _
  · exact flows_showKey _ _ _

/-! ## The conclusion -/

theorem only_releaseAll {E : Effect → Prop} (hrelease : ∀ n, E (.access (.release n))) :
    ∀ ns : List Nat, (Confirmation.releaseAll ns).Only E anyResult
  | [] => trivial
  | n :: ns => Only.access (hrelease n) fun _ => only_releaseAll hrelease ns

theorem only_closeSurface {E : Effect → Prop} (hunmount : ∀ surface, E (.suspend (.call (.unmount surface))))
    (surface : Option UiHandle) : (Confirmation.closeSurface surface).Only E anyResult := by
  cases surface with
  | none => exact trivial
  | some surface => exact ⟨hunmount surface, fun _ => trivial⟩

/-- **What a rollback is made of**: numbers are released, a use is given back, a session is detached and a surface is
closed. -/
theorem only_rollBack {E : Effect → Prop} (hrelease : ∀ n, E (.access (.release n)))
    (hreclaim : ∀ g account, E (.suspend (.call (.reclaim g account))))
    (hrestore : ∀ session, E (.access (.restore session))) (hdetach : ∀ session, E (.access (.detach session)))
    (hunmount : ∀ surface, E (.suspend (.call (.unmount surface)))) (setup : Setup) (own : Holdings) :
    (Confirmation.rollBack setup own).Only E anyResult := by
  have hclose := only_closeSurface hunmount own.surface
  refine Only.bind (only_releaseAll hrelease own.nonces) fun _ _ => ?_
  dsimp only
  split
  · split
    · exact Only.access (hdetach _) fun _ => hclose
    · exact hclose
  · refine Only.call (hreclaim _ _) fun _ => Only.access (hrestore _) fun _ => ?_
    split
    · exact Only.access (hdetach _) fun _ => hclose
    · exact hclose

theorem keepsTo_releaseAll (ns : List Nat) : (Confirmation.releaseAll ns).KeepsTo [.release] anyResult :=
  only_releaseAll (fun _ => rfl) ns

theorem keepsTo_closeSurface (surface : Option UiHandle) :
    (Confirmation.closeSurface surface).KeepsTo [.surface] anyResult := only_closeSurface (fun _ => rfl) surface

theorem keepsTo_rollBack (setup : Setup) (own : Holdings) :
    (Confirmation.rollBack setup own).KeepsTo [.release, .session, .handover, .surface] anyResult :=
  only_rollBack (fun _ => rfl) (fun _ _ => rfl) (fun _ => rfl) (fun _ => rfl) (fun _ => rfl) setup own

theorem keepsTo_post (r : Response) : (Confirmation.post r).KeepsTo [.answer] anyResult := by
  refine Only.call rfl fun x => ?_
  cases x with
  | ok => exact trivial
  | error e => exact trivial

theorem keepsTo_conclude (setup : Setup) (id : String) (outcome : Except Stop Response) :
    (Confirmation.conclude setup id outcome).KeepsTo
      [.state, .holdings, .release, .session, .handover, .surface, .answer] anyResult := by
  have hpost (r : Response) : (Confirmation.post r).KeepsTo
      [.state, .holdings, .release, .session, .handover, .surface, .answer] anyResult :=
    KeepsTo.mono (keepsTo_post r) (by simp) fun _ hr => hr
  have hback (own : Holdings) : (Confirmation.rollBack setup own).KeepsTo
      [.state, .holdings, .release, .session, .handover, .surface, .answer] anyResult :=
    KeepsTo.mono (keepsTo_rollBack setup own) (by simp) fun _ hr => hr
  cases outcome with
  | ok r =>
    exact Only.access rfl fun _ => Only.access rfl fun own => Only.bind (R := anyResult)
      (KeepsTo.mono (keepsTo_closeSurface own.surface) (by simp) fun _ hr => hr) fun _ _ => hpost r
  | error stop =>
    cases stop with
    | declined code message =>
      exact Only.access rfl fun _ => Only.access rfl fun own => Only.bind (hback own) fun _ _ => hpost _
    | fatal e => exact Only.access rfl fun _ => Only.access rfl fun own => Only.bind (hback own) fun _ _ => trivial

end Program

/-! ## The handling as a whole -/

theorem handle_of_read {setup : Setup} {raw : Json} {q : Request} (hread : Request.read raw = .ok q) :
    Confirmation.handle setup raw = Confirmation.handleRequest setup q := by
  unfold Confirmation.handle
  rw [hread]

/-- **The contract of a conclusion** from those of what it does, by the outcome: a surface is closed or what is held is
given back, and then there is an answer or none. -/
theorem Observer.meets_conclude_of_parts {o : Observer σ} {setup : Setup} {id : String}
    {outcome : Except Stop Response} {post : Except Error Unit → Holdings → σ → Prop} {own : Holdings} {s : σ}
    (hstates : ∀ state, o.Overlooks (.access (.enter id state))) (hheld : o.Overlooks (.access .holdings))
    (happroved : ∀ r, outcome = .ok r →
      o.Meets anywhere (Confirmation.closeSurface own.surface >>= fun _ => Confirmation.post r) post own s)
    (hdeclined : ∀ code message, outcome = .error (.declined code message) →
      o.Meets anywhere (Confirmation.rollBack setup own >>= fun _ => Confirmation.post (.declined id code message))
        post own s)
    (hfatal : ∀ e, outcome = .error (.fatal e) →
      o.Meets anywhere (Confirmation.rollBack setup own >>= fun _ => return .error e) post own s) :
    o.Meets anywhere (Confirmation.conclude setup id outcome) post own s := by
  have hbegin (state : ConfirmState) {f : Holdings → Program (Except Error Unit)}
      (hf : o.Meets anywhere (f own) post own s) :
      o.Meets anywhere (do Program.access (.enter id state); let held ← Program.access .holdings; f held)
        post own s := by
    refine meets_access fun x _ => ⟨(hstates state x s).1, ?_⟩
    rw [(hstates state x s).2]
    refine meets_access fun held hcan => ⟨(hheld held s).1, ?_⟩
    have hown : held = own := Access.canAnswer_holdings hcan
    subst hown
    rw [(hheld held s).2]
    exact hf
  cases outcome with
  | ok r => exact hbegin _ (happroved r rfl)
  | error stop =>
    cases stop with
    | declined code message => exact hbegin _ (hdeclined code message rfl)
    | fatal e => exact hbegin _ (hfatal e rfl)

/-- The contract of a conclusion is that of what it posts, for one to whom the rollback leaves everything as it was. -/
theorem Observer.meets_conclude_of_rollBack {o : Observer σ} {setup : Setup} {id : String}
    {outcome : Except Stop Response} {post : Except Error Unit → Holdings → σ → Prop} {own : Holdings} {s : σ}
    (overlooked : o.OverlooksTopics [.state, .holdings, .surface])
    (hrollBack : o.Meets anywhere (Confirmation.rollBack setup own) (fun _ _ s' => s' = s) own s)
    (happroved : ∀ r, outcome = .ok r → ∀ own, o.Meets anywhere (Confirmation.post r) post own s)
    (hdeclined : ∀ code message, outcome = .error (.declined code message) → ∀ own,
      o.Meets anywhere (Confirmation.post (.declined id code message)) post own s)
    (hfatal : ∀ e, outcome = .error (.fatal e) → ∀ own, post (.error e) own s) :
    o.Meets anywhere (Confirmation.conclude setup id outcome) post own s := by
  have hback {f : Unit → Program (Except Error Unit)} (hf : ∀ own, o.Meets anywhere (f ()) post own s) :
      o.Meets anywhere (Confirmation.rollBack setup own >>= f) post own s := by
    refine meets_bind (hrollBack.imp fun _ own s' hs' => ?_)
    subst hs'
    exact hf own
  have hclose {f : Unit → Program (Except Error Unit)} (hf : ∀ own, o.Meets anywhere (f ()) post own s) :
      o.Meets anywhere (Confirmation.closeSurface own.surface >>= f) post own s :=
    meets_bind (meets_of_overlooked_topics overlooked ((Program.keepsTo_closeSurface own.surface).mono (by decide)
      fun _ hr => hr) (fun _ => trivial) fun _ own _ => hf own)
  exact meets_conclude_of_parts
    (fun state => overlooked (.access (.enter id state)) (List.contains_iff_mem.2 List.mem_cons_self))
    (overlooked (.access .holdings) (List.contains_iff_mem.2 (List.mem_cons_of_mem _ List.mem_cons_self)))
    (fun r hr => hclose (happroved r hr)) (fun code message hd => hback (hdeclined code message hd))
    fun e he => hback (f := fun _ => return .error e) (hfatal e he)

/-- The same for one who overlooks how a request gives back what it holds. -/
theorem Observer.meets_conclude {o : Observer σ} {setup : Setup} {id : String} {outcome : Except Stop Response}
    {post : Except Error Unit → Holdings → σ → Prop} {own : Holdings} {s : σ}
    (overlooked : o.OverlooksTopics [.state, .holdings, .release, .session, .handover, .surface])
    (happroved : ∀ r, outcome = .ok r → ∀ own, o.Meets anywhere (Confirmation.post r) post own s)
    (hdeclined : ∀ code message own, o.Meets anywhere (Confirmation.post (.declined id code message)) post own s)
    (hfatal : ∀ e own, post (.error e) own s) : o.Meets anywhere (Confirmation.conclude setup id outcome) post own s :=
  meets_conclude_of_rollBack (overlooked.mono (by decide))
    (meets_of_overlooked_topics overlooked ((Program.keepsTo_rollBack setup own).mono (by decide)
      fun _ hr => hr) (fun _ => trivial) fun _ _ _ => rfl) happroved (fun code message _ => hdeclined code message)
    fun e _ => hfatal e

/-- **The contract of a request's handling** from those of its parts: of being refused, of the part that a cancel stops,
and of the conclusion, up to giving up the id; for one who overlooks the states before it responds, the preferences and
the look at whether the request is cancelled. -/
theorem Observer.meets_handleRequest {o : Observer σ} {stop : Holdings → σ → Prop} {setup : Setup} {r : Request}
    {ended : Except Stop Response → Holdings → σ → Prop} {post : Except Error Unit → Holdings → σ → Prop} {s : σ}
    (hstates : ∀ state, state ≠ .responding → o.Overlooks (.access (.enter r.id state)))
    (hpreferences : o.Overlooks (.suspend (.call .preferences)))
    (hasked : o.Overlooks (.access (.isCancelled r.id)))
    (hregister : ∀ allowed, o.allows s (.accessed (.register r.id) allowed))
    (hrefused :
      post (.error (.validation (.duplicateRequestId r.id))) {} (o.after s (.accessed (.register r.id) false)))
    (hrun : ∀ policy, o.Meets stop (Confirmation.run setup r policy).run ended {}
      (o.after s (.accessed (.register r.id) true)))
    (hstop : ∀ own s, stop own s → o.allows s .stopped ∧ ended Confirmation.cancelled own (o.after s .stopped))
    (hcancelled : ended Confirmation.cancelled {} (o.after s (.accessed (.register r.id) true)))
    (hconclude : ∀ outcome own s, ended outcome own s → o.Meets anywhere (Confirmation.conclude setup r.id outcome)
      (fun x own s => o.allows s (.accessed (.unregister r.id) ()) ∧
        post x own (o.after s (.accessed (.unregister r.id) ()))) own s) :
    o.Meets anywhere (Confirmation.handleRequest setup r) post {} s := by
  have hend {outcome : Except Stop Response} {own : Holdings} {s : σ} (h : ended outcome own s) :
      o.Meets anywhere (Confirmation.conclude setup r.id outcome >>= fun result => do
        Program.access (.unregister r.id)
        return result) post own s :=
    meets_bind ((hconclude outcome own s h).imp fun _ _ _ hx => meets_access fun _ _ => hx)
  refine meets_access fun x _ => ⟨(hstates .validating nofun x s).1, ?_⟩
  rw [(hstates .validating nofun x s).2]
  refine meets_access fun allowed _ => ⟨hregister allowed, ?_⟩
  cases allowed with
  | false => exact hrefused
  | true =>
    generalize o.after s (.accessed (.register r.id) true) = s at hrun hcancelled
    obtain ⟨⟨hcalled, hs⟩, hanswered⟩ := hpreferences s
    refine meets_call ⟨trivial, hcalled, trivial, fun stored => ?_⟩
    rw [hs]
    refine ⟨(hanswered stored).1, ?_⟩
    rw [(hanswered stored).2]
    refine meets_access fun x _ => ⟨(hstates .policyResolved nofun x s).1, ?_⟩
    rw [(hstates .policyResolved nofun x s).2]
    refine meets_access fun gone _ => ⟨(hasked gone s).1, ?_⟩
    rw [(hasked gone s).2]
    cases gone with
    | true => exact hend hcancelled
    | false => exact meets_bind ((meets_watch (hrun _) hstop).imp fun _ _ _ h => hend h)

end PasskeyConsent

import PasskeyConsent.Proofs.Nonce.Turn
/-!
# What requests are made of

The handling of every envelope is put together of turn contexts, attaches and deposits, and effects about other topics,
one after another and under a watch; so a class of programs that is closed under this and has these parts has the
handling of every envelope (`Program.Closed.handle`), and what is proved of the class holds beside any number of
requests.  The users of the turn are such a class (`handle_takesTurns`).
-/
namespace PasskeyConsent

open Program Confirmation

variable {α β ε : Type}

/-- A class of programs to which belongs what is put together of its members. -/
structure Program.Closed (P : ∀ {α : Type}, Program α → Prop) : Prop where
  done : ∀ {α : Type} (a : α), P (.done a : Program α)
  bind : ∀ {α β : Type} {p : Program α} {f : α → Program β}, P p → (∀ a, P (f a)) → P (p >>= f)
  watch : ∀ {α : Type} {p : Program α} (id : String) (stopped : α), P p → P (p.watch id stopped)

/-- The topics of a request besides the turn and the hand-over of a seed. -/
def Program.ordinaryTopics : List Topic :=
  [.clock, .key, .chain, .reservation, .release, .session, .freshness, .ceremony, .registry, .cancellation, .state,
    .surface, .holdings, .preferences, .answer, .breakdown]

/-- What a class has that has the handling of every envelope. -/
structure Program.HasParts (P : ∀ {α : Type}, Program α → Prop) : Prop extends Program.Closed P where
  plain : ∀ e : Effect, ordinaryTopics.contains e.topic = true → P (Flow.perform e : Program e.Answer)
  context : P (Turn.context false).run
  attach : ∀ timeout session, P (Handover.attach timeout session).run
  deposit : ∀ session seed, P (Handover.deposit session seed).run
  detach : ∀ session, P (Program.access (.detach session))
  holdChannel : ∀ session, P (Program.access (.holdChannel session))
  settleChannel : P (Program.access .settleChannel)

variable {P : ∀ {α : Type}, Program α → Prop}

namespace Program.Closed

theorem bindExcept (closed : Closed P) {p : ExceptT ε Program α} {f : α → ExceptT ε Program β} (h : P p.run)
    (hf : ∀ a, P (f a).run) : P (p >>= f).run := by
  refine closed.bind h fun r => ?_
  cases r with
  | ok a => exact hf a
  | error e => exact closed.done _

theorem mapExcept (closed : Closed P) {p : ExceptT ε Program α} (f : α → β) (h : P p.run) : P (f <$> p).run := by
  refine closed.bind h fun r => ?_
  cases r with
  | ok a => exact closed.done _
  | error e => exact closed.done _

theorem orStop (closed : Closed P) {p : ExceptT ε Program α} {stop : ε → Stop} (h : P p.run) :
    P (Stage.orStop p stop).run := by
  refine closed.bind h fun r => ?_
  cases r with
  | ok a => exact closed.done _
  | error e => exact closed.done _

theorem liftAccess (closed : Closed P) {a : Access} (h : P (Program.access a)) {f : a.Answer → ExceptT ε Program β}
    (hf : ∀ x, P (f x).run) : P ((liftM (Program.access a) : ExceptT ε Program a.Answer) >>= f).run :=
  closed.bind (f := fun x => (f x).run) h hf

end Program.Closed

namespace Program.HasParts

/-- What is about plain topics alone. -/
theorem of_topics (parts : HasParts P) {topics : List Topic} {R : α → Prop} {p : Program α} (h : p.KeepsTo topics R)
    (ht : topics ⊆ ordinaryTopics) : P p := by
  induction p with
  | done a => exact parts.done a
  | step e next ih =>
    have hplain : ordinaryTopics.contains e.topic = true := List.contains_iff_mem.2 (ht (List.contains_iff_mem.1 h.1))
    exact parts.bind (parts.plain e hplain) fun x => ih x (h.2 x)

/-! ## The flows -/

theorem turnContext (parts : HasParts P) (account : String) : P (Stage.turnContext account).run := by
  refine parts.liftAccess (parts.plain (.access .boundKey) rfl) fun k => ?_
  split
  · exact parts.done _
  · exact parts.orStop parts.context

theorem latestBlock (parts : HasParts P) : P Stage.latestBlock.run := parts.of_topics keepsTo_latestBlock (by decide)

theorem bootstrap (parts : HasParts P) (key : String) (input : FreshnessInput) (path : Freshness.Path) :
    P (Stage.bootstrap key input path).run := parts.of_topics (keepsTo_bootstrap key input path) (by decide)

theorem bindFreshness (parts : HasParts P) (id key : String) (input : FreshnessInput) (path : Freshness.Path) :
    P (Stage.bindFreshness id key input path).run :=
  parts.of_topics (keepsTo_bindFreshness id key input path) (by decide)

theorem collectAssertion (parts : HasParts P) (setup : Setup) (id account : String) (challenge : Bytes) :
    P (Stage.collectAssertion setup id account challenge).run :=
  parts.of_topics (keepsTo_collectAssertion setup id account challenge) (by decide)

theorem reserveNonces (parts : HasParts P) (id : String) (count : Nat) : P (Stage.reserveNonces id count).run :=
  parts.of_topics (keepsTo_reserveNonces id count) (by decide)

theorem deliverSeed (parts : HasParts P) (setup : Setup) (id : String) (prf : PrfOutputs) :
    P (Stage.deliverSeed setup id prf).run := by
  unfold Stage.deliverSeed
  split
  · exact parts.done _
  · refine parts.liftAccess (parts.holdChannel id) fun _ => ?_
    refine parts.bindExcept (parts.orStop (parts.bindExcept (parts.attach _ _) fun _ => parts.deposit _ _)) fun _ => ?_
    exact parts.liftAccess parts.settleChannel fun _ => parts.done _

theorem signWithCeremony (parts : HasParts P) (setup : Setup) (id : String) (p : SignTransactionPayload) (count : Nat) :
    P (Confirmation.signWithCeremony setup id p count).run := by
  refine parts.bindExcept (parts.turnContext _) fun base => parts.bindExcept (parts.bootstrap _ _ _) fun _ => ?_
  refine parts.bindExcept (parts.bindFreshness _ _ _ _) fun challenge => ?_
  refine parts.bindExcept (parts.collectAssertion _ _ _ _) fun collected => ?_
  refine parts.bindExcept (parts.reserveNonces _ _) fun nonces => parts.bindExcept (parts.deliverSeed _ _ _) fun _ => ?_
  dsimp only
  split
  · exact parts.done _
  · refine parts.bindExcept (parts.mapExcept _ ?_) fun _ => parts.done _
    exact parts.of_topics (keepsTo_grantSession _ _ _) (by decide)

theorem signOnSession (parts : HasParts P) (id : String) (p : SignTransactionPayload) (count : Nat) :
    P (Confirmation.signOnSession id p count).run := by
  refine parts.bindExcept (parts.turnContext _) fun base => ?_
  refine parts.bindExcept (parts.of_topics (keepsTo_consume _ _) (by decide)) fun grant => ?_
  refine parts.bindExcept (parts.of_topics (keepsTo_dispense grant _) (by decide)) fun _ => ?_
  refine parts.bindExcept (parts.reserveNonces _ _) fun nonces => ?_
  exact parts.liftAccess (parts.plain (.access .settleUse) rfl) fun _ => parts.done _

theorem register (parts : HasParts P) (setup : Setup) (id : String) (p : RegisterAccountPayload) :
    P (Confirmation.register setup id p).run := by
  refine parts.bindExcept parts.latestBlock fun block => ?_
  refine parts.liftAccess (parts.plain (.access (.forgetBootstrap _)) rfl) fun _ => ?_
  refine parts.bindExcept (parts.bootstrap _ _ _) fun _ => ?_
  refine parts.bindExcept (parts.bindFreshness _ _ _ _) fun challenge => ?_
  refine parts.bindExcept (parts.of_topics (keepsTo_collectAttestation _ _ _ _) (by decide)) fun collected => ?_
  exact parts.bindExcept (parts.deliverSeed _ _ _) fun _ => parts.done _

theorem decryptKey (parts : HasParts P) (setup : Setup) (id : String) (p : DecryptPrivateKeyPayload) :
    P (Confirmation.decryptKey setup id p).run := by
  refine parts.bindExcept (parts.collectAssertion _ _ _ _) fun collected => ?_
  dsimp only
  split
  · exact parts.done _
  · exact parts.bindExcept (parts.deliverSeed _ _ _) fun _ => parts.done _

theorem signMessage (parts : HasParts P) (setup : Setup) (id : String) (p : SignMessagePayload) :
    P (Confirmation.signMessage setup id p).run := by
  refine parts.bindExcept parts.latestBlock fun block => parts.bindExcept (parts.bootstrap _ _ _) fun _ => ?_
  refine parts.bindExcept (parts.bindFreshness _ _ _ _) fun challenge => ?_
  refine parts.bindExcept (parts.collectAssertion _ _ _ _) fun collected => ?_
  exact parts.bindExcept (parts.deliverSeed _ _ _) fun _ => parts.done _

theorem linkDevice (parts : HasParts P) (setup : Setup) (id : String) (p : LinkDevicePayload) (count : Nat) :
    P (Confirmation.linkDevice setup id p count).run := by
  refine parts.bindExcept (parts.turnContext _) fun base => parts.bindExcept (parts.bootstrap _ _ _) fun _ => ?_
  refine parts.bindExcept (parts.bindFreshness _ _ _ _) fun challenge => ?_
  refine parts.bindExcept (parts.collectAssertion _ _ _ _) fun collected => ?_
  refine parts.bindExcept (parts.reserveNonces _ _) fun nonces => ?_
  exact parts.bindExcept (parts.deliverSeed _ _ _) fun _ => parts.done _

theorem showKey (parts : HasParts P) (setup : Setup) (id : String) (p : ShowPrivateKeyPayload) :
    P (Confirmation.showKey setup id p).run :=
  parts.bindExcept (parts.collectAssertion _ _ _ _) fun _ =>
    parts.bindExcept (parts.deliverSeed _ _ _) fun _ => parts.done _

theorem run (parts : HasParts P) (setup : Setup) (r : Request) (policy : ConfirmationPolicy) :
    P (Confirmation.run setup r policy).run := by
  have hperform : P (perform setup r).run := by
    unfold perform
    split
    · split
      · exact parts.signWithCeremony _ _ _ _
      · exact parts.signOnSession _ _ _
    · exact parts.register _ _ _
    · exact parts.decryptKey _ _ _
    · exact parts.signMessage _ _ _
    · exact parts.linkDevice _ _ _ _
    · exact parts.showKey _ _ _
  unfold Confirmation.run
  split
  · exact parts.bindExcept (parts.of_topics (keepsTo_awaitUser r policy) (by decide)) fun _ => hperform
  · exact hperform

/-! ## The handling as a whole -/

theorem rollBack (parts : HasParts P) (setup : Setup) (own : Holdings) : P (Confirmation.rollBack setup own) := by
  have hclose : P (closeSurface own.surface) := parts.of_topics (keepsTo_closeSurface own.surface) (by decide)
  refine parts.bind (parts.of_topics (keepsTo_releaseAll own.nonces) (by decide)) fun _ => ?_
  dsimp only
  split
  case' h_2 g account _ =>
    refine parts.bind (parts.plain (.suspend (.call (.reclaim g account))) rfl) fun _ => ?_
    refine parts.bind (parts.plain (.access (.restore g.sessionId)) rfl) fun _ => ?_
  all_goals
    split
    · exact parts.bind (parts.detach _) fun _ => hclose
    · exact hclose

theorem conclude (parts : HasParts P) (setup : Setup) (id : String) (outcome : Except Stop Response) :
    P (Confirmation.conclude setup id outcome) := by
  have hpost (r : Response) : P (post r) := parts.of_topics (keepsTo_post r) (by decide)
  have henter (s : ConfirmState) {f : Holdings → Program (Except Error Unit)} (hf : ∀ own, P (f own)) :
      P (do Program.access (.enter id s); let own ← Program.access .holdings; f own) :=
    parts.bind (parts.plain (.access (.enter id s)) rfl) fun _ =>
      parts.bind (parts.plain (.access .holdings) rfl) fun own => hf own
  cases outcome with
  | ok r =>
    refine henter _ fun own => parts.bind (parts.of_topics (keepsTo_closeSurface own.surface) (by decide)) fun _ => ?_
    exact hpost r
  | error stop =>
    cases stop with
    | declined code message => exact henter _ fun own => parts.bind (parts.rollBack setup own) fun _ => hpost _
    | fatal e => exact henter _ fun own => parts.bind (parts.rollBack setup own) fun _ => parts.done _

/-- **A class that has the parts of a request has the handling of every envelope.** -/
theorem handle (parts : HasParts P) (setup : Setup) (raw : Json) : P (Confirmation.handle setup raw) := by
  unfold Confirmation.handle
  split
  · exact parts.of_topics (keepsTo_post _) (by decide)
  · rename_i r _
    have hconclude (outcome : Except Stop Response) : P (Confirmation.conclude setup r.id outcome >>= fun result => do
        access (.unregister r.id)
        return result) :=
      parts.bind (parts.conclude setup r.id outcome) fun result =>
        parts.bind (parts.plain (.access (.unregister r.id)) rfl) fun _ => parts.done _
    refine parts.bind (parts.plain (.access (.enter r.id .validating)) rfl) fun _ => ?_
    refine parts.bind (parts.plain (.access (.register r.id)) rfl) fun allowed => ?_
    cases allowed with
    | false => exact parts.done _
    | true =>
      refine parts.bind (parts.plain (.suspend (.call .preferences)) rfl) fun stored => ?_
      refine parts.bind (parts.plain (.access (.enter r.id .policyResolved)) rfl) fun _ => ?_
      refine parts.bind (parts.bind (parts.plain (.access (.isCancelled r.id)) rfl) fun gone => ?_) hconclude
      cases gone with
      | true => exact parts.done _
      | false => exact parts.watch _ _ (parts.run setup r _)

end Program.HasParts

/-! ## Taking turns -/

/-- What has nothing to do with the turn. -/
theorem Program.TakesTurns.of_topics {topics : List Topic} {R : α → Prop} {p : Program α} (h : p.KeepsTo topics R)
    (ht : topics ⊆ otherTopics) : p.TakesTurns := by
  induction p with
  | done a => exact .done a
  | step e next ih =>
    have hother : otherTopics.contains e.topic = true := List.contains_iff_mem.2 (ht (List.contains_iff_mem.1 h.1))
    exact .bind (.effect e hother) fun x => ih x (h.2 x)

/-- **The handling of every envelope takes turns.** -/
theorem handle_takesTurns (setup : Setup) (raw : Json) : (handle setup raw).TakesTurns := by
  have hsub : ordinaryTopics ⊆ otherTopics := by decide
  have parts : HasParts @TakesTurns :=
    { done := .done
      bind := .bind
      watch := .watch
      plain := fun e h => .effect e (List.contains_iff_mem.2 (hsub (List.contains_iff_mem.1 h)))
      context := .context false
      attach := fun timeout session => .of_topics (keepsTo_attach timeout session) (by decide)
      deposit := fun session seed => .of_topics (keepsTo_deposit session seed) (by decide)
      detach := fun session => .effect (.access (.detach session)) rfl
      holdChannel := fun session => .effect (.access (.holdChannel session)) rfl
      settleChannel := .effect (.access .settleChannel) rfl }
  exact parts.handle setup raw

end PasskeyConsent

import PasskeyConsent.Proofs.Concurrency.Simulation
/-!
# Nothing is told of the secret outputs

The handling of an envelope is like itself (`handle_alike`): the secret outputs go to the signing worker's box and, for
a decryption in the wallet's own context, the first one into the answer, and nowhere else.
-/
namespace PasskeyConsent

open Program Confirmation

variable {α ε : Type} {F : Likeness} {M : Json → Json → Prop}

/-! ## Steps -/

theorem ResultsAlike.of_eq {r r' : Except ε α} (h : r = r') : ResultsAlike Eq r r' := by
  subst h
  cases r with
  | ok a => exact .ok rfl
  | error e => exact .error e

theorem call_alike (c : Call) (hc : Suspension.posts (.call c) = false) :
    Alike F M (c.AnswersAlike F) (call c) (call c) := .step (.suspend (.call c)) hc fun _ _ hx => .done hx

/-- A step of a flow that prompts for no credential, and what follows it. -/
theorem Program.Alike.after_topics {β γ : Type} {topics : List Topic} {R : Except ε α → Prop} {p : ExceptT ε Program α}
    {f : α → ExceptT ε Program β} {f' : α → ExceptT ε Program γ} {Q : β → γ → Prop} (h : p.run.KeepsTo topics R)
    (ht : topics ⊆ plainTopics) (hf : ∀ a, Alike F M (ResultsAlike Q) (f a).run (f' a).run) :
    Alike F M (ResultsAlike Q) (p >>= f).run (p >>= f').run :=
  (alikeExcept_of_topics h ht).bindExcept fun a _ ha => ha ▸ hf a

inductive AssertionOutcome.Alike (F : Likeness) : AssertionOutcome → AssertionOutcome → Prop
  | collected {c c' : CollectedCredential} (h : c.Alike F c') : Alike F (.collected c) (.collected c')
  | wrongPasskey (message : String) : Alike F (.wrongPasskey message) (.wrongPasskey message)

theorem ceremony_assertion_alike (rpId account : String) (allowed : Option (List String)) (challenge : Bytes) :
    Alike F M (ResultsAlike (AssertionOutcome.Alike F)) (Credential.collectAssertion rpId account allowed challenge).run
      (Credential.collectAssertion rpId account allowed challenge).run := by
  refine Alike.bindExcept (p := attempt (call (.authenticators account)))
    ((call_alike (.authenticators account) rfl).imp fun _ _ => .of_eq) fun known _ h => ?_
  subst h
  refine Alike.bindExcept (p := attempt (call (.currentPasskey account known)))
    ((call_alike (.currentPasskey account known) rfl).imp fun _ _ => .of_eq) fun selection _ h => ?_
  subst h
  split
  · exact .done (.ok (.wrongPasskey _))
  · dsimp only
    split
    · exact .done (.error _)
    · refine Alike.bindExcept (p := attempt (call (.assertion _))) (call_alike (.assertion _) rfl)
        fun raw raw' hraw => ?_
      exact Alike.bindExcept (p := check raw.collect) (.done hraw.collect) fun c c' hc => .done (.ok (.collected hc))

theorem ceremony_attestation_alike (rpId account : String) (challenge : Bytes) :
    Alike F M (ResultsAlike (CollectedCredential.Alike F)) (Credential.collectAttestation rpId account challenge).run
      (Credential.collectAttestation rpId account challenge).run := by
  refine Alike.bindExcept (p := attempt (call (.authenticators account)))
    ((call_alike (.authenticators account) rfl).imp fun _ _ => .of_eq) fun known _ h => ?_
  subst h
  refine Alike.bindExcept (p := attempt (call (.attestation _))) (call_alike (.attestation _) rfl)
    fun raw raw' hraw => ?_
  exact .done hraw.collect

theorem collectAssertion_alike (setup : Setup) (id account : String) (challenge : Bytes) :
    Alike F M (ResultsAlike (CollectedCredential.Alike F)) (Stage.collectAssertion setup id account challenge).run
      (Stage.collectAssertion setup id account challenge).run := by
  refine .step (.access (.enter id .collecting)) rfl fun _ _ _ => ?_
  refine (Alike.orStop (ceremony_assertion_alike _ _ _ _)).bindExcept fun outcome outcome' h => ?_
  cases h with
  | collected h => exact .done (.ok h)
  | wrongPasskey message => exact .done (.error _)

theorem collectAttestation_alike (setup : Setup) (id account : String) (challenge : Bytes) :
    Alike F M (ResultsAlike (CollectedCredential.Alike F)) (Stage.collectAttestation setup id account challenge).run
      (Stage.collectAttestation setup id account challenge).run :=
  .step (.access (.enter id .collecting)) rfl fun _ _ _ => Alike.orStop (ceremony_attestation_alike _ _ _)

theorem deposit_alike (session : String) (seed seed' : SeedMaterial) :
    Alike F M (ResultsAlike Eq) (Handover.deposit session seed).run (Handover.deposit session seed').run := by
  refine .deposit session seed seed' fun x => ?_
  cases x with
  | error e => exact .done (.error e)
  | ok => exact .step (.suspend (.wait _)) rfl fun _ _ hx => .done (.of_eq hx)

/-- Which seed is handed over is not seen. -/
theorem deliverSeed_alike (setup : Setup) (id : String) (prf prf' : PrfOutputs) :
    Alike F M (ResultsAlike Eq) (Stage.deliverSeed setup id prf).run (Stage.deliverSeed setup id prf').run := by
  unfold Stage.deliverSeed
  split
  · exact .done (.ok rfl)
  · rename_i timeout _
    let handover (prf : PrfOutputs) : ExceptT ChannelError Program Unit := do
      Handover.attach timeout id
      Handover.deposit id ⟨prf.first, prf.second⟩
    have hhandover : Alike F M (ResultsAlike Eq) (handover prf).run (handover prf').run :=
      .after_topics (keepsTo_attach timeout id) (by decide) fun _ => deposit_alike id _ _
    refine .step (.access (.holdChannel id)) rfl fun _ _ _ => (Alike.orStop hhandover).bindExcept fun _ _ _ => ?_
    exact .step (.access .settleChannel) rfl fun _ _ _ => .done (.ok rfl)

/-! ## Flows -/

/-- The same response, which tells no secret output. -/
def Silent (r r' : Response) : Prop := r = r' ∧ r.prfOutput = none

theorem signWithCeremony_alike (setup : Setup) (id : String) (p : SignTransactionPayload) (count : Nat) :
    Alike F M (ResultsAlike Silent) (signWithCeremony setup id p count).run
      (signWithCeremony setup id p count).run := by
  refine .after_topics (keepsTo_turnContext p.account) (by decide) fun base => ?_
  refine .after_topics (keepsTo_bootstrap _ _ _) (by decide) fun _ => ?_
  refine .after_topics (keepsTo_bindFreshness _ _ _ _) (by decide) fun challenge => ?_
  refine (collectAssertion_alike _ _ _ _).bindExcept fun c c' hc => ?_
  refine .after_topics (keepsTo_reserveNonces id count) (by decide) fun nonces => ?_
  refine (deliverSeed_alike setup id c.prf c'.prf).bindExcept fun _ _ _ => ?_
  rw [hc.record]
  dsimp only
  split
  · exact .done (.ok ⟨rfl, rfl⟩)
  · refine Alike.bindExcept (Q := Eq) (Alike.mapExcept (alikeExcept_of_topics (keepsTo_grantSession _ _ _) (by decide))
      fun g g' hg => congrArg some hg) fun g g' hg => ?_
    subst hg
    exact .done (.ok ⟨rfl, rfl⟩)

theorem signOnSession_alike (id : String) (p : SignTransactionPayload) (count : Nat) :
    Alike F M (ResultsAlike Silent) (signOnSession id p count).run (signOnSession id p count).run := by
  refine .after_topics (keepsTo_turnContext p.account) (by decide) fun base => ?_
  refine .after_topics (keepsTo_consume _ _) (by decide) fun grant => .after_topics (keepsTo_dispense grant _) (by decide) fun _ => ?_
  refine .after_topics (keepsTo_reserveNonces id count) (by decide) fun nonces => ?_
  exact .step (.access .settleUse) rfl fun _ _ _ => .done (.ok ⟨rfl, rfl⟩)

theorem register_alike (setup : Setup) (id : String) (p : RegisterAccountPayload) :
    Alike F M (ResultsAlike Silent) (register setup id p).run (register setup id p).run := by
  refine .after_topics keepsTo_latestBlock (by decide) fun block => ?_
  refine .step (.access (.forgetBootstrap (registrationKey p.account))) rfl fun _ _ _ => ?_
  refine .after_topics (keepsTo_bootstrap _ _ _) (by decide) fun _ => ?_
  refine .after_topics (keepsTo_bindFreshness _ _ _ _) (by decide) fun challenge => ?_
  refine (collectAttestation_alike _ _ _ _).bindExcept fun c c' hc => ?_
  refine (deliverSeed_alike setup id c.prf c'.prf).bindExcept fun _ _ _ => ?_
  rw [hc.record]
  exact .done (.ok ⟨rfl, rfl⟩)

/-- Only in the wallet's own context is the first secret output told. -/
theorem decryptKey_alike (setup : Setup) (id : String) (p : DecryptPrivateKeyPayload) :
    Alike F M (ResultsAlike (Response.Alike F (p.flow = .localOnly))) (decryptKey setup id p).run
      (decryptKey setup id p).run := by
  refine (collectAssertion_alike _ _ _ _).bindExcept fun c c' hc => ?_
  cases hflow : p.flow with
  | localOnly =>
    obtain ⟨b, b', hF, hb, hb'⟩ := hc.first
    rw [hc.record]
    refine .done (.ok ?_)
    rw [hb, hb']
    exact .shown (r := { Response.approved id with credential := some c'.record }) rfl rfl hF
  | workerOnly =>
    refine (deliverSeed_alike setup id c.prf c'.prf).bindExcept fun _ _ _ => ?_
    rw [hc.record]
    exact .done (.ok (.same rfl fun h => by cases h))

theorem signMessage_alike (setup : Setup) (id : String) (p : SignMessagePayload) :
    Alike F M (ResultsAlike Silent) (signMessage setup id p).run (signMessage setup id p).run := by
  refine .after_topics keepsTo_latestBlock (by decide) fun block => ?_
  refine .after_topics (keepsTo_bootstrap _ _ _) (by decide) fun _ => ?_
  refine .after_topics (keepsTo_bindFreshness _ _ _ _) (by decide) fun challenge => ?_
  refine (collectAssertion_alike _ _ _ _).bindExcept fun c c' hc => ?_
  refine (deliverSeed_alike setup id c.prf c'.prf).bindExcept fun _ _ _ => ?_
  rw [hc.record]
  exact .done (.ok ⟨rfl, rfl⟩)

theorem linkDevice_alike (setup : Setup) (id : String) (p : LinkDevicePayload) (count : Nat) :
    Alike F M (ResultsAlike Silent) (linkDevice setup id p count).run (linkDevice setup id p count).run := by
  refine .after_topics (keepsTo_turnContext p.account) (by decide) fun base => ?_
  refine .after_topics (keepsTo_bootstrap _ _ _) (by decide) fun _ => ?_
  refine .after_topics (keepsTo_bindFreshness _ _ _ _) (by decide) fun challenge => ?_
  refine (collectAssertion_alike _ _ _ _).bindExcept fun c c' hc => ?_
  refine .after_topics (keepsTo_reserveNonces id count) (by decide) fun nonces => ?_
  refine (deliverSeed_alike setup id c.prf c'.prf).bindExcept fun _ _ _ => ?_
  rw [hc.record]
  exact .done (.ok ⟨rfl, rfl⟩)

theorem showKey_alike (setup : Setup) (id : String) (p : ShowPrivateKeyPayload) :
    Alike F M (ResultsAlike Silent) (showKey setup id p).run (showKey setup id p).run := by
  refine (collectAssertion_alike _ _ _ _).bindExcept fun c c' hc => ?_
  refine (deliverSeed_alike setup id c.prf c'.prf).bindExcept fun _ _ _ => ?_
  rw [hc.record]
  exact .done (.ok ⟨rfl, rfl⟩)

/-- Whether an approval of the request tells the first secret output: a decryption in the wallet's own context. -/
def Request.showsSecret (r : Request) : Prop := ∃ p, r.payload = .decryptPrivateKey p ∧ p.flow = .localOnly

theorem perform_alike (setup : Setup) (r : Request) :
    Alike F M (ResultsAlike (Response.Alike F r.showsSecret)) (perform setup r).run (perform setup r).run := by
  have hsilent {p : Stage Response} (h : Alike F M (ResultsAlike Silent) p.run p.run) (hnot : ¬ r.showsSecret) :
      Alike F M (ResultsAlike (Response.Alike F r.showsSecret)) p.run p.run := by
    refine h.imp fun x x' hx => ?_
    cases hx with
    | ok hx =>
      obtain ⟨rfl, hsecret⟩ := hx
      exact .ok (.same hsecret fun h => absurd h hnot)
    | error e => exact .error e
  have hnot (hother : ∀ p, r.payload ≠ .decryptPrivateKey p) : ¬ r.showsSecret := fun ⟨p, hp, _⟩ => hother p hp
  unfold perform
  cases hpayload : r.payload with
  | signTransaction p =>
    dsimp only
    have hnot := hnot fun p' h => by rw [hpayload] at h; cases h
    cases p.authMode with
    | webAuthn => exact hsilent (signWithCeremony_alike _ _ _ _) hnot
    | warmSession => exact hsilent (signOnSession_alike _ _ _) hnot
  | registerAccount p => exact hsilent (register_alike _ _ _) (hnot fun p' h => by rw [hpayload] at h; cases h)
  | decryptPrivateKey p =>
    have hshows : r.showsSecret ↔ p.flow = .localOnly := by
      constructor
      · rintro ⟨p', hp, hflow⟩
        rw [hpayload] at hp
        cases hp
        exact hflow
      · exact fun hflow => ⟨p, hpayload, hflow⟩
    rw [hshows]
    exact decryptKey_alike _ _ _
  | signMessage p => exact hsilent (signMessage_alike _ _ _) (hnot fun p' h => by rw [hpayload] at h; cases h)
  | linkDevice p => exact hsilent (linkDevice_alike _ _ _ _) (hnot fun p' h => by rw [hpayload] at h; cases h)
  | showPrivateKey p => exact hsilent (showKey_alike _ _ _) (hnot fun p' h => by rw [hpayload] at h; cases h)

/-! ## The answer -/

theorem post_alike {shows : Prop} {r r' : Response} (h : r.Alike F shows r') :
    Alike F (MessagesAlike F shows) Eq (Confirmation.post r) (Confirmation.post r') := by
  refine .post ⟨r, r', h, rfl, rfl⟩ fun x => ?_
  cases x with
  | ok => exact .done rfl
  | error e => exact .done rfl

theorem conclude_alike (setup : Setup) (id : String) {shows : Prop} {outcome outcome' : Except Stop Response}
    (h : ResultsAlike (Response.Alike F shows) outcome outcome') :
    Alike F (MessagesAlike F shows) Eq (conclude setup id outcome) (conclude setup id outcome') := by
  cases h with
  | @ok r r' h =>
    refine .step (.access (.enter id .responding)) rfl fun _ _ _ => ?_
    refine .step (.access .holdings) rfl fun own own' hown => ?_
    cases hown
    exact (alike_of_topics (keepsTo_closeSurface own.surface) (by decide)).bind fun _ _ _ => post_alike h
  | error stop =>
    cases stop with
    | declined code message =>
      refine .step (.access (.enter id _)) rfl fun _ _ _ => .step (.access .holdings) rfl fun own own' hown => ?_
      cases hown
      exact (alike_of_topics (keepsTo_rollBack setup own) (by decide)).bind fun _ _ _ =>
        post_alike (.same rfl fun _ => rfl)
    | fatal e =>
      refine .step (.access (.enter id .failed)) rfl fun _ _ _ => .step (.access .holdings) rfl fun own own' hown => ?_
      cases hown
      exact (alike_of_topics (keepsTo_rollBack setup own) (by decide)).bind fun _ _ _ => .done rfl

/-- Whether an envelope is a request that shows its secret output. -/
def ShowsSecret (raw : Json) : Prop := ∃ r, Request.read raw = .ok r ∧ r.showsSecret

theorem handleRequest_alike (setup : Setup) (r : Request) :
    Alike F (MessagesAlike F r.showsSecret) Eq (handleRequest setup r) (handleRequest setup r) := by
  have hrun (policy : ConfirmationPolicy) : Alike F (fun _ _ => False)
      (ResultsAlike (Response.Alike F r.showsSecret)) (run setup r policy).run (run setup r policy).run := by
    unfold run
    split
    · exact .after_topics (keepsTo_awaitUser r policy) (by decide) fun _ => perform_alike setup r
    · exact perform_alike setup r
  refine .step (.access (.enter r.id .validating)) rfl fun _ _ _ => ?_
  refine .step (.access (.register r.id)) rfl fun allowed allowed' hallowed => ?_
  cases hallowed
  cases allowed with
  | false => exact .done rfl
  | true =>
    refine .step (.suspend (.call .preferences)) rfl fun stored stored' hstored => ?_
    cases hstored
    refine .step (.access (.enter r.id .policyResolved)) rfl fun _ _ _ => ?_
    refine Alike.bind (Q := ResultsAlike (Response.Alike F r.showsSecret)) ?_ fun outcome outcome' houtcome =>
      (conclude_alike setup r.id houtcome).bind fun result result' hresult => ?_
    · refine .step (.access (.isCancelled r.id)) rfl fun gone gone' hgone => ?_
      cases hgone
      cases gone with
      | true => exact .done (.error _)
      | false => exact (hrun _).watch r.id (.error _)
    · cases hresult
      exact .step (.access (.unregister r.id)) rfl fun _ _ _ => .done rfl

/-- **The handling of every envelope is like itself**, whatever the secret outputs that it is given have in common. -/
theorem handle_alike (setup : Setup) (raw : Json) :
    Alike F (MessagesAlike F (ShowsSecret raw)) Eq (handle setup raw) (handle setup raw) := by
  unfold handle
  cases hread : Request.read raw with
  | error e => exact post_alike (.same rfl fun _ => rfl)
  | ok r =>
    have hshows : ShowsSecret raw ↔ r.showsSecret := by
      constructor
      · rintro ⟨r', hr, hsecret⟩
        rw [hread] at hr
        cases hr
        exact hsecret
      · exact fun hsecret => ⟨r, hread, hsecret⟩
    rw [hshows]
    exact handleRequest_alike setup r

end PasskeyConsent

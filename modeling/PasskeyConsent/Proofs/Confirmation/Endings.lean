import PasskeyConsent.Proofs.Concurrency.Composition
import PasskeyConsent.Proofs.Confirmation.Answer
import PasskeyConsent.Proofs.Confirmation.Booking
import PasskeyConsent.Proofs.Confirmation.Onward
import PasskeyConsent.Proofs.Confirmation.Signing
import PasskeyConsent.Proofs.Redaction.Stability
/-!
# How requests end

Every way through the flow of a request ends in an approval of the form that its payload asks for, or in a stop with a
text that has been redacted (`run_finishes`).  With the rejections of envelopes that cannot be read, these are all the
answers there are: `Response.Answers` says what an envelope can be answered with, and `Run.posts_answer` that nothing
else is posted for it in any run.
-/
namespace PasskeyConsent

open Observer Program Confirmation

variable {α ε : Type}

/-- Whether a request signs on a warm session. -/
def Payload.usesSession : Payload → Bool
  | .signTransaction p => p.authMode = .warmSession
  | _ => false

/-- Whether the approval of a request tells a warm session: the one that it signs on, or the one that is opened. -/
def Payload.tellsSession : Payload → Bool
  | .signTransaction p => p.authMode = .warmSession || p.sessionId.isSome
  | _ => false

/-- A response is an approval of the form that a payload asks for. -/
structure Response.Fits (id : String) (p : Payload) (r : Response) : Prop where
  requestId : r.requestId = id
  confirmed : r.confirmed = true
  credential : r.credential.isSome = !p.usesSession
  vrfChallenge : r.vrfChallenge.isSome = p.bindsChallenge
  transactionContext : r.transactionContext.isSome = p.sendsTransactions
  warmSession : r.warmSession.isSome = p.tellsSession

/-- The text of a stop that is answered has been redacted. -/
def Stop.Redacted : Stop → Prop
  | .declined _ message => redact message = message
  | .fatal _ => True

theorem Stop.redacted_decline (code : ErrorCode) (message : String) : (decline code message).Redacted :=
  redact_redact message

theorem Stop.redacted_ofCredentialError (e : CredentialError) : (ofCredentialError e).Redacted := by
  cases e with
  | missingPrfResult => exact trivial
  | noCredentials | authenticatorFailed | dismissed | store => exact redacted_decline _ _

/-- A part of a request finishes with a result that is as `P` says, or stops with a redacted text. -/
abbrev Finishes (P : α → Prop) (p : ExceptT Stop Program α) : Prop :=
  p.run.Only (fun _ => True) (Ends P Stop.Redacted)

/-! ## The steps -/

theorem finishes_orStop {p : ExceptT ε Program α} {stop : ε → Stop} (h : ∀ e, (stop e).Redacted) :
    Finishes anyResult (Stage.orStop p stop) :=
  only_orStop (only_of_forall (fun _ => trivial) anyEnd) fun e _ => h e

theorem finishes_turnContext (account : String) : Finishes anyResult (Stage.turnContext account) := by
  refine Only.liftAccess trivial fun k => ?_
  split
  · exact Stop.redacted_decline .chainUnavailable _
  · exact finishes_orStop fun _ => Stop.redacted_decline _ _

theorem finishes_latestBlock : Finishes anyResult Stage.latestBlock :=
  finishes_orStop fun _ => Stop.redacted_decline _ _

theorem finishes_bootstrap (key : String) (input : FreshnessInput) (path : Freshness.Path) :
    Finishes anyResult (Stage.bootstrap key input path) := by
  refine Only.liftAccess trivial fun kept => ?_
  cases kept with
  | some kept => exact trivial
  | none => exact Only.bindExcept (finishes_orStop fun _ => Stop.redacted_decline _ _) fun _ _ => trivial

theorem finishes_bindFreshness (id key : String) (input : FreshnessInput) (path : Freshness.Path) :
    Finishes anyResult (Stage.bindFreshness id key input path) := by
  refine Only.liftAccess trivial fun _ => Only.liftCall trivial fun block => ?_
  cases block with
  | error e => exact finishes_orStop fun _ => Stop.redacted_decline _ _
  | ok block => exact finishes_orStop fun _ => Stop.redacted_decline _ _

theorem finishes_collectAssertion (setup : Setup) (id account : String) (challenge : Bytes) :
    Finishes anyResult (Stage.collectAssertion setup id account challenge) := by
  refine Only.liftAccess trivial fun _ => ?_
  refine Only.bindExcept (finishes_orStop Stop.redacted_ofCredentialError) fun c _ => ?_
  cases c with
  | collected c => exact trivial
  | wrongPasskey message => exact Stop.redacted_decline .wrongPasskey message

theorem finishes_collectAttestation (setup : Setup) (id account : String) (challenge : Bytes) :
    Finishes anyResult (Stage.collectAttestation setup id account challenge) :=
  Only.liftAccess trivial fun _ => finishes_orStop Stop.redacted_ofCredentialError

theorem finishes_reserveNonces (id : String) (count : Nat) : Finishes anyResult (Stage.reserveNonces id count) :=
  Only.liftAccess trivial fun _ =>
    Only.bindExcept (finishes_orStop fun _ => Stop.redacted_decline _ _) fun _ _ => trivial

theorem finishes_deliverSeed (setup : Setup) (id : String) (prf : PrfOutputs) :
    Finishes anyResult (Stage.deliverSeed setup id prf) := by
  unfold Stage.deliverSeed
  split
  · exact trivial
  · refine Only.liftAccess trivial fun _ => ?_
    refine Only.bindExcept (finishes_orStop fun _ => Stop.redacted_decline _ _) fun _ _ => ?_
    exact Only.access trivial fun _ => trivial

theorem finishes_grantSession (id session account : String) :
    Finishes anyResult (Stage.grantSession id session account) := by
  refine Only.liftAccess trivial fun x => ?_
  cases x with
  | some g => exact trivial
  | none => exact Only.liftAccess trivial fun _ => ⟨trivial, fun e => nomatch e⟩

theorem finishes_awaitUser (r : Request) (policy : ConfirmationPolicy) : Finishes anyResult (awaitUser r policy) := by
  refine Only.liftAccess trivial fun _ => Only.liftCall trivial fun surface => Only.liftAccess trivial fun _ => ?_
  refine Only.liftCall trivial fun decision => ?_
  split
  · exact Stop.redacted_decline .userCancelled _
  · exact trivial
  · exact trivial

/-! ## The flows -/

variable {setup : Setup} {id : String}

theorem finishes_signWithCeremony {p : SignTransactionPayload} (hmode : p.authMode = .webAuthn) (count : Nat) :
    Finishes (·.Fits id (.signTransaction p)) (signWithCeremony setup id p count) := by
  refine Only.bindExcept (finishes_turnContext _) fun base _ => Only.bindExcept (finishes_bootstrap _ _ _) fun _ _ => ?_
  refine Only.bindExcept (finishes_bindFreshness _ _ _ _) fun challenge _ => ?_
  refine Only.bindExcept (finishes_collectAssertion _ _ _ _) fun collected _ => ?_
  refine Only.bindExcept (finishes_reserveNonces _ _) fun nonces _ => ?_
  refine Only.bindExcept (finishes_deliverSeed _ _ _) fun _ _ => ?_
  have hchallenge : (Payload.signTransaction p).bindsChallenge = true := decide_eq_true hmode
  have huses : (Payload.signTransaction p).usesSession = false := decide_eq_false (by rw [hmode]; exact nofun)
  have htells : (Payload.signTransaction p).tellsSession = p.sessionId.isSome := by
    simp [Payload.tellsSession, hmode]
  have hfits {session : Option WarmSessionGrant} (hsession : session.isSome = p.sessionId.isSome) :
      Response.Fits id (.signTransaction p) { Response.approved id with
        credential := some collected.record
        vrfChallenge := some challenge
        transactionContext := some (base.toTransactionContext nonces)
        warmSession := session } :=
    ⟨rfl, rfl, by rw [huses, Bool.not_false]; rfl, hchallenge.symm, rfl, hsession.trans htells.symm⟩
  dsimp only
  split
  · rename_i hnone
    exact hfits (by rw [hnone]; rfl)
  · rename_i session hsome
    have hgrant : Finishes (fun g : Option WarmSessionGrant => g.isSome = true)
        (some <$> Stage.grantSession id session p.account) := by
      refine Only.bind (finishes_grantSession id session p.account) fun r hr => ?_
      cases r with
      | ok g => exact rfl
      | error e => exact hr
    exact Only.bindExcept hgrant fun g hg => hfits (by rw [hg, hsome]; rfl)

theorem finishes_signOnSession {p : SignTransactionPayload} (hmode : p.authMode = .warmSession) (count : Nat) :
    Finishes (·.Fits id (.signTransaction p)) (signOnSession id p count) := by
  refine Only.bindExcept (finishes_turnContext _) fun base _ => ?_
  refine Only.bindExcept (finishes_orStop fun _ => Stop.redacted_decline _ _) fun grant _ => ?_
  refine Only.bindExcept (finishes_orStop fun _ => Stop.redacted_decline _ _) fun _ _ => ?_
  refine Only.bindExcept (finishes_reserveNonces _ _) fun nonces _ => Only.liftAccess trivial fun _ => ?_
  have hchallenge : (Payload.signTransaction p).bindsChallenge = false := decide_eq_false (by rw [hmode]; exact nofun)
  have huses : (Payload.signTransaction p).usesSession = true := decide_eq_true hmode
  have htells : (Payload.signTransaction p).tellsSession = true := by simp [Payload.tellsSession, hmode]
  exact ⟨rfl, rfl, by rw [huses, Bool.not_true]; rfl, hchallenge.symm, rfl, htells.symm⟩

theorem finishes_register (p : RegisterAccountPayload) :
    Finishes (·.Fits id (.registerAccount p)) (register setup id p) := by
  refine Only.bindExcept finishes_latestBlock fun block _ => Only.liftAccess trivial fun _ => ?_
  refine Only.bindExcept (finishes_bootstrap _ _ _) fun _ _ => ?_
  refine Only.bindExcept (finishes_bindFreshness _ _ _ _) fun challenge _ => ?_
  refine Only.bindExcept (finishes_collectAttestation _ _ _ _) fun collected _ => ?_
  exact Only.bindExcept (finishes_deliverSeed _ _ _) fun _ _ => ⟨rfl, rfl, rfl, rfl, rfl, rfl⟩

theorem finishes_decryptKey (p : DecryptPrivateKeyPayload) :
    Finishes (·.Fits id (.decryptPrivateKey p)) (decryptKey setup id p) := by
  refine Only.bindExcept (finishes_collectAssertion _ _ _ _) fun collected _ => ?_
  dsimp only
  split
  · exact ⟨rfl, rfl, rfl, rfl, rfl, rfl⟩
  · exact Only.bindExcept (finishes_deliverSeed _ _ _) fun _ _ => ⟨rfl, rfl, rfl, rfl, rfl, rfl⟩

theorem finishes_signMessage (p : SignMessagePayload) :
    Finishes (·.Fits id (.signMessage p)) (signMessage setup id p) := by
  refine Only.bindExcept finishes_latestBlock fun block _ => Only.bindExcept (finishes_bootstrap _ _ _) fun _ _ => ?_
  refine Only.bindExcept (finishes_bindFreshness _ _ _ _) fun challenge _ => ?_
  refine Only.bindExcept (finishes_collectAssertion _ _ _ _) fun collected _ => ?_
  exact Only.bindExcept (finishes_deliverSeed _ _ _) fun _ _ => ⟨rfl, rfl, rfl, rfl, rfl, rfl⟩

theorem finishes_linkDevice (p : LinkDevicePayload) (count : Nat) :
    Finishes (·.Fits id (.linkDevice p)) (linkDevice setup id p count) := by
  refine Only.bindExcept (finishes_turnContext _) fun base _ => Only.bindExcept (finishes_bootstrap _ _ _) fun _ _ => ?_
  refine Only.bindExcept (finishes_bindFreshness _ _ _ _) fun challenge _ => ?_
  refine Only.bindExcept (finishes_collectAssertion _ _ _ _) fun collected _ => ?_
  refine Only.bindExcept (finishes_reserveNonces _ _) fun nonces _ => ?_
  exact Only.bindExcept (finishes_deliverSeed _ _ _) fun _ _ => ⟨rfl, rfl, rfl, rfl, rfl, rfl⟩

theorem finishes_showKey (p : ShowPrivateKeyPayload) :
    Finishes (·.Fits id (.showPrivateKey p)) (showKey setup id p) := by
  refine Only.bindExcept (finishes_collectAssertion _ _ _ _) fun collected _ => ?_
  exact Only.bindExcept (finishes_deliverSeed _ _ _) fun _ _ => ⟨rfl, rfl, rfl, rfl, rfl, rfl⟩

theorem finishes_perform (r : Request) : Finishes (·.Fits r.id r.payload) (perform setup r) := by
  unfold perform
  cases r.payload with
  | signTransaction p =>
    cases hmode : p.authMode with
    | webAuthn =>
      simp only [hmode]
      exact finishes_signWithCeremony hmode _
    | warmSession =>
      simp only [hmode]
      exact finishes_signOnSession hmode _
  | registerAccount p => exact finishes_register p
  | decryptPrivateKey p => exact finishes_decryptKey p
  | signMessage p => exact finishes_signMessage p
  | linkDevice p => exact finishes_linkDevice p _
  | showPrivateKey p => exact finishes_showKey p

/-- **How the part of a request that a cancel stops finishes**: with an approval of the form that its payload asks for,
or with a stop whose text has been redacted. -/
theorem run_finishes (r : Request) (policy : ConfirmationPolicy) :
    Finishes (·.Fits r.id r.payload) (run setup r policy) := by
  unfold run
  split
  · exact Only.bindExcept (finishes_awaitUser r policy) fun _ _ => finishes_perform r
  · exact finishes_perform r

/-! ## The answers -/

/-- **What an envelope can be answered with**, by what comes of reading it. -/
inductive Response.Answers (raw : Json) : Except ValidationError Request → Response → Prop
  | rejection (e : ValidationError) : Answers raw (.error e) (rejection raw e)
  | decline (q : Request) (code : ErrorCode) {text : String} (hredacted : redact text = text) :
    Answers raw (.ok q) (.declined q.id code text)
  | approval (q : Request) {r : Response} (hfits : r.Fits q.id q.payload) : Answers raw (.ok q) r

/-- The one who sees to it that only such answers are posted. -/
def spokesman (raw : Json) : Observer Unit where
  after _ _ := ()
  allows
    | _, .called (.post m) => ∃ r : Response, r.Answers raw (Request.read raw) ∧ m = r.message
    | _, _ => True

variable {raw : Json}

theorem spokesman_overlooks {e : Effect} (h : e.IsSilent) : (spokesman raw).Overlooks e := by
  cases e with
  | access a => exact fun _ _ => ⟨trivial, rfl⟩
  | suspend u =>
    cases u with
    | call c =>
      cases c
      case post => exact absurd rfl h.1
      all_goals exact fun _ => ⟨⟨trivial, rfl⟩, fun _ => ⟨trivial, rfl⟩⟩
    | wait w => exact fun _ _ => ⟨trivial, rfl⟩
  | watched => exact absurd rfl h.2

theorem post_answers {r : Response} (h : r.Answers raw (Request.read raw)) {own : Holdings} :
    (spokesman raw).Meets anywhere (post r) (fun _ _ _ => True) own () := by
  refine meets_call ⟨trivial, ⟨r, h, rfl⟩, trivial, fun x => ⟨trivial, ?_⟩⟩
  cases x with
  | ok => trivial
  | error e => trivial

theorem conclude_answers {q : Request} (hread : Request.read raw = .ok q) {outcome : Except Stop Response}
    (h : Ends (·.Fits q.id q.payload) Stop.Redacted outcome) {own : Holdings} :
    (spokesman raw).Meets anywhere (conclude setup q.id outcome) (fun _ _ _ => True) own () := by
  have hoverlooked : (spokesman raw).OverlooksTopics [.state, .holdings, .release, .session, .handover, .surface] :=
    fun e he => spokesman_overlooks (Effect.isSilent_of_topics he (by decide))
  refine meets_conclude_of_rollBack (hoverlooked.mono (by decide)) ?_ ?_ ?_ fun _ _ _ => trivial
  · exact meets_of_overlooked_topics hoverlooked ((keepsTo_rollBack setup own).mono (by decide) fun _ hr => hr)
      (fun _ => trivial) fun _ _ _ => rfl
  · rintro r rfl _
    exact post_answers (hread ▸ .approval q h)
  · rintro code message rfl _
    exact post_answers (hread ▸ .decline q code h)

theorem handleRequest_tells {q : Request} (hread : Request.read raw = .ok q) :
    (spokesman raw).Meets anywhere (handleRequest setup q) (fun _ _ _ => True) {} () := by
  have hsilent {e : Effect} (h : e.topic ≠ .answer ∧ e.topic ≠ .watched) : (spokesman raw).Overlooks e :=
    spokesman_overlooks h
  have hrun (policy : ConfirmationPolicy) : (spokesman raw).Meets anywhere (run setup q policy).run
      (fun outcome _ _ => Ends (·.Fits q.id q.payload) Stop.Redacted outcome) {} () :=
    meets_of_overlooked (((run_goesOn setup q policy).and (run_finishes q policy)).mono
      (fun e he => spokesman_overlooks (Effect.isSilent_of_isOnward he.1)) fun _ hr => hr.2)
      (fun _ => trivial) fun _ _ hr => hr
  have hcancelled : Stop.Redacted (.decline .userCancelled "Confirmation was cancelled") := Stop.redacted_decline _ _
  exact meets_handleRequest (fun _ _ => hsilent ⟨nofun, nofun⟩) (hsilent ⟨nofun, nofun⟩) (hsilent ⟨nofun, nofun⟩)
    (fun _ => trivial) trivial hrun (fun _ _ _ => ⟨trivial, hcancelled⟩) hcancelled
    fun outcome own _ h => (conclude_answers hread h).imp fun _ _ _ _ => ⟨trivial, trivial⟩

/-- **An envelope is answered only as it can be.** -/
theorem handle_tells (setup : Setup) (raw : Json) :
    (spokesman raw).Meets anywhere (handle setup raw) (fun _ _ _ => True) {} () := by
  unfold handle
  cases hread : Request.read raw with
  | error e => exact post_answers (hread ▸ .rejection e)
  | ok q => exact handleRequest_tells hread

/-- So it is in every run of a wallet, beside any number of other tasks. -/
theorem Run.posts_answer {w w' : Wallet (Except Error Unit)} {ss ss₁ ss₂ : List (Step (Except Error Unit))}
    {st posting : Step (Except Error Unit)} {m : Json} (run : Run w ss w') (hst : st ∈ ss)
    (hstart : st.move = .start (handle setup raw)) (hss : ss = ss₁ ++ posting :: ss₂)
    (hposting : posting.happening = .called st.before.tasks.length (.post m)) :
    ∃ r : Response, r.Answers raw (Request.read raw) ∧ m = r.message :=
  run.allowed_since_start hst hstart rfl (handle_tells setup raw) hss
    (e := .called (.post m)) (Happening.event?_of_eq hposting)

end PasskeyConsent

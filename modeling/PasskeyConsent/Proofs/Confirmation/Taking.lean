import PasskeyConsent.Proofs.Confirmation.Account
import PasskeyConsent.Proofs.Nonce.Sequencer
/-!
# What the steps take

The contract of each step that prompts for a credential or takes something that must be given back: numbers, the use of
a warm session, a session of the signing worker, a surface.  From them the contract of each operation's flow, and of
the whole part of a request that a cancel stops: wherever it is stopped or fails, the account tallies with the holdings.
-/
namespace PasskeyConsent.Account

open Observer Program Confirmation

variable {α β : Type} {setup : Setup} {id : String} {own : Holdings} {s : Account}

/-! ## Ceremonies -/

theorem ended_ofCredentialError (h : Tallies id false own s) (e : CredentialError) :
    Ended id (.ofCredentialError e) own (if e.isFatal then { s with missesPrf := true } else s) := by
  cases e with
  | missingPrfResult => exact ⟨{ h with missesPrf := rfl }, rfl⟩
  | noCredentials | authenticatorFailed | dismissed | store => exact h

/-- A ceremony keeps the account; it fails as its error says. -/
abbrev KeepsCeremony (id : String) (p : ExceptT CredentialError Program α)
    (P : α → Holdings → Account → Prop) (own : Holdings) (s : Account) : Prop :=
  keeper.Meets (Tallies id false) p.run (Ends P fun e => Ended id (.ofCredentialError e)) own s

theorem authenticators_keeps (h : Tallies id false own s) (account : String) :
    KeepsCeremony id (attempt (call (.authenticators account))) (Same own s) own s := by
  refine ⟨h, trivial, h, fun x => ⟨trivial, ?_⟩⟩
  cases x with
  | ok known => exact ⟨rfl, rfl⟩
  | error e => exact ended_ofCredentialError h e

theorem currentPasskey_keeps (h : Tallies id false own s) (account : String) (known : List StoredAuthenticator) :
    KeepsCeremony id (attempt (call (.currentPasskey account known))) (Same own s) own s := by
  refine ⟨h, trivial, h, fun x => ⟨trivial, ?_⟩⟩
  cases x with
  | ok selection => exact ⟨rfl, rfl⟩
  | error e => exact ended_ofCredentialError h e

/-- The account after a prompt, by what can be collected from the authenticator's answer. -/
def prompted (s : Account) : Except CredentialError CollectedCredential → Account
  | .ok _ => s
  | .error e => if e.isFatal then { s with missesPrf := true } else s

theorem after_missesPrf (s : Account) (r : Except CredentialError CollectedCredential) :
    (if (match r with | .ok _ => false | .error e => e.isFatal) then { s with missesPrf := true } else s) =
      s.prompted r := by
  cases r <;> rfl

theorem check_keeps (h : Tallies id false own s) (r : Except CredentialError CollectedCredential) :
    KeepsCeremony id (check r) (Same own s) own (s.prompted r) := by
  cases r with
  | ok c => exact ⟨rfl, rfl⟩
  | error e => exact ended_ofCredentialError h e

/-- A prompt and whatever becomes of its answer. -/
theorem assertion_keeps (h : Tallies id false own s) (options : AssertionOptions)
    {f : RawCredential → ExceptT CredentialError Program β} {P : β → Holdings → Account → Prop}
    (hf : ∀ raw, KeepsCeremony id (f raw) P own (s.prompted raw.collect)) :
    KeepsCeremony id (attempt (call (.assertion options)) >>= f) P own s := by
  refine ⟨h, trivial, h, fun x => ⟨trivial, ?_⟩⟩
  cases x with
  | ok raw =>
    have := hf raw
    rw [← after_missesPrf] at this
    exact this
  | error e => exact ended_ofCredentialError h e

theorem attestation_keeps (h : Tallies id false own s) (options : AttestationOptions)
    {f : RawCredential → ExceptT CredentialError Program β} {P : β → Holdings → Account → Prop}
    (hf : ∀ raw, KeepsCeremony id (f raw) P own (s.prompted raw.collect)) :
    KeepsCeremony id (attempt (call (.attestation options)) >>= f) P own s := by
  refine ⟨h, trivial, h, fun x => ⟨trivial, ?_⟩⟩
  cases x with
  | ok raw =>
    have := hf raw
    rw [← after_missesPrf] at this
    exact this
  | error e => exact ended_ofCredentialError h e

theorem collectAssertion_keeps (h : Tallies id false own s) (account : String) (challenge : Bytes) :
    Keeps id (Stage.collectAssertion setup id account challenge) (Same own s) own s := by
  refine meets_liftAccess fun _ _ => ⟨trivial, ?_⟩
  refine Meets.thenExcept (meets_orStop (P := Same own s) ?_) fun outcome own' s' hsame => ?_
  · refine meets_thenSame (authenticators_keeps h account) fun known => ?_
    refine meets_thenSame (currentPasskey_keeps h account known) fun selection => ?_
    split
    · exact ⟨rfl, rfl⟩
    · dsimp only
      split
      · exact h
      · exact assertion_keeps h _ fun raw => (check_keeps h raw.collect).thenExcept fun _ _ _ hsame => hsame
  · obtain ⟨rfl, rfl⟩ := hsame
    cases outcome with
    | collected c => exact ⟨rfl, rfl⟩
    | wrongPasskey message => exact h

theorem collectAttestation_keeps (h : Tallies id false own s) (account : String) (challenge : Bytes) :
    Keeps id (Stage.collectAttestation setup id account challenge) (Same own s) own s := by
  refine meets_liftAccess fun _ _ => ⟨trivial, meets_orStop ?_⟩
  refine meets_thenSame (authenticators_keeps h account) fun known => ?_
  exact attestation_keeps h _ fun raw => check_keeps h raw.collect

/-! ## Numbers, uses and sessions -/

theorem picked_nodup {count : Nat} {picked : List Nat} (h : (Access.reserve count).CanAnswer own (.ok picked)) :
    picked.Nodup := by
  obtain ⟨host, task, hx⟩ := h
  simp only [Host.access] at hx
  split at hx
  · cases hx
  · rename_i picked' sequencer hreserve
    cases hx
    exact Sequencer.reserve_nodup hreserve

theorem reserveNonces_keeps (h : Tallies id false own s) (hown : own.nonces = []) (count : Nat) :
    Keeps id (Stage.reserveNonces id count)
      (fun _ own' s' => Tallies id false own' s') own s := by
  refine meets_liftAccess fun _ _ => ⟨trivial, ?_⟩
  refine Meets.thenExcept (P := fun _ own' s' => Tallies id false own' s')
    (meets_orStop (p := attempt (access (.reserve count))) fun x hx => ⟨trivial, ?_⟩) fun _ _ _ h => h
  cases x with
  | error e => exact h
  | ok picked =>
    refine { h with reserved := ?_, nodup := ?_ }
    · show s.reserved ++ picked = own.nonces ++ picked
      rw [h.reserved]
    · show (own.nonces ++ picked).Nodup
      rw [hown]
      exact picked_nodup hx

/-- Attaching keeps the account: the session is attached when it succeeds and only then. -/
theorem attachInLane_keeps (h : Tallies id false own s) (timeout : Duration) :
    keeper.Meets (Tallies id false) (Handover.attachInLane timeout id)
      (Ends (Same own (s.attach id)) (Same own s)) own s := by
  refine meets_access fun there _ => ⟨trivial, ?_⟩
  cases there with
  | true => exact ⟨rfl, rfl⟩
  | false =>
    refine meets_access fun box _ => ⟨trivial, meets_wait ⟨fun _ => h, fun sent => ⟨trivial, ?_⟩⟩⟩
    cases sent with
    | error e => exact meets_access fun _ _ => ⟨trivial, rfl, rfl⟩
    | ok =>
      refine meets_access fun start _ => ⟨trivial, meets_wait ⟨fun _ => h, fun outcome => ⟨trivial, ?_⟩⟩⟩
      dsimp only
      split
      · exact meets_access fun _ _ => ⟨trivial, rfl, rfl⟩
      · exact meets_access fun _ _ => ⟨h.holds, rfl, rfl⟩

theorem attach_keeps (h : Tallies id false own s) (timeout : Duration) :
    keeper.Meets (Tallies id false) (Handover.attach timeout id).run
      (Ends (Same own (s.attach id)) (Same own s)) own s :=
  meets_wait ⟨fun _ => h, fun _ => ⟨trivial, meets_bind ((attachInLane_keeps h timeout).imp fun _ _ _ hr =>
    meets_access fun _ _ => ⟨trivial, hr⟩)⟩⟩

/-- Depositing leaves the session attached no longer, whether the seed arrives or not. -/
theorem deposit_keeps {session : String} (h : Tallies id false own (s.detach session)) (seed : SeedMaterial) :
    keeper.Meets (Tallies id false) (Handover.deposit session seed).run
      (Ends (Same own (s.detach session)) (Same own (s.detach session))) own s := by
  refine Meets.thenExcept (p := attempt (access (.deposit session seed))) (P := Same own (s.detach session))
    (fun x _ => ⟨trivial, ?_⟩) ?_
  · cases x with
    | ok => exact ⟨rfl, rfl⟩
    | error e => exact ⟨rfl, rfl⟩
  · rintro _ _ _ ⟨rfl, rfl⟩
    refine ⟨fun _ => h, fun x => ⟨trivial, ?_⟩⟩
    cases x with
    | ok => exact ⟨rfl, rfl⟩
    | error e => exact ⟨rfl, rfl⟩

/-- The session is attached and supplied without a place to stop in between. -/
theorem deliverSeed_keeps (h : Tallies id false own s) (prf : PrfOutputs) :
    Keeps id (Stage.deliverSeed setup id prf) (fun _ own' s' => Tallies id false own' s') own s := by
  unfold Stage.deliverSeed
  split
  · exact h
  · rename_i timeout _
    have hheld : Tallies id false { own with channel := some id } s := { h with }
    have hgone : Tallies id false { own with channel := some id } ((s.attach id).detach id) :=
      { h with
        attachments := fun session hsession => by
          rcases List.mem_append.1 hsession with hsession | hsession
          · exact h.attachments session hsession
          · exact List.mem_singleton.1 hsession
        attached := by
          show (s.attached ++ [id]).filter (· != id) = []
          simp [h.attached] }
    refine meets_liftAccess fun _ _ => ⟨trivial, ?_⟩
    refine Meets.thenExcept (P := Same { own with channel := some id } ((s.attach id).detach id))
      (meets_orStop (Meets.thenExcept (P := Same { own with channel := some id } (s.attach id)) ?_ ?_)) ?_
    · refine (attach_keeps hheld timeout).imp fun r _ _ hr => ?_
      cases r with
      | ok => exact hr
      | error e =>
        obtain ⟨rfl, rfl⟩ := hr
        exact hheld
    · rintro _ _ _ ⟨rfl, rfl⟩
      refine (deposit_keeps hgone _).imp fun r _ _ hr => ?_
      cases r with
      | ok => exact hr
      | error e =>
        obtain ⟨rfl, rfl⟩ := hr
        exact hgone
    · rintro _ _ _ ⟨rfl, rfl⟩
      exact fun _ _ => ⟨trivial, { hgone with }⟩

theorem grantSession_keeps (h : Tallies id false own s) (session account : String) :
    Keeps id (Stage.grantSession id session account) (Same own s) own s := by
  refine meets_liftAccess fun x _ => ⟨trivial, ?_⟩
  cases x with
  | some g => exact ⟨rfl, rfl⟩
  | none =>
    exact meets_liftAccess fun _ _ => ⟨⟨h.holds, h.attachments⟩, fun hw => absurd rfl hw, fun e => nomatch e⟩

/-! ## Flows -/

/-- An approval under the id of the request, with its surface still open. -/
structure Approves (id : String) (r : Response) (own : Holdings) (s : Account) : Prop where
  running : Running id false own s
  requestId : r.requestId = id
  confirmed : r.confirmed = true

theorem signWithCeremony_keeps (h : Tallies id false own s) (hown : own.nonces = []) (p : SignTransactionPayload)
    (count : Nat) : Keeps id (signWithCeremony setup id p count) (Approves id) own s := by
  refine h.after_topics (keepsTo_turnContext _) (by simp) fun base => ?_
  refine h.after_topics (keepsTo_bootstrap _ _ _) (by simp) fun _ => ?_
  refine h.after_topics (keepsTo_bindFreshness _ _ _ _) (by simp) fun challenge => ?_
  refine meets_thenSame (collectAssertion_keeps h _ _) fun collected => ?_
  refine Meets.thenExcept (reserveNonces_keeps h hown count) fun nonces own s h => ?_
  refine Meets.thenExcept (deliverSeed_keeps h collected.prf) fun _ own s h => ?_
  split
  · exact ⟨h.toRunning, rfl, rfl⟩
  · rename_i session _
    exact meets_thenSame (Meets.mapExcept (grantSession_keeps h session p.account) fun _ _ _ hsame => hsame) fun _ =>
      ⟨h.toRunning, rfl, rfl⟩

theorem linkDevice_keeps (h : Tallies id false own s) (hown : own.nonces = []) (p : LinkDevicePayload) (count : Nat) :
    Keeps id (linkDevice setup id p count) (Approves id) own s := by
  refine h.after_topics (keepsTo_turnContext _) (by simp) fun base => ?_
  refine h.after_topics (keepsTo_bootstrap _ _ _) (by simp) fun _ => ?_
  refine h.after_topics (keepsTo_bindFreshness _ _ _ _) (by simp) fun challenge => ?_
  refine meets_thenSame (collectAssertion_keeps h _ _) fun collected => ?_
  refine Meets.thenExcept (reserveNonces_keeps h hown count) fun nonces own s h => ?_
  exact Meets.thenExcept (deliverSeed_keeps h collected.prf) fun _ own s h => ⟨h.toRunning, rfl, rfl⟩

theorem signOnSession_keeps (h : Tallies id false own s) (hown : own.nonces = [] ∧ own.warmUse = none)
    (p : SignTransactionPayload) (count : Nat) : Keeps id (signOnSession id p count) (Approves id) own s := by
  refine h.after_topics (keepsTo_turnContext _) (by simp) fun base => ?_
  refine Meets.thenExcept (P := fun grant own' s' => own'.nonces = [] ∧ Tallies id false own' s')
    (meets_orStop (p := attempt (access (.consume (p.sessionId.getD "") p.account))) fun x _ => ⟨trivial, ?_⟩) ?_
  · cases x with
    | error e => exact h
    | ok grant =>
      refine ⟨hown.1, { h with consumed := ?_ }⟩
      show s.consumed ++ [(grant, p.account)] = [(grant, p.account)]
      rw [h.consumed, hown.2]
      rfl
  · rintro grant own s ⟨hnonces, h⟩
    refine meets_thenSame
      (meets_orStop (p := attempt (call (.dispense grant p.account))) ⟨h, trivial, h, fun x => ⟨trivial, ?_⟩⟩) fun _ => ?_
    · cases x with
      | ok => exact ⟨rfl, rfl⟩
      | error e => exact h
    · refine Meets.thenExcept (reserveNonces_keeps h hnonces count) fun nonces own s h => ?_
      exact fun _ _ => ⟨trivial, { h.toRunning with }, rfl, rfl⟩

theorem register_keeps (h : Tallies id false own s) (p : RegisterAccountPayload) :
    Keeps id (register setup id p) (Approves id) own s := by
  refine h.after_topics keepsTo_latestBlock (by simp) fun block => ?_
  refine meets_liftAccess fun _ _ => ⟨trivial, ?_⟩
  refine h.after_topics (keepsTo_bootstrap _ _ _) (by simp) fun _ => ?_
  refine h.after_topics (keepsTo_bindFreshness _ _ _ _) (by simp) fun challenge => ?_
  refine meets_thenSame (collectAttestation_keeps h _ _) fun collected => ?_
  exact Meets.thenExcept (deliverSeed_keeps h collected.prf) fun _ own s h => ⟨h.toRunning, rfl, rfl⟩

theorem decryptKey_keeps (h : Tallies id false own s) (p : DecryptPrivateKeyPayload) :
    Keeps id (decryptKey setup id p) (Approves id) own s := by
  refine meets_thenSame (collectAssertion_keeps h _ _) fun collected => ?_
  split
  · exact ⟨h.toRunning, rfl, rfl⟩
  · exact Meets.thenExcept (deliverSeed_keeps h collected.prf) fun _ own s h => ⟨h.toRunning, rfl, rfl⟩

theorem signMessage_keeps (h : Tallies id false own s) (p : SignMessagePayload) :
    Keeps id (signMessage setup id p) (Approves id) own s := by
  refine h.after_topics keepsTo_latestBlock (by simp) fun block => ?_
  refine h.after_topics (keepsTo_bootstrap _ _ _) (by simp) fun _ => ?_
  refine h.after_topics (keepsTo_bindFreshness _ _ _ _) (by simp) fun challenge => ?_
  refine meets_thenSame (collectAssertion_keeps h _ _) fun collected => ?_
  exact Meets.thenExcept (deliverSeed_keeps h collected.prf) fun _ own s h => ⟨h.toRunning, rfl, rfl⟩

theorem showKey_keeps (h : Tallies id false own s) (p : ShowPrivateKeyPayload) :
    Keeps id (showKey setup id p) (Approves id) own s := by
  refine meets_thenSame (collectAssertion_keeps h _ _) fun collected => ?_
  exact Meets.thenExcept (deliverSeed_keeps h collected.prf) fun _ own s h => ⟨h.toRunning, rfl, rfl⟩

theorem perform_keeps {r : Request} (h : Tallies r.id false own s) (hown : own.nonces = [] ∧ own.warmUse = none) :
    Keeps r.id (perform setup r) (Approves r.id) own s := by
  unfold perform
  split
  · split
    · exact signWithCeremony_keeps h hown.1 _ _
    · exact signOnSession_keeps h hown _ _
  · exact register_keeps h _
  · exact decryptKey_keeps h _
  · exact signMessage_keeps h _
  · exact linkDevice_keeps h hown.1 _ _
  · exact showKey_keeps h _

/-- Showing the surface takes it and nothing else. -/
theorem awaitUser_keeps {r : Request} (h : Tallies r.id false own s) (hown : own.surface = none)
    (policy : ConfirmationPolicy) :
    Keeps r.id (awaitUser r policy)
      (fun _ own' s' => Tallies r.id false own' s' ∧ own'.nonces = own.nonces ∧ own'.warmUse = own.warmUse) own s := by
  refine meets_liftAccess fun _ _ => ⟨trivial, ?_⟩
  refine meets_liftCall ⟨h, trivial, h, fun surface => ⟨trivial, ?_⟩⟩
  refine meets_liftAccess fun _ _ => ⟨trivial, ?_⟩
  have hshown : Tallies r.id false { own with surface := some surface } { s with mounted := s.mounted ++ [surface] } :=
    { h with mounted := by rw [h.mounted, hown]; rfl }
  refine meets_liftCall ⟨hshown, trivial, hshown, fun decision => ⟨trivial, ?_⟩⟩
  dsimp only
  split
  · exact hshown
  · exact ⟨hshown, rfl, rfl⟩
  · exact ⟨hshown, rfl, rfl⟩

/-- **The part of a request that a cancel stops**: wherever it is stopped or fails, the account tallies. -/
theorem run_keeps {r : Request} (h : Tallies r.id false {} s) (policy : ConfirmationPolicy) :
    Keeps r.id (run setup r policy) (Approves r.id) {} s := by
  unfold run
  split
  · refine Meets.thenExcept (awaitUser_keeps h rfl policy) ?_
    rintro _ own s ⟨h, hnonces, hwarmUse⟩
    exact perform_keeps h ⟨hnonces, hwarmUse⟩
  · exact perform_keeps h ⟨rfl, rfl⟩

end PasskeyConsent.Account

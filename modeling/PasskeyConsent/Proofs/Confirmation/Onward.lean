import PasskeyConsent.Proofs.Confirmation.Topics
/-!
# Going on

Until it is concluded a request only goes on, and what it comes to unless it stops is an approval (`run_goesOn`): none
of the effects of its flow gives back a number or the use of a session, none of them answers, and none begins to
respond.  Giving back and answering are left to the conclusion.
-/
namespace PasskeyConsent

open Program Confirmation

variable {α β ε : Type}

/-- The effects by which a request goes on: all but those that give back, those that respond and those that are
watched. -/
def Effect.isOnward : Effect → Bool
  | .access (.release _) | .access (.releaseText _) | .access .releaseAll | .access (.restore _) => false
  | .access (.enter _ .responding) => false
  | .suspend (.call (.reclaim ..)) | .suspend (.call (.post _)) => false
  | .watched .. => false
  | _ => true

/-- An effect that answers nothing and is not watched. -/
def Effect.IsSilent (e : Effect) : Prop := e.topic ≠ .answer ∧ e.topic ≠ .watched

theorem Effect.isSilent_of_isOnward {e : Effect} (h : e.isOnward = true) : e.IsSilent := by
  cases e with
  | access a => cases a <;> exact ⟨nofun, nofun⟩
  | suspend u =>
    cases u with
    | call c =>
      cases c
      case post => cases h
      all_goals exact ⟨nofun, nofun⟩
    | wait w => cases w <;> exact ⟨nofun, nofun⟩
  | watched => cases h

theorem Effect.isSilent_of_topics {topics : List Topic} {e : Effect} (he : topics.contains e.topic = true)
    (ht : Topic.answer ∉ topics ∧ Topic.watched ∉ topics) : e.IsSilent := by
  have hmem := List.contains_iff_mem.1 he
  exact ⟨fun h => ht.1 (h ▸ hmem), fun h => ht.2 (h ▸ hmem)⟩

theorem Program.silent_of_topics {topics : List Topic} {R : α → Prop} {p : Program α} (h : p.KeepsTo topics R)
    (ht : Topic.answer ∉ topics ∧ Topic.watched ∉ topics) : p.Only Effect.IsSilent R :=
  Only.mono h (fun _ he => Effect.isSilent_of_topics he ht) fun _ hr => hr

/-- The topics of which every effect goes on. -/
def Topic.isOnward : Topic → Bool
  | .release | .session | .state | .answer | .watched => false
  | _ => true

theorem Effect.isOnward_of_topic {e : Effect} (h : e.topic.isOnward = true) : e.isOnward = true := by
  cases e with
  | access a => cases a <;> first | rfl | cases h
  | suspend u =>
    cases u with
    | call c => cases c <;> first | rfl | cases h
    | wait w => rfl
  | watched => cases h

/-- A part of a request that only goes on; unless it stops, it comes to what `P` says. -/
abbrev GoesOn (P : α → Prop) (p : ExceptT ε Program α) : Prop :=
  p.run.Only (fun e => e.isOnward = true) (Ends P anyResult)

/-- A part about other things than giving back, responding and the states. -/
theorem goesOn_of_topics {topics : List Topic} {R : Except ε α → Prop} {p : ExceptT ε Program α}
    (h : p.run.KeepsTo topics R) (ht : topics.all Topic.isOnward = true) : GoesOn anyResult p :=
  Only.mono h (fun _ he => Effect.isOnward_of_topic (List.all_eq_true.1 ht _ (List.contains_iff_mem.1 he)))
    fun r _ => anyEnd r

theorem GoesOn.orStop {P : α → Prop} {p : ExceptT ε Program α} {stop : ε → Stop} (h : GoesOn P p) :
    GoesOn P (Stage.orStop p stop) := only_orStop h fun _ _ => trivial

/-! ## The steps -/

theorem bindFreshness_goesOn (id key : String) (input : FreshnessInput) (path : Freshness.Path) :
    GoesOn anyResult (Stage.bindFreshness id key input path) := by
  have hbind (input : FreshnessInput) :
      GoesOn anyResult (Stage.orStop (Freshness.bind key input path) Stage.challengeUnavailable) :=
    GoesOn.orStop (goesOn_of_topics (keepsTo_freshnessBind key input path) (by decide))
  refine Only.liftAccess rfl fun _ => Only.liftCall rfl fun block => ?_
  cases block with
  | error e => exact hbind input
  | ok block => exact hbind { input with blockHeight := block.height, blockHash := block.hash }

theorem collectAssertion_goesOn (setup : Setup) (id account : String) (challenge : Bytes) :
    GoesOn anyResult (Stage.collectAssertion setup id account challenge) := by
  have hceremony := goesOn_of_topics (keepsTo_ceremony_assertion setup.rpId account none challenge) (by decide)
  refine Only.liftAccess rfl fun _ => Only.bindExcept hceremony.orStop fun c _ => ?_
  cases c with
  | collected c => exact trivial
  | wrongPasskey message => exact trivial

theorem collectAttestation_goesOn (setup : Setup) (id account : String) (challenge : Bytes) :
    GoesOn anyResult (Stage.collectAttestation setup id account challenge) :=
  Only.liftAccess rfl fun _ =>
    (goesOn_of_topics (keepsTo_ceremony_attestation setup.rpId account challenge) (by decide)).orStop

theorem reserveNonces_goesOn (id : String) (count : Nat) : GoesOn anyResult (Stage.reserveNonces id count) := by
  have hreserve : GoesOn anyResult (attempt (access (.reserve count))) := ⟨rfl, anyEnd⟩
  exact Only.liftAccess rfl fun _ => Only.bindExcept hreserve.orStop fun _ _ => trivial

theorem grantSession_goesOn (id session account : String) :
    GoesOn anyResult (Stage.grantSession id session account) := by
  refine Only.liftAccess rfl fun x => ?_
  cases x with
  | some g => exact trivial
  | none => exact Only.liftAccess rfl fun _ => ⟨rfl, fun e => nomatch e⟩

theorem awaitUser_goesOn (r : Request) (policy : ConfirmationPolicy) : GoesOn anyResult (awaitUser r policy) := by
  refine Only.liftAccess rfl fun _ => Only.liftCall rfl fun surface => Only.liftAccess rfl fun _ => ?_
  refine Only.liftCall rfl fun decision => ?_
  split <;> exact trivial

/-! ## The flows -/

theorem signWithCeremony_goesOn (setup : Setup) (id : String) (p : SignTransactionPayload) (count : Nat) :
    GoesOn (·.confirmed = true) (signWithCeremony setup id p count) := by
  refine Only.bindExcept (goesOn_of_topics (keepsTo_turnContext _) (by decide)) fun base _ => ?_
  refine Only.bindExcept (goesOn_of_topics (keepsTo_bootstrap _ _ _) (by decide)) fun _ _ => ?_
  refine Only.bindExcept (bindFreshness_goesOn _ _ _ _) fun challenge _ => ?_
  refine Only.bindExcept (collectAssertion_goesOn _ _ _ _) fun collected _ => ?_
  refine Only.bindExcept (reserveNonces_goesOn _ _) fun nonces _ => ?_
  refine Only.bindExcept (goesOn_of_topics (keepsTo_deliverSeed _ _ _) (by decide)) fun _ _ => ?_
  dsimp only
  split
  · exact rfl
  · exact Only.bindExcept (only_map some (grantSession_goesOn _ _ _)) fun _ _ => rfl

theorem signOnSession_goesOn (id : String) (p : SignTransactionPayload) (count : Nat) :
    GoesOn (·.confirmed = true) (signOnSession id p count) := by
  have hconsume : GoesOn anyResult (attempt (access (.consume (p.sessionId.getD "") p.account))) := ⟨rfl, anyEnd⟩
  have hdispense (grant : WarmSessionGrant) : GoesOn anyResult (attempt (call (.dispense grant p.account))) :=
    ⟨rfl, anyEnd⟩
  refine Only.bindExcept (goesOn_of_topics (keepsTo_turnContext _) (by decide)) fun base _ => ?_
  refine Only.bindExcept hconsume.orStop fun grant _ => Only.bindExcept (hdispense grant).orStop fun _ _ => ?_
  exact Only.bindExcept (reserveNonces_goesOn _ _) fun nonces _ => Only.liftAccess rfl fun _ => rfl

theorem register_goesOn (setup : Setup) (id : String) (p : RegisterAccountPayload) :
    GoesOn (·.confirmed = true) (register setup id p) := by
  refine Only.bindExcept (goesOn_of_topics keepsTo_latestBlock (by decide)) fun block _ => ?_
  refine Only.liftAccess rfl fun _ => ?_
  refine Only.bindExcept (goesOn_of_topics (keepsTo_bootstrap _ _ _) (by decide)) fun _ _ => ?_
  refine Only.bindExcept (bindFreshness_goesOn _ _ _ _) fun challenge _ => ?_
  refine Only.bindExcept (collectAttestation_goesOn _ _ _ _) fun collected _ => ?_
  exact Only.bindExcept (goesOn_of_topics (keepsTo_deliverSeed _ _ _) (by decide)) fun _ _ => rfl

theorem decryptKey_goesOn (setup : Setup) (id : String) (p : DecryptPrivateKeyPayload) :
    GoesOn (·.confirmed = true) (decryptKey setup id p) := by
  refine Only.bindExcept (collectAssertion_goesOn _ _ _ _) fun collected _ => ?_
  dsimp only
  split
  · exact rfl
  · exact Only.bindExcept (goesOn_of_topics (keepsTo_deliverSeed _ _ _) (by decide)) fun _ _ => rfl

theorem signMessage_goesOn (setup : Setup) (id : String) (p : SignMessagePayload) :
    GoesOn (·.confirmed = true) (signMessage setup id p) := by
  refine Only.bindExcept (goesOn_of_topics keepsTo_latestBlock (by decide)) fun block _ => ?_
  refine Only.bindExcept (goesOn_of_topics (keepsTo_bootstrap _ _ _) (by decide)) fun _ _ => ?_
  refine Only.bindExcept (bindFreshness_goesOn _ _ _ _) fun challenge _ => ?_
  refine Only.bindExcept (collectAssertion_goesOn _ _ _ _) fun collected _ => ?_
  exact Only.bindExcept (goesOn_of_topics (keepsTo_deliverSeed _ _ _) (by decide)) fun _ _ => rfl

theorem linkDevice_goesOn (setup : Setup) (id : String) (p : LinkDevicePayload) (count : Nat) :
    GoesOn (·.confirmed = true) (linkDevice setup id p count) := by
  refine Only.bindExcept (goesOn_of_topics (keepsTo_turnContext _) (by decide)) fun base _ => ?_
  refine Only.bindExcept (goesOn_of_topics (keepsTo_bootstrap _ _ _) (by decide)) fun _ _ => ?_
  refine Only.bindExcept (bindFreshness_goesOn _ _ _ _) fun challenge _ => ?_
  refine Only.bindExcept (collectAssertion_goesOn _ _ _ _) fun collected _ => ?_
  refine Only.bindExcept (reserveNonces_goesOn _ _) fun nonces _ => ?_
  exact Only.bindExcept (goesOn_of_topics (keepsTo_deliverSeed _ _ _) (by decide)) fun _ _ => rfl

theorem showKey_goesOn (setup : Setup) (id : String) (p : ShowPrivateKeyPayload) :
    GoesOn (·.confirmed = true) (showKey setup id p) := by
  refine Only.bindExcept (collectAssertion_goesOn _ _ _ _) fun collected _ => ?_
  exact Only.bindExcept (goesOn_of_topics (keepsTo_deliverSeed _ _ _) (by decide)) fun _ _ => rfl

/-- **The part of a request that a cancel stops** only goes on, and ends with an approval or a stop. -/
theorem run_goesOn (setup : Setup) (r : Request) (policy : ConfirmationPolicy) :
    GoesOn (·.confirmed = true) (run setup r policy) := by
  have hperform : GoesOn (·.confirmed = true) (perform setup r) := by
    unfold perform
    split
    · split
      · exact signWithCeremony_goesOn _ _ _ _
      · exact signOnSession_goesOn _ _ _
    · exact register_goesOn _ _ _
    · exact decryptKey_goesOn _ _ _
    · exact signMessage_goesOn _ _ _
    · exact linkDevice_goesOn _ _ _ _
    · exact showKey_goesOn _ _ _
  unfold run
  split
  · exact Only.bindExcept (awaitUser_goesOn r policy) fun _ _ => hperform
  · exact hperform

end PasskeyConsent

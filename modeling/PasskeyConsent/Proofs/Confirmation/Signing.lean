import PasskeyConsent.Proofs.Concurrency.Composition
import PasskeyConsent.Proofs.Confirmation.Topics
import PasskeyConsent.Proofs.Response.Message
/-!
# What a request has signed

The record of a request as far as its challenge is concerned: what the random function has answered, which bootstraps
it has read, what the authenticator was prompted with, and what was posted.  A challenge is known to a request that read
it or made it from an answer of the random function.  A request keeps no other as a bootstrap, and a confirmation tells
a challenge just when its operation binds one: a known one, over which the one prompt was (`handle_signs`).
-/
namespace PasskeyConsent

variable {α β ε : Type}

/-- Whether the approval of a request tells the challenge that was signed. -/
def Payload.bindsChallenge : Payload → Bool
  | .signTransaction p => p.authMode = .webAuthn
  | .registerAccount _ | .signMessage _ | .linkDevice _ => true
  | .decryptPrivateKey _ | .showPrivateKey _ => false

/-- What the authenticator is prompted with. -/
def Event.prompt? : Event → Option Bytes
  | .called (.assertion options) => some options.challenge
  | .called (.attestation options) => some options.challenge
  | _ => none

/-- What a request has seen and done of challenges. -/
structure Signing where
  /-- The answers of the random function, each with its input. -/
  outputs : List (Bytes × VrfOutput) := []
  /-- The bootstraps that it has read. -/
  shown : List FreshnessChallenge := []
  prompts : List Bytes := []
  posted : List Json := []

namespace Signing

open Observer Program Confirmation

def after (s : Signing) : Event → Signing
  | .answered (.evaluate input) (.ok o) => { s with outputs := s.outputs ++ [(input, o)] }
  | .answered (.evaluateWithNewKeypair input) (.ok o) => { s with outputs := s.outputs ++ [(input, o)] }
  | .accessed (.bootstrap _) (some c) => { s with shown := s.shown ++ [c] }
  | .called (.assertion options) => { s with prompts := s.prompts ++ [options.challenge] }
  | .called (.attestation options) => { s with prompts := s.prompts ++ [options.challenge] }
  | .called (.post m) => { s with posted := s.posted ++ [m] }
  | _ => s

/-- The request has read the challenge, or made it from an answer of the random function. -/
def Knows (s : Signing) (c : FreshnessChallenge) : Prop :=
  c ∈ s.shown ∨ ∃ input output, (FreshnessInput.derive input, output) ∈ s.outputs ∧ c = .ofOutput input output

/-- What a confirmation tells of the challenge: that of the one prompt, if its operation binds one. -/
structure Confirms (s : Signing) (binds : Bool) (m : Json) : Prop where
  challenge : (m.get? "vrfChallenge").isSome = binds
  credential : binds = true → (m.get? "credential").isSome = true
  signed : ∀ v, m.get? "vrfChallenge" = some v →
    ∃ c, v = FreshnessChallenge.codec.encode c ∧ s.Knows c ∧ s.prompts = [c.signedBytes]

/-- The one who sees to it that only a known challenge is kept as a bootstrap. -/
def minter : Observer Signing where
  after := after
  allows
    | s, .accessed (.keepBootstrap _ c) _ => s.Knows c
    | _, _ => True

/-- The same, who also sees to it that nothing is prompted for after the answer and that a confirmation tells what was
signed. -/
def signer (binds : Bool) : Observer Signing where
  after := after
  allows
    | s, .accessed (.keepBootstrap _ c) _ => s.Knows c
    | s, .called (.assertion _) | s, .called (.attestation _) => s.posted = []
    | s, .called (.post m) => m.get? "confirmed" = some (.bool true) → s.Confirms binds m
    | _, _ => True

theorem minter_seen_prompts (s : Signing) (h : History) :
    (minter.seen s h).prompts = s.prompts ++ h.filterMap Event.prompt? := by
  induction h generalizing s with
  | nil => simp
  | cons e h ih =>
    have hstep : (s.after e).prompts = s.prompts ++ e.prompt?.toList := by
      unfold after
      split <;> simp [Event.prompt?]
    rw [seen_cons, ih]
    show (s.after e).prompts ++ _ = _
    rw [hstep]
    cases he : e.prompt? with
    | none => rw [List.filterMap_cons_none he]; simp
    | some b => rw [List.filterMap_cons_some he]; simp

/-- What was posted stays posted. -/
theorem posted_after (s : Signing) (e : Event) : s.posted ⊆ (s.after e).posted := by
  intro m hm
  unfold after
  split <;> first | exact hm | exact List.mem_append_left _ hm

theorem posted_seen (h : History) (s : Signing) : s.posted ⊆ (minter.seen s h).posted := by
  induction h generalizing s with
  | nil => exact fun _ => id
  | cons e h ih => exact fun m hm => ih _ (s.posted_after e hm)

/-- The answers of the random function come as they are answered. -/
theorem mem_outputs_after {s : Signing} {e : Event} {input : Bytes} {o : VrfOutput}
    (h : (input, o) ∈ (s.after e).outputs) :
    (input, o) ∈ s.outputs ∨ e = .answered (.evaluate input) (.ok o) ∨
      e = .answered (.evaluateWithNewKeypair input) (.ok o) := by
  unfold after at h
  split at h
  · rcases List.mem_append.1 h with h | h
    · exact .inl h
    · cases List.mem_singleton.1 h
      exact .inr (.inl rfl)
  · rcases List.mem_append.1 h with h | h
    · exact .inl h
    · cases List.mem_singleton.1 h
      exact .inr (.inr rfl)
  all_goals exact .inl h

theorem mem_shown_after {s : Signing} {e : Event} {c : FreshnessChallenge} (h : c ∈ (s.after e).shown) :
    c ∈ s.shown ∨ ∃ key, e = .accessed (.bootstrap key) (some c) := by
  unfold after at h
  split at h
  case h_3 =>
    rcases List.mem_append.1 h with h | h
    · exact .inl h
    · cases List.mem_singleton.1 h
      exact .inr ⟨_, rfl⟩
  all_goals exact .inl h

/-! ## Steps -/

/-- Nothing was posted yet. -/
def Unposted : Holdings → Signing → Prop := fun _ s => s.posted = []

/-- A step goes on as `P` says; wherever it stops or fails nothing was posted. -/
abbrev Brings (binds : Bool) (p : ExceptT ε Program α) (P : α → Signing → Prop) (s : Signing) : Prop :=
  ∀ own, (signer binds).Meets Unposted p.run (Ends (fun a _ s' => P a s') fun _ _ s' => s'.posted = []) own s

variable {binds : Bool} {s : Signing} {setup : Setup} {id : String}

theorem Brings.bind {p : ExceptT ε Program α} {f : α → ExceptT ε Program β} {P : α → Signing → Prop}
    {Q : β → Signing → Prop} (h : Brings binds p P s) (hf : ∀ a s, P a s → Brings binds (f a) Q s) :
    Brings binds (p >>= f) Q s := Observer.Brings.bind h hf

theorem Brings.done {a : α} {P : α → Signing → Prop} (h : P a s) :
    Brings binds (pure a : ExceptT ε Program α) P s := Observer.Brings.done h

/-- The topics that have nothing to do with challenges. -/
abbrev otherTopics : List Topic :=
  [.clock, .key, .binding, .turn, .chain, .reservation, .release, .session, .handover, .registry, .cancellation, .state, .surface,
   .holdings, .preferences, .breakdown]

theorem signer_overlooks : (signer binds).OverlooksTopics otherTopics := by
  refine .of_events rfl fun e he s => ?_
  cases e with
  | accessed a x => cases a <;> first | exact absurd he Bool.false_ne_true | exact ⟨trivial, rfl⟩
  | called c => cases c <;> first | exact absurd he Bool.false_ne_true | exact ⟨trivial, rfl⟩
  | answered c x => cases c <;> first | exact absurd he Bool.false_ne_true | exact ⟨trivial, rfl⟩
  | waited w x => exact ⟨trivial, rfl⟩
  | stopped => exact absurd he Bool.false_ne_true

/-- Nothing was signed or posted yet. -/
structure Idle (s : Signing) : Prop where
  prompts : s.prompts = []
  posted : s.posted = []

/-- A challenge is there to be signed. -/
structure Fresh (c : FreshnessChallenge) (s : Signing) : Prop extends Idle s where
  knows : s.Knows c

theorem Knows.of_subset {s' : Signing} {c : FreshnessChallenge} (h : s.Knows c) (houtputs : s.outputs ⊆ s'.outputs)
    (hshown : s.shown ⊆ s'.shown) : s'.Knows c := by
  rcases h with h | ⟨input, output, hmem, hc⟩
  · exact .inl (hshown h)
  · exact .inr ⟨input, output, houtputs hmem, hc⟩

/-- A challenge is minted from the function's answer; without an answer nothing has changed. -/
theorem mint_brings (hs : s.Idle) (input : FreshnessInput) (path : Freshness.Path) (own : Holdings) :
    (signer binds).Meets Unposted (Freshness.mint input path).run
      (Ends (fun c _ s' => Fresh c s') fun _ _ s' => s' = s) own s := by
  have hanswer (x : Except FreshnessError VrfOutput) (s' : Signing)
      (hs' : s' = match x with | .ok o => { s with outputs := s.outputs ++ [(input.derive, o)] } | .error _ => s) :
      (signer binds).Meets Unposted
        (attempt (pure x) >>= fun output => pure (.ofOutput input output) : ExceptT FreshnessError Program _).run
        (Ends (fun c _ s' => Fresh c s') fun _ _ s' => s' = s) own s' := by
    subst hs'
    cases x with
    | ok o =>
      refine ⟨⟨hs.prompts, hs.posted⟩, .inr ⟨input, o, ?_, rfl⟩⟩
      exact List.mem_append_right _ (List.mem_singleton_self _)
    | error e => exact rfl
  cases path with
  | session =>
    refine meets_call ⟨hs.posted, trivial, hs.posted, fun x => ⟨trivial, hanswer x _ ?_⟩⟩
    cases x <;> rfl
  | newKeypair =>
    refine meets_call ⟨hs.posted, trivial, hs.posted, fun x => ⟨trivial, hanswer x _ ?_⟩⟩
    cases x <;> rfl

theorem freshnessBootstrap_brings (hs : s.Idle) (key : String) (input : FreshnessInput) (path : Freshness.Path) :
    Brings binds (Freshness.bootstrap key input path) Fresh s := by
  intro own
  refine meets_bind ((mint_brings hs input path own).imp fun r own s' hr => ?_)
  cases r with
  | ok c => exact fun _ _ => ⟨hr.knows, hr⟩
  | error e =>
    subst hr
    exact hs.posted

/-- A kept bootstrap that was read is known, also when a newer one cannot be had. -/
theorem freshnessBind_brings (hs : s.Idle) (key : String) (input : FreshnessInput) (path : Freshness.Path) :
    Brings binds (Freshness.bind key input path) Fresh s := by
  intro own
  refine meets_access fun kept _ => ⟨by cases kept <;> exact trivial, ?_⟩
  cases kept with
  | none => exact freshnessBootstrap_brings hs key input path own
  | some kept =>
    have hshown : Idle { s with shown := s.shown ++ [kept] } := ⟨hs.prompts, hs.posted⟩
    refine meets_bind ((mint_brings hshown input .session own).imp fun r own s' hr => ?_)
    cases r with
    | ok c => exact hr
    | error e =>
      subst hr
      exact ⟨hshown, .inl (List.mem_append_right _ (List.mem_singleton_self kept))⟩

theorem orStop_brings {p : ExceptT ε Program α} {stop : ε → Stop} {P : α → Signing → Prop} (h : Brings binds p P s) :
    Brings binds (Stage.orStop p stop) P s := Observer.Brings.orStop h

theorem bootstrap_brings (hs : s.Idle) (key : String) (input : FreshnessInput) (path : Freshness.Path) :
    Brings binds (Stage.bootstrap key input path) (fun _ s' => s'.Idle) s := by
  intro own
  refine meets_liftAccess fun kept _ => ⟨by cases kept <;> exact trivial, ?_⟩
  cases kept with
  | some kept => exact ⟨hs.prompts, hs.posted⟩
  | none =>
    exact (Brings.bind (orStop_brings (freshnessBootstrap_brings hs key input path)) fun c s' hc =>
      Brings.done hc.toIdle) own

theorem bindFreshness_brings (hs : s.Idle) (key : String) (input : FreshnessInput) (path : Freshness.Path) :
    Brings binds (Stage.bindFreshness id key input path) Fresh s := by
  intro own
  refine meets_liftAccess fun _ _ => ⟨trivial, ?_⟩
  refine meets_liftCall ⟨hs.posted, trivial, hs.posted, fun block => ⟨trivial, ?_⟩⟩
  cases block with
  | error e => exact orStop_brings (freshnessBind_brings hs key input path) own
  | ok block =>
    exact orStop_brings
      (freshnessBind_brings hs key { input with blockHeight := block.height, blockHash := block.hash } path) own

/-- The record after a prompt. -/
def prompt (s : Signing) (challenge : Bytes) : Signing := { s with prompts := s.prompts ++ [challenge] }

/-- What a ceremony leaves of the record: a credential comes of one prompt. -/
def AfterCeremony (challenge : Bytes) (s : Signing) : AssertionOutcome → Signing → Prop
  | .collected _, s' => s' = s.prompt challenge
  | .wrongPasskey _, s' => s'.posted = []

theorem authenticators_brings (hs : s.posted = []) (account : String) :
    Brings binds (attempt (call (.authenticators account))) (fun _ s' => s' = s) s :=
  fun _ => ⟨hs, trivial, hs, fun x => ⟨trivial, by cases x <;> first | rfl | exact hs⟩⟩

theorem currentPasskey_brings (hs : s.posted = []) (account : String) (known : List StoredAuthenticator) :
    Brings binds (attempt (call (.currentPasskey account known))) (fun _ s' => s' = s) s :=
  fun _ => ⟨hs, trivial, hs, fun x => ⟨trivial, by cases x <;> first | rfl | exact hs⟩⟩

theorem ceremony_brings (hs : s.posted = []) (rpId account : String) (challenge : Bytes) :
    Brings binds (Credential.collectAssertion rpId account none challenge) (s.AfterCeremony challenge) s := by
  refine (authenticators_brings hs account).bind fun known s' hs' => ?_
  subst hs'
  refine (currentPasskey_brings hs account known).bind fun selection s' hs' => ?_
  subst hs'
  split
  · exact Brings.done hs
  · dsimp only
    split
    · exact fun _ => hs
    · refine fun own => ⟨hs, hs, hs, fun x => ⟨trivial, ?_⟩⟩
      cases x with
      | error e => exact hs
      | ok raw =>
        show (signer binds).Meets Unposted
          (ExceptT.run (check raw.collect >>= fun c => pure (AssertionOutcome.collected c))) _ own (s'.prompt challenge)
        cases raw.collect with
        | error e => exact hs
        | ok c => exact rfl

theorem collectAssertion_brings (hs : s.posted = []) (account : String) (challenge : Bytes) :
    Brings binds (Stage.collectAssertion setup id account challenge) (fun _ s' => s' = s.prompt challenge) s := by
  intro own
  refine meets_liftAccess fun _ _ => ⟨trivial, ?_⟩
  refine (Brings.bind (orStop_brings (ceremony_brings hs setup.rpId account challenge)) fun outcome s' hs' => ?_) own
  cases outcome with
  | collected c => exact Brings.done hs'
  | wrongPasskey message => exact fun _ => hs'

theorem collectAttestation_brings (hs : s.posted = []) (account : String) (challenge : Bytes) :
    Brings binds (Stage.collectAttestation setup id account challenge) (fun _ s' => s' = s.prompt challenge) s := by
  intro own
  refine meets_liftAccess fun _ _ => ⟨trivial, orStop_brings
    (Brings.bind (authenticators_brings hs account) fun known s' hs' => ?_) own⟩
  subst hs'
  refine fun own => ⟨hs, hs, hs, fun x => ⟨trivial, ?_⟩⟩
  cases x with
  | error e => exact hs
  | ok raw =>
    show (signer binds).Meets Unposted (check raw.collect).run _ own (s'.prompt challenge)
    cases raw.collect with
    | error e => exact hs
    | ok c => exact rfl

/-! ## Flows -/

/-- The authenticator was prompted once, with a known challenge. -/
structure Attested (c : FreshnessChallenge) (s : Signing) : Prop where
  knows : s.Knows c
  prompts : s.prompts = [c.signedBytes]
  posted : s.posted = []

theorem Fresh.attested {c : FreshnessChallenge} {s' : Signing} (h : Fresh c s) (hs : s' = s.prompt c.signedBytes) :
    Attested c s' := by
  subst hs
  refine ⟨h.knows.of_subset (fun _ => id) (fun _ => id), ?_, h.posted⟩
  show s.prompts ++ [c.signedBytes] = [c.signedBytes]
  rw [h.prompts, List.nil_append]

/-- An approval tells a challenge just when the operation binds one: the one that was signed. -/
structure Signed (binds : Bool) (r : Response) (s : Signing) : Prop where
  challenge : r.vrfChallenge.isSome = binds
  credential : binds = true → r.credential.isSome = true
  signed : ∀ c, r.vrfChallenge = some c → s.Knows c ∧ s.prompts = [c.signedBytes]
  posted : s.posted = []

theorem Attested.signed {c : FreshnessChallenge} {r : Response} (h : Attested c s)
    (hchallenge : r.vrfChallenge = some c) (hcredential : r.credential.isSome = true) : Signed true r s where
  challenge := by rw [hchallenge]; rfl
  credential _ := hcredential
  signed c' hc' := by
    rw [hchallenge] at hc'
    cases hc'
    exact ⟨h.knows, h.prompts⟩
  posted := h.posted

theorem signed_of_none {r : Response} (hchallenge : r.vrfChallenge = none) (hs : s.posted = []) : Signed false r s where
  challenge := by rw [hchallenge]; rfl
  credential h := by cases h
  signed c hc := by rw [hchallenge] at hc; cases hc
  posted := hs

/-- A step about other things leaves everything as it was. -/
theorem Brings.after_topics {topics : List Topic} {F : ε → Prop} {p : ExceptT ε Program α}
    {f : α → ExceptT ε Program β} {Q : β → Signing → Prop} (h : p.run.KeepsTo topics (Ends anyResult F))
    (ht : topics ⊆ otherTopics) (hs : s.posted = []) (hf : ∀ a, Brings binds (f a) Q s) : Brings binds (p >>= f) Q s :=
  Observer.Brings.after_topics (signer_overlooks.mono ht) h hs hf

theorem signWithCeremony_brings (hs : s.Idle) (p : SignTransactionPayload) (count : Nat) :
    Brings true (signWithCeremony setup id p count) (Signed true) s := by
  refine .after_topics (keepsTo_turnContext _) (by decide) hs.posted fun base => ?_
  refine (bootstrap_brings hs _ _ _).bind fun _ s hs => ?_
  refine (bindFreshness_brings hs _ _ _).bind fun challenge s hs => ?_
  refine (collectAssertion_brings hs.posted _ _).bind fun collected s' hs' => ?_
  have hsigned := hs.attested hs'
  refine .after_topics (keepsTo_reserveNonces _ _) (by decide) hsigned.posted fun nonces => ?_
  refine .after_topics (keepsTo_deliverSeed _ _ _) (by decide) hsigned.posted fun _ => ?_
  dsimp only
  split
  · exact Brings.done (hsigned.signed rfl rfl)
  · exact .after_topics (only_map some (keepsTo_grantSession _ _ _)) (by decide) hsigned.posted fun _ =>
      Brings.done (hsigned.signed rfl rfl)

theorem signOnSession_brings (hs : s.Idle) (p : SignTransactionPayload) (count : Nat) :
    Brings false (signOnSession id p count) (Signed false) s := by
  refine .after_topics (keepsTo_turnContext _) (by decide) hs.posted fun base => ?_
  refine .after_topics (keepsTo_consume _ _) (by decide) hs.posted fun grant => ?_
  refine .after_topics (keepsTo_dispense grant _) (by decide) hs.posted fun _ => ?_
  refine .after_topics (keepsTo_reserveNonces _ _) (by decide) hs.posted fun nonces => ?_
  exact fun own => meets_liftAccess fun _ _ => ⟨trivial, signed_of_none rfl hs.posted⟩

theorem register_brings (hs : s.Idle) (p : RegisterAccountPayload) :
    Brings true (register setup id p) (Signed true) s := by
  refine .after_topics keepsTo_latestBlock (by decide) hs.posted fun block => ?_
  refine fun own => meets_liftAccess fun _ _ => ⟨trivial, ?_⟩
  refine (Brings.bind (bootstrap_brings hs _ _ _) fun _ s hs => ?_) own
  refine (bindFreshness_brings hs _ _ _).bind fun challenge s hs => ?_
  refine (collectAttestation_brings hs.posted _ _).bind fun collected s' hs' => ?_
  have hsigned := hs.attested hs'
  refine .after_topics (keepsTo_deliverSeed _ _ _) (by decide) hsigned.posted fun _ => ?_
  exact Brings.done (hsigned.signed rfl rfl)

theorem decryptKey_brings (hs : s.Idle) (p : DecryptPrivateKeyPayload) :
    Brings false (decryptKey setup id p) (Signed false) s := by
  refine (collectAssertion_brings hs.posted _ _).bind fun collected s' hs' => ?_
  have hposted : s'.posted = [] := by rw [hs']; exact hs.posted
  dsimp only
  split
  · exact Brings.done (signed_of_none rfl hposted)
  · exact .after_topics (keepsTo_deliverSeed _ _ _) (by decide) hposted fun _ =>
      Brings.done (signed_of_none rfl hposted)

theorem signMessage_brings (hs : s.Idle) (p : SignMessagePayload) :
    Brings true (signMessage setup id p) (Signed true) s := by
  refine .after_topics keepsTo_latestBlock (by decide) hs.posted fun block => ?_
  refine (bootstrap_brings hs _ _ _).bind fun _ s hs => ?_
  refine (bindFreshness_brings hs _ _ _).bind fun challenge s hs => ?_
  refine (collectAssertion_brings hs.posted _ _).bind fun collected s' hs' => ?_
  have hsigned := hs.attested hs'
  refine .after_topics (keepsTo_deliverSeed _ _ _) (by decide) hsigned.posted fun _ => ?_
  exact Brings.done (hsigned.signed rfl rfl)

theorem linkDevice_brings (hs : s.Idle) (p : LinkDevicePayload) (count : Nat) :
    Brings true (linkDevice setup id p count) (Signed true) s := by
  refine .after_topics (keepsTo_turnContext _) (by decide) hs.posted fun base => ?_
  refine (bootstrap_brings hs _ _ _).bind fun _ s hs => ?_
  refine (bindFreshness_brings hs _ _ _).bind fun challenge s hs => ?_
  refine (collectAssertion_brings hs.posted _ _).bind fun collected s' hs' => ?_
  have hsigned := hs.attested hs'
  refine .after_topics (keepsTo_reserveNonces _ _) (by decide) hsigned.posted fun nonces => ?_
  refine .after_topics (keepsTo_deliverSeed _ _ _) (by decide) hsigned.posted fun _ => ?_
  exact Brings.done (hsigned.signed rfl rfl)

theorem showKey_brings (hs : s.Idle) (p : ShowPrivateKeyPayload) :
    Brings false (showKey setup id p) (Signed false) s := by
  refine (collectAssertion_brings hs.posted _ _).bind fun collected s' hs' => ?_
  have hposted : s'.posted = [] := by rw [hs']; exact hs.posted
  exact .after_topics (keepsTo_deliverSeed _ _ _) (by decide) hposted fun _ =>
    Brings.done (signed_of_none rfl hposted)

theorem perform_brings (hs : s.Idle) (r : Request) :
    Brings r.payload.bindsChallenge (perform setup r) (Signed r.payload.bindsChallenge) s := by
  unfold perform
  cases r.payload with
  | signTransaction p =>
    cases hmode : p.authMode with
    | webAuthn =>
      have hbinds : (Payload.signTransaction p).bindsChallenge = true := decide_eq_true hmode
      rw [hbinds]
      simp only [hmode]
      exact signWithCeremony_brings hs p _
    | warmSession =>
      have hbinds : (Payload.signTransaction p).bindsChallenge = false :=
        decide_eq_false (by rw [hmode]; decide)
      rw [hbinds]
      simp only [hmode]
      exact signOnSession_brings hs p _
  | registerAccount p => exact register_brings hs p
  | decryptPrivateKey p => exact decryptKey_brings hs p
  | signMessage p => exact signMessage_brings hs p
  | linkDevice p => exact linkDevice_brings hs p _
  | showPrivateKey p => exact showKey_brings hs p

theorem run_brings (hs : s.Idle) (r : Request) (policy : ConfirmationPolicy) :
    Brings r.payload.bindsChallenge (run setup r policy) (Signed r.payload.bindsChallenge) s := by
  unfold run
  split
  · exact .after_topics (keepsTo_awaitUser r policy) (by decide) hs.posted fun _ => perform_brings hs r
  · exact perform_brings hs r

/-! ## Answers -/

/-- What is posted is as the signer wants it: a decline, or an approval that tells what was signed. -/
theorem post_signs {r : Response} {own : Holdings} (h : r.confirmed = false ∨ Signed binds r s) :
    (signer binds).Meets anywhere (post r) (fun _ _ _ => True) own s := by
  have hconfirms : r.message.get? "confirmed" = some (.bool true) → s.Confirms binds r.message := by
    rw [Response.message_confirmed]
    intro hconfirmed
    rcases h with h | h
    · rw [h] at hconfirmed
      cases hconfirmed
    · refine ⟨?_, ?_, fun v hv => ?_⟩
      · rw [Response.message_vrfChallenge, Option.isSome_map]
        exact h.challenge
      · rw [Response.message_credential_isSome]
        exact h.credential
      · rw [Response.message_vrfChallenge] at hv
        obtain ⟨c, hc, rfl⟩ := Option.map_eq_some_iff.1 hv
        exact ⟨c, rfl, h.signed c hc⟩
  refine meets_call ⟨trivial, hconfirms, trivial, fun x => ⟨trivial, ?_⟩⟩
  cases x with
  | ok => exact trivial
  | error e => exact trivial

theorem conclude_signs {outcome : Except Stop Response} {own : Holdings}
    (h : Ends (fun r => Signed binds r s) (fun _ => s.posted = []) outcome) :
    (signer binds).Meets anywhere (conclude setup id outcome) (fun _ _ _ => True) own s := by
  refine meets_conclude (signer_overlooks.mono (by decide)) (fun r hr own => post_signs (.inr ?_))
    (fun code message own => post_signs (.inl rfl)) fun _ _ => trivial
  subst hr
  exact h

/-- **A request confirms what was signed**, wherever it is stopped and whichever way its challenge came about. -/
theorem handleRequest_signs (r : Request) :
    (signer r.payload.bindsChallenge).Meets anywhere (handleRequest setup r) (fun _ _ _ => True) {} {} := by
  have hidle : Idle {} := ⟨rfl, rfl⟩
  refine meets_handleRequest (fun _ _ _ _ => ⟨trivial, rfl⟩) (fun _ => ⟨⟨trivial, rfl⟩, fun _ => ⟨trivial, rfl⟩⟩)
    (fun _ _ => ⟨trivial, rfl⟩) (fun _ => trivial) trivial (fun policy => run_brings hidle r policy {})
    (fun _ _ h => ⟨trivial, h⟩) rfl fun outcome own s h => ?_
  have hends : Ends (fun r' => Signed r.payload.bindsChallenge r' s) (fun _ => s.posted = []) outcome := by
    cases outcome with
    | ok r' => exact h
    | error e => exact h
  exact (conclude_signs hends).imp fun _ _ _ _ => ⟨trivial, trivial⟩

theorem handle_signs (setup : Setup) (raw : Json) :
    match Request.read raw with
    | .error _ => ∀ binds, (signer binds).Meets anywhere (handle setup raw) (fun _ _ _ => True) {} {}
    | .ok q => (signer q.payload.bindsChallenge).Meets anywhere (handle setup raw) (fun _ _ _ => True) {} {} := by
  unfold handle
  cases Request.read raw with
  | error e => exact fun binds => post_signs (.inl rfl)
  | ok q => exact handleRequest_signs q

end Signing

/-! ## Minting -/

/-- A program that keeps as a bootstrap only what it has read or made from an answer of the random function. -/
def Program.Mints (p : Program α) : Prop := Signing.minter.Meets Observer.anywhere p (fun _ _ _ => True) {} {}

theorem Signing.mints_of_signs {binds : Bool} {p : Program α}
    (h : (signer binds).Meets Observer.anywhere p (fun _ _ _ => True) {} {}) : p.Mints := by
  have hallows (s : Signing) (event : Event) (h : (signer binds).allows s event) : minter.allows s event := by
    unfold minter
    dsimp only
    split
    · exact h
    · exact trivial
  have hgrants : p.Only (fun e => ∀ event, e.Yields event → ∀ s, (signer binds).allows s event → minter.allows s event)
      Program.anyResult :=
    Program.only_of_forall (fun _ event _ s => hallows s event) fun _ => trivial
  exact Observer.Meets.transfer (by rfl) hgrants h

/-- **Handling an envelope mints** only from answers of the random function. -/
theorem handle_mints (setup : Setup) (raw : Json) : (Confirmation.handle setup raw).Mints := by
  have h := Signing.handle_signs setup raw
  split at h
  · exact Signing.mints_of_signs (h true)
  · exact Signing.mints_of_signs h

end PasskeyConsent

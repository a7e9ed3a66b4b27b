import PasskeyConsent.Proofs.Confirmation.Binding
import PasskeyConsent.Proofs.Confirmation.Signature
/-!
# Whose challenge is told

A wallet keeps the bootstraps of all users in one table: that of an account under the account's name, that of its
registration under a name made from the account's.  Every bootstrap is kept under a name of its user (`Run.keyed`), so
a challenge that is evaluated for a request, or kept under its key alone, is for its account.  But nothing keeps an
account from being named like a registration.  Then the two share a key, and when the evaluation for a newer block
fails, the one is confirmed with the bootstrap of the other (`handle_tells_owned`).
-/
namespace PasskeyConsent

open Observer Program Confirmation Binding

variable {α : Type} {setup : Setup}

/-! ## Under which keys bootstraps are kept -/

/-- The one who sees to it that bootstraps are kept under a name of their user. -/
def keeper (setup : Setup) : Observer History where
  after h e := if e.isBinding then h ++ [e] else h
  allows
    | _, .accessed (.keepBootstrap key c) _ => Keyed setup key c
    | _, _ => True

/-- A program that keeps bootstraps under a name of their user. -/
def Program.KeepsKeyed (setup : Setup) (p : Program α) : Prop :=
  (keeper setup).Meets anywhere p (fun _ _ _ => True) {} []

def Move.KeepsKeyed (setup : Setup) : Move α → Prop
  | .start p => p.KeepsKeyed setup
  | .outside (.keepBootstrap key c) => Keyed setup key c
  | _ => True

theorem Move.KeepsKeyed.of_isOfTask {m : Move α} (h : m.isOfTask = true) : m.KeepsKeyed setup := by
  cases m with
  | advance | answer | stop => trivial
  | _ => cases h

/-- **The handling of every envelope keeps bootstraps under a name of their user.** -/
theorem handle_keepsKeyed (setup : Setup) (raw : Json) : (handle setup raw).KeepsKeyed setup := by
  have hallows (h : History) (e : Event) (p : Payload) (hbinder : (binder setup p).allows h e) :
      (keeper setup).allows h e := by
    cases e with
    | accessed a x =>
      cases a with
      | keepBootstrap key c => exact hbinder
      | _ => trivial
    | _ => trivial
  have hmeets (p : Payload) (hp : ∀ q, Request.read raw = .ok q → q.payload = p) :
      (handle setup raw).KeepsKeyed setup := by
    have hafter : (keeper setup).after = (binder setup p).after := rfl
    have honly : (handle setup raw).Only
        (fun e => ∀ event, e.Yields event → ∀ h, (binder setup p).allows h event → (keeper setup).allows h event)
        fun _ => True :=
      only_of_forall (fun _ event _ h hbinder => hallows h event p hbinder) fun _ => trivial
    exact (handle_binds setup raw p hp).transfer hafter honly
  cases hread : Request.read raw with
  | error e => exact hmeets (.showPrivateKey ⟨""⟩) fun _ hq => by rw [hread] at hq; cases hq
  | ok q => exact hmeets q.payload fun q' hq' => by rw [hread] at hq'; cases hq'; rfl

variable {w w' : Wallet α} {ss : List (Step α)}

/-- **In every run of a wallet** that starts without bootstraps, each is kept under a name of its user. -/
theorem Run.keyed (run : Run w ss w') (hempty : w.tasks = []) (hnone : w.host.bootstraps = {})
    (hkeeps : ∀ st ∈ ss, st.move.KeepsKeyed setup) {key : String} {c : FreshnessChallenge}
    (hc : w'.host.bootstraps.get? key = some c) : Keyed setup key c := by
  have hstarts : Run.Starts (keeper setup) (fun _ _ _ => True) [] ss := by
    intro st hst p hp
    have hkeep := hkeeps st hst
    rw [hp] at hkeep
    exact hkeep
  let I (_ : List (Step α)) (w : Wallet α) (_ : Nat → History) : Prop :=
    ∀ key c, w.host.bootstraps.get? key = some c → Keyed setup key c
  have hinit : I [] w fun _ => [] := by
    intro key c hc
    rw [hnone] at hc
    cases hc
  have hall : I ss w' fun i => (keeper setup).seen [] (historyOf i ss) := by
    refine run.invariant hempty hstarts hinit fun done st hst recs g hallows hkept key c hc => ?_
    rcases g.bootstraps hc with hc | ⟨i, hi⟩ | hm
    · exact hkept key c hc
    · exact hallows i (.accessed (.keepBootstrap key c) ()) (Happening.event?_of_eq hi)
    · have hkeep := hkeeps st hst
      rw [hm] at hkeep
      exact hkeep
  exact hall key c hc

/-! ## The confirmation -/

theorem registrationKey_injective {a b : String} (h : registrationKey a = registrationKey b) : a = b :=
  String.append_right_inj "reg:" |>.1 h

/-- A request takes another user for its own: an account that is named as the registration of that user, or the
registration of an account whose key is that user's name. -/
def Payload.Mistakes : Payload → String → Prop
  | .registerAccount p, user => user = registrationKey p.account
  | p, user => p.account = registrationKey user

/-- Who has a bootstrap under the key of a request is the user of the request, or is taken for that. -/
theorem Payload.user_of_keyed {p : Payload} {c : FreshnessChallenge} (h : Keyed setup p.challengeKey c) :
    c.userId = p.account ∨ p.Mistakes c.userId := by
  cases p with
  | registerAccount p => exact h.user.symm.imp (fun h => (registrationKey_injective h).symm) Eq.symm
  | _ => exact h.user.imp Eq.symm id

/-- Whose challenge is told: one for the account of the request, unless the evaluation for a newer block has failed and
the bootstrap is that of another user whom the request takes for its own. -/
structure TellsOwned (setup : Setup) (q : Request) (i : Nat) (ss : List (Step α)) (c : FreshnessChallenge) : Prop where
  rpId : c.rpId = setup.rpId
  user : c.userId = q.payload.account ∨
    q.payload.Mistakes c.userId ∧ ∃ st ∈ ss, ∃ input e, st.happening = .answered i (.evaluate input) (.error e)

theorem Binding.Challenges.tellsOwned {q : Request} {i : Nat} {c : FreshnessChallenge} (run : Run w ss w')
    (hempty : w.tasks = []) (hnone : w.host.bootstraps = {}) (hkeeps : ∀ st ∈ ss, st.move.KeepsKeyed setup)
    (h : Challenges setup q.payload (some c) (bindingOf i ss)) : TellsOwned setup q i ss c := by
  generalize hbinding : bindingOf i ss = history at h
  cases h with
  | @bound _ block preparing binding c hprepares r hbinds =>
    cases hbinds with
    | refreshed kept output => exact ⟨rfl, .inl rfl⟩
    | anew output => exact ⟨rfl, .inl rfl⟩
    | fellBack kept e =>
      rw [List.append_cons] at hbinding
      obtain ⟨before, look, rest, rfl, -, hlook, hrest⟩ := step_of_binding _ hbinding
      obtain ⟨between, failing, later, rfl, -, hfailing, -⟩ := step_of_binding [] hrest
      obtain ⟨first, now, -⟩ := run.cut
      have g := Wallet.Goes.of_step? now
      rw [hlook] at g
      have hkeyed : Keyed setup q.payload.challengeKey c :=
        first.keyed hempty hnone (fun st hst => hkeeps st (List.mem_append_left _ hst)) g.bootstrap_answer.symm
      have hmem : failing ∈ before ++ look :: (between ++ failing :: later) := by simp
      exact ⟨hkeyed.rpId, (Payload.user_of_keyed hkeyed).imp_right fun hmistakes =>
        ⟨hmistakes, failing, hmem, _, _, hfailing⟩⟩

section

variable {raw : Json} {w w' : Wallet (Except Error Unit)} {ss ss₁ ss₂ : List (Step (Except Error Unit))}
  {st posting : Step (Except Error Unit)} {m : Json}

/-- **Whose challenge a confirmation tells**, in every run of a wallet without bootstraps in which any number of
requests for any accounts are handled under one setup, whatever fails. -/
theorem handle_tells_owned (run : Run w ss w') (hempty : w.tasks = []) (hnone : w.host.bootstraps = {})
    (hkeeps : ∀ st ∈ ss, st.move.KeepsKeyed setup) (hst : st ∈ ss) (hstart : st.move = .start (handle setup raw))
    (hss : ss = ss₁ ++ posting :: ss₂) (hposting : posting.happening = .called st.before.tasks.length (.post m))
    (hconfirmed : m.get? "confirmed" = some (.bool true)) :
    ∃ q, Request.read raw = .ok q ∧ (m.get? "vrfChallenge").isSome = q.payload.bindsChallenge ∧
      ∀ v, m.get? "vrfChallenge" = some v →
        ∃ c, v = FreshnessChallenge.codec.encode c ∧ TellsOwned setup q st.before.tasks.length ss₁ c := by
  obtain ⟨q, c, hread, hc, hchallenges⟩ := run.challenges hst hstart hss hposting hconfirmed
  refine ⟨q, hread, by rw [hc, Option.isSome_map, hchallenges.isSome_eq], fun v hv => ?_⟩
  rw [hc] at hv
  obtain ⟨c, rfl, rfl⟩ := Option.map_eq_some_iff.1 hv
  subst hss
  have hbefore : ∀ st ∈ ss₁, st.move.KeepsKeyed setup := fun st hst => hkeeps st (List.mem_append_left _ hst)
  exact ⟨c, rfl, hchallenges.tellsOwned run.cut.1 hempty hnone hbefore⟩

end

/-! An account is named like the registration of another, which has a bootstrap, and its own evaluation fails. -/

def registerEnvelope (id account : String) : Json :=
  .obj [("payload", .obj [("nearAccountId", .str account)]), ("requestId", .str id), ("schemaVersion", .int 2),
    ("type", .str "registerAccount")]

/-- What a request does until it comes to its operation, when no surface is shown. -/
def reachOperation (i : Nat) : List (Move (Except Error Unit)) :=
  List.replicate 3 (Move.advance i) ++ [Move.answer i .preferences { uiMode := .skip }] ++
  List.replicate 2 (Move.advance i)

/-- What a registration does until it has its bootstrap. -/
def mintBootstrap (i : Nat) (input : FreshnessInput) (output : VrfOutput) : List (Move (Except Error Unit)) :=
  [Move.advance i, Move.answer i .latestBlock (.ok ⟨input.blockHeight, input.blockHash⟩)] ++
  List.replicate 3 (Move.advance i) ++
  [Move.answer i (.evaluateWithNewKeypair input.derive) (.ok output), Move.advance i]

def impostorPayload : SignMessagePayload := ⟨"reg:a", "hello", "b", none⟩

def impostorEnvelope : Json :=
  .obj [("payload", .obj [("message", .str "hello"), ("nearAccountId", .str "reg:a"), ("recipient", .str "b")]),
    ("requestId", .str "s"), ("schemaVersion", .int 2), ("type", .str "signMessage")]

def mistaken : Response :=
  { Response.approved "s" with
    credential := some secretCredential.record
    vrfChallenge := some (.ofOutput keptInput keptOutput) }

def signAsRegistration : List (Move (Except Error Unit)) :=
  let input : FreshnessInput := ⟨"reg:a", "", 6, "i", some (Digest.message impostorPayload)⟩
  let options : AssertionOptions := ⟨"", [1, 2, 3], ["c"], PrfSalts.forAccount "reg:a"⟩
  Move.start (handle quietSetup impostorEnvelope) :: Move.start (handle quietSetup (registerEnvelope "r" "a")) ::
  (reachOperation 1 ++ mintBootstrap 1 keptInput keptOutput ++
  reachOperation 0 ++ [Move.advance 0, Move.answer 0 .latestBlock (.ok ⟨6, "i"⟩)] ++
  List.replicate 3 (Move.advance 0) ++ [Move.answer 0 .latestBlock (.ok ⟨6, "i"⟩)] ++
  List.replicate 2 (Move.advance 0) ++ [Move.answer 0 (.evaluate input.derive) (.error .keypairNotLoaded)] ++
  List.replicate 2 (Move.advance 0) ++ [Move.answer 0 (.authenticators "reg:a") (.ok [])] ++
  [Move.advance 0, Move.answer 0 (.currentPasskey "reg:a" []) (.ok ⟨[⟨"c", 0, []⟩], none⟩)] ++
  [Move.advance 0, Move.answer 0 (.assertion options) (.ok secretCredential)] ++
  List.replicate 3 (Move.advance 0) ++ [Move.answer 0 (.post mistaken.message) (.ok ()), Move.advance 0])

theorem signAsRegistration_keepsKeyed : ∀ m ∈ signAsRegistration, m.KeepsKeyed quietSetup := by
  have htail : ∀ m ∈ signAsRegistration.drop 2, m.isOfTask = true := List.all_eq_true.1 (by decide +kernel)
  refine List.forall_mem_cons.2 ⟨handle_keepsKeyed _ _, List.forall_mem_cons.2 ⟨handle_keepsKeyed _ _, fun m hm => ?_⟩⟩
  exact .of_isOfTask (htail m hm)

theorem signAsRegistration_run :
    ∃ ss w', Run ⟨quietHost, []⟩ ss w' ∧ movesOf ss = signAsRegistration ∧
      (∀ st ∈ ss, st.move.KeepsKeyed quietSetup) ∧ messagesOf 0 ss = [mistaken.message] := by
  have htold : ((Wallet.mk quietHost []).trace? signAsRegistration).map (fun r => messagesOf 0 r.1) =
      some [mistaken.message] := by decide +kernel
  obtain ⟨⟨ss, w'⟩, htrace, hmessages⟩ := Option.map_eq_some_iff.1 htold
  have hmoves : movesOf ss = signAsRegistration := Wallet.moves_of_trace? htrace
  exact ⟨ss, w', .of_trace? htrace, hmoves, forall_move hmoves signAsRegistration_keepsKeyed, hmessages⟩

theorem handle_tells_owned_signAsRegistration :
    ∃ ss w' ss₁ posting ss₂, Run ⟨quietHost, []⟩ ss w' ∧ movesOf ss = signAsRegistration ∧
      ss = ss₁ ++ posting :: ss₂ ∧ posting.happening = .called 0 (.post mistaken.message) ∧
      ∃ q, Request.read impostorEnvelope = .ok q ∧
        (mistaken.message.get? "vrfChallenge").isSome = q.payload.bindsChallenge ∧
        ∀ v, mistaken.message.get? "vrfChallenge" = some v →
          ∃ c, v = FreshnessChallenge.codec.encode c ∧ TellsOwned quietSetup q 0 ss₁ c := by
  obtain ⟨ss, w', run, hmoves, hkeeps, hmessages⟩ := signAsRegistration_run
  have hmessage : mistaken.message ∈ messagesOf 0 ss := hmessages ▸ List.mem_singleton_self _
  obtain ⟨ss₁, posting, ss₂, hss, hposting⟩ := exists_posting hmessage
  have hconfirmed : mistaken.message.get? "confirmed" = some (.bool true) := Response.message_confirmed _
  cases run with
  | nil => cases hmoves
  | cons first rest =>
    have hstarted := (List.cons.inj hmoves).1
    have tells := handle_tells_owned (.cons first rest) rfl rfl hkeeps List.mem_cons_self hstarted hss hposting
      hconfirmed
    exact ⟨_, w', ss₁, posting, ss₂, .cons first rest, hmoves, hss, hposting, tells⟩

/-- A request for one account is confirmed with a challenge for another. -/
theorem confirmed_for_other_account :
    ∃ ss w', Run ⟨quietHost, []⟩ ss w' ∧ movesOf ss = signAsRegistration ∧
      (∀ st ∈ ss, st.move.KeepsKeyed quietSetup) ∧ messagesOf 0 ss = [mistaken.message] ∧
      (Request.read impostorEnvelope).toOption.map (·.payload.account) = some "reg:a" ∧
      mistaken.message.get? "confirmed" = some (.bool true) ∧
      mistaken.message.get? "vrfChallenge" =
        some (FreshnessChallenge.codec.encode (.ofOutput keptInput keptOutput)) ∧
      (FreshnessChallenge.codec.encode (.ofOutput keptInput keptOutput)).get? "userId" = some (.str "a") := by
  obtain ⟨ss, w', run, hmoves, hkeeps, hmessages⟩ := signAsRegistration_run
  exact ⟨ss, w', run, hmoves, hkeeps, hmessages, by decide +kernel, Response.message_confirmed _,
    Response.message_vrfChallenge _, by decide +kernel⟩

end PasskeyConsent

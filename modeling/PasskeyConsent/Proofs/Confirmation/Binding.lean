import PasskeyConsent.Proofs.Confirmation.Booking
import PasskeyConsent.Proofs.Confirmation.Signing
/-!
# How a challenge is bound

A request that binds a challenge begins with a block, makes sure that there is a bootstrap under its key, asks for a
newer block, looks at the bootstrap again and evaluates for the newer block.  Three things can come of that: the
challenge of this evaluation, the bootstrap when the evaluation fails, or a bootstrap that is minted anew when the
first one is gone.  The record of a request keeps what it is told of blocks and what it does with challenges, so before
an approval that tells a challenge the record is written out in full by `Challenges` (`handle_binds`).
-/
namespace PasskeyConsent

variable {α β ε : Type}

/-- The events of a binding. -/
def Event.isBinding : Event → Bool
  | .accessed .youngTurn _ | .accessed (.keepTurn _) _ | .answered .latestBlock _ => true
  | .accessed (.bootstrap _) _ | .accessed (.keepBootstrap ..) _ | .accessed (.forgetBootstrap _) _ => true
  | .answered (.evaluate _) _ | .answered (.evaluateWithNewKeypair _) _ => true
  | _ => false

/-- The block of a turn's context. -/
def BaseContext.block (c : BaseContext) : Block := ⟨c.blockHeight, c.blockHash⟩

namespace Freshness

/-- A random function's answer, to an evaluation with the keypair of a path. -/
def Path.answered : Path → Bytes → Except FreshnessError VrfOutput → Event
  | .session, input, r => .answered (.evaluate input) r
  | .newKeypair, input, r => .answered (.evaluateWithNewKeypair input) r

end Freshness

namespace Payload

open Confirmation

/-- The key under which a request keeps its bootstrap. -/
def challengeKey : Payload → String
  | .registerAccount p => registrationKey p.account
  | p => p.account

/-- The keypair that a request mints its bootstrap with. -/
def challengePath : Payload → Freshness.Path
  | .registerAccount _ => .newKeypair
  | _ => .session

/-- The digest that a request binds its challenge to. -/
def challengeDigest : Payload → Option String
  | .signTransaction p => some (Digest.intent p.transactions)
  | .signMessage p => some (Digest.message p)
  | _ => none

/-- What a request forgets before it makes sure of a bootstrap. -/
def forgets : Payload → History
  | .registerAccount p => [.accessed (.forgetBootstrap (registrationKey p.account)) ()]
  | _ => []

end Payload

namespace Binding

open Observer Program Confirmation

/-! ## The ways of a binding -/

/-- How a request comes by its first block: the chain tells it or, to a request that sends transactions, it is that of
the turn's context, which is the one that is kept or else is fetched. -/
inductive Opens (p : Payload) : Block → History → Prop
  | told (hp : p.sendsTransactions = false) (block : Block) : Opens p block [.answered .latestBlock (.ok block)]
  | kept (hp : p.sendsTransactions = true) (c : BaseContext) : Opens p c.block [.accessed .youngTurn (some c)]
  | fetched (hp : p.sendsTransactions = true) (c : BaseContext) :
    Opens p c.block [.accessed .youngTurn none, .answered .latestBlock (.ok c.block), .accessed (.keepTurn c) ()]

/-- What is done to mint the bootstrap of a key. -/
def mints (key : String) (input : FreshnessInput) (path : Freshness.Path) (output : VrfOutput) : History :=
  [path.answered input.derive (.ok output), .accessed (.keepBootstrap key (.ofOutput input output)) ()]

/-- How a request makes sure of a bootstrap. -/
inductive Ensures (key : String) (input : FreshnessInput) (path : Freshness.Path) : History → Prop
  | there (kept : FreshnessChallenge) : Ensures key input path [.accessed (.bootstrap key) (some kept)]
  | minted (output : VrfOutput) :
    Ensures key input path (.accessed (.bootstrap key) none :: mints key input path output)

/-- How a request comes by its challenge in the end. -/
inductive Binds (key : String) (input : FreshnessInput) (path : Freshness.Path) : FreshnessChallenge → History → Prop
  | refreshed (kept : FreshnessChallenge) (output : VrfOutput) :
    Binds key input path (.ofOutput input output)
      [.accessed (.bootstrap key) (some kept), .answered (.evaluate input.derive) (.ok output)]
  | fellBack (kept : FreshnessChallenge) (e : FreshnessError) :
    Binds key input path kept [.accessed (.bootstrap key) (some kept), .answered (.evaluate input.derive) (.error e)]
  | anew (output : VrfOutput) :
    Binds key input path (.ofOutput input output) (.accessed (.bootstrap key) none :: mints key input path output)

/-- The newest block that the chain tells, or else the one that there is. -/
def newest (first : Block) : Except ChainError Block → Block
  | .ok block => block
  | .error _ => first

/-- What the bootstrap of a request is bound to. -/
def firstInput (setup : Setup) (p : Payload) (block : Block) : FreshnessInput :=
  Stage.freshnessInput setup p.account block.height block.hash

/-- What the challenge of a request is bound to. -/
def boundInput (setup : Setup) (p : Payload) (block : Block) : FreshnessInput :=
  { firstInput setup p block with intentDigest := p.challengeDigest }

/-- What a request has done once it is sure of a bootstrap. -/
inductive Prepares (setup : Setup) (p : Payload) (block : Block) : History → Prop
  | mk {opening ensuring : History} (hopens : Opens p block opening)
    (hensures : Ensures p.challengeKey (firstInput setup p block) p.challengePath ensuring) :
    Prepares setup p block (opening ++ p.forgets ++ ensuring)

/-- **What a request has done** for the challenge that its approval tells. -/
inductive Challenges (setup : Setup) (p : Payload) : Option FreshnessChallenge → History → Prop
  | nothing (hp : p.bindsChallenge = false) (h : History) : Challenges setup p none h
  | bound (hp : p.bindsChallenge = true) {block : Block} {preparing binding : History} {c : FreshnessChallenge}
    (hprepares : Prepares setup p block preparing) (r : Except ChainError Block)
    (hbinds : Binds p.challengeKey (boundInput setup p (newest block r)) p.challengePath c binding) :
    Challenges setup p (some c) (preparing ++ .answered .latestBlock r :: binding)

/-- A challenge is told just when the operation binds one. -/
theorem Challenges.isSome_eq {setup : Setup} {p : Payload} {c : Option FreshnessChallenge} {h : History}
    (hc : Challenges setup p c h) : c.isSome = p.bindsChallenge := by
  cases hc with
  | nothing hp => exact hp.symm
  | bound hp => exact hp.symm

/-- A bootstrap is kept under the name of its user, or as one of the user's registration. -/
structure Keyed (setup : Setup) (key : String) (c : FreshnessChallenge) : Prop where
  rpId : c.rpId = setup.rpId
  user : key = c.userId ∨ key = registrationKey c.userId

theorem keyed_challengeKey (setup : Setup) (p : Payload) (input : FreshnessInput) (hrp : input.rpId = setup.rpId)
    (huser : input.userId = p.account) (output : VrfOutput) :
    Keyed setup p.challengeKey (.ofOutput input output) := by
  refine ⟨hrp, ?_⟩
  show p.challengeKey = input.userId ∨ p.challengeKey = registrationKey input.userId
  rw [huser]
  cases p with
  | registerAccount p => exact .inr rfl
  | _ => exact .inl rfl

/-- The one who sees to it that a confirmation tells the challenge that was bound, and that a request keeps bootstraps
under its own name only. -/
def binder (setup : Setup) (p : Payload) : Observer History where
  after h e := if e.isBinding then h ++ [e] else h
  allows
    | h, .called (.post m) => m.get? "confirmed" = some (.bool true) →
      ∃ c, m.get? "vrfChallenge" = Option.map FreshnessChallenge.codec.encode c ∧ Challenges setup p c h
    | _, .accessed (.keepBootstrap key c) _ => Keyed setup key c
    | _, _ => True

theorem binder_seen (setup : Setup) (p : Payload) (h₁ h₂ : History) :
    (binder setup p).seen h₁ h₂ = h₁ ++ h₂.filter Event.isBinding := seen_filter (fun _ _ => rfl) h₁ h₂

/-! ## Steps -/

/-- A step goes on as `P` says. -/
abbrev Brings (setup : Setup) (payload : Payload) (p : ExceptT ε Program α) (P : α → History → Prop) (h : History) :
    Prop := (binder setup payload).Brings (fun _ => True) p P h

/-- A step adds to the record what `Q` says. -/
abbrev Adds (setup : Setup) (payload : Payload) (p : ExceptT ε Program α) (Q : α → History → Prop) : Prop :=
  ∀ h, Brings setup payload p (fun a h' => ∃ added, h' = h ++ added ∧ Q a added) h

variable {payload : Payload} {h : History} {setup : Setup} {id : String}

/-- The topics that have nothing to do with bindings. -/
abbrev otherTopics : List Topic :=
  [.clock, .key, .binding, .reservation, .release, .session, .ceremony, .handover, .registry, .cancellation, .state, .surface,
   .holdings, .preferences, .breakdown]

theorem binder_overlooks : (binder setup payload).OverlooksTopics otherTopics := by
  refine .of_events rfl fun e he s => ?_
  cases e with
  | accessed a x => cases a <;> first | exact absurd he Bool.false_ne_true | exact ⟨trivial, rfl⟩
  | called c => cases c <;> first | exact absurd he Bool.false_ne_true | exact ⟨trivial, rfl⟩
  | answered c x => cases c <;> first | exact absurd he Bool.false_ne_true | exact ⟨trivial, rfl⟩
  | waited w x => exact ⟨trivial, rfl⟩
  | stopped => exact absurd he Bool.false_ne_true

/-- A step about other things leaves everything as it was. -/
theorem after_topics {topics : List Topic} {F : ε → Prop} {p : ExceptT ε Program α}
    {f : α → ExceptT ε Program β} {Q : β → History → Prop} (hp : p.run.KeepsTo topics (Ends anyResult F))
    (ht : topics ⊆ otherTopics) (hf : ∀ a, Brings setup payload (f a) Q h) : Brings setup payload (p >>= f) Q h :=
  Observer.Brings.after_topics (binder_overlooks.mono ht) hp trivial hf

theorem Adds.orStop {p : ExceptT ε Program α} {Q : α → History → Prop} {stop : ε → Stop}
    (hp : Adds setup payload p Q) : Adds setup payload (Stage.orStop p stop) Q := fun h => (hp h).orStop

/-- The context that is fetched is at the block that the chain tells then. -/
theorem fetch_adds : Adds setup payload Turn.fetch (fun c added =>
    added = [.answered .latestBlock (.ok c.block), .accessed (.keepTurn c) ()]) := by
  refine fun h own => meets_liftAccess fun k _ => ⟨trivial, ?_⟩
  cases k with
  | none => trivial
  | some k =>
    refine meets_call ⟨trivial, trivial, trivial, fun answer => ⟨trivial, ?_⟩⟩
    cases answer with
    | error e => trivial
    | ok info =>
      refine meets_call ⟨trivial, trivial, trivial, fun block => ⟨trivial, ?_⟩⟩
      cases block with
      | error e => trivial
      | ok block =>
        refine meets_liftAccess fun next _ => ⟨trivial, meets_liftAccess fun _ _ => ⟨trivial, ?_⟩⟩
        exact ⟨_, List.append_assoc h _ _, rfl⟩

theorem context_opens (hp : payload.sendsTransactions = true) :
    Brings setup payload (Turn.context false) (fun c h' => Opens payload c.block h') [] := by
  refine fun own => meets_context (Ends (fun c _ h' => Opens payload c.block h') fun _ _ _ => True) trivial trivial
    (fun _ => trivial) (fun c _ => .kept hp c) (fun kept hforce => ?_) fun r _ _ hr => ⟨trivial, ?_⟩
  · cases kept with
    | some c => exact absurd (hforce rfl) Bool.false_ne_true
    | none =>
      refine (fetch_adds _ own).imp fun r own h' hr => ?_
      cases r with
      | error e => trivial
      | ok c =>
        obtain ⟨_, rfl, rfl⟩ := hr
        exact .fetched hp c
  · cases r with
    | ok c => exact hr
    | error e => trivial

theorem turnContext_opens (account : String) (hp : payload.sendsTransactions = true) :
    Brings setup payload (Stage.turnContext account) (fun c h' => Opens payload c.block h') [] := by
  refine fun own => meets_liftAccess fun k _ => ⟨trivial, ?_⟩
  by_cases hbound : k.map (·.account) = some account
  · rw [if_neg (not_not_intro hbound)]
    exact Observer.Brings.orStop (context_opens hp) own
  · rw [if_pos hbound]
    trivial

theorem latestBlock_opens (hp : payload.sendsTransactions = false) :
    Brings setup payload Stage.latestBlock (fun block h' => Opens payload block h') [] := by
  refine Observer.Brings.orStop (fun own => ⟨trivial, trivial, trivial, fun r => ⟨trivial, ?_⟩⟩)
  cases r with
  | ok block => exact .told hp block
  | error e => trivial

section

variable {key : String} {input : FreshnessInput} {path : Freshness.Path}

/-- A challenge that is minted is made from the answer of the random function. -/
theorem mint_adds : Adds setup payload (Freshness.mint input path) (fun c added =>
    ∃ output, c = .ofOutput input output ∧ added = [path.answered input.derive (.ok output)]) := by
  intro h own
  cases path with
  | session =>
    refine meets_call ⟨trivial, trivial, trivial, fun r => ⟨trivial, ?_⟩⟩
    cases r with
    | ok output => exact ⟨_, rfl, output, rfl, rfl⟩
    | error e => trivial
  | newKeypair =>
    refine meets_call ⟨trivial, trivial, trivial, fun r => ⟨trivial, ?_⟩⟩
    cases r with
    | ok output => exact ⟨_, rfl, output, rfl, rfl⟩
    | error e => trivial

theorem freshnessBootstrap_adds (hkey : ∀ output, Keyed setup key (.ofOutput input output)) :
    Adds setup payload (Freshness.bootstrap key input path) (fun c added =>
      ∃ output, c = .ofOutput input output ∧ added = mints key input path output) := by
  refine fun h => (mint_adds h).bind fun c h' hc => ?_
  obtain ⟨_, rfl, output, rfl, rfl⟩ := hc
  refine fun own => meets_liftAccess fun _ _ => ⟨hkey output, ?_⟩
  exact ⟨_, List.append_assoc h _ _, output, rfl, rfl⟩

theorem bootstrap_adds (hkey : ∀ output, Keyed setup key (.ofOutput input output)) :
    Adds setup payload (Stage.bootstrap key input path) (fun _ added => Ensures key input path added) := by
  refine fun h own => meets_liftAccess fun kept _ => ⟨trivial, ?_⟩
  cases kept with
  | some kept => exact ⟨_, rfl, .there kept⟩
  | none =>
    have hmints : Adds setup payload (Freshness.bootstrap key input path) fun _ added =>
        ∃ output, added = mints key input path output := fun h own =>
      (freshnessBootstrap_adds hkey h own).imp fun r own h' hr => by
        cases r with
        | error e => trivial
        | ok c =>
          obtain ⟨_, rfl, output, -, rfl⟩ := hr
          exact ⟨_, rfl, output, rfl⟩
    refine (hmints.orStop (h ++ [.accessed (.bootstrap key) none])).bind (fun c h' hc => ?_) own
    obtain ⟨_, rfl, output, rfl⟩ := hc
    exact Observer.Brings.done ⟨_, List.append_assoc h _ _, .minted output⟩

theorem freshnessBind_adds (hkey : ∀ output, Keyed setup key (.ofOutput input output)) :
    Adds setup payload (Freshness.bind key input path) (fun c added => Binds key input path c added) := by
  refine fun h own => meets_access fun kept _ => ⟨trivial, ?_⟩
  cases kept with
  | none =>
    refine (freshnessBootstrap_adds hkey _ own).imp fun r own h' hr => ?_
    cases r with
    | error e => trivial
    | ok c =>
      obtain ⟨_, rfl, output, rfl, rfl⟩ := hr
      exact ⟨_, List.append_assoc h _ _, .anew output⟩
  | some kept =>
    refine meets_call ⟨trivial, trivial, trivial, fun r => ⟨trivial, ?_⟩⟩
    cases r with
    | ok output => exact ⟨_, List.append_assoc h _ _, .refreshed kept output⟩
    | error e => exact ⟨_, List.append_assoc h _ _, .fellBack kept e⟩

end

/-! ## Flows -/

/-- What an approval tells was bound. -/
def Approves (setup : Setup) (payload : Payload) (r : Response) (h : History) : Prop :=
  Challenges setup payload r.vrfChallenge h

theorem bootstrap_prepares_after (block : Block) (hopens : Opens payload block h) :
    Brings setup payload (Stage.bootstrap payload.challengeKey (firstInput setup payload block) payload.challengePath)
      (fun _ h' => Prepares setup payload block h') (h ++ payload.forgets) := by
  have hkey := keyed_challengeKey setup payload (firstInput setup payload block) rfl rfl
  refine fun own => (bootstrap_adds hkey _ own).imp fun r own h' hr => ?_
  cases r with
  | error e => trivial
  | ok =>
    obtain ⟨ensuring, rfl, hensures⟩ := hr
    exact .mk hopens hensures

theorem bootstrap_prepares (block : Block) (hopens : Opens payload block h) (hnone : payload.forgets = []) :
    Brings setup payload (Stage.bootstrap payload.challengeKey (firstInput setup payload block) payload.challengePath)
      (fun _ h' => Prepares setup payload block h') h := by
  have hprepares : Brings setup payload
      (Stage.bootstrap payload.challengeKey (firstInput setup payload block) payload.challengePath)
      (fun _ h' => Prepares setup payload block h') (h ++ payload.forgets) :=
    bootstrap_prepares_after block hopens
  rwa [hnone, List.append_nil] at hprepares

theorem bindFreshness_challenges (block : Block) (hp : payload.bindsChallenge = true)
    (hprepares : Prepares setup payload block h) :
    Brings setup payload
      (Stage.bindFreshness id payload.challengeKey (boundInput setup payload block) payload.challengePath)
      (fun c h' => Challenges setup payload (some c) h') h := by
  have hbind (r : Except ChainError Block) : Brings setup payload
      (Stage.orStop (Freshness.bind payload.challengeKey (boundInput setup payload (newest block r))
        payload.challengePath) Stage.challengeUnavailable)
      (fun c h' => Challenges setup payload (some c) h') (h ++ [.answered .latestBlock r]) := by
    have hkey := keyed_challengeKey setup payload (boundInput setup payload (newest block r)) rfl rfl
    refine fun own => ((freshnessBind_adds hkey).orStop _ own).imp fun x own h' hx => ?_
    cases x with
    | error e => trivial
    | ok c =>
      obtain ⟨binding, rfl, hbinds⟩ := hx
      rw [List.append_assoc]
      exact .bound hp hprepares r hbinds
  refine fun own => meets_liftAccess fun _ _ => ⟨trivial, ?_⟩
  refine meets_liftCall ⟨trivial, trivial, trivial, fun r => ⟨trivial, ?_⟩⟩
  cases r with
  | ok newer => exact hbind (.ok newer) own
  | error e => exact hbind (.error e) own

theorem signWithCeremony_binds (p : SignTransactionPayload) (hmode : p.authMode = .webAuthn) (count : Nat) :
    Brings setup (.signTransaction p) (signWithCeremony setup id p count) (Approves setup (.signTransaction p)) [] := by
  have hp : (Payload.signTransaction p).bindsChallenge = true := decide_eq_true hmode
  have hturn : Brings setup (.signTransaction p) (Stage.turnContext p.account)
      (fun base h => Opens (.signTransaction p) base.block h) [] := turnContext_opens p.account rfl
  refine hturn.bind fun base h hopens => ?_
  refine Observer.Brings.bind (bootstrap_prepares base.block hopens rfl) fun _ h hprepared => ?_
  refine Observer.Brings.bind (bindFreshness_challenges base.block hp hprepared) fun challenge h hbound => ?_
  refine after_topics (keepsTo_collectAssertion _ _ _ _) (by decide) fun collected => ?_
  refine after_topics (keepsTo_reserveNonces _ _) (by decide) fun nonces => ?_
  refine after_topics (keepsTo_deliverSeed _ _ _) (by decide) fun _ => ?_
  dsimp only
  split
  · exact Observer.Brings.done hbound
  · exact after_topics (only_map some (keepsTo_grantSession _ _ _)) (by decide) fun _ => Observer.Brings.done hbound

theorem register_binds (p : RegisterAccountPayload) :
    Brings setup (.registerAccount p) (register setup id p) (Approves setup (.registerAccount p)) [] := by
  refine (latestBlock_opens rfl).bind fun block h hopens => ?_
  refine fun own => meets_liftAccess fun _ _ => ⟨trivial, ?_⟩
  refine Observer.Brings.bind (bootstrap_prepares_after block hopens) (fun _ h hprepared => ?_) own
  refine Observer.Brings.bind (bindFreshness_challenges block rfl hprepared) fun challenge h hbound => ?_
  refine after_topics (keepsTo_collectAttestation _ _ _ _) (by decide) fun collected => ?_
  exact after_topics (keepsTo_deliverSeed _ _ _) (by decide) fun _ => Observer.Brings.done hbound

theorem signMessage_binds (p : SignMessagePayload) :
    Brings setup (.signMessage p) (signMessage setup id p) (Approves setup (.signMessage p)) [] := by
  refine (latestBlock_opens rfl).bind fun block h hopens => ?_
  refine Observer.Brings.bind (bootstrap_prepares block hopens rfl) fun _ h hprepared => ?_
  refine Observer.Brings.bind (bindFreshness_challenges block rfl hprepared) fun challenge h hbound => ?_
  refine after_topics (keepsTo_collectAssertion _ _ _ _) (by decide) fun collected => ?_
  exact after_topics (keepsTo_deliverSeed _ _ _) (by decide) fun _ => Observer.Brings.done hbound

theorem linkDevice_binds (p : LinkDevicePayload) (count : Nat) :
    Brings setup (.linkDevice p) (linkDevice setup id p count) (Approves setup (.linkDevice p)) [] := by
  have hturn : Brings setup (.linkDevice p) (Stage.turnContext p.account)
      (fun base h => Opens (.linkDevice p) base.block h) [] := turnContext_opens p.account rfl
  refine hturn.bind fun base h hopens => ?_
  refine Observer.Brings.bind (bootstrap_prepares base.block hopens rfl) fun _ h hprepared => ?_
  refine Observer.Brings.bind (bindFreshness_challenges base.block rfl hprepared) fun challenge h hbound => ?_
  refine after_topics (keepsTo_collectAssertion _ _ _ _) (by decide) fun collected => ?_
  refine after_topics (keepsTo_reserveNonces _ _) (by decide) fun nonces => ?_
  exact after_topics (keepsTo_deliverSeed _ _ _) (by decide) fun _ => Observer.Brings.done hbound

theorem signOnSession_binds (p : SignTransactionPayload) (hmode : p.authMode = .warmSession) (count : Nat) :
    Brings setup (.signTransaction p) (signOnSession id p count) (Approves setup (.signTransaction p)) [] := by
  have hnone : (Payload.signTransaction p).bindsChallenge = false := decide_eq_false (hmode ▸ nofun)
  have hturn : Brings setup (.signTransaction p) (Stage.turnContext p.account)
      (fun base h => Opens (.signTransaction p) base.block h) [] := turnContext_opens p.account rfl
  refine hturn.bind fun base h _ => ?_
  refine after_topics (keepsTo_consume _ _) (by decide) fun grant => ?_
  refine after_topics (keepsTo_dispense grant _) (by decide) fun _ => ?_
  refine after_topics (keepsTo_reserveNonces _ _) (by decide) fun nonces => ?_
  exact fun own => meets_liftAccess fun _ _ => ⟨trivial, .nothing hnone h⟩

theorem decryptKey_binds (p : DecryptPrivateKeyPayload) :
    Brings setup (.decryptPrivateKey p) (decryptKey setup id p) (Approves setup (.decryptPrivateKey p)) [] := by
  refine after_topics (keepsTo_collectAssertion _ _ _ _) (by decide) fun collected => ?_
  dsimp only
  split
  · exact Observer.Brings.done (.nothing rfl [])
  · exact after_topics (keepsTo_deliverSeed _ _ _) (by decide) fun _ => Observer.Brings.done (.nothing rfl [])

theorem showKey_binds (p : ShowPrivateKeyPayload) :
    Brings setup (.showPrivateKey p) (showKey setup id p) (Approves setup (.showPrivateKey p)) [] := by
  refine after_topics (keepsTo_collectAssertion _ _ _ _) (by decide) fun collected => ?_
  exact after_topics (keepsTo_deliverSeed _ _ _) (by decide) fun _ => Observer.Brings.done (.nothing rfl [])

theorem perform_binds (r : Request) : Brings setup r.payload (perform setup r) (Approves setup r.payload) [] := by
  unfold perform
  cases r.payload with
  | signTransaction p =>
    cases hmode : p.authMode with
    | webAuthn =>
      simp only [hmode]
      exact signWithCeremony_binds p hmode _
    | warmSession =>
      simp only [hmode]
      exact signOnSession_binds p hmode _
  | registerAccount p => exact register_binds p
  | decryptPrivateKey p => exact decryptKey_binds p
  | signMessage p => exact signMessage_binds p
  | linkDevice p => exact linkDevice_binds p _
  | showPrivateKey p => exact showKey_binds p

theorem run_binds (r : Request) (policy : ConfirmationPolicy) :
    Brings setup r.payload (run setup r policy) (Approves setup r.payload) [] := by
  unfold run
  split
  · exact after_topics (keepsTo_awaitUser r policy) (by decide) fun _ => perform_binds r
  · exact perform_binds r

/-! ## Answers -/

/-- What is posted is a decline, or an approval that tells what was bound. -/
theorem post_binds {r : Response} {own : Holdings} (hr : r.confirmed = false ∨ Approves setup payload r h) :
    (binder setup payload).Meets anywhere (post r) (fun _ _ _ => True) own h := by
  have hbinds : r.message.get? "confirmed" = some (.bool true) → ∃ c,
      r.message.get? "vrfChallenge" = Option.map FreshnessChallenge.codec.encode c ∧ Challenges setup payload c h := by
    intro hconfirmed
    rcases hr with hr | hr
    · rw [Response.message_confirmed, hr] at hconfirmed
      cases hconfirmed
    · exact ⟨r.vrfChallenge, Response.message_vrfChallenge r, hr⟩
  refine meets_call ⟨trivial, hbinds, trivial, fun x => ⟨trivial, ?_⟩⟩
  cases x with
  | ok => exact trivial
  | error e => exact trivial

theorem conclude_binds {outcome : Except Stop Response} {own : Holdings}
    (hends : ∀ r, outcome = .ok r → Approves setup payload r h) :
    (binder setup payload).Meets anywhere (conclude setup id outcome) (fun _ _ _ => True) own h :=
  meets_conclude (binder_overlooks.mono (by decide)) (fun r hr _ => post_binds (.inr (hends r hr)))
    (fun _ _ _ => post_binds (.inl rfl)) fun _ _ => trivial

theorem handleRequest_binds (r : Request) :
    (binder setup r.payload).Meets anywhere (handleRequest setup r) (fun _ _ _ => True) {} [] := by
  refine meets_handleRequest (fun _ _ _ _ => ⟨trivial, rfl⟩) (fun _ => ⟨⟨trivial, rfl⟩, fun _ => ⟨trivial, rfl⟩⟩)
    (fun _ _ => ⟨trivial, rfl⟩) (fun _ => trivial) trivial (fun policy => run_binds r policy {})
    (fun _ _ _ => ⟨trivial, trivial⟩) trivial fun outcome own h hends => ?_
  have happroves : ∀ r', outcome = .ok r' → Approves setup r.payload r' h := by
    rintro r' rfl
    exact hends
  exact (conclude_binds happroves).imp fun _ _ _ _ => ⟨trivial, trivial⟩

/-- **A request confirms the challenge that it has bound**, and keeps bootstraps under its own name only.  An envelope
that cannot be read is not confirmed. -/
theorem handle_binds (setup : Setup) (raw : Json) (payload : Payload)
    (hread : ∀ q, Request.read raw = .ok q → q.payload = payload) :
    (binder setup payload).Meets anywhere (handle setup raw) (fun _ _ _ => True) {} [] := by
  unfold handle
  cases hq : Request.read raw with
  | error e => exact post_binds (.inl rfl)
  | ok q =>
    rw [← hread q hq]
    exact handleRequest_binds q

end Binding

/-! ## Bindings along a run -/

open Binding Confirmation

variable {i : Nat}

/-- What a task has done for its challenge, in order. -/
def bindingOf (task : Nat) (ss : List (Step α)) : History := (historyOf task ss).filter Event.isBinding

theorem bindingOf_append (task : Nat) (ss₁ ss₂ : List (Step α)) :
    bindingOf task (ss₁ ++ ss₂) = bindingOf task ss₁ ++ bindingOf task ss₂ := by
  unfold bindingOf
  rw [historyOf_append, List.filter_append]

theorem step_of_binding {ss : List (Step α)} (h₁ : History) {h₂ : History} {e : Event}
    (h : bindingOf i ss = h₁ ++ e :: h₂) :
    ∃ ss₁ st ss₂, ss = ss₁ ++ st :: ss₂ ∧ bindingOf i ss₁ = h₁ ∧ st.happening = e.happening i ∧
      bindingOf i ss₂ = h₂ := Run.step_of_filter h₁ h

section

variable {setup : Setup} {raw : Json} {w w' : Wallet (Except Error Unit)}
  {ss ss₁ ss₂ : List (Step (Except Error Unit))} {st posting : Step (Except Error Unit)} {m : Json}

/-- **Before a confirmation is posted its request has bound a challenge** just when its operation does, and tells it. -/
theorem Run.challenges (run : Run w ss w') (hst : st ∈ ss) (hstart : st.move = .start (handle setup raw))
    (hss : ss = ss₁ ++ posting :: ss₂)
    (hposting : posting.happening = .called st.before.tasks.length (.post m))
    (hconfirmed : m.get? "confirmed" = some (.bool true)) :
    ∃ q c, Request.read raw = .ok q ∧ m.get? "vrfChallenge" = Option.map FreshnessChallenge.codec.encode c ∧
      Challenges setup q.payload c (bindingOf st.before.tasks.length ss₁) := by
  have hbinds (p : Payload) (hp : ∀ q, Request.read raw = .ok q → q.payload = p) :
      ∃ c, m.get? "vrfChallenge" = Option.map FreshnessChallenge.codec.encode c ∧
        Challenges setup p c (bindingOf st.before.tasks.length ss₁) := by
    have hevent : posting.happening.event? st.before.tasks.length = some (.called (.post m)) :=
      Happening.event?_of_eq hposting
    have hallowed := run.allowed_since_start hst hstart rfl (handle_binds setup raw p hp) hss hevent hconfirmed
    rwa [binder_seen] at hallowed
  cases hread : Request.read raw with
  | error e =>
    -- A rejection is no confirmation.
    have hany (p : Payload) : (m.get? "vrfChallenge").isSome = p.bindsChallenge := by
      obtain ⟨c, hc, hchallenges⟩ := hbinds p fun _ hq => by rw [hread] at hq; cases hq
      rw [hc, Option.isSome_map, hchallenges.isSome_eq]
    have htrue := hany (.linkDevice ⟨"", 0, []⟩)
    rw [hany (.showPrivateKey ⟨""⟩)] at htrue
    cases htrue
  | ok q =>
    obtain ⟨c, hc, hchallenges⟩ := hbinds q.payload fun q' hq' => by rw [hread] at hq'; cases hq'; rfl
    exact ⟨q, c, rfl, hc, hchallenges⟩

/-- The confirmation of an operation that binds a challenge tells one. -/
theorem Run.challenge_of_binds {q : Request} (run : Run w ss w') (hst : st ∈ ss)
    (hstart : st.move = .start (handle setup raw)) (hread : Request.read raw = .ok q)
    (hbinds : q.payload.bindsChallenge = true) (hss : ss = ss₁ ++ posting :: ss₂)
    (hposting : posting.happening = .called st.before.tasks.length (.post m))
    (hconfirmed : m.get? "confirmed" = some (.bool true)) :
    ∃ c, m.get? "vrfChallenge" = some (FreshnessChallenge.codec.encode c) ∧
      Challenges setup q.payload (some c) (bindingOf st.before.tasks.length ss₁) := by
  obtain ⟨q', c, hread', hc, hchallenges⟩ := run.challenges hst hstart hss hposting hconfirmed
  rw [hread] at hread'
  cases hread'
  cases c with
  | none =>
    have hsome := hchallenges.isSome_eq
    rw [hbinds] at hsome
    cases hsome
  | some c => exact ⟨c, hc, hchallenges⟩

end

end PasskeyConsent

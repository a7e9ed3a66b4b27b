import PasskeyConsent.Proofs.Confirmation.Attribution
/-!
# Which keypair a registration tells

The random function has one keypair loaded, the newest that was minted, for whomever that was, and the bootstrap of a
registration is in the table that all requests use.  A registration mints a keypair whenever it looks at its bootstrap
and finds none, which is once unless others forget or keep one under its key; and it evaluates for the newer block with
whatever keypair is loaded by then.  So the keypair that it tells is its own, and the only one that it has minted, if
since it has forgotten its old bootstrap nobody else has minted one or has used its key (`handle_tells_keypair`).
Another registration at the same time, for any account, can make it tell a keypair that it has not minted, and one for
the same account can make it mint two.
-/
namespace PasskeyConsent

open Observer Program Confirmation Binding

variable {α : Type}

/-! ## The loaded keypair -/

/-- The public key of a keypair that is minted. -/
def Event.minted? : Event → Option Bytes
  | .answered (.evaluateWithNewKeypair _) (.ok o) => some o.publicKey
  | _ => none

/-- What a request finds when it looks at its bootstrap. -/
def Event.look? : Event → Option (Option FreshnessChallenge)
  | .accessed (.bootstrap _) found => some found
  | _ => none

/-- The public key of a keypair that is minted for anyone; it is the loaded one from then on. -/
def Happening.loads? : Happening → Option Bytes
  | .answered _ (.evaluateWithNewKeypair _) (.ok o) => some o.publicKey
  | _ => none

/-- The public key of the keypair that an evaluation was made with. -/
def Happening.evaluates? : Happening → Option Bytes
  | .answered _ (.evaluate _) (.ok o) => some o.publicKey
  | _ => none

/-- The keypairs that a task has minted, in order. -/
def mintedBy (task : Nat) (ss : List (Step α)) : List Bytes := (historyOf task ss).filterMap Event.minted?

/-- What a task has found at each look at its bootstrap, in order. -/
def looksOf (task : Nat) (ss : List (Step α)) : List (Option FreshnessChallenge) :=
  (historyOf task ss).filterMap Event.look?

/-- The keypair that is loaded after some steps. -/
def loadedAfter (loaded : Option Bytes) (ss : List (Step α)) : Option Bytes :=
  ss.foldl (fun loaded st => st.happening.loads?.or loaded) loaded

/-- The random function evaluates with the keypair that is loaded. -/
def evaluatesLoaded : Option Bytes → List (Step α) → Bool
  | _, [] => true
  | loaded, st :: ss =>
    st.happening.evaluates?.all (loaded = some ·) && evaluatesLoaded (st.happening.loads?.or loaded) ss

theorem evaluatesLoaded_append (loaded : Option Bytes) (ss₁ ss₂ : List (Step α)) :
    evaluatesLoaded loaded (ss₁ ++ ss₂) =
      (evaluatesLoaded loaded ss₁ && evaluatesLoaded (loadedAfter loaded ss₁) ss₂) := by
  induction ss₁ generalizing loaded with
  | nil => rfl
  | cons st ss₁ ih =>
    rw [List.cons_append, evaluatesLoaded, ih, ← Bool.and_assoc]
    rfl

theorem loaded_of_evaluates {loaded : Option Bytes} {ss₁ ss₂ : List (Step α)} {st : Step α} {b : Bytes}
    (h : evaluatesLoaded loaded (ss₁ ++ st :: ss₂) = true) (hst : st.happening.evaluates? = some b) :
    loadedAfter loaded ss₁ = some b := by
  rw [evaluatesLoaded_append, evaluatesLoaded, hst] at h
  obtain ⟨-, h⟩ := Bool.and_eq_true_iff.1 h
  exact of_decide_eq_true (Bool.and_eq_true_iff.1 h).1

/-! ## What a registration has for itself -/

/-- Someone else does what a registration relies on nobody else to do: mints a keypair, or keeps or forgets a bootstrap
under its key. -/
def Step.Disturbs (task : Nat) (key : String) (st : Step α) : Prop :=
  match st.happening with
  | .answered i (.evaluateWithNewKeypair _) (.ok _) => i ≠ task
  | .accessed i (.keepBootstrap k _) _ | .accessed i (.forgetBootstrap k) _ => i ≠ task ∧ k = key
  | .used (.keepBootstrap k _) _ | .used (.forgetBootstrap k) _ => k = key
  | _ => False

/-- What an event of a task leaves of the bootstrap of a key. -/
def Event.bootstrapAfter (key : String) (kept : Option FreshnessChallenge) : Event → Option FreshnessChallenge
  | .accessed a _ => a.bootstrapAfter key kept
  | _ => kept

theorem Event.bootstrapAfter_happening (key : String) (kept : Option FreshnessChallenge) (i : Nat) (e : Event) :
    (e.happening i).bootstrapAfter key kept = e.bootstrapAfter key kept := by
  cases e <;> rfl

theorem Event.loads?_happening (i : Nat) (e : Event) : (e.happening i).loads? = e.minted? := by
  cases e with
  | answered c x => cases c <;> first | rfl | (cases x <;> rfl)
  | _ => rfl

variable {key : String} {i : Nat}

theorem Access.bootstrapAfter_of_ne {a : Access} (hkeep : ∀ k c, a = .keepBootstrap k c → k ≠ key)
    (hforget : ∀ k, a = .forgetBootstrap k → k ≠ key) (kept : Option FreshnessChallenge) :
    a.bootstrapAfter key kept = kept := by
  cases a with
  | keepBootstrap k c => exact if_neg (hkeep k c rfl)
  | forgetBootstrap k => exact if_neg (hforget k rfl)
  | _ => rfl

/-- What is neither of the task nor disturbs it changes nothing for it. -/
theorem Step.still {st : Step α} (hst : ¬ st.Disturbs i key) (hnone : st.happening.event? i = none)
    (kept : Option FreshnessChallenge) :
    st.happening.bootstrapAfter key kept = kept ∧ st.happening.loads? = none := by
  unfold Step.Disturbs at hst
  cases hh : st.happening with
  | accessed j a x =>
    rw [hh] at hst hnone
    have hj : j ≠ i := fun hj => by
      rw [hj] at hnone
      cases (if_pos rfl).symm.trans hnone
    refine ⟨Access.bootstrapAfter_of_ne ?_ ?_ kept, rfl⟩
    · rintro k c rfl hk
      exact hst ⟨hj, hk⟩
    · rintro k rfl hk
      exact hst ⟨hj, hk⟩
  | used a x =>
    rw [hh] at hst
    refine ⟨Access.bootstrapAfter_of_ne ?_ ?_ kept, rfl⟩
    · rintro k c rfl hk
      exact hst hk
    · rintro k rfl hk
      exact hst hk
  | answered j c x =>
    rw [hh] at hst hnone
    have hj : j ≠ i := fun hj => by
      rw [hj] at hnone
      cases (if_pos rfl).symm.trans hnone
    refine ⟨rfl, ?_⟩
    cases c with
    | evaluateWithNewKeypair input =>
      cases x with
      | ok o => exact absurd hj hst
      | error e => rfl
    | _ => rfl
  | _ => exact ⟨rfl, rfl⟩

/-- So is what a task does that has nothing to do with its challenge. -/
theorem Event.still {e : Event} (he : e.isBinding = false) (kept : Option FreshnessChallenge) :
    e.bootstrapAfter key kept = kept ∧ e.minted? = none := by
  cases e with
  | accessed a x => cases a <;> first | exact ⟨rfl, rfl⟩ | cases he
  | answered c x => cases c <;> first | exact ⟨rfl, rfl⟩ | cases he
  | _ => exact ⟨rfl, rfl⟩

/-- What the steps of a task do to the bootstrap of a key. -/
def keptAfter (key : String) (task : Nat) (kept : Option FreshnessChallenge) (ss : List (Step α)) :
    Option FreshnessChallenge := (bindingOf task ss).foldl (Event.bootstrapAfter key) kept

/-- The keypair that is loaded if only a task mints any. -/
def ownAfter (task : Nat) (loaded : Option Bytes) (ss : List (Step α)) : Option Bytes :=
  (bindingOf task ss).foldl (fun loaded e => e.minted?.or loaded) loaded

theorem Step.undisturbed {st : Step α} (g : st.before.Goes st.move st.happening st.after) (hst : ¬ st.Disturbs i key)
    (loaded : Option Bytes) :
    st.after.host.bootstraps.get? key = keptAfter key i (st.before.host.bootstraps.get? key) [st] ∧
    st.happening.loads?.or loaded = ownAfter i loaded [st] := by
  rw [g.bootstrapAfter key]
  generalize st.before.host.bootstraps.get? key = kept
  unfold keptAfter ownAfter bindingOf
  cases he : st.happening.event? i with
  | none =>
    obtain ⟨hkept, hloads⟩ := Step.still hst he kept
    rw [historyOf_cons_none he, hkept, hloads]
    exact ⟨rfl, rfl⟩
  | some e =>
    rw [historyOf_cons_some he, Happening.eq_of_event? he, Event.bootstrapAfter_happening, Event.loads?_happening]
    cases hbinding : e.isBinding with
    | true =>
      rw [List.filter_cons_of_pos hbinding]
      exact ⟨rfl, rfl⟩
    | false =>
      obtain ⟨hkept, hminted⟩ : e.bootstrapAfter key kept = kept ∧ e.minted? = none := Event.still hbinding kept
      rw [List.filter_cons_of_neg (hbinding ▸ Bool.false_ne_true), hkept, hminted]
      exact ⟨rfl, rfl⟩

variable {w w' : Wallet α} {ss : List (Step α)}

/-- **Undisturbed, a registration has its bootstrap and the loaded keypair for itself**: what becomes of them is settled
by what it does. -/
theorem Run.undisturbed (run : Run w ss w') (hss : ∀ st ∈ ss, ¬ st.Disturbs i key) (loaded : Option Bytes) :
    w'.host.bootstraps.get? key = keptAfter key i (w.host.bootstraps.get? key) ss ∧
    loadedAfter loaded ss = ownAfter i loaded ss := by
  induction run generalizing loaded with
  | nil => exact ⟨rfl, rfl⟩
  | @cons w w₁ w' m h ss first rest ih =>
    obtain ⟨hfirst, hrest⟩ := List.forall_mem_cons.1 hss
    have hbinding : bindingOf i (⟨w, m, h, w₁⟩ :: ss) = bindingOf i [⟨w, m, h, w₁⟩] ++ bindingOf i ss :=
      bindingOf_append i [_] ss
    obtain ⟨hkept, hloaded⟩ := Step.undisturbed (.of_step? first) hfirst loaded
    obtain ⟨hkept', hloaded'⟩ := ih hrest (h.loads?.or loaded)
    unfold keptAfter ownAfter at *
    rw [hbinding, List.foldl_append, List.foldl_append, ← hkept, ← hloaded]
    exact ⟨hkept', hloaded'⟩

section

variable {before after : History} {loaded : Option Bytes}

/-- Undisturbed, a registration finds what it has kept itself. -/
theorem Run.own_look {found : Option FreshnessChallenge} (run : Run w ss w') (hss : ∀ st ∈ ss, ¬ st.Disturbs i key)
    (h : bindingOf i ss = before ++ .accessed (.bootstrap key) found :: after) :
    found = before.foldl (Event.bootstrapAfter key) (w.host.bootstraps.get? key) := by
  obtain ⟨ss₁, look, ss₂, rfl, rfl, hlook, -⟩ := step_of_binding _ h
  obtain ⟨first, now, -⟩ := run.cut
  have g := Wallet.Goes.of_step? now
  rw [hlook] at g
  have hundisturbed : ∀ st ∈ ss₁, ¬ st.Disturbs i key := fun st hst => hss st (List.mem_append_left _ hst)
  exact g.bootstrap_answer.trans (first.undisturbed hundisturbed none).1

/-- Undisturbed, a registration evaluates with the keypair that it has minted itself. -/
theorem Run.own_evaluation {input : Bytes} {output : VrfOutput} (run : Run w ss w')
    (hss : ∀ st ∈ ss, ¬ st.Disturbs i key) (hengine : evaluatesLoaded loaded ss = true)
    (h : bindingOf i ss = before ++ .answered (.evaluate input) (.ok output) :: after) :
    before.foldl (fun loaded e => e.minted?.or loaded) loaded = some output.publicKey := by
  obtain ⟨ss₁, evaluating, ss₂, rfl, rfl, hevaluating, -⟩ := step_of_binding _ h
  have hundisturbed : ∀ st ∈ ss₁, ¬ st.Disturbs i key := fun st hst => hss st (List.mem_append_left _ hst)
  have hloaded : loadedAfter loaded ss₁ = some output.publicKey := by
    refine loaded_of_evaluates hengine ?_
    rw [hevaluating]
    rfl
  exact (run.cut.1.undisturbed hundisturbed loaded).2.symm.trans hloaded

end

theorem mintedBy_eq (i : Nat) (ss : List (Step α)) : mintedBy i ss = (bindingOf i ss).filterMap Event.minted? := by
  unfold mintedBy bindingOf
  rw [List.filterMap_filter]
  congr 1
  funext e
  split
  · rfl
  · rename_i he
    have hstill : e.bootstrapAfter "" none = none ∧ e.minted? = none := Event.still (eq_false_of_ne_true he) none
    exact hstill.2

theorem looksOf_eq (i : Nat) (ss : List (Step α)) : looksOf i ss = (bindingOf i ss).filterMap Event.look? := by
  unfold looksOf bindingOf
  rw [List.filterMap_filter]
  congr 1
  funext e
  split
  · rfl
  · rename_i he
    cases e with
    | accessed a x => cases a <;> first | rfl | exact absurd rfl he
    | _ => rfl

variable {loaded : Option Bytes} {c : FreshnessChallenge}

/-- **Undisturbed, a registration mints one keypair and tells it.** -/
theorem Run.own_keypair {input input' : FreshnessInput} {ensuring binding : History} {r : Except ChainError Block}
    (run : Run w ss w') (hnone : w.host.bootstraps.get? key = none) (hss : ∀ st ∈ ss, ¬ st.Disturbs i key)
    (hengine : evaluatesLoaded loaded ss = true)
    (h : bindingOf i ss = ensuring ++ .answered .latestBlock r :: binding)
    (hensures : Ensures key input .newKeypair ensuring) (hbinds : Binds key input' .newKeypair c binding) :
    ∃ b, mintedBy i ss = [b] ∧ c.vrfPublicKey = Base64url.encode b := by
  cases hensures with
  | there kept =>
    have hfound : some kept = List.foldl (Event.bootstrapAfter key) (w.host.bootstraps.get? key) [] :=
      run.own_look hss h
    rw [hnone] at hfound
    cases hfound
  | minted output =>
    -- The bootstrap is the one that it has kept, so it is there at the second look.
    have hfound {found : Option FreshnessChallenge} {after : History} (h : bindingOf i ss =
        (.accessed (.bootstrap key) none :: mints key input .newKeypair output ++ [.answered .latestBlock r]) ++
          .accessed (.bootstrap key) found :: after) : found = some (.ofOutput input output) := by
      have hlook := run.own_look hss h
      rw [hlook]
      exact if_pos rfl
    rw [mintedBy_eq, h]
    rw [List.append_cons] at h
    cases hbinds with
    | anew output' => cases hfound h
    | fellBack kept e =>
      cases hfound h
      exact ⟨output.publicKey, rfl, rfl⟩
    | refreshed kept output' =>
      rw [List.append_cons] at h
      have hkey : output.publicKey = output'.publicKey := Option.some.inj (run.own_evaluation hss hengine h)
      exact ⟨output.publicKey, rfl, congrArg Base64url.encode hkey.symm⟩

/-! ## The confirmation -/

/-- Whose keypair a registration tells the public key of. -/
inductive TellsKey (loaded : Option Bytes) (i : Nat) (ss : List (Step α)) (c : FreshnessChallenge) : Prop
  /-- The one that it has minted last, since it has found no bootstrap in the end. -/
  | minted {b : Bytes} (hlook : (looksOf i ss).getLast? = some none) (hb : (mintedBy i ss).getLast? = some b)
    (hc : c.vrfPublicKey = Base64url.encode b)
  /-- The one that was loaded when the random function has evaluated for the newer block. -/
  | loaded {before after : List (Step α)} {evaluating : Step α} {input : Bytes} {output : VrfOutput}
    (hss : ss = before ++ evaluating :: after)
    (hevaluating : evaluating.happening = .answered i (.evaluate input) (.ok output))
    (hloaded : loadedAfter loaded before = some output.publicKey)
    (hc : c.vrfPublicKey = Base64url.encode output.publicKey)
  /-- That of the bootstrap which it has found in the end. -/
  | kept (hlook : (looksOf i ss).getLast? = some (some c))

/-- Which keypairs a registration has minted when it is confirmed, and which one it tells. -/
structure TellsKeypair (key : String) (loaded : Option Bytes) (i : Nat) (ss : List (Step α)) (c : FreshnessChallenge) :
    Prop where
  looks : (looksOf i ss).length = 2
  /-- One is minted for each look that finds no bootstrap. -/
  minted : (mintedBy i ss).length = (looksOf i ss).countP (·.isNone)
  told : TellsKey loaded i ss c
  /-- It is the registration's own, and the only one, if nobody has disturbed it since it forgot its bootstrap. -/
  own : ∃ before forgetting since, ss = before ++ forgetting :: since ∧
    forgetting.happening = .accessed i (.forgetBootstrap key) () ∧
    ((∀ st ∈ since, ¬ st.Disturbs i key) → ∃ b, mintedBy i ss = [b] ∧ c.vrfPublicKey = Base64url.encode b)

/-- What a registration does for its challenge says which keypair it tells. -/
theorem TellsKey.of_binding {input input' : FreshnessInput} {block : Block} {ensuring binding : History}
    {r : Except ChainError Block} (hengine : evaluatesLoaded loaded ss = true)
    (h : bindingOf i ss = .answered .latestBlock (.ok block) :: .accessed (.forgetBootstrap key) () ::
      (ensuring ++ .answered .latestBlock r :: binding))
    (hensures : Ensures key input .newKeypair ensuring) (hbinds : Binds key input' .newKeypair c binding) :
    TellsKey loaded i ss c := by
  have hlooks := looksOf_eq i ss
  have hminted := mintedBy_eq i ss
  rw [h] at hlooks hminted
  cases hbinds with
  | anew output =>
    exact .minted (by rw [hlooks]; cases hensures <;> rfl) (by rw [hminted]; cases hensures <;> rfl) rfl
  | fellBack kept e => exact .kept (by rw [hlooks]; cases hensures <;> rfl)
  | refreshed kept output =>
    rw [List.append_cons, List.append_cons, ← List.cons_append, ← List.cons_append] at h
    obtain ⟨before, evaluating, after, rfl, -, hevaluating, -⟩ := step_of_binding _ h
    refine .loaded rfl hevaluating (loaded_of_evaluates hengine ?_) rfl
    rw [hevaluating]
    rfl

/-- A registration that is not disturbed once it has forgotten its bootstrap tells the one keypair that it mints. -/
theorem Run.own_since_forgetting {input input' : FreshnessInput} {block : Block} {ensuring binding : History}
    {r : Except ChainError Block} (run : Run w ss w') (hengine : evaluatesLoaded loaded ss = true)
    (h : bindingOf i ss = .answered .latestBlock (.ok block) :: .accessed (.forgetBootstrap key) () ::
      (ensuring ++ .answered .latestBlock r :: binding))
    (hensures : Ensures key input .newKeypair ensuring) (hbinds : Binds key input' .newKeypair c binding) :
    ∃ before forgetting since, ss = before ++ forgetting :: since ∧
      forgetting.happening = .accessed i (.forgetBootstrap key) () ∧
      ((∀ st ∈ since, ¬ st.Disturbs i key) → ∃ b, mintedBy i ss = [b] ∧ c.vrfPublicKey = Base64url.encode b) := by
  have hminted := mintedBy_eq i ss
  rw [h] at hminted
  obtain ⟨before, forgetting, since, rfl, hbefore, hforgetting, hsince⟩ :=
    step_of_binding [.answered .latestBlock (.ok block)] h
  refine ⟨before, forgetting, since, rfl, hforgetting, fun hundisturbed => ?_⟩
  obtain ⟨-, now, rest⟩ := run.cut
  have hnone : forgetting.after.host.bootstraps.get? key = none := by
    rw [(Wallet.Goes.of_step? now).bootstrapAfter, hforgetting]
    exact if_pos rfl
  rw [evaluatesLoaded_append] at hengine
  obtain ⟨-, hengine⟩ := Bool.and_eq_true_iff.1 hengine
  have hown := rest.own_keypair hnone hundisturbed (Bool.and_eq_true_iff.1 hengine).2 hsince hensures hbinds
  rw [mintedBy_eq, hsince] at hown
  rw [hminted]
  exact hown

theorem Binding.Challenges.tellsKeypair {setup : Setup} {p : RegisterAccountPayload} (run : Run w ss w')
    (hengine : evaluatesLoaded loaded ss = true)
    (h : Challenges setup (.registerAccount p) (some c) (bindingOf i ss)) :
    TellsKeypair (registrationKey p.account) loaded i ss c := by
  generalize hhistory : bindingOf i ss = history at h
  cases h with
  | @bound _ block preparing binding c hprepares r hbinds =>
  cases hprepares with
  | @mk opening ensuring hopens hensures =>
  cases hopens with
  | kept hp | fetched hp => cases hp
  | told hp =>
  have hlooks := looksOf_eq i ss
  have hminted := mintedBy_eq i ss
  rw [hhistory] at hlooks hminted
  have htold : TellsKey loaded i ss c := .of_binding hengine hhistory hensures hbinds
  refine ⟨?_, ?_, htold, run.own_since_forgetting hengine hhistory hensures hbinds⟩
  · rw [hlooks]
    cases hensures <;> cases hbinds <;> rfl
  · rw [hlooks, hminted]
    cases hensures <;> cases hbinds <;> rfl

section

variable {setup : Setup} {raw : Json} {q : Request} {p : RegisterAccountPayload} {w w' : Wallet (Except Error Unit)}
  {ss ss₁ ss₂ : List (Step (Except Error Unit))} {st posting : Step (Except Error Unit)} {m : Json}

/-- **Which keypair a confirmed registration tells**, in every run of a wallet with any number of requests of all kinds,
if the random function evaluates with the keypair that was minted last. -/
theorem handle_tells_keypair (run : Run w ss w') (hengine : evaluatesLoaded loaded ss = true) (hst : st ∈ ss)
    (hstart : st.move = .start (handle setup raw)) (hread : Request.read raw = .ok q)
    (hregisters : q.payload = .registerAccount p) (hss : ss = ss₁ ++ posting :: ss₂)
    (hposting : posting.happening = .called st.before.tasks.length (.post m))
    (hconfirmed : m.get? "confirmed" = some (.bool true)) :
    ∃ c, m.get? "vrfChallenge" = some (FreshnessChallenge.codec.encode c) ∧
      TellsKeypair (registrationKey p.account) loaded st.before.tasks.length ss₁ c := by
  have hbinds : q.payload.bindsChallenge = true := by
    rw [hregisters]
    rfl
  obtain ⟨c, hc, hchallenges⟩ := run.challenge_of_binds hst hstart hread hbinds hss hposting hconfirmed
  rw [hregisters] at hchallenges
  subst hss
  rw [evaluatesLoaded_append] at hengine
  exact ⟨c, hc, hchallenges.tellsKeypair run.cut.1 (Bool.and_eq_true_iff.1 hengine).1⟩

end

/-! Two registrations for one account: the second forgets the bootstrap of the first, which mints another keypair, and
then evaluates with that one. -/

def keyOutput (n : UInt8) : VrfOutput := ⟨[n], [], [n]⟩

/-- What a registration does once its challenge is bound, up to its answer. -/
def attestAndPost (i : Nat) (output : VrfOutput) (response : Response) : List (Move (Except Error Unit)) :=
  List.replicate 2 (Move.advance i) ++ [Move.answer i (.authenticators "a") (.ok []), Move.advance i] ++
  [Move.answer i (.attestation ⟨"", "a", "a", output.output, [], PrfSalts.forAccount "a"⟩) (.ok secretCredential)] ++
  List.replicate 3 (Move.advance i) ++ [Move.answer i (.post response.message) (.ok ()), Move.advance i]

def registeredWith (id : String) (output : VrfOutput) : Response :=
  { Response.approved id with
    credential := some secretCredential.record
    vrfChallenge := some (.ofOutput keptInput output) }

def registerTogether : List (Move (Except Error Unit)) :=
  let other : VrfOutput := ⟨[4], [], [3]⟩
  Move.start (handle quietSetup (registerEnvelope "r" "a")) ::
  Move.start (handle quietSetup (registerEnvelope "s" "a")) ::
  (reachOperation 0 ++ mintBootstrap 0 keptInput (keyOutput 1) ++ List.replicate 2 (Move.advance 0) ++
  -- The second forgets the bootstrap and mints a keypair; before it has that one, the first finds no bootstrap.
  reachOperation 1 ++ [Move.advance 1, Move.answer 1 .latestBlock (.ok ⟨5, "h"⟩)] ++
  List.replicate 3 (Move.advance 1) ++
  [Move.answer 0 .latestBlock (.ok ⟨5, "h"⟩)] ++ List.replicate 2 (Move.advance 0) ++
  [Move.answer 1 (.evaluateWithNewKeypair keptInput.derive) (.ok (keyOutput 2)), Move.advance 1] ++
  [Move.answer 0 (.evaluateWithNewKeypair keptInput.derive) (.ok (keyOutput 3)), Move.advance 0] ++
  attestAndPost 0 (keyOutput 3) (registeredWith "r" (keyOutput 3)) ++
  List.replicate 2 (Move.advance 1) ++ [Move.answer 1 .latestBlock (.ok ⟨5, "h"⟩)] ++
  List.replicate 2 (Move.advance 1) ++ [Move.answer 1 (.evaluate keptInput.derive) (.ok other)] ++
  attestAndPost 1 other (registeredWith "s" other))

theorem registerTogether_run :
    ∃ ss w', Run ⟨quietHost, []⟩ ss w' ∧ movesOf ss = registerTogether ∧ evaluatesLoaded none ss = true ∧
      messagesOf 0 ss = [(registeredWith "r" (keyOutput 3)).message] ∧ mintedBy 0 ss = [[1], [3]] ∧
      messagesOf 1 ss = [(registeredWith "s" ⟨[4], [], [3]⟩).message] ∧ mintedBy 1 ss = [[2]] := by
  have htold : ((Wallet.mk quietHost []).trace? registerTogether).map (fun r =>
      (evaluatesLoaded none r.1, [0, 1].map fun i => (messagesOf i r.1, mintedBy i r.1))) =
      some (true, [([(registeredWith "r" (keyOutput 3)).message], [[1], [3]]),
        ([(registeredWith "s" ⟨[4], [], [3]⟩).message], [[2]])]) := by decide +kernel
  obtain ⟨⟨ss, w'⟩, htrace, htold⟩ := Option.map_eq_some_iff.1 htold
  simp only [List.map_cons, List.map_nil, Prod.mk.injEq, List.cons.injEq, and_true] at htold
  obtain ⟨hengine, ⟨hmessages, hminted⟩, hmessages', hminted'⟩ := htold
  exact ⟨ss, w', .of_trace? htrace, Wallet.moves_of_trace? htrace, hengine, hmessages, hminted, hmessages', hminted'⟩

theorem handle_tells_keypair_registerTogether :
    ∃ ss w' ss₁ posting ss₂, Run ⟨quietHost, []⟩ ss w' ∧ movesOf ss = registerTogether ∧
      evaluatesLoaded none ss = true ∧ ss = ss₁ ++ posting :: ss₂ ∧
      posting.happening = .called 0 (.post (registeredWith "r" (keyOutput 3)).message) ∧
      ∃ c, (registeredWith "r" (keyOutput 3)).message.get? "vrfChallenge" =
        some (FreshnessChallenge.codec.encode c) ∧ TellsKeypair (registrationKey "a") none 0 ss₁ c := by
  obtain ⟨ss, w', run, hmoves, hengine, hmessages, -⟩ := registerTogether_run
  have hmessage : (registeredWith "r" (keyOutput 3)).message ∈ messagesOf 0 ss := hmessages ▸ List.mem_singleton_self _
  obtain ⟨ss₁, posting, ss₂, hss, hposting⟩ := exists_posting hmessage
  have hread : Request.read (registerEnvelope "r" "a") =
      .ok ⟨"r", .obj [], .registerAccount ⟨"a", none⟩, none⟩ := by decide +kernel
  cases run with
  | nil => cases hmoves
  | cons first rest =>
    have hstarted := (List.cons.inj hmoves).1
    have tells := handle_tells_keypair (.cons first rest) hengine List.mem_cons_self hstarted hread rfl hss hposting
      (Response.message_confirmed _)
    exact ⟨_, w', ss₁, posting, ss₂, .cons first rest, hmoves, hengine, hss, hposting, tells⟩

/-- One registration mints two keypairs, and the other tells one that it has not minted. -/
theorem registrations_share_keypair :
    ∃ ss w', Run ⟨quietHost, []⟩ ss w' ∧ movesOf ss = registerTogether ∧ evaluatesLoaded none ss = true ∧
      messagesOf 0 ss = [(registeredWith "r" (keyOutput 3)).message] ∧ mintedBy 0 ss = [[1], [3]] ∧
      messagesOf 1 ss = [(registeredWith "s" ⟨[4], [], [3]⟩).message] ∧ mintedBy 1 ss = [[2]] ∧
      (registeredWith "s" ⟨[4], [], [3]⟩).message.get? "confirmed" = some (.bool true) ∧
      (registeredWith "s" ⟨[4], [], [3]⟩).message.get? "vrfChallenge" =
        some (FreshnessChallenge.codec.encode (.ofOutput keptInput ⟨[4], [], [3]⟩)) := by
  obtain ⟨ss, w', run, hmoves, hengine, hmessages, hminted, hmessages', hminted'⟩ := registerTogether_run
  exact ⟨ss, w', run, hmoves, hengine, hmessages, hminted, hmessages', hminted', Response.message_confirmed _,
    Response.message_vrfChallenge _⟩

end PasskeyConsent

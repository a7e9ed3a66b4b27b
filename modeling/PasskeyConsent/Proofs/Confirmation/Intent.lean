import PasskeyConsent.Proofs.Confirmation.Binding
import PasskeyConsent.Proofs.Confirmation.Presentation
import PasskeyConsent.Proofs.Confirmation.Signature
/-!
# What a signature is bound to

The challenge of a signature is evaluated for the digest of what is signed, which is computed from the payload and from
nothing that the caller claims or shows, and for the newest block that the chain has told its request.  When this
evaluation fails the challenge is the bootstrap that is kept for the account just then.  Another summary leaves all of
that as it is (`handle_tells_intent`).  That there is one such evaluation holds of every operation with the session's
keypair, whatever digest it has (`TellsEvaluated`).
-/
namespace PasskeyConsent

open Observer Program Confirmation Binding

variable {α : Type} {setup : Setup}

/-- What the challenge of a signature is bound to, at a block. -/
def signatureInput (setup : Setup) (account digest : String) (block : Block) : FreshnessInput where
  userId := account
  rpId := setup.rpId
  blockHeight := block.height
  blockHash := block.hash
  intentDigest := some digest

/-- The challenge that an evaluation leads to: its answer or, when it fails, the bootstrap that there is. -/
def challengeAfter (input : FreshnessInput) (kept : Option FreshnessChallenge) :
    Except FreshnessError VrfOutput → Option FreshnessChallenge
  | .ok output => some (.ofOutput input output)
  | .error _ => kept

/-- **How a challenge comes about that is bound with the session's keypair.**  The request has begun with a block and has
a bootstrap.  Then it asks the chain for a newer block, looks at the bootstrap under its key, and has one evaluation
made, for the newer block or else the one that it began with. -/
inductive TellsEvaluated (setup : Setup) (p : Payload) (i : Nat) (c : FreshnessChallenge)
    (x : Except FreshnessError VrfOutput) : List (Step α) → Prop
  | mk {before between later : List (Step α)} {asking looking : Step α} {first : Block} {keeping : History}
    (hprepares : Prepares setup p first (bindingOf i before)) (r : Except ChainError Block)
    (hasked : asking.happening = .answered i .latestBlock r) (hbetween : bindingOf i between = [])
    (hlooked : looking.happening =
      .accessed i (.bootstrap p.challengeKey) (looking.before.host.bootstraps.get? p.challengeKey))
    (hevaluated : bindingOf i later = .answered (.evaluate (boundInput setup p (newest first r)).derive) x :: keeping)
    (hkeeping : ∀ e ∈ keeping, e = .accessed (.keepBootstrap p.challengeKey c) ())
    (htold : challengeAfter (boundInput setup p (newest first r))
      (looking.before.host.bootstraps.get? p.challengeKey) x = some c) :
    TellsEvaluated setup p i c x (before ++ asking :: between ++ looking :: later)

/-- A challenge that has been evaluated anew is bound to the digest of its operation, and to none where that has none. -/
theorem TellsEvaluated.intentDigest_eq {p : Payload} {i : Nat} {c : FreshnessChallenge} {output : VrfOutput}
    {ss : List (Step α)} (h : TellsEvaluated setup p i c (.ok output) ss) : c.intentDigest = p.challengeDigest := by
  cases h with
  | mk _ _ _ _ _ _ _ htold =>
    cases Option.some.inj htold
    rfl

theorem Binding.Challenges.tellsEvaluated {p : Payload} {i : Nat} {c : FreshnessChallenge} {w w' : Wallet α}
    {ss : List (Step α)} (run : Run w ss w') (hpath : p.challengePath = .session)
    (h : Challenges setup p (some c) (bindingOf i ss)) : ∃ x, TellsEvaluated setup p i c x ss := by
  generalize hbinding : bindingOf i ss = history at h
  cases h with
  | @bound _ first preparing binding c hprepares r hbinds =>
    rw [hpath] at hbinds
    obtain ⟨before, asking, rest, rfl, rfl, hasked, hrest⟩ := step_of_binding _ hbinding
    -- In each way the bootstrap is looked at first and the evaluation is next.
    have hmk {kept : Option FreshnessChallenge} {x : Except FreshnessError VrfOutput} {keeping : History}
        (hrest : bindingOf i rest = .accessed (.bootstrap p.challengeKey) kept ::
          .answered (.evaluate (boundInput setup p (newest first r)).derive) x :: keeping)
        (hkeeping : ∀ e ∈ keeping, e = .accessed (.keepBootstrap p.challengeKey c) ())
        (htold : challengeAfter (boundInput setup p (newest first r)) kept x = some c) :
        TellsEvaluated setup p i c x (before ++ asking :: rest) := by
      obtain ⟨between, looking, later, rfl, hbetween, hlooked, hlater⟩ := step_of_binding [] hrest
      have hkept : kept = looking.before.host.bootstraps.get? p.challengeKey := by
        rw [List.append_cons, ← List.append_assoc] at run
        have g := Wallet.Goes.of_step? run.cut.2.1
        rw [hlooked] at g
        exact g.bootstrap_answer
      subst hkept
      rw [← List.cons_append, ← List.append_assoc]
      exact .mk hprepares r hasked hbetween hlooked hlater hkeeping htold
    cases hbinds with
    | refreshed kept output => exact ⟨_, hmk hrest (fun e he => nomatch he) rfl⟩
    | fellBack kept e => exact ⟨_, hmk hrest (fun e he => nomatch he) rfl⟩
    | anew output => exact ⟨_, hmk hrest (fun e he => List.mem_singleton.1 he) rfl⟩

/-- **How the challenge of a signature comes about.**  The request has begun with a block and has a bootstrap.  Then it
asks the chain for a newer block, looks at the bootstrap of the account, and has one evaluation made: for the digest,
and for the newer block or else the one that it began with. -/
inductive TellsIntent (setup : Setup) (p : Payload) (digest : String) (i : Nat) (c : FreshnessChallenge) :
    List (Step α) → Prop
  | mk {before between later : List (Step α)} {asking looking : Step α} {first : Block} {keeping : History}
    (hprepares : Prepares setup p first (bindingOf i before)) (r : Except ChainError Block)
    (hasked : asking.happening = .answered i .latestBlock r) (hbetween : bindingOf i between = [])
    (hlooked : looking.happening =
      .accessed i (.bootstrap p.account) (looking.before.host.bootstraps.get? p.account))
    (x : Except FreshnessError VrfOutput)
    (hevaluated : bindingOf i later =
      .answered (.evaluate (signatureInput setup p.account digest (newest first r)).derive) x :: keeping)
    (hkeeping : ∀ e ∈ keeping, e = .accessed (.keepBootstrap p.account c) ())
    (htold : challengeAfter (signatureInput setup p.account digest (newest first r))
      (looking.before.host.bootstraps.get? p.account) x = some c) :
    TellsIntent setup p digest i c (before ++ asking :: between ++ looking :: later)

/-- A request that signs binds its challenge with the session's keypair, under the name of the account. -/
theorem Payload.challengeKey_of_digest {p : Payload} {digest : String} (h : p.challengeDigest = some digest) :
    p.challengeKey = p.account ∧ p.challengePath = .session := by
  cases p with
  | registerAccount p => cases h
  | _ => exact ⟨rfl, rfl⟩

theorem Binding.Challenges.tellsIntent {p : Payload} {digest : String} {i : Nat} {c : FreshnessChallenge}
    {w w' : Wallet α} {ss : List (Step α)} (run : Run w ss w') (hdigest : p.challengeDigest = some digest)
    (h : Challenges setup p (some c) (bindingOf i ss)) : TellsIntent setup p digest i c ss := by
  obtain ⟨hkey, hpath⟩ := Payload.challengeKey_of_digest hdigest
  have hinput (block : Block) : boundInput setup p block = signatureInput setup p.account digest block := by
    unfold boundInput
    rw [hdigest]
    rfl
  obtain ⟨x, hevaluated⟩ := h.tellsEvaluated run hpath
  cases hevaluated with
  | mk hprepares r hasked hbetween hlooked hevaluated hkeeping htold =>
    rw [hkey] at hlooked hkeeping htold
    rw [hinput] at hevaluated htold
    exact .mk hprepares r hasked hbetween hlooked x hevaluated hkeeping htold

section

variable {raw : Json} {q : Request} {digest : String} {w w' : Wallet (Except Error Unit)}
  {ss ss₁ ss₂ : List (Step (Except Error Unit))} {st posting : Step (Except Error Unit)} {m : Json}

/-- **What the challenge of a signature is bound to**, in every run of a wallet, and that every other run with the same
moves but for summaries tells the same. -/
theorem handle_tells_intent (run : Run w ss w') (hst : st ∈ ss) (hstart : st.move = .start (handle setup raw))
    (hread : Request.read raw = .ok q) (hdigest : q.payload.challengeDigest = some digest)
    (hbinds : q.payload.bindsChallenge = true) (hss : ss = ss₁ ++ posting :: ss₂)
    (hposting : posting.happening = .called st.before.tasks.length (.post m))
    (hconfirmed : m.get? "confirmed" = some (.bool true)) :
    (∃ c, m.get? "vrfChallenge" = some (FreshnessChallenge.codec.encode c) ∧
      TellsIntent setup q.payload digest st.before.tasks.length c ss₁) ∧
    ∀ ss' w'', Run w ss' w'' → List.Forall₂ (Move.Restates setup) (movesOf ss) (movesOf ss') →
      messagesOf st.before.tasks.length ss' = messagesOf st.before.tasks.length ss := by
  refine ⟨?_, fun ss' w'' run' h => (run.messages_of_restates run' h _).symm⟩
  obtain ⟨c, hc, hchallenges⟩ := run.challenge_of_binds hst hstart hread hbinds hss hposting hconfirmed
  subst hss
  exact ⟨c, hc, hchallenges.tellsIntent run.cut.1 hdigest⟩

end

/-! A message is signed with a surface shown, for a block that is newer than the one of the bootstrap.  One caller shows
nothing, and another claims a digest in the summary. -/

def shownEnvelope (summary : Json) : Json :=
  .obj [("payload", .obj [("message", .str "hello"), ("nearAccountId", .str "a"), ("recipient", .str "b")]),
    ("requestId", .str "r"), ("schemaVersion", .int 2), ("summary", summary), ("type", .str "signMessage")]

def shownRequest (summary : Json) : Request := ⟨"r", summary, .signMessage messagePayload, none⟩

def claimedSummary : Json := .obj [("intentDigest", .str "x")]

def newerInput : FreshnessInput := ⟨"a", "", 6, "i", some (Digest.message messagePayload)⟩

def newerOutput : VrfOutput := ⟨[4, 5], [], []⟩

def signedOverNewer : Response :=
  { Response.approved "r" with
    credential := some secretCredential.record
    vrfChallenge := some (.ofOutput newerInput newerOutput) }

def untilShown : List (Move (Except Error Unit)) :=
  List.replicate 3 (Move.advance 0) ++ [Move.answer 0 .preferences {}] ++ List.replicate 4 (Move.advance 0)

def onceShown : List (Move (Except Error Unit)) :=
  let options : AssertionOptions := ⟨"", [4, 5], ["c"], PrfSalts.forAccount "a"⟩
  List.replicate 2 (Move.advance 0) ++ [Move.answer 0 (.decision ⟨0⟩ none) (some .proceed)] ++
  [Move.advance 0, Move.answer 0 .latestBlock (.ok ⟨5, "h"⟩)] ++
  List.replicate 2 (Move.advance 0) ++ [Move.answer 0 (.evaluate keptInput.derive) (.ok keptOutput)] ++
  List.replicate 3 (Move.advance 0) ++ [Move.answer 0 .latestBlock (.ok ⟨6, "i"⟩)] ++
  List.replicate 2 (Move.advance 0) ++ [Move.answer 0 (.evaluate newerInput.derive) (.ok newerOutput)] ++
  List.replicate 2 (Move.advance 0) ++ [Move.answer 0 (.authenticators "a") (.ok [])] ++
  [Move.advance 0, Move.answer 0 (.currentPasskey "a" []) (.ok ⟨[⟨"c", 0, []⟩], none⟩)] ++
  [Move.advance 0, Move.answer 0 (.assertion options) (.ok secretCredential)] ++
  List.replicate 3 (Move.advance 0) ++ [Move.answer 0 (.unmount ⟨0⟩) ()] ++
  [Move.advance 0, Move.answer 0 (.post signedOverNewer.message) (.ok ()), Move.advance 0]

def signShown (summary : Json) : List (Move (Except Error Unit)) :=
  Move.start (handle quietSetup (shownEnvelope summary)) ::
    (untilShown ++ Move.answer 0 (.mount (shownRequest summary) {}) ⟨0⟩ :: onceShown)

theorem signShown_restates {s s' : Json} (hread : Request.read (shownEnvelope s) = .ok (shownRequest s))
    (hread' : Request.read (shownEnvelope s') = .ok (shownRequest s')) :
    List.Forall₂ (Move.Restates quietSetup) (signShown s) (signShown s') := by
  have hsame (ms : List (Move (Except Error Unit))) : List.Forall₂ (Move.Restates quietSetup) ms ms :=
    List.forall₂_same.2 fun m _ => .same m
  have henvelope : (shownEnvelope s).SameBut "summary" (shownEnvelope s') :=
    Json.sameBut_member "summary" s s' [_, _, _] [_]
  refine .cons (.start henvelope hread hread') (List.rel_append (hsame untilShown) (.cons ?_ (hsame onceShown)))
  exact .mount 0 (shownRequest s) s' {} ⟨0⟩

theorem handle_tells_intent_signShown :
    ∃ ss w' ss' w'' ss₁ posting ss₂, Run ⟨quietHost, []⟩ ss w' ∧ Run ⟨quietHost, []⟩ ss' w'' ∧
      movesOf ss = signShown .null ∧ movesOf ss' = signShown claimedSummary ∧ ss = ss₁ ++ posting :: ss₂ ∧
      posting.happening = .called 0 (.post signedOverNewer.message) ∧
      (∃ c, signedOverNewer.message.get? "vrfChallenge" = some (FreshnessChallenge.codec.encode c) ∧
        TellsIntent quietSetup (.signMessage messagePayload) (Digest.message messagePayload) 0 c ss₁) ∧
      messagesOf 0 ss' = messagesOf 0 ss := by
  have htold : ((Wallet.mk quietHost []).trace? (signShown .null)).map (fun r => messagesOf 0 r.1) =
      some [signedOverNewer.message] := by decide +kernel
  have htold' : ((Wallet.mk quietHost []).trace? (signShown claimedSummary)).isSome = true := by decide +kernel
  obtain ⟨⟨ss, w'⟩, htrace, hmessages⟩ := Option.map_eq_some_iff.1 htold
  obtain ⟨⟨ss', w''⟩, htrace'⟩ := Option.isSome_iff_exists.1 htold'
  have run := Run.of_trace? htrace
  have hmoves : movesOf ss = signShown .null := Wallet.moves_of_trace? htrace
  have hmoves' : movesOf ss' = signShown claimedSummary := Wallet.moves_of_trace? htrace'
  have hread : Request.read (shownEnvelope .null) = .ok (shownRequest .null) := by decide +kernel
  have hread' : Request.read (shownEnvelope claimedSummary) = .ok (shownRequest claimedSummary) := by decide +kernel
  have hmessage : signedOverNewer.message ∈ messagesOf 0 ss := hmessages ▸ List.mem_singleton_self _
  obtain ⟨ss₁, posting, ss₂, hss, hposting⟩ := exists_posting hmessage
  have hconfirmed : signedOverNewer.message.get? "confirmed" = some (.bool true) := Response.message_confirmed _
  have hrestates : List.Forall₂ (Move.Restates quietSetup) (movesOf ss) (movesOf ss') := by
    rw [hmoves, hmoves']
    exact signShown_restates hread hread'
  cases run with
  | nil => cases hmoves
  | cons first rest =>
    have hstarted := (List.cons.inj hmoves).1
    have hdigest : (shownRequest .null).payload.challengeDigest = some (Digest.message messagePayload) := rfl
    obtain ⟨htells, hsame⟩ := handle_tells_intent (.cons first rest) List.mem_cons_self hstarted hread hdigest rfl hss
      hposting hconfirmed
    exact ⟨_, w', ss', w'', ss₁, posting, ss₂, .cons first rest, .of_trace? htrace', hmoves, hmoves', hss, hposting,
      htells, hsame ss' w'' (.of_trace? htrace') hrestates⟩

end PasskeyConsent

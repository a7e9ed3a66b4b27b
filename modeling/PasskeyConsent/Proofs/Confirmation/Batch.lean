import PasskeyConsent.Proofs.Confirmation.Intent
import PasskeyConsent.Proofs.Confirmation.Settlement
/-!
# What the challenge of a device link is bound to

A request to link a device comes with a batch of transactions and reserves a sequence number for each, as a request to
sign them does.  Its challenge is bound to the account and to the newest block, and to no digest: an evaluation that
goes well tells a challenge without one, and nothing that the flow does depends on what the transactions are
(`handle_links_unbound`).
-/
namespace PasskeyConsent

open Observer Program Confirmation Binding

/-- The flow of a device link is told its id, its account and how many numbers it needs. -/
theorem perform_linkDevice_eq {setup : Setup} {q q' : Request} {p p' : LinkDevicePayload} (hq : q.payload = .linkDevice p)
    (hq' : q'.payload = .linkDevice p') (hid : q'.id = q.id) (haccount : p'.account = p.account)
    (hcount : q'.payload.nonceCount = q.payload.nonceCount) : perform setup q' = perform setup q := by
  rw [hq, hq'] at hcount
  simp only [perform, hq, hq', linkDevice, hid, haccount, hcount]

section

variable {setup : Setup} {raw : Json} {q : Request} {p : LinkDevicePayload} {w w' : Wallet (Except Error Unit)}
  {ss ss₁ ss₂ : List (Step (Except Error Unit))} {st posting : Step (Except Error Unit)} {m : Json}

/-- **What the challenge of a device link is bound to**, in every run of a wallet: where the last evaluation has gone
well, to no digest.  The flow is the same for every batch with the same count of sequence numbers. -/
theorem handle_links_unbound (run : Run w ss w') (hst : st ∈ ss) (hstart : st.move = .start (handle setup raw))
    (hread : Request.read raw = .ok q) (hlinks : q.payload = .linkDevice p) (hss : ss = ss₁ ++ posting :: ss₂)
    (hposting : posting.happening = .called st.before.tasks.length (.post m))
    (hconfirmed : m.get? "confirmed" = some (.bool true)) :
    (∃ c x, m.get? "vrfChallenge" = some (FreshnessChallenge.codec.encode c) ∧
      TellsEvaluated setup q.payload st.before.tasks.length c x ss₁ ∧
      ∀ output, x = .ok output → c.intentDigest = none) ∧
    ∀ q' p', q'.payload = .linkDevice p' → q'.id = q.id → p'.account = p.account →
      q'.payload.nonceCount = q.payload.nonceCount → perform setup q' = perform setup q := by
  constructor
  · have hbinds : q.payload.bindsChallenge = true := by
      rw [hlinks]
      rfl
    have hpath : q.payload.challengePath = .session := by
      rw [hlinks]
      rfl
    obtain ⟨c, hc, hchallenges⟩ := run.challenge_of_binds hst hstart hread hbinds hss hposting hconfirmed
    subst hss
    obtain ⟨x, hevaluated⟩ := hchallenges.tellsEvaluated run.cut.1 hpath
    refine ⟨c, x, hc, hevaluated, ?_⟩
    rintro output rfl
    rw [hevaluated.intentDigest_eq, hlinks]
    rfl
  · intro q' p' hlinks' hid haccount hcount
    exact perform_linkDevice_eq hlinks hlinks' hid haccount hcount

end

/-! A device is linked with a batch of one transaction, for a block that is newer than that of the turn. -/

def linkPayload : LinkDevicePayload := ⟨"a", 1, [⟨"b", []⟩]⟩

def linkEnvelope : Json :=
  .obj [("payload", .obj [("deviceNumber", .int 1), ("nearAccountId", .str "a"),
      ("txSigningRequests", .arr [.obj [("receiverId", .str "b")]])]),
    ("requestId", .str "r"), ("schemaVersion", .int 2), ("type", .str "linkDevice")]

def linkRequest : Request := ⟨"r", .obj [], .linkDevice linkPayload, none⟩

def linkInput : FreshnessInput := ⟨"a", "", 2, "i", none⟩

def linkOutput : VrfOutput := ⟨[4, 5], [], []⟩

def linked : Response :=
  { Response.approved "r" with
    credential := some secretCredential.record
    vrfChallenge := some (.ofOutput linkInput linkOutput)
    transactionContext := some ⟨"k", "6", "7", "1", "h", ["7"]⟩ }

def linkOnce : List (Move (Except Error Unit)) :=
  let firstInput : FreshnessInput := ⟨"a", "", 1, "h", none⟩
  let options : AssertionOptions := ⟨"", [4, 5], ["c"], PrfSalts.forAccount "a"⟩
  List.replicate 3 (Move.advance 0) ++ [Move.answer 0 .preferences { uiMode := .skip }] ++
  List.replicate 8 (Move.advance 0) ++ [Move.answer 0 (.evaluate firstInput.derive) (.ok keptOutput)] ++
  List.replicate 3 (Move.advance 0) ++ [Move.answer 0 .latestBlock (.ok ⟨2, "i"⟩)] ++
  List.replicate 2 (Move.advance 0) ++ [Move.answer 0 (.evaluate linkInput.derive) (.ok linkOutput)] ++
  List.replicate 2 (Move.advance 0) ++ [Move.answer 0 (.authenticators "a") (.ok [])] ++
  [Move.advance 0, Move.answer 0 (.currentPasskey "a" []) (.ok ⟨[⟨"c", 0, []⟩], none⟩)] ++
  [Move.advance 0, Move.answer 0 (.assertion options) (.ok secretCredential)] ++
  List.replicate 5 (Move.advance 0) ++ [Move.answer 0 (.post linked.message) (.ok ()), Move.advance 0]

theorem read_linkEnvelope : Request.read linkEnvelope = .ok linkRequest := by decide +kernel

theorem linkOnce_tells :
    ((Wallet.mk warmHost []).trace? (.start (handle quietSetup linkEnvelope) :: linkOnce)).map (fun r => messagesOf 0 r.1) =
      some [linked.message] := by decide +kernel

theorem handle_links_unbound_linkOnce :
    ∃ ss w' ss₁ posting ss₂, Run ⟨warmHost, []⟩ ss w' ∧
      movesOf ss = .start (handle quietSetup linkEnvelope) :: linkOnce ∧ ss = ss₁ ++ posting :: ss₂ ∧
      posting.happening = .called 0 (.post linked.message) ∧
      (∃ c x, linked.message.get? "vrfChallenge" = some (FreshnessChallenge.codec.encode c) ∧
        TellsEvaluated quietSetup linkRequest.payload 0 c x ss₁ ∧ ∀ output, x = .ok output → c.intentDigest = none) ∧
      ∀ q' p', q'.payload = .linkDevice p' → q'.id = "r" → p'.account = "a" →
        q'.payload.nonceCount = linkRequest.payload.nonceCount → perform quietSetup q' = perform quietSetup linkRequest := by
  obtain ⟨ss, w', st, ss₁, posting, ss₂, run, hmoves, hst, hstart, hfirst, hss, hposting⟩ :=
    exists_run_posting (handle quietSetup linkEnvelope) linkOnce linkOnce_tells
  have hconfirmed : linked.message.get? "confirmed" = some (.bool true) := Response.message_confirmed _
  have hposting' : posting.happening = .called st.before.tasks.length (.post linked.message) := by rw [hfirst, hposting]
  have hlinks := handle_links_unbound run hst hstart read_linkEnvelope rfl hss hposting' hconfirmed
  rw [hfirst] at hlinks
  exact ⟨ss, w', ss₁, posting, ss₂, run, hmoves, hss, hposting, hlinks⟩

/-- The device is linked under a challenge that was evaluated anew, and that does not tell the digest of the batch. -/
theorem linked_without_digest :
    ∃ ss w', Run ⟨warmHost, []⟩ ss w' ∧ movesOf ss = .start (handle quietSetup linkEnvelope) :: linkOnce ∧
      Move.answer 0 (.evaluate linkInput.derive) (.ok linkOutput) ∈ linkOnce ∧
      messagesOf 0 ss = [linked.message] ∧ linked.vrfChallenge = some (.ofOutput linkInput linkOutput) ∧
      (linked.message.get? "vrfChallenge").bind (Json.get? "intentDigest") ≠
        some (.str (Digest.intent linkPayload.transactions)) := by
  obtain ⟨⟨ss, w'⟩, htrace, hmessages⟩ := Option.map_eq_some_iff.1 linkOnce_tells
  exact ⟨ss, w', .of_trace? htrace, Wallet.moves_of_trace? htrace, by simp [linkOnce], hmessages, rfl, by decide +kernel⟩

end PasskeyConsent

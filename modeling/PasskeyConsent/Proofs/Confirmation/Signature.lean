import PasskeyConsent.Proofs.Confirmation.Disclosure
import PasskeyConsent.Proofs.Confirmation.Rollback
import PasskeyConsent.Proofs.Confirmation.Signing
/-!
# What is signed is what is told

Every bootstrap that a wallet keeps was made from an answer of the random function (`Minted`), whichever of its tasks
made it and whichever dropped or replaced it since (`Run.provident`).  So the challenge that a confirmation tells was
made from such an answer, on every way that it can have come about, and the authenticator was prompted with that answer
as it is, once (`handle_tells_signed`).
-/
namespace PasskeyConsent

open Observer Program Confirmation

variable {α : Type}

/-! ## Where challenges come from -/

/-- The random function has answered an input. -/
def Evaluated (ss : List (Step α)) (input : Bytes) (output : VrfOutput) : Prop :=
  ∃ st ∈ ss, ∃ i, st.happening = .answered i (.evaluate input) (.ok output) ∨
    st.happening = .answered i (.evaluateWithNewKeypair input) (.ok output)

/-- A challenge was made from an answer of the random function. -/
def Minted (ss : List (Step α)) (c : FreshnessChallenge) : Prop :=
  ∃ input output, Evaluated ss (FreshnessInput.derive input) output ∧ c = .ofOutput input output

theorem Evaluated.append {ss : List (Step α)} {input : Bytes} {output : VrfOutput} (h : Evaluated ss input output)
    (ss' : List (Step α)) : Evaluated (ss ++ ss') input output := by
  obtain ⟨st, hst, h⟩ := h
  exact ⟨st, List.mem_append_left _ hst, h⟩

theorem Minted.append {ss : List (Step α)} {c : FreshnessChallenge} (h : Minted ss c) (ss' : List (Step α)) :
    Minted (ss ++ ss') c := by
  obtain ⟨input, output, h, hc⟩ := h
  exact ⟨input, output, h.append ss', hc⟩

/-! ## The bootstraps of the host -/

/-- What an access leaves of the bootstrap of a key. -/
def Access.bootstrapAfter (key : String) (kept : Option FreshnessChallenge) : Access → Option FreshnessChallenge
  | .keepBootstrap k c => if k = key then some c else kept
  | .forgetBootstrap k => if k = key then none else kept
  | _ => kept

theorem Host.access_bootstraps_of_ne (h : Host) (task : Nat) (own : Holdings) {a : Access}
    (hkeep : ∀ key c, a ≠ .keepBootstrap key c) (hforget : ∀ key, a ≠ .forgetBootstrap key) :
    (h.access task own a).2.1.bootstraps = h.bootstraps := by
  have change := h.access_changes task own a
  generalize (h.access task own a).2.1 = h' at change ⊢
  cases change with
  | keepBootstrap key c => exact absurd rfl (hkeep key c)
  | forgetBootstrap key => exact absurd rfl (hforget key)
  | _ => rfl

theorem Host.access_bootstrap (h : Host) (task : Nat) (own : Holdings) (a : Access) (key : String) :
    (h.access task own a).2.1.bootstraps.get? key = a.bootstrapAfter key (h.bootstraps.get? key) := by
  cases a with
  | keepBootstrap k c =>
    show (h.bootstraps.put k c).get? key = if k = key then some c else h.bootstraps.get? key
    split
    · rename_i hk
      rw [hk, Table.get?_put_self]
    · rename_i hk
      exact Table.get?_put_of_ne _ (Ne.symm hk) _
  | forgetBootstrap k =>
    show (h.bootstraps.erase k).get? key = if k = key then none else h.bootstraps.get? key
    split
    · rename_i hk
      rw [hk, Table.get?_erase_self]
    · rename_i hk
      exact Table.get?_erase_of_ne _ (Ne.symm hk)
  | _ => exact congrArg (Table.get? · key) (h.access_bootstraps_of_ne task own nofun nofun)

theorem Access.eq_keepBootstrap_of_bootstrapAfter {a : Access} {key : String} {kept : Option FreshnessChallenge}
    {c : FreshnessChallenge} (h : a.bootstrapAfter key kept = some c) : kept = some c ∨ a = .keepBootstrap key c := by
  cases a with
  | keepBootstrap k c' =>
    replace h : (if k = key then some c' else kept) = some c := h
    split at h
    · rename_i hk
      cases h
      exact .inr (hk ▸ rfl)
    · exact .inl h
  | forgetBootstrap k =>
    replace h : (if k = key then none else kept) = some c := h
    split at h
    · cases h
    · exact .inl h
  | _ => exact .inl h

/-- What has become of the bootstrap of a key at a happening. -/
def Happening.bootstrapAfter (key : String) (kept : Option FreshnessChallenge) : Happening → Option FreshnessChallenge
  | .accessed _ a _ | .used a _ => a.bootstrapAfter key kept
  | _ => kept

namespace Wallet.Goes

variable {w w' : Wallet α} {m : Move α} {h : Happening} {key : String} {c : FreshnessChallenge}

/-- **Bootstraps are kept and forgotten by accesses alone.** -/
theorem bootstrapAfter (g : w.Goes m h w') (key : String) :
    w'.host.bootstraps.get? key = h.bootstrapAfter key (w.host.bootstraps.get? key) := by
  cases g with
  | @access i t a next ht hp => exact w.host.access_bootstrap i t.own a key
  | outside a => exact w.host.access_bootstrap _ _ a key
  | look ht hs hl =>
    rename_i i t u
    cases u <;> rfl
  | wait ht hl hr =>
    rename_i i t t' u x
    cases u <;> rfl
  | _ => rfl

/-- A new bootstrap is kept by a task, or from outside. -/
theorem bootstraps (g : w.Goes m h w') (hc : w'.host.bootstraps.get? key = some c) :
    w.host.bootstraps.get? key = some c ∨ (∃ i, h = .accessed i (.keepBootstrap key c) ()) ∨
      m = .outside (.keepBootstrap key c) := by
  rw [g.bootstrapAfter key] at hc
  cases g with
  | @access i t a next ht hp =>
    rcases Access.eq_keepBootstrap_of_bootstrapAfter hc with hc | rfl
    · exact .inl hc
    · exact .inr (.inl ⟨i, rfl⟩)
  | outside a =>
    rcases Access.eq_keepBootstrap_of_bootstrapAfter hc with hc | rfl
    · exact .inl hc
    · exact .inr (.inr rfl)
  | _ => exact .inl hc

/-- A bootstrap that a task reads is kept. -/
theorem bootstrap_answer {i : Nat} {x : Option FreshnessChallenge} (g : w.Goes m (.accessed i (.bootstrap key) x) w') :
    x = w.host.bootstraps.get? key := by
  cases g with
  | access ht hp => rfl

end Wallet.Goes

/-! ## The invariant -/

/-- A move that keeps bootstraps only as `Program.Mints` says. -/
def Move.Mints : Move α → Prop
  | .start p => p.Mints
  | .outside (.keepBootstrap ..) => False
  | _ => True

theorem Move.Mints.of_isOfTask {m : Move α} (h : m.isOfTask = true) : m.Mints := by
  cases m with
  | advance | answer | stop => trivial
  | _ => cases h

/-- All bootstraps that are kept or were read, and all answers that a task has had, come from the random function. -/
structure Provident (done : List (Step α)) (w : Wallet α) (recs : Nat → Signing) : Prop where
  kept : ∀ key c, w.host.bootstraps.get? key = some c → Minted done c
  shown : ∀ i, ∀ c ∈ (recs i).shown, Minted done c
  outputs : ∀ i input output, (input, output) ∈ (recs i).outputs → Evaluated done input output

theorem Provident.knows {done : List (Step α)} {w : Wallet α} {recs : Nat → Signing} (h : Provident done w recs)
    {i : Nat} {c : FreshnessChallenge} (hc : (recs i).Knows c) : Minted done c := by
  rcases hc with hc | ⟨input, output, hmem, hc⟩
  · exact h.shown i c hc
  · exact ⟨input, output, h.outputs i _ _ hmem, hc⟩

/-- What the record of a task has after a happening, it had before or it is of this happening. -/
theorem Signing.of_afterAll {β : Type} {recs : Nat → Signing} {h : Happening} {i : Nat} {f : Signing → List β} {b : β}
    (hb : b ∈ f (minter.afterAll recs h i)) :
    b ∈ f (recs i) ∨ ∃ e, h = e.happening i ∧ b ∈ f ((recs i).after e) := by
  unfold afterAll at hb
  split at hb
  · rename_i e he
    exact .inr ⟨e, Happening.eq_of_event? he, hb⟩
  · exact .inl hb

theorem Provident.step {done : List (Step α)} {st : Step α} {recs : Nat → Signing}
    (g : st.before.Goes st.move st.happening st.after) (hmints : st.move.Mints)
    (hallows : ∀ i e, st.happening.event? i = some e → Signing.minter.allows (recs i) e)
    (h : Provident done st.before recs) :
    Provident (done ++ [st]) st.after (Signing.minter.afterAll recs st.happening) where
  kept key c hc := by
    rcases g.bootstraps hc with hc | ⟨i, hi⟩ | hm
    · exact (h.kept key c hc).append _
    · have hknows : (recs i).Knows c := hallows i (.accessed (.keepBootstrap key c) ()) (Happening.event?_of_eq hi)
      exact (h.knows hknows).append _
    · rw [hm] at hmints
      exact hmints.elim
  shown i c hc := by
    rcases Signing.of_afterAll (f := Signing.shown) hc with hc | ⟨e, he, hc⟩
    · exact (h.shown i c hc).append _
    · rcases Signing.mem_shown_after hc with hc | ⟨key, rfl⟩
      · exact (h.shown i c hc).append _
      · rw [he] at g
        exact (h.kept key c (Wallet.Goes.bootstrap_answer g).symm).append _
  outputs i input output ho := by
    have hnow (hst : st.happening = .answered i (.evaluate input) (.ok output) ∨
        st.happening = .answered i (.evaluateWithNewKeypair input) (.ok output)) :
        Evaluated (done ++ [st]) input output :=
      ⟨st, List.mem_append_right _ (List.mem_singleton_self st), i, hst⟩
    rcases Signing.of_afterAll (f := Signing.outputs) ho with ho | ⟨e, he, ho⟩
    · exact (h.outputs i input output ho).append _
    · rcases Signing.mem_outputs_after ho with ho | rfl | rfl
      · exact (h.outputs i input output ho).append _
      · exact hnow (.inl he)
      · exact hnow (.inr he)

/-- What a task has seen and done of challenges along a run. -/
def signingOf (task : Nat) (ss : List (Step α)) : Signing := Signing.minter.seen {} (historyOf task ss)

variable {w w' : Wallet α} {ss ss₁ ss₂ : List (Step α)}

/-- **In every run of a wallet** that starts without bootstraps, all challenges come from the random function. -/
theorem Run.provident (run : Run w ss w') (hempty : w.tasks = []) (hnone : w.host.bootstraps = {})
    (hmints : ∀ st ∈ ss, st.move.Mints) : Provident ss w' fun i => signingOf i ss := by
  have hstarts : Run.Starts Signing.minter (fun _ _ _ => True) {} ss := by
    intro st hst p hp
    have hmint := hmints st hst
    rw [hp] at hmint
    exact hmint
  have hinit : Provident [] w fun _ => {} := by
    refine ⟨fun key c hc => ?_, fun _ c hc => ?_, fun _ _ _ ho => ?_⟩
    · rw [hnone] at hc
      cases hc
    · cases hc
    · cases ho
  exact run.invariant hempty hstarts hinit fun _ st hst _ g hallows h => h.step g (hmints st hst) hallows

/-! ## The confirmation -/

/-- What the authenticator is prompted with on behalf of a task, in order. -/
def promptsOf (task : Nat) (ss : List (Step α)) : List Bytes := (historyOf task ss).filterMap Event.prompt?

theorem signingOf_prompts (task : Nat) (ss : List (Step α)) : (signingOf task ss).prompts = promptsOf task ss := by
  unfold signingOf
  rw [Signing.minter_seen_prompts]
  rfl

/-- A message tells the challenge that was signed: it tells one just when the operation of the request binds one, and
that one was made from an answer of the random function, which is what the authenticator was prompted with, once. -/
structure TellsSigned (q : Request) (i : Nat) (before ss : List (Step α)) (m : Json) : Prop where
  challenge : (m.get? "vrfChallenge").isSome = q.payload.bindsChallenge
  credential : q.payload.bindsChallenge = true → (m.get? "credential").isSome = true
  signed : ∀ v, m.get? "vrfChallenge" = some v → ∃ input output,
    v = FreshnessChallenge.codec.encode (.ofOutput input output) ∧ Evaluated before (FreshnessInput.derive input) output ∧
    (FreshnessChallenge.ofOutput input output).signedBytes = output.output ∧ promptsOf i ss = [output.output]

section

variable {setup : Setup} {raw : Json} {w w' : Wallet (Except Error Unit)}
  {ss ss₁ ss₂ : List (Step (Except Error Unit))} {st posting : Step (Except Error Unit)} {i : Nat} {m : Json}

/-- Once a request has posted there are no more prompts for it. -/
theorem no_prompt_after_post {binds : Bool} (run : Run w ss w') (hst : st ∈ ss)
    (hstart : st.move = .start (handle setup raw)) (hi : st.before.tasks.length = i)
    (hsigns : (Signing.signer binds).Meets anywhere (handle setup raw) (fun _ _ _ => True) {} {})
    (hss : ss = ss₁ ++ posting :: ss₂) (hposting : posting.happening = .called i (.post m)) :
    promptsOf i ss₂ = [] := by
  cases hprompts : promptsOf i ss₂ with
  | nil => rfl
  | cons b bs =>
    obtain ⟨h₁, e, h₂, hhistory, -, he, -⟩ := List.filterMap_eq_cons_iff.1 hprompts
    obtain ⟨between, prompt, later, rfl, -, hprompt, -⟩ := Run.step_of_event hhistory
    have hss' : ss = (ss₁ ++ posting :: between) ++ prompt :: later := by
      rw [hss]
      simp
    have hallowed := run.allowed_since_start hst hstart hi hsigns hss' hprompt
    have hunposted : (signingOf i (ss₁ ++ posting :: between)).posted = [] := by
      cases e with
      | called c =>
        cases c with
        | assertion options => exact hallowed
        | attestation options => exact hallowed
        | _ => cases he
      | _ => cases he
    have hposted : m ∈ (signingOf i (ss₁ ++ posting :: between)).posted := by
      have hevent : posting.happening.event? i = some (.called (.post m)) := Happening.event?_of_eq hposting
      unfold signingOf
      rw [historyOf_append, seen_append, historyOf_cons_some hevent, seen_cons]
      exact Signing.posted_seen _ _ (List.mem_append_right _ (List.mem_singleton_self m))
    rw [hunposted] at hposted
    cases hposted

/-- **What is signed is what is told**, in every run of a wallet, whichever way the challenge came about: from a newer
block, from the kept bootstrap when the block or its evaluation could not be had, or anew when the bootstrap was dropped
or replaced by others; and whatever the length of the random function's output. -/
theorem handle_tells_signed (run : Run w ss w') (hempty : w.tasks = []) (hnone : w.host.bootstraps = {})
    (hmints : ∀ st ∈ ss, st.move.Mints) (hst : st ∈ ss) (hstart : st.move = .start (handle setup raw))
    (hss : ss = ss₁ ++ posting :: ss₂) (hposting : posting.happening = .called st.before.tasks.length (.post m))
    (hconfirmed : m.get? "confirmed" = some (.bool true)) :
    ∃ q, Request.read raw = .ok q ∧ TellsSigned q st.before.tasks.length ss₁ ss m := by
  generalize hi : st.before.tasks.length = i at hposting
  have hevent : posting.happening.event? i = some (.called (.post m)) := Happening.event?_of_eq hposting
  have hsigns := Signing.handle_signs setup raw
  cases hread : Request.read raw with
  | error e =>
    -- A rejection is no confirmation.
    rw [hread] at hsigns
    have hconfirms (binds : Bool) : (signingOf i ss₁).Confirms binds m :=
      run.allowed_since_start hst hstart hi (hsigns binds) hss hevent hconfirmed
    have htrue := (hconfirms true).challenge
    rw [(hconfirms false).challenge] at htrue
    cases htrue
  | ok q =>
    rw [hread] at hsigns
    have hconfirms : (signingOf i ss₁).Confirms q.payload.bindsChallenge m :=
      run.allowed_since_start hst hstart hi hsigns hss hevent hconfirmed
    refine ⟨q, rfl, hconfirms.challenge, hconfirms.credential, fun v hv => ?_⟩
    obtain ⟨c, hc, hknows, hprompts⟩ := hconfirms.signed v hv
    have hprovident : Provident ss₁ posting.before fun i => signingOf i ss₁ := by
      subst hss
      exact run.cut.1.provident hempty hnone fun st hst => hmints st (List.mem_append_left _ hst)
    obtain ⟨input, output, hevaluated, rfl⟩ := hprovident.knows (i := i) hknows
    have hbytes := FreshnessChallenge.signedBytes_ofOutput input output
    refine ⟨input, output, hc, hevaluated, hbytes, ?_⟩
    have hbefore : promptsOf i ss₁ = [output.output] := by
      rw [← signingOf_prompts, hprompts, hbytes]
    have hafter := no_prompt_after_post run hst hstart hi hsigns hss hposting
    subst hss
    unfold promptsOf at hbefore hafter ⊢
    rw [historyOf_append, List.filterMap_append, hbefore, historyOf_cons_some hevent, List.filterMap_cons_none rfl,
      hafter, List.append_nil]

end

/-! A message signed over the kept bootstrap: neither the newer block nor its evaluation could be had. -/

def messagePayload : SignMessagePayload := ⟨"a", "hello", "b", none⟩

def messageEnvelope : Json :=
  .obj [("payload", .obj [("message", .str "hello"), ("nearAccountId", .str "a"), ("recipient", .str "b")]),
    ("requestId", .str "r"), ("schemaVersion", .int 2), ("type", .str "signMessage")]

def keptInput : FreshnessInput := ⟨"a", "", 5, "h", none⟩

def keptOutput : VrfOutput := ⟨[1, 2, 3], [], []⟩

def signedOverKept : Response :=
  { Response.approved "r" with
    credential := some secretCredential.record
    vrfChallenge := some (.ofOutput keptInput keptOutput) }

def signOverKept : List (Move (Except Error Unit)) :=
  let newerInput : FreshnessInput := { keptInput with intentDigest := some (Digest.message messagePayload) }
  let options : AssertionOptions := ⟨"", [1, 2, 3], ["c"], PrfSalts.forAccount "a"⟩
  Move.start (handle quietSetup messageEnvelope) ::
  (List.replicate 3 (Move.advance 0) ++ [Move.answer 0 .preferences { uiMode := .skip }] ++
  List.replicate 3 (Move.advance 0) ++ [Move.answer 0 .latestBlock (.ok ⟨5, "h"⟩)] ++
  List.replicate 2 (Move.advance 0) ++ [Move.answer 0 (.evaluate keptInput.derive) (.ok keptOutput)] ++
  List.replicate 3 (Move.advance 0) ++ [Move.answer 0 .latestBlock (.error .notInitialized)] ++
  List.replicate 2 (Move.advance 0) ++ [Move.answer 0 (.evaluate newerInput.derive) (.error .keypairNotLoaded)] ++
  List.replicate 2 (Move.advance 0) ++ [Move.answer 0 (.authenticators "a") (.ok [])] ++
  [Move.advance 0, Move.answer 0 (.currentPasskey "a" []) (.ok ⟨[⟨"c", 0, []⟩], none⟩)] ++
  [Move.advance 0, Move.answer 0 (.assertion options) (.ok secretCredential)] ++
  List.replicate 3 (Move.advance 0) ++ [Move.answer 0 (.post signedOverKept.message) (.ok ()), Move.advance 0])

theorem handle_tells_signed_signOverKept :
    ∃ ss w' ss₁ posting ss₂, Run ⟨quietHost, []⟩ ss w' ∧ movesOf ss = signOverKept ∧ ss = ss₁ ++ posting :: ss₂ ∧
      posting.happening = .called 0 (.post signedOverKept.message) ∧ promptsOf 0 ss = [keptOutput.output] ∧
      ∃ q, Request.read messageEnvelope = .ok q ∧ TellsSigned q 0 ss₁ ss signedOverKept.message := by
  have htold : ((Wallet.mk quietHost []).trace? signOverKept).map (fun r => (promptsOf 0 r.1, messagesOf 0 r.1)) =
      some ([keptOutput.output], [signedOverKept.message]) := by decide +kernel
  obtain ⟨⟨ss, w'⟩, htrace, htold⟩ := Option.map_eq_some_iff.1 htold
  obtain ⟨hprompts, hmessages⟩ := Prod.mk.inj htold
  have hmoves : movesOf ss = signOverKept := Wallet.moves_of_trace? htrace
  have run := Run.of_trace? htrace
  have hmints : ∀ st ∈ ss, st.move.Mints :=
    forall_move hmoves (List.forall_mem_cons.2 ⟨handle_mints quietSetup messageEnvelope,
      fun m hm => .of_isOfTask (List.all_eq_true.1 (rfl : signOverKept.tail.all Move.isOfTask = true) m hm)⟩)
  have hmessage : signedOverKept.message ∈ messagesOf 0 ss := by
    rw [hmessages]
    exact List.mem_singleton_self _
  obtain ⟨ss₁, posting, ss₂, hss, hposting⟩ := exists_posting hmessage
  have hconfirmed : signedOverKept.message.get? "confirmed" = some (.bool true) := Response.message_confirmed _
  cases run with
  | nil => cases hmoves
  | cons first rest =>
    have hstarted := (List.cons.inj hmoves).1
    have tells := handle_tells_signed (.cons first rest) rfl rfl hmints List.mem_cons_self hstarted hss hposting
      hconfirmed
    exact ⟨_, w', ss₁, posting, ss₂, .cons first rest, hmoves, hss, hposting, hprompts, tells⟩

end PasskeyConsent

import PasskeyConsent.Proofs.Confirmation.Attribution
/-!
# Consent before the authenticator

The authenticator is prompted for a request only after the request has read the preferences and, where the policy they
resolve to shows a surface, has mounted one and had a decision on it that lets it go on (`Consents`).  Inside another
origin's page an operation of high risk without an override so needs a click, whatever is stored.  Any override lifts
that, and one that leaves mode and behavior open leaves them to what is stored (`handle_prompts_by_consent`).
-/
namespace PasskeyConsent

open Observer Program Confirmation

variable {α : Type} {setup : Setup} {q : Request} {h : History}

/-- The events that consent is made of. -/
def Event.isConsent : Event → Bool
  | .answered .preferences _ | .answered (.mount ..) _ | .answered (.decision ..) _ => true
  | _ => false

/-- The calls that prompt the authenticator. -/
def Call.isPrompt : Call → Bool
  | .assertion _ | .attestation _ => true
  | _ => false

/-- How long a decision is waited for. -/
def ConfirmationPolicy.limit (p : ConfirmationPolicy) : Option Nat :=
  match p.behavior with
  | .requireClick => none
  | .autoProceed => some p.autoProceedDelayMs.toNat

/-- The policy that a request runs under, with what is stored. -/
def Request.policyOver (q : Request) (setup : Setup) (stored : ConfirmationPolicy) : ConfirmationPolicy :=
  resolvePolicy stored q.policyOverride q.operation setup.embedding

/-- A request has read what is stored, has mounted its surface under a policy and had a decision on it, which is nothing
when the limit has passed. -/
def decided (q : Request) (stored policy : ConfirmationPolicy) (surface : UiHandle) (x : Option UiDecision) : History :=
  [.answered .preferences stored, .answered (.mount q policy) surface, .answered (.decision surface policy.limit) x]

/-- How a request may come to its operation. -/
inductive Consents (setup : Setup) (q : Request) : History → Prop
  | unasked (stored : ConfirmationPolicy) (h : (q.policyOver setup stored).showsUi = false) :
    Consents setup q [.answered .preferences stored]
  | asked (stored : ConfirmationPolicy) (h : (q.policyOver setup stored).showsUi = true) (surface : UiHandle)
    (x : Option UiDecision) (hx : x ≠ some .cancel) :
    Consents setup q (decided q stored (q.policyOver setup stored) surface x)

/-- The one who sees to it that the authenticator is prompted with consent only. -/
def consenter (setup : Setup) (q : Request) : Observer History where
  after h e := if e.isConsent then h ++ [e] else h
  allows
    | h, .called c => c.isPrompt = true → Consents setup q h
    | _, _ => True

/-! ## The handling -/

/-- An operation prompts with the consent that it has been given. -/
theorem perform_consents (hconsents : Consents setup q h) (own : Holdings) :
    (consenter setup q).Meets anywhere (perform setup q).run (fun _ _ _ => True) own h := by
  let free : Observer History := { after := (consenter setup q).after, allows := fun _ _ => True }
  have hcarries (e : Effect) (he : flowTopics.contains e.topic = true) :
      free.Carries (consenter setup q) (Consents setup q) e := by
    intro event hevent h hconsents _
    cases hevent with
    | access a x => exact ⟨trivial, hconsents⟩
    | call c => exact ⟨fun _ => hconsents, hconsents⟩
    | answer c x =>
      have hother : (Event.answered c x).isConsent = false := by
        cases c <;> first | rfl | exact absurd he Bool.false_ne_true
      refine ⟨trivial, ?_⟩
      show Consents setup q (if (Event.answered c x).isConsent then h ++ [.answered c x] else h)
      rwa [hother, if_neg Bool.false_ne_true]
    | wait w x => exact ⟨trivial, hconsents⟩
    | stop id u => exact absurd he Bool.false_ne_true
    | watched => exact absurd he Bool.false_ne_true
  have hfree : free.Meets anywhere (perform setup q).run (fun _ _ _ => True) own h :=
    meets_of_allows (fun _ _ => trivial) _ own h
  have hafter : (consenter setup q).after = free.after := rfl
  exact (hfree.carry hafter (Only.mono (flows_perform setup q) hcarries fun _ hr => hr) hconsents).mono
    (fun _ _ _ => trivial) fun _ _ _ _ => trivial

theorem awaitUser_consents {stored : ConfirmationPolicy} {own : Holdings}
    (hshows : (q.policyOver setup stored).showsUi = true) :
    (consenter setup q).Meets anywhere (awaitUser q (q.policyOver setup stored)).run
      (Ends (fun _ _ h => Consents setup q h) fun _ _ _ => True) own [.answered .preferences stored] := by
  refine meets_liftAccess fun _ _ => ⟨trivial, ?_⟩
  refine meets_liftCall ⟨trivial, nofun, trivial, fun surface => ⟨trivial, ?_⟩⟩
  refine meets_liftAccess fun _ _ => ⟨trivial, ?_⟩
  refine meets_liftCall ⟨trivial, nofun, trivial, fun x => ⟨trivial, ?_⟩⟩
  rcases x with _ | _ | _
  · exact .asked stored hshows surface none nofun
  · exact .asked stored hshows surface (some .proceed) nofun
  · trivial

theorem run_consents (stored : ConfirmationPolicy) (own : Holdings) :
    (consenter setup q).Meets anywhere (run setup q (q.policyOver setup stored)).run (fun _ _ _ => True) own
      [.answered .preferences stored] := by
  unfold run
  split
  · rename_i hshows
    refine meets_bind ((awaitUser_consents hshows).imp fun r own h hr => ?_)
    cases r with
    | ok => exact perform_consents hr own
    | error e => trivial
  · rename_i hshows
    exact perform_consents (.unasked stored (Bool.not_eq_true _ ▸ hshows)) own

/-- What does not concern the ceremony prompts no one. -/
theorem meets_of_no_prompt {topics : List Topic} {R : α → Prop} {p : Program α} (hp : p.KeepsTo topics R)
    (ht : topics.contains .ceremony = false ∧ topics.contains .watched = false) (own : Holdings) (h : History) :
    (consenter setup q).Meets anywhere p (fun _ _ _ => True) own h := by
  refine meets_of_allowed (Only.mono hp (fun e he event hevent s => ?_) fun _ hr => hr) own h
  cases hevent with
  | call c =>
    intro hprompt
    cases c with
    | assertion options => exact absurd (he.symm.trans ht.1) nofun
    | attestation options => exact absurd (he.symm.trans ht.1) nofun
    | _ => cases hprompt
  | watched => exact absurd (he.symm.trans ht.2) nofun
  | _ => trivial

theorem handleRequest_consents :
    (consenter setup q).Meets anywhere (handleRequest setup q) (fun _ _ _ => True) {} [] := by
  have hend (outcome : Except Stop Response) (own : Holdings) (h : History) :
      (consenter setup q).Meets anywhere (conclude setup q.id outcome >>= fun result => do
        Program.access (.unregister q.id)
        return result) (fun _ _ _ => True) own h :=
    meets_bind ((meets_of_no_prompt (keepsTo_conclude setup q.id outcome) (by decide) own h).imp
      fun _ _ _ _ => meets_access fun _ _ => ⟨trivial, trivial⟩)
  refine meets_access fun _ _ => ⟨trivial, meets_access fun allowed _ => ⟨trivial, ?_⟩⟩
  cases allowed with
  | false => trivial
  | true =>
    refine meets_call ⟨trivial, nofun, trivial, fun stored => ⟨trivial, ?_⟩⟩
    refine meets_access fun _ _ => ⟨trivial, meets_access fun gone _ => ⟨trivial, ?_⟩⟩
    cases gone with
    | true => exact hend cancelled {} _
    | false =>
      refine meets_bind ((meets_watch (run_consents stored {}) fun _ _ _ => ⟨trivial, trivial⟩).imp ?_)
      exact fun outcome own h _ => hend outcome own h

/-! ## Consent along a run -/

/-- The consent that a task has had, in order. -/
def consentOf (task : Nat) (ss : List (Step α)) : History := (historyOf task ss).filter Event.isConsent

theorem consenter_seen (h₁ h₂ : History) : (consenter setup q).seen h₁ h₂ = h₁ ++ h₂.filter Event.isConsent :=
  seen_filter (fun _ _ => rfl) h₁ h₂

/-- A decision that is waited for without a limit is made: only a limit lets nothing come of it. -/
def Move.decides : Move α → Bool
  | .answer _ (.decision _ none) none => false
  | _ => true

/-- Nothing comes of a decision only under a policy that does not require a click. -/
theorem autoProceed_of_lapsed {w w' : Wallet α} {ss : List (Step α)} {i : Nat} {stored policy : ConfirmationPolicy}
    {surface : UiHandle} (run : Run w ss w') (hdecides : ∀ st ∈ ss, st.move.decides = true)
    (h : consentOf i ss = decided q stored policy surface none) : policy.behavior = .autoProceed := by
  obtain ⟨ss₁, st, ss₂, rfl, -, hst, -⟩ :=
    Run.step_of_filter [.answered .preferences stored, .answered (.mount q policy) surface] h
  have g := Wallet.Goes.of_step? run.cut.2.1
  have hdecided : st.move.decides = true := hdecides st (by simp)
  cases hbehavior : policy.behavior with
  | autoProceed => rfl
  | requireClick =>
    have hlimit : policy.limit = none := by
      unfold ConfirmationPolicy.limit
      rw [hbehavior]
    rw [hst, hlimit] at g
    rw [g.eq_answer_of_answered] at hdecided
    cases hdecided

/-- **What a request has consent of**: nothing, under a policy that shows no surface, or a decision that lets it go on,
which has not been made only if the policy lets it go on by itself. -/
theorem Consents.decides {w w' : Wallet α} {ss : List (Step α)} {i : Nat} (h : Consents setup q (consentOf i ss))
    (run : Run w ss w') (hdecides : ∀ st ∈ ss, st.move.decides = true) :
    ∃ stored, ((q.policyOver setup stored).uiMode = .skip ∧ consentOf i ss = [.answered .preferences stored]) ∨
      ((q.policyOver setup stored).uiMode ≠ .skip ∧
        ∃ surface x, consentOf i ss = decided q stored (q.policyOver setup stored) surface x ∧
          (x = some .proceed ∨ x = none ∧ (q.policyOver setup stored).behavior = .autoProceed)) := by
  generalize hconsent : consentOf i ss = history at h
  cases h with
  | unasked stored hskips => exact ⟨stored, .inl ⟨bne_eq_false_iff_eq.1 hskips, rfl⟩⟩
  | asked stored hshows surface x hx =>
    refine ⟨stored, .inr ⟨bne_iff_ne.1 hshows, surface, x, rfl, ?_⟩⟩
    rcases x with _ | _ | _
    · exact .inr ⟨rfl, autoProceed_of_lapsed run hdecides hconsent⟩
    · exact .inl rfl
    · exact absurd rfl hx

/-! ## High risk inside another's page -/

theorem policyOver_of_none (hembedded : setup.embedding = .embedded)
    (hrisk : q.operation = .registerAccount ∨ q.operation = .linkDevice) (hnone : q.policyOverride = none)
    (stored : ConfirmationPolicy) :
    q.policyOver setup stored = { stored with uiMode := .modal, behavior := .requireClick } := by
  unfold Request.policyOver resolvePolicy
  rw [hnone, hembedded]
  rcases hrisk with hrisk | hrisk <;> rw [hrisk] <;> rfl

theorem policyOver_of_some {o : PolicyOverride} (hrisk : q.operation = .registerAccount ∨ q.operation = .linkDevice)
    (hsome : q.policyOverride = some o) (setup : Setup) (stored : ConfirmationPolicy) :
    q.policyOver setup stored = o.apply stored := by
  unfold Request.policyOver resolvePolicy
  rw [hsome]
  rcases hrisk with hrisk | hrisk <;> rw [hrisk] <;> rfl

/-- An envelope without an override, or with null for one, is read to a request without one. -/
theorem Request.policyOverride_of_read {raw : Json} (hread : read raw = .ok q)
    (hraw : raw.get? "confirmationConfig" = none ∨ raw.get? "confirmationConfig" = some .null) :
    q.policyOverride = none := by
  obtain ⟨-, op, -, -, hoverride⟩ := parts_of_read hread
  unfold readOverride at hoverride
  rcases hraw with hraw | hraw <;> rw [hraw] at hoverride <;> exact (Except.ok.inj hoverride).symm

/-- What a prompt has consent of, for an operation of high risk inside another origin's page. -/
structure PromptsByConsent (raw : Json) (q : Request) (h : History) : Prop where
  /-- Without an override the user has clicked, whatever is stored. -/
  clamped : raw.get? "confirmationConfig" = none ∨ raw.get? "confirmationConfig" = some .null →
    ∃ stored surface,
      h = decided q stored { stored with uiMode := .modal, behavior := .requireClick } surface (some .proceed)
  /-- With an override of other fields only, the user has decided as the stored mode and behavior have it: not at all
  if no surface is shown, and by not deciding only if the request goes on by itself. -/
  lifted : ∀ o, q.policyOverride = some o → o.uiMode = none → o.behavior = none → ∃ stored,
    (stored.uiMode = .skip ∧ h = [.answered .preferences stored]) ∨
    (stored.uiMode ≠ .skip ∧ ∃ surface x, h = decided q stored (o.apply stored) surface x ∧
      (x = some .proceed ∨ x = none ∧ stored.behavior = .autoProceed))

section

variable {raw : Json} {w w' : Wallet (Except Error Unit)} {ss ss₁ ss₂ : List (Step (Except Error Unit))}
  {st prompting : Step (Except Error Unit)} {c : Call}

theorem Run.consents (run : Run w ss w') (hst : st ∈ ss) (hstart : st.move = .start (handle setup raw))
    (hread : Request.read raw = .ok q) (hss : ss = ss₁ ++ prompting :: ss₂)
    (hprompting : prompting.happening = .called st.before.tasks.length c) (hc : c.isPrompt = true) :
    Consents setup q (consentOf st.before.tasks.length ss₁) := by
  rw [handle_of_read hread] at hstart
  have hevent : prompting.happening.event? st.before.tasks.length = some (.called c) :=
    Happening.event?_of_eq hprompting
  have hallowed := run.allowed_since_start hst hstart rfl handleRequest_consents hss hevent hc
  rwa [consenter_seen] at hallowed

/-- **The authenticator is prompted by consent** for an operation of high risk inside another origin's page, in every
run of a wallet and whatever the collaborators answer, as long as a decision without a limit is one. -/
theorem handle_prompts_by_consent (run : Run w ss w') (hst : st ∈ ss) (hstart : st.move = .start (handle setup raw))
    (hread : Request.read raw = .ok q) (hembedded : setup.embedding = .embedded)
    (hrisk : q.operation = .registerAccount ∨ q.operation = .linkDevice) (hdecides : ∀ st ∈ ss, st.move.decides = true)
    (hss : ss = ss₁ ++ prompting :: ss₂) (hprompting : prompting.happening = .called st.before.tasks.length c)
    (hc : c.isPrompt = true) : PromptsByConsent raw q (consentOf st.before.tasks.length ss₁) := by
  have hconsents := run.consents hst hstart hread hss hprompting hc
  subst hss
  have hbefore : ∀ st ∈ ss₁, st.move.decides = true := fun st hst => hdecides st (List.mem_append_left _ hst)
  obtain ⟨stored, hdecided⟩ := hconsents.decides run.cut.1 hbefore
  constructor
  · intro hraw
    rw [policyOver_of_none hembedded hrisk (Request.policyOverride_of_read hread hraw)] at hdecided
    rcases hdecided with ⟨hskips, -⟩ | ⟨-, surface, x, hx, rfl | ⟨-, hlapsed⟩⟩
    · cases hskips
    · exact ⟨stored, surface, hx⟩
    · cases hlapsed
  · intro o hsome hmode hbehavior
    have hmode' : (o.apply stored).uiMode = stored.uiMode := by
      unfold PolicyOverride.apply
      rw [hmode]
      rfl
    have hbehavior' : (o.apply stored).behavior = stored.behavior := by
      unfold PolicyOverride.apply
      rw [hbehavior]
      rfl
    rw [policyOver_of_some hrisk hsome, hmode', hbehavior'] at hdecided
    exact ⟨stored, hdecided⟩

end

/-! Two registrations inside another origin's page, where no surface is wanted by what is stored: the first is clicked
on, and the second comes with another theme and is not asked about. -/

def embeddedSetup : Setup := ⟨"", .embedded, none⟩

def clickedRequest : Request := ⟨"r", .obj [], .registerAccount ⟨"a", none⟩, none⟩

/-- What a registration does from its operation until it prompts, while no newer block and no evaluation can be had. -/
def registerUntilPrompt : List (Move (Except Error Unit)) :=
  mintBootstrap 0 keptInput keptOutput ++
  List.replicate 2 (Move.advance 0) ++ [Move.answer 0 .latestBlock (.error .notInitialized)] ++
  List.replicate 2 (Move.advance 0) ++ [Move.answer 0 (.evaluate keptInput.derive) (.error .keypairNotLoaded)] ++
  List.replicate 2 (Move.advance 0) ++ [Move.answer 0 (.authenticators "a") (.ok []), Move.advance 0]

def registerClicked : List (Move (Except Error Unit)) :=
  Move.start (handle embeddedSetup (registerEnvelope "r" "a")) ::
  (List.replicate 3 (Move.advance 0) ++ [Move.answer 0 .preferences { uiMode := .skip, behavior := .autoProceed }] ++
  List.replicate 4 (Move.advance 0) ++ [Move.answer 0 (.mount clickedRequest {}) ⟨0⟩] ++
  List.replicate 2 (Move.advance 0) ++ [Move.answer 0 (.decision ⟨0⟩ none) (some .proceed)] ++ registerUntilPrompt)

/-- A prompt that a task has made is a step of the run. -/
theorem exists_prompting {ss : List (Step α)} {i : Nat} {b : Bytes} (h : b ∈ promptsOf i ss) :
    ∃ ss₁ st ss₂ c, ss = ss₁ ++ st :: ss₂ ∧ st.happening = .called i c ∧ c.isPrompt = true := by
  obtain ⟨e, he, hb⟩ := List.mem_filterMap.1 h
  obtain ⟨h₁, h₂, hhistory⟩ := List.append_of_mem he
  obtain ⟨ss₁, st, ss₂, hss, -, hst, -⟩ := Run.step_of_event hhistory
  have hhappening := Happening.eq_of_event? hst
  cases e with
  | called c =>
    cases c with
    | assertion options => exact ⟨ss₁, st, ss₂, _, hss, hhappening, rfl⟩
    | attestation options => exact ⟨ss₁, st, ss₂, _, hss, hhappening, rfl⟩
    | _ => cases hb
  | _ => cases hb

theorem handle_prompts_by_consent_registerClicked :
    ∃ ss w' ss₁ prompting ss₂ c, Run ⟨quietHost, []⟩ ss w' ∧ movesOf ss = registerClicked ∧
      ss = ss₁ ++ prompting :: ss₂ ∧ prompting.happening = .called 0 c ∧ c.isPrompt = true ∧
      PromptsByConsent (registerEnvelope "r" "a") clickedRequest (consentOf 0 ss₁) := by
  have htold : ((Wallet.mk quietHost []).trace? registerClicked).map (fun r => promptsOf 0 r.1) =
      some [keptOutput.output] := by decide +kernel
  obtain ⟨⟨ss, w'⟩, htrace, hprompts⟩ := Option.map_eq_some_iff.1 htold
  have run := Run.of_trace? htrace
  have hmoves : movesOf ss = registerClicked := Wallet.moves_of_trace? htrace
  have hread : Request.read (registerEnvelope "r" "a") = .ok clickedRequest := by decide +kernel
  have hdecides : ∀ st ∈ ss, st.move.decides = true :=
    forall_move hmoves (List.all_eq_true.1 (rfl : registerClicked.all Move.decides = true))
  have hprompt : keptOutput.output ∈ promptsOf 0 ss := hprompts ▸ List.mem_singleton_self _
  obtain ⟨ss₁, prompting, ss₂, c, hss, hprompting, hc⟩ := exists_prompting hprompt
  cases run with
  | nil => cases hmoves
  | cons first rest =>
    have hstarted := (List.cons.inj hmoves).1
    have prompts := handle_prompts_by_consent (.cons first rest) List.mem_cons_self hstarted hread rfl (.inl rfl)
      hdecides hss hprompting hc
    exact ⟨_, w', ss₁, prompting, ss₂, c, .cons first rest, hmoves, hss, hprompting, hc, prompts⟩

def themedEnvelope : Json :=
  .obj [("confirmationConfig", .obj [("theme", .str "light")]), ("payload", .obj [("nearAccountId", .str "a")]),
    ("requestId", .str "r"), ("schemaVersion", .int 2), ("type", .str "registerAccount")]

def themedRequest : Request := { clickedRequest with policyOverride := some { theme := some .light } }

def registerUnasked : List (Move (Except Error Unit)) :=
  Move.start (handle embeddedSetup themedEnvelope) :: (reachOperation 0 ++ registerUntilPrompt)

/-- A surface is shown. -/
def Happening.mounts : Happening → Bool
  | .called _ (.mount ..) => true
  | _ => false

/-- With a theme of its own a registration prompts, though no surface is shown. -/
theorem prompts_without_surface :
    ∃ ss w' ss₁ prompting ss₂ c, Run ⟨quietHost, []⟩ ss w' ∧ movesOf ss = registerUnasked ∧
      (∀ st ∈ ss, st.move.decides = true) ∧ ss = ss₁ ++ prompting :: ss₂ ∧ prompting.happening = .called 0 c ∧
      c.isPrompt = true ∧ embeddedSetup.embedding = .embedded ∧ Request.read themedEnvelope = .ok themedRequest ∧
      themedRequest.operation = .registerAccount ∧ themedRequest.policyOverride = some { theme := some .light } ∧
      ∀ st ∈ ss, ∀ r policy, st.happening ≠ .called 0 (.mount r policy) := by
  have htold : ((Wallet.mk quietHost []).trace? registerUnasked).map
      (fun r => (promptsOf 0 r.1, r.1.all fun st => !st.happening.mounts)) = some ([keptOutput.output], true) := by
    decide +kernel
  obtain ⟨⟨ss, w'⟩, htrace, htold⟩ := Option.map_eq_some_iff.1 htold
  obtain ⟨hprompts, hmounts⟩ := Prod.mk.inj htold
  have hmoves : movesOf ss = registerUnasked := Wallet.moves_of_trace? htrace
  have hdecides : ∀ st ∈ ss, st.move.decides = true :=
    forall_move hmoves (List.all_eq_true.1 (rfl : registerUnasked.all Move.decides = true))
  have hprompt : keptOutput.output ∈ promptsOf 0 ss := hprompts ▸ List.mem_singleton_self _
  obtain ⟨ss₁, prompting, ss₂, c, hss, hprompting, hc⟩ := exists_prompting hprompt
  refine ⟨ss, w', ss₁, prompting, ss₂, c, .of_trace? htrace, hmoves, hdecides, hss, hprompting, hc, rfl,
    by decide +kernel, rfl, rfl, fun st hst r policy hmount => ?_⟩
  have hnone := List.all_eq_true.1 hmounts st hst
  rw [hmount] at hnone
  cases hnone

end PasskeyConsent

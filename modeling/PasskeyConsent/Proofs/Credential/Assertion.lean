import PasskeyConsent.Credential.Collection
import PasskeyConsent.Proofs.Concurrency.Trace
import PasskeyConsent.Proofs.Confirmation.Answer
/-!
# Assertions

An assertion has few ways to go (`Asserts`): the store may refuse either of its two questions, tell that the passkey is
a wrong one, or leave no credential that is allowed; otherwise there is one prompt, for the credentials that are left.
What is collected then holds every byte field of the credential in a form that decodes to it (`Carries`), so all that
an assertion tells is told by the answers that it was given (`collectAssertion_prompts`).
-/
namespace PasskeyConsent

open Observer

/-! ## What is collected -/

/-- What was collected tells the credential: its byte fields decode to the raw ones, and what is absent is absent. -/
structure CollectedCredential.Carries (c : CollectedCredential) (raw : RawCredential) : Prop where
  id : c.record.id = raw.id
  rawId : Base64url.decode? c.record.rawId = some raw.rawId
  type : c.record.type = if raw.type = "" then "public-key" else raw.type
  authenticatorAttachment : c.record.authenticatorAttachment = raw.authenticatorAttachment
  clientDataJson : Base64url.decode? c.record.response.clientDataJson = some raw.clientDataJson
  authenticatorData : c.record.response.authenticatorData.map Base64url.decode? = raw.authenticatorData.map some
  signature : c.record.response.signature.map Base64url.decode? = raw.signature.map some
  userHandle : c.record.response.userHandle.map Base64url.decode? = raw.userHandle.map some
  attestationObject : c.record.response.attestationObject.map Base64url.decode? = raw.attestationObject.map some
  transports : c.record.response.transports = raw.transports
  first : ∃ bytes, raw.prf.bind (·.first) = some bytes ∧ Base64url.decode? c.prf.first = some bytes
  second : c.prf.second.map Base64url.decode? = (raw.prf.bind (·.second)).map some

theorem decode?_map_encode (o : Option Bytes) : (o.map Base64url.encode).map Base64url.decode? = o.map some := by
  cases o with
  | none => rfl
  | some bs => exact congrArg some (Base64url.decode?_encode bs)

theorem RawCredential.collect_of_none {raw : RawCredential} (h : raw.prf.bind (·.first) = none) :
    raw.collect = .error .missingPrfResult := by rw [collect, h]

theorem RawCredential.collect_of_some {raw : RawCredential} {first : Bytes} (h : raw.prf.bind (·.first) = some first) :
    raw.collect =
      .ok ⟨raw.record, Base64url.encode first, (raw.prf.bind (·.second)).map Base64url.encode⟩ := by rw [collect, h]

/-- What is collected of a credential tells it. -/
theorem RawCredential.carries_of_collect {raw : RawCredential} {c : CollectedCredential} (h : raw.collect = .ok c) :
    c.Carries raw := by
  cases present : raw.prf.bind (·.first) with
  | none =>
    rw [collect_of_none present] at h
    cases h
  | some first =>
    rw [collect_of_some present] at h
    cases h
    exact {
      id := rfl
      rawId := Base64url.decode?_encode _
      type := by simp [record]
      authenticatorAttachment := rfl
      clientDataJson := Base64url.decode?_encode _
      authenticatorData := decode?_map_encode _
      signature := decode?_map_encode _
      userHandle := decode?_map_encode _
      attestationObject := decode?_map_encode _
      transports := rfl
      first := ⟨first, present, Base64url.decode?_encode _⟩
      second := decode?_map_encode _ }

namespace Credential

/-! ## The ways of an assertion -/

/-- The credentials of a selection that are allowed, as they stand in it. -/
def promptIds (allowed : Option (List String)) (selection : PasskeySelection) : List String :=
  (selection.authenticators.map (·.credentialId)).filter fun id => allowed.all (·.contains id)

def promptOptions (rpId account : String) (challenge : Bytes) (ids : List String) : AssertionOptions :=
  ⟨rpId, challenge, ids, PrfSalts.forAccount account⟩

/-- **All that an assertion can do**, from its beginning to its end, and what it comes to. -/
inductive Asserts (rpId account : String) (allowed : Option (List String)) (challenge : Bytes) :
    Except CredentialError AssertionOutcome → History → Prop
  | unknown (e : CredentialError) :
    Asserts rpId account allowed challenge (.error e) (Call.asks (.authenticators account) (.error e))
  | unselected (known : List StoredAuthenticator) (e : CredentialError) :
    Asserts rpId account allowed challenge (.error e)
      (Call.asks (.authenticators account) (.ok known) ++ Call.asks (.currentPasskey account known) (.error e))
  | wrongPasskey (known : List StoredAuthenticator) {selection : PasskeySelection} {message : String}
    (h : selection.wrongPasskey = some message) :
    Asserts rpId account allowed challenge (.ok (.wrongPasskey message))
      (Call.asks (.authenticators account) (.ok known) ++ Call.asks (.currentPasskey account known) (.ok selection))
  | noCredentials (known : List StoredAuthenticator) {selection : PasskeySelection} (h : selection.wrongPasskey = none)
    (none_left : promptIds allowed selection = []) :
    Asserts rpId account allowed challenge (.error (.noCredentials account))
      (Call.asks (.authenticators account) (.ok known) ++ Call.asks (.currentPasskey account known) (.ok selection))
  | prompted (known : List StoredAuthenticator) {selection : PasskeySelection} (h : selection.wrongPasskey = none)
    (some_left : promptIds allowed selection ≠ []) (x : Except CredentialError RawCredential) :
    Asserts rpId account allowed challenge ((x.bind RawCredential.collect).map .collected)
      (Call.asks (.authenticators account) (.ok known) ++ Call.asks (.currentPasskey account known) (.ok selection) ++
        Call.asks (.assertion (promptOptions rpId account challenge (promptIds allowed selection))) x)

variable {rpId account : String} {allowed : Option (List String)} {challenge : Bytes}

theorem collectAssertion_traces : (collectAssertion rpId account allowed challenge).run.Traces
    (Asserts rpId account allowed challenge) := by
  refine meets_ask (.ok []) (fun x => ?_) fun x => ?_
  · cases x with
    | error e => exact ⟨_, [], .unknown e⟩
    | ok known => exact ⟨_, _, .unselected known .missingPrfResult⟩
  cases x with
  | error e => exact .unknown e
  | ok known =>
    refine meets_ask (.error .missingPrfResult) (fun x => ?_) fun x => ?_
    · cases x with
      | error e => exact ⟨_, [], .unselected known e⟩
      | ok selection =>
        cases wrong : selection.wrongPasskey with
        | some message => exact ⟨_, [], .wrongPasskey known wrong⟩
        | none =>
          by_cases left : promptIds allowed selection = []
          · exact ⟨_, [], .noCredentials known wrong left⟩
          · exact ⟨_, _, .prompted known wrong left (.error .missingPrfResult)⟩
    cases x with
    | error e => exact .unselected known e
    | ok selection =>
      dsimp only [ExceptT.bindCont]
      split
      · next message wrong => exact .wrongPasskey known wrong
      · next wrong =>
        split
        · next none_left =>
          exact .noCredentials known wrong (List.isEmpty_iff.mp none_left)
        · next some_left =>
          have left : promptIds allowed selection ≠ [] := fun nil => some_left (List.isEmpty_iff.mpr nil)
          have goes := @Asserts.prompted rpId account allowed challenge known selection wrong left
          refine meets_ask (.error .missingPrfResult) (fun x => ⟨_, [], goes x⟩) fun x => ?_
          cases x with
          | error e => exact goes (.error e)
          | ok raw =>
            have ends := goes (.ok raw)
            show (tracer _).Meets anywhere
              (ExceptT.run (Program.check raw.collect >>= fun c => pure (AssertionOutcome.collected c))) _ _ _
            simp only [Except.bind] at ends
            cases h : raw.collect with
            | error e =>
              rw [h] at ends
              exact ends
            | ok c =>
              rw [h] at ends
              exact ends

/-! ## What an assertion has done -/

/-- What the store has told leaves these credentials to prompt for. -/
def Selects (account : String) (allowed : Option (List String)) (h : History) (ids : List String) : Prop :=
  ∃ known selection, .answered (.authenticators account) (.ok known) ∈ h ∧
    .answered (.currentPasskey account known) (.ok selection) ∈ h ∧ selection.wrongPasskey = none ∧
    promptIds allowed selection = ids

/-- The prompts for an assertion in a history, in order. -/
def promptsIn (h : History) : List AssertionOptions :=
  h.filterMap fun
    | .called (.assertion options) => some options
    | _ => none

namespace Asserts

variable {r : Except CredentialError AssertionOutcome} {h h₁ h₂ : History} {options : AssertionOptions}

/-- There is no more than one prompt, however far the assertion has got. -/
theorem once (asserts : Asserts rpId account allowed challenge r (h₁ ++ h₂)) : (promptsIn h₁).length ≤ 1 := by
  have whole : (promptsIn (h₁ ++ h₂)).length ≤ 1 := by
    generalize h₁ ++ h₂ = h at asserts
    cases asserts <;> simp [promptsIn, Call.asks]
  rw [promptsIn, List.filterMap_append, List.length_append] at whole
  rw [promptsIn]
  omega

/-- A prompt is for what the store has left before it. -/
theorem of_called (asserts : Asserts rpId account allowed challenge r (h₁ ++ .called (.assertion options) :: h₂)) :
    ∃ ids, Selects account allowed h₁ ids ∧ ids ≠ [] ∧ options = promptOptions rpId account challenge ids := by
  generalize eq : h₁ ++ .called (.assertion options) :: h₂ = h at asserts
  have mem : .called (.assertion options) ∈ h := by
    rw [← eq]
    simp
  cases asserts with
  | @prompted known selection wrong some_left x =>
    have parts := eq.symm
    simp [Call.asks, List.cons_eq_append_iff] at parts
    obtain ⟨rfl, rfl, -⟩ := parts
    exact ⟨_, ⟨known, selection, by simp, by simp, wrong, rfl⟩, some_left, rfl⟩
  | _ => simp at mem

/-- At the end there has been a prompt just where something was left to prompt for. -/
theorem promptsIn_eq (asserts : Asserts rpId account allowed challenge r h) (ids : List String) :
    promptsIn h = [promptOptions rpId account challenge ids] ↔ Selects account allowed h ids ∧ ids ≠ [] := by
  cases asserts with
  | unknown e => simp [promptsIn, Selects, Call.asks]
  | unselected known e => simp [promptsIn, Selects, Call.asks]
  | wrongPasskey known wrong => simp [promptsIn, Selects, Call.asks, wrong]
  | noCredentials known wrong none_left =>
    simp [promptsIn, Selects, Call.asks, none_left]
  | prompted known wrong some_left x =>
    simp [promptsIn, Selects, Call.asks, promptOptions, wrong]
    rintro rfl
    exact some_left

/-- An answered prompt settles what the assertion comes to. -/
theorem of_answered (asserts : Asserts rpId account allowed challenge r h) {raw : RawCredential}
    (mem : .answered (.assertion options) (.ok raw) ∈ h) : r = raw.collect.map .collected := by
  cases asserts with
  | prompted known wrong some_left x =>
    simp at mem
    obtain ⟨rfl, rfl⟩ := mem
    rfl
  | _ => simp at mem

/-- What is collected comes from an answered prompt. -/
theorem exists_answered {c : CollectedCredential}
    (asserts : Asserts rpId account allowed challenge (.ok (.collected c)) h) :
    ∃ options raw, .answered (.assertion options) (.ok raw) ∈ h ∧ raw.collect = .ok c := by
  generalize collects : (Except.ok (.collected c) : Except CredentialError AssertionOutcome) = r at asserts
  cases asserts with
  | prompted known wrong some_left x =>
    cases x with
    | error e => cases collects
    | ok raw =>
      refine ⟨_, raw, by simp; rfl, ?_⟩
      cases collected : raw.collect with
      | error e => simp [Except.bind, Except.map, collected] at collects
      | ok c' =>
        simp [Except.bind, Except.map, collected] at collects
        rw [collects]
  | _ => cases collects

end Asserts

/-! ## Whole runs -/

/-- What the prompts of an assertion are, however far it has got: there is no more than one, and it is for the
credentials that the store has left before it. -/
structure Prompts (rpId account : String) (allowed : Option (List String)) (challenge : Bytes) (h : History) :
    Prop where
  once : (promptsIn h).length ≤ 1
  selected : ∀ h₁ options h₂, h = h₁ ++ .called (.assertion options) :: h₂ →
    ∃ ids, Selects account allowed h₁ ids ∧ ids ≠ [] ∧ options = promptOptions rpId account challenge ids

/-- What an assertion has done when it is over, and what it comes to. -/
structure Concludes (rpId account : String) (allowed : Option (List String)) (challenge : Bytes) (h : History)
    (r : Except CredentialError AssertionOutcome) : Prop where
  prompted : ∀ ids, promptsIn h = [promptOptions rpId account challenge ids] ↔ Selects account allowed h ids ∧ ids ≠ []
  collected : (∃ c, r = .ok (.collected c)) ↔
    ∃ options raw, .answered (.assertion options) (.ok raw) ∈ h ∧ (raw.prf.bind (·.first)).isSome
  carries : ∀ c, r = .ok (.collected c) →
    ∃ options raw, .answered (.assertion options) (.ok raw) ∈ h ∧ c.Carries raw
  missing : ∀ options raw, .answered (.assertion options) (.ok raw) ∈ h → raw.prf.bind (·.first) = none →
    r = .error .missingPrfResult

namespace Asserts

variable {r : Except CredentialError AssertionOutcome} {h rest : History}

theorem prompts (asserts : Asserts rpId account allowed challenge r (h ++ rest)) :
    Prompts rpId account allowed challenge h where
  once := asserts.once
  selected := by
    rintro h₁ options h₂ rfl
    have further : Asserts rpId account allowed challenge r (h₁ ++ .called (.assertion options) :: (h₂ ++ rest)) := by
      simpa using asserts
    exact further.of_called

theorem concludes (asserts : Asserts rpId account allowed challenge r h) :
    Concludes rpId account allowed challenge h r where
  prompted := asserts.promptsIn_eq
  collected := by
    constructor
    · rintro ⟨c, rfl⟩
      obtain ⟨options, raw, mem, collects⟩ := asserts.exists_answered
      refine ⟨options, raw, mem, ?_⟩
      by_contra absent
      rw [RawCredential.collect_of_none (by simpa using absent)] at collects
      cases collects
    · rintro ⟨options, raw, mem, present⟩
      obtain ⟨first, some_first⟩ := Option.isSome_iff_exists.mp present
      exact ⟨_, by rw [asserts.of_answered mem, RawCredential.collect_of_some some_first]; rfl⟩
  carries := by
    rintro c rfl
    obtain ⟨options, raw, mem, collects⟩ := asserts.exists_answered
    exact ⟨options, raw, mem, RawCredential.carries_of_collect collects⟩
  missing := by
    intro options raw mem absent
    rw [asserts.of_answered mem, RawCredential.collect_of_none absent]
    rfl

end Asserts

/-- **An assertion**: it prompts no more than once, for what the store has left of the account's credentials, and there
is a prompt where something is left.  It collects a credential where the prompt was answered with the first PRF output,
and what it collects tells all of that credential; an answer without that output is a missing result. -/
theorem collectAssertion_prompts {w w' : Wallet (Except CredentialError AssertionOutcome)}
    {ss : List (Step (Except CredentialError AssertionOutcome))} (run : Run w ss w') {st}
    (hst : st ∈ ss) (hstart : st.move = .start (collectAssertion rpId account allowed challenge).run) :
    Prompts rpId account allowed challenge (historyOf st.before.tasks.length ss) ∧
      ∀ r, w'.result? st.before.tasks.length = some r →
        Concludes rpId account allowed challenge (historyOf st.before.tasks.length ss) r := by
  have traces := @collectAssertion_traces rpId account allowed challenge
  constructor
  · obtain ⟨r, rest, asserts⟩ := run.exists_trace hst hstart traces ⟨_, _, .unknown .missingPrfResult⟩
    exact asserts.prompts
  · intro r hr
    exact (run.trace_of_result hst hstart traces hr).concludes

/-! An assertion with a list of its own: of what the store has selected, the list leaves one credential, which is
prompted for twice as it was selected twice. -/

def knownAuthenticators : List StoredAuthenticator := [⟨"own", 1, []⟩, ⟨"other", 1, []⟩]

def repeatedSelection : PasskeySelection := ⟨[⟨"own", 1, []⟩, ⟨"other", 1, []⟩, ⟨"own", 1, []⟩], none⟩

def rawAssertion : RawCredential :=
  ⟨"own", [1, 2], "", none, [3], some [], none, none, none, [], some { first := some [255] }⟩

def narrowedAssertion : List (Move (Except CredentialError AssertionOutcome)) :=
  [.start (collectAssertion "wallet" "a" (some ["own", "foreign"]) [7]).run, .advance 0,
    .answer 0 (.authenticators "a") (.ok knownAuthenticators), .advance 0,
    .answer 0 (.currentPasskey "a" knownAuthenticators) (.ok repeatedSelection), .advance 0,
    .answer 0 (.assertion (promptOptions "wallet" "a" [7] ["own", "own"])) (.ok rawAssertion)]

theorem collectAssertion_prompts_narrowedAssertion :
    ∃ st ss w', Run ⟨quietHost, []⟩ (st :: ss) w' ∧ (st :: ss).map (·.move) = narrowedAssertion ∧
      st.before.tasks.length = 0 ∧ w'.result? 0 = some (rawAssertion.collect.map .collected) ∧
      Prompts "wallet" "a" (some ["own", "foreign"]) [7] (historyOf 0 (st :: ss)) ∧
      Concludes "wallet" "a" (some ["own", "foreign"]) [7] (historyOf 0 (st :: ss))
        (rawAssertion.collect.map .collected) := by
  have hresult : ((Wallet.mk quietHost []).trace? narrowedAssertion).map (fun r =>
      (r.2.result? 0, r.1.head?.map (·.before.tasks.length))) =
      some (some (rawAssertion.collect.map .collected), some 0) := by decide +kernel
  obtain ⟨⟨ss, w'⟩, htrace, hresult⟩ := Option.map_eq_some_iff.1 hresult
  obtain ⟨hcollected, hfirst⟩ := Prod.mk.inj hresult
  cases ss with
  | nil => cases hfirst
  | cons st ss =>
    have hmoves := Wallet.moves_of_trace? htrace
    have run : Run ⟨quietHost, []⟩ (st :: ss) w' := .of_trace? htrace
    have hfirst : st.before.tasks.length = 0 := Option.some.inj hfirst
    obtain ⟨prompts, concludes⟩ := collectAssertion_prompts run List.mem_cons_self (List.cons.inj hmoves).1
    rw [hfirst] at prompts concludes
    exact ⟨st, ss, w', run, hmoves, hfirst, hcollected, prompts, concludes _ hcollected⟩

end Credential
end PasskeyConsent

import PasskeyConsent.Proofs.Concurrency.Trace
import PasskeyConsent.Proofs.Confirmation.Signature
import PasskeyConsent.Proofs.Text.Numeral
/-!
# The provider of challenges

Any number of calls use one provider at the same time: they mint the bootstrap of a key, bind to a newer block, or mint
a challenge that is not kept, while bootstraps are read and forgotten from outside.  All that a call can do from its
beginning to its end is one of a few histories (`Job.Does`), and what it has done so far always goes on to one of them
(`Job.traces`).  So what a call changes of the bootstraps, and which keypair it uses, is read off the history; and with
what is known of every wallet (`Run.provident`), each challenge that is kept or returned can be computed again from its
own fields (`provider_sound`).
-/
namespace PasskeyConsent

open Observer

/-! ## What a challenge says of itself -/

/-- What a challenge says it is bound to. -/
def FreshnessChallenge.input? (c : FreshnessChallenge) : Option FreshnessInput :=
  (Text.readU64 c.blockHeight).toOption.map fun height =>
    ⟨c.userId, c.rpId, .ofNat height, c.blockHash, c.intentDigest⟩

theorem FreshnessChallenge.input?_ofOutput (input : FreshnessInput) (output : VrfOutput) :
    (ofOutput input output).input? = some input := by
  have height : input.blockHeight.toNat ≤ Text.maxU64 := Nat.le_of_lt_succ input.blockHeight.toNat_lt
  have read : Text.readU64 (toString input.blockHeight.toNat) = .ok input.blockHeight.toNat :=
    Text.readNumeral_toString height
  simp only [input?, ofOutput, read, Except.toOption, Option.map_some, UInt64.ofNat_toNat]

/-- A challenge says what it is bound to, its input is computed from that, and the random function was evaluated on the
very bytes. -/
def FreshnessChallenge.SoundIn {α : Type} (ss : List (Step α)) (c : FreshnessChallenge) : Prop :=
  ∃ input output, c.input? = some input ∧ c.vrfInput = Base64url.encode input.derive ∧
    Evaluated ss input.derive output ∧ c = .ofOutput input output

theorem Minted.soundIn {α : Type} {ss : List (Step α)} {c : FreshnessChallenge} (h : Minted ss c) : c.SoundIn ss := by
  obtain ⟨input, output, evaluated, rfl⟩ := h
  exact ⟨input, output, FreshnessChallenge.input?_ofOutput input output, rfl, evaluated, rfl⟩

namespace Freshness

/-! ## Calls -/

/-- What a call for a challenge comes to. -/
abbrev Bound := Except FreshnessError FreshnessChallenge

/-- A call for a challenge. -/
inductive Job where
  | bootstrap (key : String) (input : FreshnessInput) (path : Path)
  | bind (key : String) (input : FreshnessInput) (path : Path)
  | refresh (input : FreshnessInput)

def Job.program : Job → Program Bound
  | .bootstrap key input path => (Freshness.bootstrap key input path).run
  | .bind key input path => (Freshness.bind key input path).run
  | .refresh input => (Freshness.refresh input).run

/-- An evaluation with the keypair of a path, and what comes of it. -/
def Path.evaluates (path : Path) (input : FreshnessInput) (r : Except FreshnessError VrfOutput) : History :=
  match path with
  | .session => Call.asks (.evaluate input.derive) r
  | .newKeypair => Call.asks (.evaluateWithNewKeypair input.derive) r

/-- **All that a call can do**, from its beginning to its end, and what it comes to. -/
inductive Job.Does : Job → Bound → History → Prop
  | refresh (input : FreshnessInput) (r : Except FreshnessError VrfOutput) :
    Does (.refresh input) (r.map (.ofOutput input)) (Path.session.evaluates input r)
  | fail (key : String) (input : FreshnessInput) (path : Path) (e : FreshnessError) :
    Does (.bootstrap key input path) (.error e) (path.evaluates input (.error e))
  | mint (key : String) (input : FreshnessInput) (path : Path) (output : VrfOutput) :
    Does (.bootstrap key input path) (.ok (.ofOutput input output))
      (path.evaluates input (.ok output) ++ [.accessed (.keepBootstrap key (.ofOutput input output)) ()])
  | bindNone {key : String} {input : FreshnessInput} {path : Path} {r : Bound} {h : History}
    (first : Does (.bootstrap key input path) r h) :
    Does (.bind key input path) r (.accessed (.bootstrap key) none :: h)
  | bindSome (key : String) (input : FreshnessInput) (path : Path) (kept : FreshnessChallenge)
    (r : Except FreshnessError VrfOutput) :
    Does (.bind key input path) (.ok ((r.map (.ofOutput input)).toOption.getD kept))
      (.accessed (.bootstrap key) (some kept) :: Path.session.evaluates input r)

section

variable {T : Bound → History → Prop} {input : FreshnessInput} {own : Holdings} {pre : History}

theorem meets_mint {path : Path} {post : Bound → Holdings → History → Prop}
    (goes : ∀ r, ∃ r' rest, T r' (pre ++ path.evaluates input r ++ rest))
    (ends : ∀ r, post (r.map (.ofOutput input)) own (pre ++ path.evaluates input r)) :
    (tracer T).Meets anywhere (mint input path).run post own pre := by
  have ends' : ∀ r, (tracer T).Meets anywhere (pure (r.map (FreshnessChallenge.ofOutput input)) : Program Bound) post
      own (pre ++ path.evaluates input r) := ends
  cases path with
  | session =>
    refine meets_ask (.error .keypairNotLoaded) goes fun r => ?_
    cases r with
    | ok output => exact ends' (.ok output)
    | error e => exact ends' (.error e)
  | newKeypair =>
    refine meets_ask (.error .keypairNotLoaded) goes fun r => ?_
    cases r with
    | ok output => exact ends' (.ok output)
    | error e => exact ends' (.error e)

theorem meets_bootstrap {key : String} {path : Path}
    (goes : ∀ r h, (Job.bootstrap key input path).Does r h → T r (pre ++ h)) :
    (tracer T).Meets anywhere (bootstrap key input path).run (fun r _ h => T r h) own pre := by
  refine meets_bind (meets_mint (fun r => ?_) fun r => ?_)
  · cases r with
    | ok output => exact ⟨_, _, by simpa using goes _ _ (.mint key input path output)⟩
    | error e => exact ⟨_, [], by simpa using goes _ _ (.fail key input path e)⟩
  · cases r with
    | ok output =>
      have does := goes _ _ (.mint key input path output)
      rw [← List.append_assoc] at does
      exact fun _ _ => ⟨⟨_, [], does⟩, does⟩
    | error e => exact goes _ _ (.fail key input path e)

end

/-- **A call does what it can do**, whatever the random function answers. -/
theorem Job.traces (j : Job) : j.program.Traces j.Does := by
  cases j with
  | bootstrap key input path => exact meets_bootstrap fun _ _ => id
  | refresh input =>
    refine meets_mint (fun r => ⟨r.map (.ofOutput input), [], ?_⟩) fun r => .refresh input r
    simpa using Job.Does.refresh input r
  | bind key input path =>
    refine meets_access fun kept _ => ?_
    cases kept with
    | none =>
      refine ⟨⟨_, _, .bindNone (.fail key input path .keypairNotLoaded)⟩, ?_⟩
      exact meets_bootstrap fun _ _ does => .bindNone does
    | some kept =>
      refine ⟨⟨_, _, .bindSome key input path kept (.error .keypairNotLoaded)⟩, ?_⟩
      refine meets_bind (meets_mint (fun r => ⟨.ok ((r.map (.ofOutput input)).toOption.getD kept), [], ?_⟩) fun r => ?_)
      · rw [List.append_nil]
        exact .bindSome key input path kept r
      · cases r with
        | ok output => exact Job.Does.bindSome key input path kept (.ok output)
        | error e => exact Job.Does.bindSome key input path kept (.error e)

/-! ## What a call has done -/

/-- The events that leave the bootstraps as they are. -/
inductive Reads : Event → Prop
  | look (key : String) (found : Option FreshnessChallenge) : Reads (.accessed (.bootstrap key) found)
  | call (c : Call) : Reads (.called c)
  | answer (c : Call) (x : c.Answer) : Reads (.answered c x)

theorem Path.reads_of_mem {path : Path} {input : FreshnessInput} {r : Except FreshnessError VrfOutput} {e : Event}
    (h : e ∈ path.evaluates input r) : Reads e := by
  cases path <;> rcases Call.mem_asks.mp h with rfl | rfl
  · exact .call _
  · exact .answer _ _
  · exact .call _
  · exact .answer _ _

theorem Job.exists_does (j : Job) : ∃ r h, j.Does r h := by
  cases j with
  | bootstrap key input path => exact ⟨_, _, .fail key input path .keypairNotLoaded⟩
  | bind key input path => exact ⟨_, _, .bindNone (.fail key input path .keypairNotLoaded)⟩
  | refresh input => exact ⟨_, _, .refresh input (.error .keypairNotLoaded)⟩

namespace Job.Does

variable {j : Job} {key : String} {input : FreshnessInput} {path : Path} {r : Bound} {h : History}

/-- A call that fails keeps nothing. -/
theorem reads_of_error {e : FreshnessError} (does : j.Does (.error e) h) : ∀ event ∈ h, Reads event := by
  generalize fails : (Except.error e : Bound) = r at does
  induction does with
  | refresh => exact fun _ mem => Path.reads_of_mem mem
  | fail => exact fun _ mem => Path.reads_of_mem mem
  | mint => cases fails
  | bindNone first ih =>
    intro event mem
    rcases List.mem_cons.mp mem with rfl | mem
    · exact .look _ _
    · exact ih fails event mem
  | bindSome => cases fails

theorem no_look (does : (Job.bootstrap key input path).Does r h) (k : String) (found : Option FreshnessChallenge) :
    .accessed (.bootstrap k) found ∉ h := by
  intro mem
  cases does <;> cases path <;> simp [Path.evaluates, Call.asks] at mem

/-- A call that has found a bootstrap evaluates for its own input with the loaded keypair, and has what to return. -/
theorem of_found {k : String} {kept : FreshnessChallenge} (does : (Job.bind key input path).Does r h)
    (mem : .accessed (.bootstrap k) (some kept) ∈ h) : ∃ x,
      h = .accessed (.bootstrap key) (some kept) :: Path.session.evaluates input x ∧
      r = .ok ((x.map (.ofOutput input)).toOption.getD kept) := by
  cases does with
  | bindNone first =>
    rw [List.mem_cons] at mem
    rcases mem with eq | mem
    · cases eq
    · exact absurd mem (first.no_look k (some kept))
  | bindSome _ _ _ kept' x =>
    simp only [Path.evaluates, Call.asks, List.mem_cons, List.not_mem_nil, or_false] at mem
    rcases mem with eq | eq | eq <;> cases eq
    exact ⟨x, rfl, rfl⟩

/-- A call that fails has found nothing, and it is its evaluation that has failed. -/
theorem of_error {e : FreshnessError} (does : (Job.bind key input path).Does (.error e) h) :
    h = .accessed (.bootstrap key) none :: path.evaluates input (.error e) := by
  cases does with
  | bindNone first =>
    cases first
    rfl

/-- What a call returns it has found, or has minted from an answer. -/
theorem of_ok {c : FreshnessChallenge} (does : j.Does (.ok c) h) :
    (∃ k, .accessed (.bootstrap k) (some c) ∈ h) ∨ ∃ (i : FreshnessInput) (output : VrfOutput), c = .ofOutput i output ∧
      (.answered (.evaluate i.derive) (.ok output) ∈ h ∨
        .answered (.evaluateWithNewKeypair i.derive) (.ok output) ∈ h) := by
  generalize returns : (Except.ok c : Bound) = r at does
  induction does with
  | refresh input x =>
    cases x with
    | ok output =>
      cases returns
      exact .inr ⟨input, output, rfl, .inl (by simp [Path.evaluates])⟩
    | error e => cases returns
  | fail => cases returns
  | mint key input path output =>
    cases returns
    refine .inr ⟨input, output, rfl, ?_⟩
    cases path with
    | session => exact .inl (by simp [Path.evaluates])
    | newKeypair => exact .inr (by simp [Path.evaluates])
  | bindNone first ih =>
    rcases ih returns with ⟨k, mem⟩ | ⟨i, output, eq, mem⟩
    · exact .inl ⟨k, List.mem_cons_of_mem _ mem⟩
    · exact .inr ⟨i, output, eq, mem.imp (List.mem_cons_of_mem _) (List.mem_cons_of_mem _)⟩
  | bindSome key input path kept x =>
    cases x with
    | ok output =>
      cases returns
      exact .inr ⟨input, output, rfl, .inl (by simp [Path.evaluates])⟩
    | error e =>
      cases returns
      exact .inl ⟨key, List.mem_cons_self⟩

end Job.Does

theorem Job.mints (j : Job) : j.program.Mints := by
  have idle : ({} : Signing).Idle := ⟨rfl, rfl⟩
  have forget : ∀ {P : Bound → Holdings → Signing → Prop},
      (Signing.signer false).Meets Signing.Unposted j.program P {} {} → j.program.Mints :=
    fun h => Signing.mints_of_signs (h.mono (fun _ _ _ => trivial) fun _ _ _ _ => trivial)
  cases j with
  | bootstrap key input path => exact forget (Signing.freshnessBootstrap_brings idle key input path {})
  | bind key input path => exact forget (Signing.freshnessBind_brings idle key input path {})
  | refresh input => exact forget (Signing.mint_brings idle input .session {})

end Freshness

/-! ## Runs -/

open Freshness

/-- A move of a wallet whose tasks are calls for challenges: from outside, bootstraps are only read and forgotten. -/
def Move.UsesProvider : Move Bound → Prop
  | .start p => ∃ j : Job, p = j.program
  | .outside (.keepBootstrap ..) => False
  | _ => True

theorem Move.UsesProvider.mints {m : Move Bound} (h : m.UsesProvider) : m.Mints := by
  cases m with
  | start p =>
    obtain ⟨j, rfl⟩ := h
    exact j.mints
  | outside a => cases a <;> trivial
  | _ => trivial

theorem Wallet.Goes.bootstraps_of_reads {α : Type} {w w' : Wallet α} {m : Move α} {h : Happening} (g : w.Goes m h w')
    {i : Nat} {e : Event} (he : h.event? i = some e) (reads : Reads e) : w'.host.bootstraps = w.host.bootstraps := by
  cases Happening.eq_of_event? he
  cases reads with
  | look key found =>
    cases g with
    | access => rfl
  | call c => rw [Wallet.Goes.host_of_called g]
  | answer c x => rw [Wallet.Goes.host_of_answered g]

/-- **What is so of a provider** after some steps. -/
structure ProviderSound (ss : List (Step Bound)) (w' : Wallet Bound) : Prop where
  /-- Every challenge that is kept is sound, -/
  kept : ∀ key c, w'.host.bootstraps.get? key = some c → c.SoundIn ss
  /-- and every one that was read, by a call or from outside; -/
  shown : ∀ st ∈ ss, ∀ key c, st.happening.use? = some ⟨.bootstrap key, some c⟩ → c.SoundIn ss
  /-- so is every one that is returned. -/
  returned : ∀ begin ∈ ss, ∀ j : Job, begin.move = .start j.program →
    ∀ c, w'.result? begin.before.tasks.length = some (.ok c) → c.SoundIn ss
  /-- Binding fails only where no bootstrap was kept when it looked, and its own evaluation has failed. -/
  bindFails : ∀ begin ∈ ss, ∀ key input path, begin.move = .start (Job.bind key input path).program →
    ∀ e, w'.result? begin.before.tasks.length = some (.error e) →
      (∃ look ∈ ss, look.happening = .accessed begin.before.tasks.length (.bootstrap key) none ∧
        look.before.host.bootstraps.get? key = none) ∧
      historyOf begin.before.tasks.length ss = .accessed (.bootstrap key) none :: path.evaluates input (.error e)
  /-- Where one was kept, binding returns a challenge for its own input or that one, -/
  bindReturns : ∀ begin ∈ ss, ∀ key input path, begin.move = .start (Job.bind key input path).program →
    ∀ look ∈ ss, ∀ found, look.happening = .accessed begin.before.tasks.length (.bootstrap key) found →
      ∀ c, look.before.host.bootstraps.get? key = some c →
        ∀ r, w'.result? begin.before.tasks.length = some r → r = .ok c ∨
          ∃ output, r = .ok (.ofOutput input output) ∧
            .answered (.evaluate input.derive) (.ok output) ∈ historyOf begin.before.tasks.length ss
  /-- mints no keypair and leaves the bootstraps as they are. -/
  bindReads : ∀ begin ∈ ss, ∀ key input path, begin.move = .start (Job.bind key input path).program →
    ∀ look ∈ ss, ∀ found, look.happening = .accessed begin.before.tasks.length (.bootstrap key) found →
      ∀ c, look.before.host.bootstraps.get? key = some c →
        ∀ st ∈ ss, ∀ event, st.happening.event? begin.before.tasks.length = some event →
          (∀ bytes, event ≠ .called (.evaluateWithNewKeypair bytes)) ∧
            st.after.host.bootstraps = st.before.host.bootstraps
  /-- A call that fails leaves the bootstraps as they are. -/
  failureReads : ∀ begin ∈ ss, ∀ j : Job, begin.move = .start j.program →
    ∀ e, w'.result? begin.before.tasks.length = some (.error e) →
      ∀ st ∈ ss, ∀ event, st.happening.event? begin.before.tasks.length = some event →
        st.after.host.bootstraps = st.before.host.bootstraps

section

variable {w w' : Wallet Bound} {ss : List (Step Bound)} {begin st look : Step Bound} {j : Job}

theorem Run.minted_of_use (run : Run w ss w') (hempty : w.tasks = []) (hnone : w.host.bootstraps = {})
    (huses : ∀ st ∈ ss, st.move.UsesProvider) (hst : st ∈ ss) {key : String} {c : FreshnessChallenge}
    (hread : st.happening.use? = some ⟨.bootstrap key, some c⟩) : Minted ss c := by
  obtain ⟨ss₁, ss₂, rfl⟩ := List.append_of_mem hst
  have provident := run.cut.1.provident hempty hnone fun st' hst' => (huses st' (List.mem_append_left _ hst')).mints
  obtain ⟨task, own, hfound, -⟩ := (run.goes hst).exists_access hread
  exact (provident.kept key c hfound).append _

/-- Where a call has found a bootstrap, that one was kept when it looked. -/
theorem Run.found_of_look (run : Run w ss w') (hlook : look ∈ ss) {i : Nat} {key : String}
    {found : Option FreshnessChallenge} {c : FreshnessChallenge}
    (hnow : look.happening = .accessed i (.bootstrap key) found) (hc : look.before.host.bootstraps.get? key = some c) :
    .accessed (.bootstrap key) (some c) ∈ historyOf i ss := by
  have g := run.goes hlook
  rw [hnow] at g
  have hanswer := g.bootstrap_answer
  rw [hc] at hanswer
  subst hanswer
  exact mem_historyOf_iff.mpr ⟨look, hlook, hnow⟩

/-- What a call returns it has found, or has minted itself. -/
theorem Run.minted_of_result (run : Run w ss w') (hempty : w.tasks = []) (hnone : w.host.bootstraps = {})
    (huses : ∀ st ∈ ss, st.move.UsesProvider) (hbegin : begin ∈ ss) (hstart : begin.move = .start j.program)
    {c : FreshnessChallenge} (hc : w'.result? begin.before.tasks.length = some (.ok c)) : Minted ss c := by
  rcases (run.trace_of_result hbegin hstart j.traces hc).of_ok with ⟨key, mem⟩ | ⟨input, output, rfl, mem⟩
  · obtain ⟨st, hst, hnow⟩ := mem_historyOf_iff.mp mem
    have hread : st.happening.use? = some ⟨.bootstrap key, some c⟩ := by
      rw [hnow]
      rfl
    exact run.minted_of_use hempty hnone huses hst hread
  · refine ⟨input, output, ?_, rfl⟩
    rcases mem with mem | mem
    · obtain ⟨st, hst, hnow⟩ := mem_historyOf_iff.mp mem
      exact ⟨st, hst, begin.before.tasks.length, .inl hnow⟩
    · obtain ⟨st, hst, hnow⟩ := mem_historyOf_iff.mp mem
      exact ⟨st, hst, begin.before.tasks.length, .inr hnow⟩

/-- A binding that has found a bootstrap mints no keypair and keeps nothing, however far it has got. -/
theorem Run.reads_of_found (run : Run w ss w') (hbegin : begin ∈ ss) {key k : String} {input : FreshnessInput}
    {path : Path} (hstart : begin.move = .start (Job.bind key input path).program) {c : FreshnessChallenge}
    (mem : .accessed (.bootstrap k) (some c) ∈ historyOf begin.before.tasks.length ss) {event : Event}
    (hevent : event ∈ historyOf begin.before.tasks.length ss) :
    (∀ bytes, event ≠ .called (.evaluateWithNewKeypair bytes)) ∧ Reads event := by
  obtain ⟨r, rest, does⟩ := run.exists_trace hbegin hstart (Job.traces _) (Job.exists_does _)
  obtain ⟨x, hall, -⟩ := does.of_found (List.mem_append_left rest mem)
  have hevent := List.mem_append_left rest hevent
  rw [hall, List.mem_cons] at hevent
  rcases hevent with rfl | hevent
  · exact ⟨fun _ => nofun, .look _ _⟩
  · refine ⟨fun bytes => ?_, Path.reads_of_mem hevent⟩
    rintro rfl
    simp [Path.evaluates, Call.asks] at hevent

/-- **The provider of challenges is sound** in every run of any number of calls, in whatever order they take turns and
whatever the random function answers. -/
theorem provider_sound (run : Run w ss w') (hempty : w.tasks = []) (hnone : w.host.bootstraps = {})
    (huses : ∀ st ∈ ss, st.move.UsesProvider) : ProviderSound ss w' := by
  refine ⟨?kept, ?shown, ?returned, ?bindFails, ?bindReturns, ?bindReads, ?failureReads⟩
  case kept =>
    intro key c hc
    have provident := run.provident hempty hnone fun st hst => (huses st hst).mints
    exact (provident.kept key c hc).soundIn
  case shown => exact fun st hst key c hread => (run.minted_of_use hempty hnone huses hst hread).soundIn
  case returned => exact fun begin hbegin j hstart c hc =>
    (run.minted_of_result hempty hnone huses hbegin hstart hc).soundIn
  case bindFails =>
    intro begin hbegin key input path hstart e he
    have hhistory := (run.trace_of_result hbegin hstart (Job.traces _) he).of_error
    refine ⟨?_, hhistory⟩
    obtain ⟨look, hlook, hnow⟩ := mem_historyOf_iff.mp (hhistory ▸ List.mem_cons_self)
    have g := run.goes hlook
    rw [hnow] at g
    exact ⟨look, hlook, hnow, (Wallet.Goes.bootstrap_answer g).symm⟩
  case bindReturns =>
    intro begin hbegin key input path hstart look hlook found hnow c hc r hr
    have mem := run.found_of_look hlook hnow hc
    obtain ⟨x, hhistory, rfl⟩ := (run.trace_of_result hbegin hstart (Job.traces _) hr).of_found mem
    cases x with
    | ok output =>
      refine .inr ⟨output, rfl, ?_⟩
      rw [hhistory]
      simp [Path.evaluates]
    | error e => exact .inl rfl
  case bindReads =>
    intro begin hbegin key input path hstart look hlook found hnow c hc st hst event hevent
    have mem := run.found_of_look hlook hnow hc
    have hmem : event ∈ historyOf begin.before.tasks.length ss := List.mem_filterMap.mpr ⟨st, hst, hevent⟩
    obtain ⟨old, reads⟩ := run.reads_of_found hbegin hstart mem hmem
    exact ⟨old, (run.goes hst).bootstraps_of_reads hevent reads⟩
  case failureReads =>
    intro begin hbegin j hstart e he st hst event hevent
    have mem : event ∈ historyOf begin.before.tasks.length ss := List.mem_filterMap.mpr ⟨st, hst, hevent⟩
    have reads := (run.trace_of_result hbegin hstart (Job.traces _) he).reads_of_error event mem
    exact (run.goes hst).bootstraps_of_reads hevent reads

end

/-! Four calls for one key: minting a bootstrap fails, binding without one mints it, the next one looks at it, has its
evaluation fail after the bootstrap is forgotten, and returns it; the last one finds none and fails. -/

def newerBlock : FreshnessInput := { keptInput with blockHeight := 6, blockHash := "i" }

def fourBindings : List (Move Bound) :=
  [Move.start (Job.bootstrap "a" keptInput .newKeypair).program, Move.start (Job.bind "a" keptInput .session).program,
    Move.start (Job.bind "a" newerBlock .newKeypair).program,
    Move.start (Job.bind "a" newerBlock .newKeypair).program] ++
  [Move.advance 0, Move.advance 1, Move.advance 1, Move.answer 1 (.evaluate keptInput.derive) (.ok keptOutput),
    Move.advance 1, Move.outside (.bootstrap "a"), Move.advance 2, Move.advance 2, Move.outside (.forgetBootstrap "a"),
    Move.advance 3, Move.advance 3, Move.answer 0 (.evaluateWithNewKeypair keptInput.derive) (.error .keypairNotLoaded),
    Move.answer 3 (.evaluateWithNewKeypair newerBlock.derive) (.error .keypairNotLoaded),
    Move.answer 2 (.evaluate newerBlock.derive) (.error .keypairNotLoaded)]

theorem provider_sound_fourBindings :
    ∃ ss, ∃ w' : Wallet Bound, Run ⟨quietHost, []⟩ ss w' ∧ ss.map (·.move) = fourBindings ∧
      (∀ st ∈ ss, st.move.UsesProvider) ∧ ProviderSound ss w' ∧
      [0, 1, 2, 3].map w'.result? = [some (.error .keypairNotLoaded), some (.ok (.ofOutput keptInput keptOutput)),
        some (.ok (.ofOutput keptInput keptOutput)), some (.error .keypairNotLoaded)] := by
  have hresults : ((Wallet.mk quietHost []).trace? fourBindings).map (fun r => [0, 1, 2, 3].map r.2.result?) =
      some [some (.error .keypairNotLoaded), some (.ok (.ofOutput keptInput keptOutput)),
        some (.ok (.ofOutput keptInput keptOutput)), some (.error .keypairNotLoaded)] := by decide +kernel
  obtain ⟨⟨ss, w'⟩, htrace, hresults⟩ := Option.map_eq_some_iff.1 hresults
  have hmoves := Wallet.moves_of_trace? htrace
  have huses : ∀ st ∈ ss, st.move.UsesProvider := by
    intro st hst
    have hmem : st.move ∈ fourBindings := hmoves ▸ List.mem_map_of_mem hst
    simp only [fourBindings, List.cons_append, List.nil_append, List.mem_cons, List.not_mem_nil, or_false] at hmem
    rcases hmem with h | h | h | h | h | h | h | h | h | h | h | h | h | h | h | h | h | h <;> rw [h]
    all_goals first | exact ⟨_, rfl⟩ | trivial
  have run : Run ⟨quietHost, []⟩ ss w' := .of_trace? htrace
  exact ⟨ss, w', run, hmoves, huses, provider_sound run rfl rfl huses, hresults⟩

end PasskeyConsent

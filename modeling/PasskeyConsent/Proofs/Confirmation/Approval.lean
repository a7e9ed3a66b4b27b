import PasskeyConsent.Proofs.Confirmation.Cancellation
import PasskeyConsent.Proofs.Confirmation.Consent
/-!
# Nothing before approval

A request that shows a surface does nothing for its operation before its user has approved it: the surface is mounted
and a decision on it lets the request go on.  What turns a request down before that, the user or a cancel, turns it down
for good: it never acts, its surface is closed, and its one answer is that it was cancelled (`handle_acts_by_approval`).

The turns of a request are the events that decide on this.  One observer follows them (`overseer`), and another sees to
it that they come while the request has its id (`holder`), so that a cancel is there to be heeded at each.
-/
namespace PasskeyConsent

open Observer Program Confirmation

variable {α : Type} {setup : Setup} {q : Request} {h : History}

/-! ## Acts and turns -/

/-- The calls that a request makes for its operation: to the chain, the engine, the store, the authenticator and the
dispenser. -/
def Call.acts : Call → Bool
  | .latestBlock | .accessKey _ | .evaluate _ | .evaluateWithNewKeypair _ | .authenticators _ | .currentPasskey ..
  | .assertion _ | .attestation _ | .dispense .. => true
  | _ => false

/-- The accesses by which it reserves numbers, grants and uses sessions, and supplies the signing worker. -/
def Access.acts : Access → Bool
  | .reserve _ | .grant .. | .consume .. | .attach .. | .deposit .. => true
  | _ => false

/-- What a request does for its operation.  The wait for room in the worker's inbox ends with a message in it. -/
def Event.acts : Event → Bool
  | .accessed a _ => a.acts
  | .called c | .answered c _ => c.acts
  | .waited (.send _) _ => true
  | _ => false

/-- What turns a request down, with what it says then. -/
def Event.refusal? : Event → Option String
  | .stopped | .accessed (.isCancelled _) true => some "Confirmation was cancelled"
  | .answered (.decision ..) (some .cancel) => some "User rejected the confirmation"
  | _ => none

/-- The events that decide whether a request may go on. -/
def Event.turns (e : Event) : Bool := e.isConsent || e.refusal?.isSome

/-- What a request was turned down with, if it was. -/
def refusalIn (h : History) : Option String := h.findSome? Event.refusal?

theorem refusalIn_of_consents (hconsents : Consents setup q h) : refusalIn h = none := by
  cases hconsents with
  | unasked stored hskips => rfl
  | asked stored hshows surface x hx =>
    rcases x with _ | _ | _
    · rfl
    · rfl
    · exact absurd rfl hx

/-- The answer to a request that was turned down. -/
def turnedDown (q : Request) (text : String) : Response := .declined q.id .userCancelled text

/-- The decisions on the surface of a request. -/
def Event.isDecision : Event → Bool
  | .answered (.decision ..) _ => true
  | _ => false

/-- When a turn may come: the request has not been turned down, and is decided on once. -/
structure MayTurn (h : History) (e : Event) : Prop where
  pending : refusalIn h = none
  first : e.isDecision = true → h.any Event.isDecision = false

/-- What a request may answer after these turns. -/
structure MayAnswer (setup : Setup) (q : Request) (h : History) (m : Json) : Prop where
  consents : refusalIn h = none → Consents setup q h
  refused : ∀ text, refusalIn h = some text → m = (turnedDown q text).message

/-- The one who follows the turns of a request and allows it to act with consent only, and to be turned down or decided
on once. -/
def overseer (setup : Setup) (q : Request) : Observer History where
  after h e := if e.turns then h ++ [e] else h
  allows h e :=
    (e.acts = true → Consents setup q h) ∧ (e.turns = true → MayTurn h e) ∧
      ∀ m, e = .called (.post m) → MayAnswer setup q h m

/-! ## The handling -/

/-- What a request answers when it has come to an end. -/
def answerTo? (id : String) : Except Stop Response → Option Response
  | .ok r => some r
  | .error (.declined code message) => some (.declined id code message)
  | .error (.fatal _) => none

/-- The effects of a conclusion. -/
def Effect.Concludes (id : String) (outcome : Except Stop Response) : Effect → Prop
  | .access (.enter ..) | .access .holdings | .access (.release _) | .access (.restore _) | .access (.detach _) => True
  | .suspend (.call (.reclaim ..)) | .suspend (.call (.unmount _)) => True
  | .suspend (.call (.post m)) => (answerTo? id outcome).map Response.message = some m
  | _ => False

theorem conclude_concludes (setup : Setup) (id : String) (outcome : Except Stop Response) :
    (conclude setup id outcome).Only (Effect.Concludes id outcome) anyResult := by
  have hclose := only_closeSurface (E := Effect.Concludes id outcome) fun _ => trivial
  have hback := only_rollBack (E := Effect.Concludes id outcome) (fun _ => trivial) (fun _ _ => trivial)
    (fun _ => trivial) (fun _ => trivial) (fun _ => trivial) setup
  have hpost {r : Response} (hr : answerTo? id outcome = some r) :
      (Confirmation.post r).Only (Effect.Concludes id outcome) anyResult := by
    refine Only.call (by rw [Effect.Concludes, hr]; rfl) fun x => ?_
    cases x with
    | ok => exact trivial
    | error e => exact trivial
  cases outcome with
  | ok r =>
    exact Only.access trivial fun _ => Only.access trivial fun own => Only.bind (hclose own.surface) fun _ _ => hpost rfl
  | error stop =>
    cases stop with
    | declined code message =>
      exact Only.access trivial fun _ => Only.access trivial fun own => Only.bind (hback own) fun _ _ => hpost rfl
    | fatal e =>
      exact Only.access trivial fun _ => Only.access trivial fun own => Only.bind (hback own) fun _ _ => trivial

/-- What comes of the effects of a conclusion neither acts nor decides anything. -/
theorem Effect.Yields.of_concludes {id : String} {outcome : Except Stop Response} {e : Effect} {event : Event}
    (hevent : e.Yields event) (he : e.Concludes id outcome) : event.acts = false ∧ event.turns = false ∧
      ∀ m, event = .called (.post m) → (answerTo? id outcome).map Response.message = some m := by
  cases hevent with
  | access a x => cases a <;> first | exact ⟨rfl, rfl, nofun⟩ | exact he.elim
  | call c =>
    cases c
    case post m => exact ⟨rfl, rfl, fun m' hm => by rw [← (Call.post.inj (Event.called.inj hm))]; exact he⟩
    all_goals first | exact ⟨rfl, rfl, nofun⟩ | exact he.elim
  | answer c x => cases c <;> first | exact ⟨rfl, rfl, nofun⟩ | exact he.elim
  | wait | stop | watched => exact he.elim

/-- What comes of the effects of an operation decides nothing, and answers nothing. -/
theorem Effect.Yields.of_flows {e : Effect} {event : Event} (hevent : e.Yields event)
    (he : flowTopics.contains e.topic = true) : event.turns = false ∧ ∀ m, event ≠ .called (.post m) := by
  cases hevent with
  | access a x => cases a <;> first | exact absurd he Bool.false_ne_true | exact ⟨rfl, nofun⟩
  | call c => cases c <;> first | exact absurd he Bool.false_ne_true | exact ⟨rfl, nofun⟩
  | answer c x => cases c <;> first | exact absurd he Bool.false_ne_true | exact ⟨rfl, nofun⟩
  | wait w x => exact ⟨rfl, nofun⟩
  | stop | watched => exact absurd he Bool.false_ne_true

theorem overseer_keeps {e : Event} (hacts : e.acts = true → Consents setup q h) (hturns : e.turns = false)
    (hanswer : ∀ m, e = .called (.post m) → MayAnswer setup q h m) :
    (overseer setup q).allows h e ∧ (overseer setup q).after h e = h := by
  refine ⟨⟨hacts, fun hturn => ?_, hanswer⟩, ?_⟩
  · rw [hturns] at hturn
    cases hturn
  · show (if e.turns = true then _ else h) = h
    rw [hturns]
    rfl

/-- There is nothing to redact in what a request is turned down with. -/
theorem decline_of_refusal {e : Event} {text : String} (hrefusal : e.refusal? = some text) :
    Stop.decline .userCancelled text = .declined .userCancelled text := by
  have hcancelled : redact "Confirmation was cancelled" = "Confirmation was cancelled" := by decide +kernel
  have hrejected : redact "User rejected the confirmation" = "User rejected the confirmation" := by decide +kernel
  unfold Stop.decline
  unfold Event.refusal? at hrefusal
  split at hrefusal
  · rw [← Option.some.inj hrefusal, hcancelled]
  · rw [← Option.some.inj hrefusal, hcancelled]
  · rw [← Option.some.inj hrefusal, hrejected]
  · cases hrefusal

/-- What a request comes to, after these turns. -/
structure ComesTo (setup : Setup) (q : Request) (outcome : Except Stop Response) (h : History) : Prop where
  consents : refusalIn h = none → Consents setup q h
  refused : ∀ text, refusalIn h = some text → outcome = .error (.declined .userCancelled text)

theorem conclude_overseen {outcome : Except Stop Response} (hcomes : ComesTo setup q outcome h) (own : Holdings) :
    (overseer setup q).Meets anywhere (conclude setup q.id outcome) (fun _ _ _ => True) own h := by
  have hanswer (m : Json) (hm : (answerTo? q.id outcome).map Response.message = some m) : MayAnswer setup q h m := by
    refine ⟨hcomes.consents, fun text htext => ?_⟩
    have hanswer : answerTo? q.id outcome = some (turnedDown q text) := by
      rw [hcomes.refused text htext]
      rfl
    rw [hanswer] at hm
    exact (Option.some.inj hm).symm
  have hkept : (conclude setup q.id outcome).Only (fun e => ∀ event, e.Yields event → ∀ s, s = h →
      (overseer setup q).allows s event ∧ (overseer setup q).after s event = h) anyResult := by
    refine Only.mono (conclude_concludes setup q.id outcome) (fun e he event hevent s hs => ?_) fun _ hr => hr
    subst hs
    obtain ⟨hacts, hturns, hpost⟩ := hevent.of_concludes he
    exact overseer_keeps (fun hact => absurd (hacts.symm.trans hact) Bool.false_ne_true) hturns fun m hm =>
      hanswer m (hpost m hm)
  exact (meets_of_kept hkept own rfl).mono (fun _ _ _ => trivial) fun _ _ _ _ => trivial

theorem perform_overseen (hconsents : Consents setup q h) (own : Holdings) :
    (overseer setup q).Meets (fun _ h => Consents setup q h) (perform setup q).run (fun _ _ h => Consents setup q h) own
      h := by
  refine meets_of_kept (P := Consents setup q) (Only.mono (flows_perform setup q)
    (fun e he event hevent h hconsents => ?_) fun _ hr => hr) own hconsents
  obtain ⟨hturns, hpost⟩ := hevent.of_flows he
  obtain ⟨hallowed, hafter⟩ := overseer_keeps (fun _ => hconsents) hturns fun m hm => absurd hm (hpost m)
  exact ⟨hallowed, hafter.symm ▸ hconsents⟩

theorem refusalIn_snoc (h : History) (e : Event) : refusalIn (h ++ [e]) = (refusalIn h).or e.refusal? := by
  unfold refusalIn
  rw [List.findSome?_append]
  cases he : e.refusal? <;> simp [he]

/-- What turns a request down is a turn of it. -/
theorem Event.turns_of_refusal {e : Event} {text : String} (h : e.refusal? = some text) : e.turns = true := by
  rw [turns, h]
  exact Bool.or_true _

/-- A request that is turned down comes to nothing else. -/
theorem comesTo_of_refusal {e : Event} {text : String} (hrefusal : e.refusal? = some text) (hnone : refusalIn h = none) :
    ComesTo setup q (.error (.decline .userCancelled text)) (h ++ [e]) := by
  have hsome : refusalIn (h ++ [e]) = some text := by rw [refusalIn_snoc, hnone, hrefusal]; rfl
  rw [decline_of_refusal hrefusal]
  refine ⟨fun hnone => ?_, fun text' htext => ?_⟩
  · rw [hsome] at hnone
    cases hnone
  · rw [Option.some.inj (hsome.symm.trans htext)]

theorem awaitUser_overseen {stored : ConfirmationPolicy} {own : Holdings}
    (hshows : (q.policyOver setup stored).showsUi = true) :
    (overseer setup q).Meets (fun _ h => refusalIn h = none) (awaitUser q (q.policyOver setup stored)).run
      (Ends (fun _ _ h => Consents setup q h) fun stop _ h => ComesTo setup q (.error stop) h) own
      [.answered .preferences stored] := by
  refine meets_liftAccess fun _ _ => ⟨⟨nofun, nofun, nofun⟩, ?_⟩
  refine meets_liftCall ⟨rfl, ⟨nofun, nofun, nofun⟩, rfl, fun surface => ⟨⟨nofun, fun _ => ⟨rfl, nofun⟩, nofun⟩, ?_⟩⟩
  refine meets_liftAccess fun _ _ => ⟨⟨nofun, nofun, nofun⟩, ?_⟩
  refine meets_liftCall ⟨rfl, ⟨nofun, nofun, nofun⟩, rfl, fun x => ⟨⟨nofun, fun _ => ⟨rfl, fun _ => rfl⟩, nofun⟩, ?_⟩⟩
  rcases x with _ | _ | _
  · exact .asked stored hshows surface none nofun
  · exact .asked stored hshows surface (some .proceed) nofun
  · exact comesTo_of_refusal (h := [.answered .preferences stored, .answered (.mount q _) surface]) rfl rfl

theorem run_overseen (stored : ConfirmationPolicy) (own : Holdings) :
    (overseer setup q).Meets (fun _ h => refusalIn h = none) (run setup q (q.policyOver setup stored)).run
      (fun outcome _ h => ComesTo setup q outcome h) own [.answered .preferences stored] := by
  have hperform {h : History} (hconsents : Consents setup q h) (own : Holdings) :
      (overseer setup q).Meets (fun _ h => refusalIn h = none) (perform setup q).run
        (fun outcome _ h => ComesTo setup q outcome h) own h := by
    refine (perform_overseen hconsents own).mono (fun _ _ => refusalIn_of_consents) fun outcome _ h hconsents => ?_
    refine ⟨fun _ => hconsents, fun text htext => ?_⟩
    rw [refusalIn_of_consents hconsents] at htext
    cases htext
  unfold run
  split
  · rename_i hshows
    refine meets_bind ((awaitUser_overseen hshows).imp fun r own h hr => ?_)
    cases r with
    | ok => exact hperform hr own
    | error stop => exact hr
  · rename_i hshows
    exact hperform (.unasked stored (Bool.not_eq_true _ ▸ hshows)) own

/-- **A request acts with consent only**, and what turns it down is its answer. -/
theorem handleRequest_overseen :
    (overseer setup q).Meets anywhere (handleRequest setup q) (fun _ _ _ => True) {} [] := by
  have hend (outcome : Except Stop Response) (own : Holdings) (h : History) (hcomes : ComesTo setup q outcome h) :
      (overseer setup q).Meets anywhere (conclude setup q.id outcome >>= fun result => do
        Program.access (.unregister q.id)
        return result) (fun _ _ _ => True) own h :=
    meets_bind ((conclude_overseen hcomes own).imp fun _ _ _ _ =>
      meets_access fun _ _ => ⟨⟨nofun, nofun, nofun⟩, trivial⟩)
  refine meets_access fun _ _ => ⟨⟨nofun, nofun, nofun⟩, meets_access fun allowed _ => ⟨⟨nofun, nofun, nofun⟩, ?_⟩⟩
  cases allowed with
  | false => trivial
  | true =>
    refine meets_call ⟨trivial, ⟨nofun, nofun, nofun⟩, trivial, fun stored => ⟨⟨nofun, fun _ => ⟨rfl, nofun⟩, nofun⟩, ?_⟩⟩
    refine meets_access fun _ _ => ⟨⟨nofun, nofun, nofun⟩, ?_⟩
    refine meets_access fun gone _ => ⟨⟨nofun, fun _ => ⟨rfl, nofun⟩, nofun⟩, ?_⟩
    cases gone with
    | true =>
      exact hend cancelled {} _ (comesTo_of_refusal (h := [.answered .preferences stored])
        (e := .accessed (.isCancelled q.id) true) rfl rfl)
    | false =>
      refine meets_bind ((meets_watch (run_overseen stored {}) fun _ h hnone => ?_).imp
        fun outcome own h hcomes => hend outcome own h hcomes)
      exact ⟨⟨nofun, fun _ => ⟨hnone, nofun⟩, nofun⟩, comesTo_of_refusal (e := .stopped) rfl hnone⟩

/-! ## Turns and the id -/

namespace Account

/-- The one who keeps the account and sees to it that the turns of a request come while it has its id. -/
def holder (id : String) : Observer Account where
  after := after
  allows s e := e.turns = true → s.Holds id

variable {id : String} {own : Holdings} {s : Account}

theorem run_holds {r : Request} (policy : ConfirmationPolicy) (h : Tallies r.id false {} s) :
    (holder r.id).Meets (Tallies r.id false) (run setup r policy).run (fun _ _ _ => True) {} s := by
  have hafter : (holder r.id).after = keeper.after := rfl
  have hperform {own : Holdings} {s : Account} (h : Tallies r.id false own s)
      (hown : own.nonces = [] ∧ own.warmUse = none) :
      (holder r.id).Meets (Tallies r.id false) (perform setup r).run (fun _ _ _ => True) own s := by
    refine (Meets.transfer hafter (Only.mono (flows_perform setup r) (fun e he event hevent _ _ hturns => ?_)
      fun _ hr => hr) (perform_keeps h hown)).imp fun _ _ _ _ => trivial
    rw [(hevent.of_flows he).1] at hturns
    cases hturns
  have hasks (e : Effect) (he : [Topic.state, .surface].contains e.topic = true) :
      keeper.Carries (holder r.id) (·.Holds r.id) e := by
    intro event hevent s hs _
    have hmoves : movesTenure event = false := by
      cases hevent with
      | access a x => cases a <;> first | exact absurd he Bool.false_ne_true | rfl
      | watched => exact absurd he Bool.false_ne_true
      | _ => rfl
    exact ⟨fun _ => hs, ((s.after_sameTenure hmoves).holds r.id).2 hs⟩
  unfold run
  split
  · have hasked := (awaitUser_keeps h rfl policy).carry hafter
      (Only.mono (keepsTo_awaitUser r policy) hasks fun _ hr => hr) h.holds
    refine meets_bind (hasked.mono (fun _ _ h => h.1) fun outcome own s hr => ?_)
    cases outcome with
    | ok =>
      obtain ⟨⟨htallies, hnonces, hwarmUse⟩, -⟩ := hr
      exact hperform htallies ⟨hnonces, hwarmUse⟩
    | error stop => trivial
  · exact hperform h ⟨rfl, rfl⟩

theorem handleRequest_holds (r : Request) :
    (holder r.id).Meets anywhere (handleRequest setup r) (fun _ _ _ => True) {} {} := by
  have hend (outcome : Except Stop Response) (own : Holdings) (s : Account) :
      (holder r.id).Meets anywhere (conclude setup r.id outcome >>= fun result => do
        Program.access (.unregister r.id)
        return result) (fun _ _ _ => True) own s := by
    refine meets_of_allowed (R := anyResult) (Only.bind (R := anyResult) (Only.mono (conclude_concludes setup r.id outcome)
      (fun e he event hevent _ hturns => ?_) fun _ hr => hr) fun _ _ => ?_) own s
    · rw [(hevent.of_concludes he).2.1] at hturns
      cases hturns
    · refine Only.access (fun event hevent _ hturns => ?_) fun _ => trivial
      cases hevent
      cases hturns
  refine meets_access fun _ _ => ⟨nofun, meets_access fun allowed _ => ⟨nofun, ?_⟩⟩
  cases allowed with
  | false => trivial
  | true =>
    have hstart : Tallies r.id false {} { registered := [(r.id, true)] } := .start r.id
    refine meets_call ⟨trivial, nofun, trivial, fun stored => ⟨fun _ => hstart.holds, ?_⟩⟩
    refine meets_access fun _ _ => ⟨nofun, meets_access fun gone _ => ⟨fun _ => hstart.holds, ?_⟩⟩
    cases gone with
    | true => exact hend cancelled {} _
    | false =>
      exact meets_bind ((meets_watch (run_holds _ hstart) fun _ _ h => ⟨fun _ => h.holds, trivial⟩).imp
        fun outcome own s _ => hend outcome own s)

end Account

/-! ## Decisions are watched -/

/-- A decision is asked for only where a cancel of the request stops it. -/
def Effect.Watches (id : String) : Effect → Prop
  | .suspend (.call (.decision ..)) => False
  | .watched id' _ => id' = id
  | _ => True

theorem watch_watches {id : String} {stopped : α} {R : α → Prop} {p : Program α}
    (hp : p.Only (fun e => e.topic ≠ .watched) R) : (p.watch id stopped).Only (Effect.Watches id) anyResult := by
  induction p with
  | done a => exact trivial
  | step e next ih =>
    obtain ⟨he, hnext⟩ := hp
    cases e with
    | access a => exact ⟨trivial, fun x => ih x (hnext x)⟩
    | suspend u =>
      unfold Program.watch
      split
      · refine ⟨rfl, fun x => ?_⟩
        cases x with
        | none => exact trivial
        | some x => exact ih x (hnext x)
      · rename_i hu
        cases u with
        | call c => exact absurd rfl hu
        | wait w => exact ⟨trivial, fun x => ih x (hnext x)⟩
    | watched id' u => exact absurd rfl he

theorem handleRequest_watches (setup : Setup) (r : Request) :
    (handleRequest setup r).Only (Effect.Watches r.id) anyResult := by
  have hend (outcome : Except Stop Response) : (conclude setup r.id outcome >>= fun result => do
      Program.access (.unregister r.id)
      return result).Only (Effect.Watches r.id) anyResult := by
    refine Only.bind (R := anyResult) (Only.mono (conclude_concludes setup r.id outcome) (fun e he => ?_) fun _ hr => hr)
      fun _ _ => Only.access trivial fun _ => trivial
    cases e with
    | access a => exact trivial
    | watched => exact he.elim
    | suspend u =>
      cases u with
      | call c => cases c <;> first | exact trivial | exact he.elim
      | wait w => trivial
  refine Only.access trivial fun _ => Only.access trivial fun allowed => ?_
  cases allowed with
  | false => exact trivial
  | true =>
    refine Only.call trivial fun stored => Only.access trivial fun _ => Only.access trivial fun gone => ?_
    cases gone with
    | true => exact hend cancelled
    | false =>
      refine Only.bind (watch_watches (R := anyResult) (Only.mono (run_goesOn setup r _)
        (fun _ he => (Effect.isSilent_of_isOnward he).2) fun _ _ => trivial)) fun outcome _ => hend outcome

/-! ## Runs -/

/-- The turns of a task, in order. -/
def turnsOf (task : Nat) (ss : List (Step α)) : History := (historyOf task ss).filter Event.turns

theorem overseer_seen (h₁ h₂ : History) : (overseer setup q).seen h₁ h₂ = h₁ ++ h₂.filter Event.turns :=
  seen_filter (fun _ _ => rfl) h₁ h₂

theorem turnsOf_append (i : Nat) (ss₁ ss₂ : List (Step α)) :
    turnsOf i (ss₁ ++ ss₂) = turnsOf i ss₁ ++ turnsOf i ss₂ := by
  unfold turnsOf
  rw [historyOf_append, List.filter_append]

theorem turnsOf_cons {i : Nat} {st : Step α} {e : Event} (he : st.happening.event? i = some e) (hturns : e.turns = true)
    (ss : List (Step α)) : turnsOf i (st :: ss) = e :: turnsOf i ss := by
  unfold turnsOf
  rw [historyOf_cons_some he, List.filter_cons_of_pos hturns]

/-- The turns of a request that has consent are that consent. -/
theorem consentOf_of_consents {i : Nat} {ss : List (Step α)} (hconsents : Consents setup q (turnsOf i ss)) :
    consentOf i ss = turnsOf i ss := by
  have hconsent : ∀ e ∈ turnsOf i ss, e.isConsent = true := by
    generalize turnsOf i ss = h at hconsents
    cases hconsents <;> simp [decided, Event.isConsent]
  have hsame : consentOf i ss = (turnsOf i ss).filter Event.isConsent := by
    unfold consentOf turnsOf
    rw [List.filter_filter]
    refine List.filter_congr fun e _ => ?_
    unfold Event.turns
    cases e.isConsent <;> rfl
  rw [hsame, List.filter_eq_self.2 hconsent]

/-- The user of a request has been asked and has let it go on. -/
def Approved (task : Nat) (ss : List (Step α)) : Prop :=
  ∃ surface limit x, Event.answered (.decision surface limit) x ∈ historyOf task ss ∧ x ≠ some .cancel

/-- The policy of a request shows a surface, whatever it finds to be stored. -/
abbrev Shows (setup : Setup) (q : Request) (task : Nat) (ss : List (Step α)) : Prop :=
  ∀ stored, Event.answered .preferences stored ∈ historyOf task ss → (q.policyOver setup stored).showsUi = true

/-- The decision that lets a request go on is a turn. -/
theorem Approved.turn {i : Nat} {ss : List (Step α)} (h : Approved i ss) :
    (turnsOf i ss).any Event.isDecision = true := by
  obtain ⟨surface, limit, x, hmem, -⟩ := h
  exact List.any_eq_true.2 ⟨_, List.mem_filter.2 ⟨hmem, rfl⟩, rfl⟩

theorem Approved.append {i : Nat} {ss₁ : List (Step α)} (h : Approved i ss₁) (ss₂ : List (Step α)) :
    Approved i (ss₁ ++ ss₂) := by
  obtain ⟨surface, limit, x, hmem, hx⟩ := h
  exact ⟨surface, limit, x, by rw [historyOf_append]; exact List.mem_append_left _ hmem, hx⟩

theorem Shows.before {i : Nat} {ss₁ ss₂ : List (Step α)} (h : Shows setup q i (ss₁ ++ ss₂)) : Shows setup q i ss₁ :=
  fun stored hmem => h stored (by rw [historyOf_append]; exact List.mem_append_left _ hmem)

/-- A request that shows a surface has no consent without approval. -/
theorem Consents.approved {i : Nat} {ss : List (Step α)} (hconsents : Consents setup q (turnsOf i ss))
    (hshows : Shows setup q i ss) : Approved i ss := by
  have hturn (e : Event) (he : e ∈ turnsOf i ss) : e ∈ historyOf i ss := (List.mem_filter.1 he).1
  generalize turnsOf i ss = h at hconsents hturn
  cases hconsents with
  | unasked stored hskips =>
    have hshown := hshows stored (hturn _ (List.mem_singleton_self _))
    rw [hskips] at hshown
    cases hshown
  | asked stored _ surface x hx => exact ⟨surface, (q.policyOver setup stored).limit, x, hturn _ (by simp [decided]), hx⟩

/-- A refusal stays the first. -/
theorem refusalIn_append {i : Nat} {ss₁ : List (Step α)} {text : String} (h : refusalIn (turnsOf i ss₁) = some text)
    (ss₂ : List (Step α)) : refusalIn (turnsOf i (ss₁ ++ ss₂)) = some text := by
  unfold refusalIn at h ⊢
  rw [turnsOf_append, List.findSome?_append, h]
  rfl

/-- How a request stands that was turned down before it was approved, when its run has come so far: it has done nothing
for its operation, each message is that it was turned down, with its surface closed, and there is one when it has
returned. -/
structure TurnedBack (q : Request) (text : String) (i : Nat) (ss : List (Step (Except Error Unit)))
    (w' : Wallet (Except Error Unit)) : Prop where
  idle : ∀ e ∈ historyOf i ss, e.acts = false
  answer : ∀ ss₁ posting ss₂ m, ss = ss₁ ++ posting :: ss₂ → posting.happening = .called i (.post m) →
    m = (turnedDown q text).message ∧ (accountOf i ss₁).unmounted = (accountOf i ss₁).mounted
  once : ∀ x, w'.result? i = some x → (accountOf i ss).posted = [(turnedDown q text).message]

/-- What misses its PRF result has asked the authenticator. -/
theorem Event.acts_of_missesPrf {e : Event} (h : e.missesPrf = true) : e.acts = true := by
  unfold missesPrf at h
  split at h
  all_goals first | rfl | cases h

theorem Account.missesPrf_after {s : Account} {e : Event} (he : e.acts = false) :
    (s.after e).missesPrf = s.missesPrf := by
  have hnot : e.missesPrf = false := by
    cases hmisses : e.missesPrf with
    | false => rfl
    | true => rw [Event.acts_of_missesPrf hmisses] at he; cases he
  unfold after
  split
  all_goals first | rfl | (rw [hnot]; rfl)

/-- A request that has not acted has not missed its PRF result. -/
theorem missesPrf_of_idle {h : History} (hidle : ∀ e ∈ h, e.acts = false) {s : Account} :
    (Account.keeper.seen s h).missesPrf = s.missesPrf := by
  induction h generalizing s with
  | nil => rfl
  | cons e h ih =>
    rw [seen_cons, ih fun e he => hidle e (List.mem_cons_of_mem _ he)]
    exact Account.missesPrf_after (hidle e List.mem_cons_self)

section

variable {w w' : Wallet (Except Error Unit)} {ss ss₁ ss₂ : List (Step (Except Error Unit))}
  {st noticed cancelling : Step (Except Error Unit)} {i : Nat} {e : Event} {text : String}

theorem Run.overseen (run : Run w ss w') (hst : st ∈ ss) (hstart : st.move = .start (handleRequest setup q))
    (hi : st.before.tasks.length = i) (hss : ss = ss₁ ++ noticed :: ss₂)
    (he : noticed.happening.event? i = some e) : (overseer setup q).allows (turnsOf i ss₁) e := by
  have hallowed := run.allowed_since_start hst hstart hi handleRequest_overseen hss he
  rwa [overseer_seen, List.nil_append] at hallowed

/-- **A request that is not approved is turned back**: it has not acted, and what it was turned down with is all that it
can answer. -/
theorem turnedBack_of_unapproved (run : Run w ss w') (hst : st ∈ ss) (hstart : st.move = .start (handleRequest setup q))
    (hi : st.before.tasks.length = i) (hshows : Shows setup q i ss)
    (hregistered : (q.id, true) ∈ (accountOf i ss).registered) (hnot : ¬ Approved i ss)
    (htext : ∀ text', refusalIn (turnsOf i ss) = some text' → text' = text) : TurnedBack q text i ss w' := by
  have hunconsented {ss₁ ss₂ : List (Step (Except Error Unit))} (hss : ss = ss₁ ++ ss₂) :
      ¬ Consents setup q (turnsOf i ss₁) := by
    intro hconsents
    subst hss
    exact hnot ((hconsents.approved hshows.before).append ss₂)
  have hidle : ∀ e ∈ historyOf i ss, e.acts = false := by
    intro e hmem
    obtain ⟨h₁, h₂, hhistory⟩ := List.append_of_mem hmem
    obtain ⟨ss₁, acting, ss₂, hss, -, he, -⟩ := Run.step_of_event hhistory
    refine Bool.eq_false_iff.2 fun hacts => hunconsented hss ?_
    exact (run.overseen hst hstart hi hss he).1 hacts
  have hanswer (ss₁ posting ss₂ m) (hss : ss = ss₁ ++ posting :: ss₂)
      (hposting : posting.happening = .called i (.post m)) :
      m = (turnedDown q text).message ∧ (accountOf i ss₁).unmounted = (accountOf i ss₁).mounted := by
    have he : posting.happening.event? i = some (.called (.post m)) := Happening.event?_of_eq hposting
    have hmay : MayAnswer setup q (turnsOf i ss₁) m := (run.overseen hst hstart hi hss he).2.2 m rfl
    have hmayPost : (accountOf i ss₁).MayPost m :=
      run.allowed_since_start hst hstart hi (Account.handleRequest_meets q) hss he
    refine ⟨?_, hmayPost.closed⟩
    cases hrefusal : refusalIn (turnsOf i ss₁) with
    | none => exact absurd (hmay.consents hrefusal) (hunconsented hss)
    | some text' =>
      rw [hmay.refused text' hrefusal, htext text' (hss ▸ refusalIn_append hrefusal _)]
  refine ⟨hidle, hanswer, fun x hreturned => ?_⟩
  have hmisses : (accountOf i ss).missesPrf = false := missesPrf_of_idle hidle
  have houtcome : ∃ _ : Holdings, Account.Outcome q.id x (accountOf i ss) :=
    run.result_since_start hst hstart hi (Account.handleRequest_meets q) hreturned
  obtain ⟨_, houtcome⟩ := houtcome
  cases houtcome with
  | refused hrefused =>
    rw [hrefused] at hregistered
    cases List.mem_singleton.1 hregistered
  | broken _ hmissed =>
    rw [hmissed] at hmisses
    cases hmisses
  | answered _ _ r hposted =>
    have hmem : r.message ∈ (accountOf i ss).posted := hposted ▸ List.mem_singleton_self _
    obtain ⟨ss₁, posting, ss₂, hss, hposting⟩ := posting_of_posted hmem
    rw [hposted, (hanswer ss₁ posting ss₂ _ hss hposting).1]

/-- A request has its id when a turn of it comes. -/
theorem Run.holds_at_turn (run : Run w ss w') (hst : st ∈ ss) (hstart : st.move = .start (handleRequest setup q))
    (hi : st.before.tasks.length = i) (hss : ss = ss₁ ++ noticed :: ss₂)
    (he : noticed.happening.event? i = some e) (hturns : e.turns = true) : (accountOf i ss₁).Holds q.id :=
  run.allowed_since_start (o := Account.holder q.id) hst hstart hi (Account.handleRequest_holds q) hss he hturns

/-- A request is approved before a step, at it or after it. -/
theorem Approved.cut (h : Approved i (ss₁ ++ st :: ss₂)) :
    Approved i ss₁ ∨ (∃ surface limit x, st.happening = .answered i (.decision surface limit) x ∧ x ≠ some .cancel) ∨
      ∃ between deciding rest surface limit x, ss₂ = between ++ deciding :: rest ∧
        deciding.happening = .answered i (.decision surface limit) x := by
  obtain ⟨surface, limit, x, hmem, hx⟩ := h
  obtain ⟨deciding, hdeciding, he⟩ := List.mem_filterMap.1 hmem
  rcases List.mem_append.1 hdeciding with hbefore | hdeciding
  · exact .inl ⟨surface, limit, x, List.mem_filterMap.2 ⟨deciding, hbefore, he⟩, hx⟩
  · rcases List.mem_cons.1 hdeciding with rfl | hafter
    · exact .inr (.inl ⟨surface, limit, x, Happening.eq_of_event? he, hx⟩)
    · obtain ⟨between, rest, hss₂⟩ := List.append_of_mem hafter
      exact .inr (.inr ⟨between, deciding, rest, surface, limit, x, hss₂, Happening.eq_of_event? he⟩)

/-- **A refusal is final**: what turns a request down before it is approved turns it back. -/
theorem turnedBack_of_refusal (run : Run w ss w') (hst : st ∈ ss) (hstart : st.move = .start (handleRequest setup q))
    (hi : st.before.tasks.length = i) (hshows : Shows setup q i ss) (hss : ss = ss₁ ++ noticed :: ss₂)
    (he : noticed.happening.event? i = some e) (hrefusal : e.refusal? = some text) (hnot : ¬ Approved i ss₁) :
    TurnedBack q text i ss w' := by
  have hturns := Event.turns_of_refusal hrefusal
  have hheld := run.holds_at_turn hst hstart hi hss he hturns
  have hmay := (run.overseen hst hstart hi hss he).2.1 hturns
  have hrefused (rest : List (Step (Except Error Unit))) :
      refusalIn (turnsOf i (ss₁ ++ noticed :: rest)) = some text := by
    rw [turnsOf_append, turnsOf_cons he hturns]
    unfold refusalIn
    rw [List.findSome?_append, ← refusalIn, hmay.pending, List.findSome?_cons, hrefusal]
    rfl
  have hregistered : (q.id, true) ∈ (accountOf i ss).registered := hss ▸ registered_append hheld.registered _
  refine turnedBack_of_unapproved run hst hstart hi hshows hregistered (fun happroved => ?_) fun text' htext => ?_
  · rw [hss] at happroved
    rcases happroved.cut with hbefore | ⟨surface, limit, x, hnoticed, hx⟩ | ⟨between, deciding, rest, surface, limit, x,
      hss₂, hdeciding⟩
    · exact hnot hbefore
    · rw [Happening.eq_of_event? he] at hnoticed
      cases e with
      | answered c y =>
        cases hnoticed
        rcases x with _ | _ | _
        · cases hrefusal
        · cases hrefusal
        · exact hx rfl
      | _ => cases hnoticed
    · -- It would be decided on after it was turned down.
      have hlater : ss = (ss₁ ++ noticed :: between) ++ deciding :: rest := by rw [hss, hss₂]; simp
      have hdecided : deciding.happening.event? i = some (.answered (.decision surface limit) x) :=
        Happening.event?_of_eq hdeciding
      have hpending := ((run.overseen hst hstart hi hlater hdecided).2.1 rfl).pending
      rw [hrefused] at hpending
      cases hpending
  · rw [hss, hrefused] at htext
    exact (Option.some.inj htext).symm

/-- A decision is the first. -/
theorem not_approved_of_deciding {surface : UiHandle} {limit : Option Nat} {x : Option UiDecision} (run : Run w ss w')
    (hst : st ∈ ss) (hstart : st.move = .start (handleRequest setup q)) (hi : st.before.tasks.length = i)
    (hss : ss = ss₁ ++ noticed :: ss₂) (hnoticed : noticed.happening = .answered i (.decision surface limit) x) :
    ¬ Approved i ss₁ := by
  intro happroved
  have he : noticed.happening.event? i = some (.answered (.decision surface limit) x) := Happening.event?_of_eq hnoticed
  have hfirst := ((run.overseen hst hstart hi hss he).2.1 rfl).first rfl
  rw [happroved.turn] at hfirst
  cases hfirst

/-- A task that watches its request is not told a decision once the request is cancelled. -/
theorem not_cancelled_of_deciding {surface : UiHandle} {limit : Option Nat} {x : Option UiDecision} (run : Run w ss w')
    (hst : st ∈ ss) (hstart : st.move = .start (handleRequest setup q)) (hi : st.before.tasks.length = i)
    (hss : ss = ss₁ ++ noticed :: ss₂) (hnoticed : noticed.happening = .answered i (.decision surface limit) x)
    (hheeds : noticed.heeds = true) : noticed.before.host.isCancelled q.id = false := by
  have he : noticed.happening.event? i = some (.answered (.decision surface limit) x) := Happening.event?_of_eq hnoticed
  obtain ⟨t, ht, honly⟩ := run.only_since_start hst hstart hi (handleRequest_watches setup q) hss he
  refine Step.not_cancelled_of_heeds hheeds he rfl ht ?_
  subst hss
  rcases (Wallet.Goes.of_step? run.cut.2.1).task ht with ⟨hnone, -⟩ | ⟨_, t', hsome, hnotices, -⟩
  · rw [hnone] at he
    cases he
  · rw [hsome] at he
    cases he
    cases hnotices with
    | answer c y next own => exact honly.1.elim
    | answerWatched id c y next own => exact congrArg some honly.1

/-- **A cancel before the approval is final**, if cancels are heeded: there is no approval after it. -/
theorem not_approved_of_cancel (run : Run w ss w') (hempty : w.tasks = []) (hordinary : ∀ st ∈ ss, st.move.IsOrdinary)
    (hheeds : ∀ st ∈ ss, st.heeds = true) (hst : st ∈ ss) (hstart : st.move = .start (handleRequest setup q))
    (hi : st.before.tasks.length = i) (hss : ss = ss₁ ++ cancelling :: ss₂)
    (hcancel : cancelling.happening = .used (.cancel q.id) true) (hheld : (accountOf i ss₁).Holds q.id)
    (hnot : ¬ Approved i ss₁) : ¬ Approved i ss := by
  intro happroved
  rw [hss] at happroved
  rcases happroved.cut with hbefore | ⟨surface, limit, x, hdeciding, -⟩ | ⟨between, deciding, rest, surface, limit, x,
    hss₂, hdeciding⟩
  · exact hnot hbefore
  · rw [hcancel] at hdeciding
    cases hdeciding
  · have hlater : ss = (ss₁ ++ cancelling :: between) ++ deciding :: rest := by rw [hss, hss₂]; simp
    have hdecided : deciding.happening.event? i = some (.answered (.decision surface limit) x) :=
      Happening.event?_of_eq hdeciding
    have hheldLast := run.holds_at_turn hst hstart hi hlater hdecided rfl
    have hfree := not_cancelled_of_deciding run hst hstart hi hlater hdeciding
      (hheeds deciding (hlater ▸ List.mem_append_right _ List.mem_cons_self))
    subst hlater
    obtain ⟨untilDecision, -, -⟩ := run.cut
    obtain ⟨before, atCancel, after⟩ := untilDecision.cut
    have hgoes := Wallet.Goes.of_step? atCancel
    rw [hcancel] at hgoes
    have hsilent : accountOf i (ss₁ ++ [cancelling]) = accountOf i ss₁ := accountOf_snoc (by rw [hcancel]; rfl)
    rw [List.append_cons] at hheldLast
    have hcancelled := (before.snoc atCancel).stays_cancelled after hempty
      (fun st hst => hordinary st (List.mem_append_left _ (by rw [List.append_cons]; exact hst)))
      (hsilent.symm ▸ hheld) hheldLast hgoes.cancelled.1
    rw [hfree] at hcancelled
    cases hcancelled

/-- How a request acts that shows a surface. -/
structure ActsByApproval (setup : Setup) (q : Request) (w : Wallet (Except Error Unit)) (i : Nat)
    (ss : List (Step (Except Error Unit))) (w' : Wallet (Except Error Unit)) : Prop where
  /-- Before it does anything for its operation its surface is mounted, and a decision on it lets it go on; that is not
  made only if the request goes on by itself. -/
  approved : ∀ ss₁ acting ss₂ e, ss = ss₁ ++ acting :: ss₂ → acting.happening.event? i = some e → e.acts = true →
    ∃ stored surface x, consentOf i ss₁ = decided q stored (q.policyOver setup stored) surface x ∧
      (x = some .proceed ∨ x = none ∧ (q.policyOver setup stored).behavior = .autoProceed)
  /-- A decision against it turns it back. -/
  refused : ∀ surface limit, Event.answered (.decision surface limit) (some .cancel) ∈ historyOf i ss →
    TurnedBack q "User rejected the confirmation" i ss w'
  /-- So does what stops it before it is approved, -/
  stopped : ∀ ss₁ stopping ss₂ e text, ss = ss₁ ++ stopping :: ss₂ → stopping.happening.event? i = some e →
    e.refusal? = some text → ¬ Approved i ss₁ → TurnedBack q text i ss w'
  /-- and a cancel that is accepted before, in a run in which cancels are heeded. -/
  cancelled : w.tasks = [] → (∀ st ∈ ss, st.move.IsOrdinary) → (∀ st ∈ ss, st.heeds = true) →
    ∀ ss₁ cancelling ss₂, ss = ss₁ ++ cancelling :: ss₂ → cancelling.happening = .used (.cancel q.id) true →
      (accountOf i ss₁).Holds q.id → ¬ Approved i ss₁ → ∃ text, TurnedBack q text i ss w'

/-- A request that shows a surface acts with the approval of its user only. -/
theorem approval_of_acts (run : Run w ss w') (hst : st ∈ ss) (hstart : st.move = .start (handleRequest setup q))
    (hi : st.before.tasks.length = i) (hshows : Shows setup q i ss) (hdecides : ∀ st ∈ ss, st.move.decides = true)
    (hss : ss = ss₁ ++ noticed :: ss₂) (he : noticed.happening.event? i = some e) (hacts : e.acts = true) :
    ∃ stored surface x, consentOf i ss₁ = decided q stored (q.policyOver setup stored) surface x ∧
      (x = some .proceed ∨ x = none ∧ (q.policyOver setup stored).behavior = .autoProceed) := by
  have hconsents := (run.overseen hst hstart hi hss he).1 hacts
  rw [← consentOf_of_consents hconsents] at hconsents
  subst hss
  obtain ⟨stored, ⟨hskips, hconsent⟩ | ⟨-, surface, x, hconsent, hx⟩⟩ :=
    hconsents.decides run.cut.1 fun st hst => hdecides st (List.mem_append_left _ hst)
  · have hmem : Event.answered .preferences stored ∈ consentOf i ss₁ := hconsent ▸ List.mem_singleton_self _
    have hshown := hshows.before stored (List.mem_filter.1 hmem).1
    rw [ConfirmationPolicy.showsUi, hskips] at hshown
    cases hshown
  · exact ⟨stored, surface, x, hconsent, hx⟩

/-- **Nothing happens before approval** in a request that shows a surface, whatever it is for, whenever it is cancelled
and whatever else runs in the wallet; and what turns it down before that turns it down for good. -/
theorem handle_acts_by_approval {raw : Json} (run : Run w ss w') (hst : st ∈ ss)
    (hstart : st.move = .start (handle setup raw)) (hi : st.before.tasks.length = i) (hread : Request.read raw = .ok q)
    (hshows : Shows setup q i ss) (hdecides : ∀ st ∈ ss, st.move.decides = true) :
    ActsByApproval setup q w i ss w' := by
  rw [handle_of_read hread] at hstart
  refine ⟨?_, ?_, ?_, ?_⟩
  · exact fun ss₁ acting ss₂ e hss he hacts => approval_of_acts run hst hstart hi hshows hdecides hss he hacts
  · intro surface limit hmem
    obtain ⟨h₁, h₂, hhistory⟩ := List.append_of_mem hmem
    obtain ⟨ss₁, deciding, ss₂, hss, -, he, -⟩ := Run.step_of_event hhistory
    exact turnedBack_of_refusal run hst hstart hi hshows hss he rfl
      (not_approved_of_deciding run hst hstart hi hss (Happening.eq_of_event? he))
  · exact fun ss₁ stopping ss₂ e text hss he hrefusal hnot =>
      turnedBack_of_refusal run hst hstart hi hshows hss he hrefusal hnot
  · intro hempty hordinary hheeds ss₁ cancelling ss₂ hss hcancel hheld hnot
    have hregistered : (q.id, true) ∈ (accountOf i ss).registered := hss ▸ registered_append hheld.registered _
    have hunapproved :=
      not_approved_of_cancel run hempty hordinary hheeds hst hstart hi hss hcancel hheld hnot
    refine ⟨(refusalIn (turnsOf i ss)).getD "Confirmation was cancelled",
      turnedBack_of_unapproved run hst hstart hi hshows hregistered hunapproved fun text htext => ?_⟩
    rw [htext]
    rfl

end

/-! A registration inside another origin's page is clicked on, and another is cancelled while it waits for that. -/

theorem shows_clickedRequest (i : Nat) (ss : List (Step α)) : Shows embeddedSetup clickedRequest i ss := by
  intro stored _
  rw [policyOver_of_none rfl (.inl rfl) rfl]
  rfl

/-- A decision is told. -/
def Move.isDecision : Move α → Bool
  | .answer _ (.decision ..) _ => true
  | _ => false

theorem not_approved_of_moves {w w' : Wallet α} {ss : List (Step α)} {i : Nat} (run : Run w ss w')
    (h : ∀ st ∈ ss, ¬ st.move.isDecision = true) : ¬ Approved i ss := by
  rintro ⟨surface, limit, x, hmem, -⟩
  obtain ⟨st, hst, he⟩ := List.mem_filterMap.1 hmem
  have hgoes := run.goes hst
  rw [Happening.eq_of_event? he] at hgoes
  exact h st hst (by rw [hgoes.eq_answer_of_answered]; rfl)

def registerAsked : List (Move (Except Error Unit)) :=
  Move.start (handle embeddedSetup (registerEnvelope "r" "a")) ::
  (List.replicate 3 (Move.advance 0) ++ [Move.answer 0 .preferences { uiMode := .skip, behavior := .autoProceed }] ++
  List.replicate 4 (Move.advance 0) ++ [Move.answer 0 (.mount clickedRequest {}) ⟨7⟩] ++
  List.replicate 2 (Move.advance 0))

theorem handle_acts_by_approval_registrations :
    (∃ ss w', Run ⟨quietHost, []⟩ ss w' ∧ movesOf ss = registerClicked ∧ (∃ e ∈ historyOf 0 ss, e.acts = true) ∧
      ActsByApproval embeddedSetup clickedRequest ⟨quietHost, []⟩ 0 ss w') ∧
    ∃ ss w', Run ⟨quietHost, []⟩ ss w' ∧ movesOf ss = registerAsked ++ .outside (.cancel "r") :: giveUp ∧
      messagesOf 0 ss = [cancelledMessage] ∧ ∃ text, TurnedBack clickedRequest text 0 ss w' := by
  have hread : Request.read (registerEnvelope "r" "a") = .ok clickedRequest := by decide +kernel
  constructor
  · have htold : ((Wallet.mk quietHost []).trace? registerClicked).map
        (fun r => (historyOf 0 r.1).any Event.acts) = some true := by decide +kernel
    obtain ⟨⟨ss, w'⟩, htrace, hacts⟩ := Option.map_eq_some_iff.1 htold
    have run := Run.of_trace? htrace
    have hmoves : movesOf ss = registerClicked := Wallet.moves_of_trace? htrace
    have hdecides : ∀ st ∈ ss, st.move.decides = true :=
      forall_move hmoves (List.all_eq_true.1 (rfl : registerClicked.all Move.decides = true))
    cases run with
    | nil => cases hmoves
    | cons first rest =>
      exact ⟨_, w', .cons first rest, hmoves, List.any_eq_true.1 hacts,
        handle_acts_by_approval (.cons first rest) List.mem_cons_self (List.cons.inj hmoves).1 rfl hread
          (shows_clickedRequest 0 _) hdecides⟩
  · obtain ⟨ss₁, cancelling, ss₂, w', run, hmoves, hheeds, hmoves₁, hcancel, hholds, hsuspended, htold⟩ :=
      cancelled_run registerAsked giveUp (false, [], [cancelledMessage]) (by decide +kernel)
    have hmessages : messagesOf 0 ss₁ = [] ∧ messagesOf 0 (cancelling :: ss₂) = [cancelledMessage] := by
      simp only [Prod.mk.injEq] at htold
      exact htold.2
    have hbefore : ∀ m ∈ registerAsked, m.IsOrdinary :=
      List.forall_mem_cons.2 ⟨.inl ⟨embeddedSetup, registerEnvelope "r" "a", rfl⟩, .of_all rfl⟩
    have hafter : ∀ m ∈ Move.outside (.cancel "r") :: giveUp, m.IsOrdinary := List.forall_mem_cons.2 ⟨rfl, .of_all rfl⟩
    have hordinary : ∀ st ∈ ss₁ ++ cancelling :: ss₂, st.move.IsOrdinary :=
      forall_move hmoves (List.forall_mem_append.2 ⟨hbefore, hafter⟩)
    have hdecides : ∀ st ∈ ss₁ ++ cancelling :: ss₂, st.move.decides = true :=
      forall_move hmoves (List.all_eq_true.1
        (rfl : (registerAsked ++ .outside (.cancel "r") :: giveUp).all Move.decides = true))
    have hundecided : ∀ st ∈ ss₁, ¬ st.move.isDecision = true :=
      forall_move hmoves₁ (List.any_eq_false.1 (rfl : registerAsked.any Move.isDecision = false))
    have hnot : ¬ Approved 0 ss₁ := not_approved_of_moves run.cut.1 hundecided
    obtain ⟨st, rest, rfl, hstart, -⟩ := List.map_eq_cons_iff.1 hmoves₁
    have hcount : st.before.tasks.length = 0 := by
      cases run with
      | cons => rfl
    have acts := handle_acts_by_approval run (List.mem_append_left _ List.mem_cons_self) hstart hcount hread
      (shows_clickedRequest 0 _) hdecides
    refine ⟨_, w', run, hmoves, ?_, acts.cancelled rfl hordinary hheeds _ cancelling ss₂ rfl hcancel hholds hnot⟩
    rw [messagesOf, List.filterMap_append, ← messagesOf, ← messagesOf, hmessages.1, hmessages.2]
    rfl

end PasskeyConsent

import PasskeyConsent.Proofs.Concurrency.Composition
import PasskeyConsent.Proofs.Concurrency.Simulation
import PasskeyConsent.Proofs.Confirmation.Onward
import PasskeyConsent.Proofs.Confirmation.Rollback
/-!
# Whose message it is

A request posts only while it has its id, and under that id (`handleRequest_correlates`).  As an id is had by one
request at a time, no other request posts under it meanwhile; but the rejection of an envelope that cannot be read goes
out under whatever id the envelope seems to carry, and asks nobody whether that id is taken (`posts_under_id_iff`).
-/
namespace PasskeyConsent

open Observer Program Confirmation

/-! ## Requests -/

theorem Effect.IsSilent.not_yields_post {e : Effect} (h : e.IsSilent) (m : Json) :
    ¬ e.Yields (.called (.post m)) := by
  intro hyields
  cases hyields with
  | call => exact h.1 rfl
  | watched => exact h.2 rfl

namespace Account

variable {α : Type} {setup : Setup} {id : String} {own : Holdings} {s : Account}

/-- The one who keeps the account and sees to it that a request posts under its id, and only while it has it. -/
def correlator (id : String) : Observer Account where
  after := after
  allows
    | s, .called (.post m) => s.Holds id ∧ m.get? "requestId" = some (.str id)
    | _, _ => True

theorem correlator_allows (s : Account) {event : Event} (h : ∀ m, event ≠ .called (.post m)) :
    (correlator id).allows s event := by
  unfold correlator
  dsimp only
  split
  · exact absurd rfl (h _)
  · trivial

/-- What does not post is held by the correlator to whatever the keeper holds it to. -/
theorem correlates_of_silent {R : α → Prop} {p : Program α} {stop : Holdings → Account → Prop}
    {post : α → Holdings → Account → Prop} (hp : p.Only Effect.IsSilent R)
    (h : keeper.Meets stop p post own s) : (correlator id).Meets stop p post own s := by
  have hgrants : p.Only
      (fun e => ∀ event, e.Yields event → ∀ s, keeper.allows s event → (correlator id).allows s event) R :=
    Only.mono hp (fun e he event hevent s _ => correlator_allows s fun m hm =>
      he.not_yields_post m (hm ▸ hevent)) fun _ hr => hr
  exact Meets.transfer (o := keeper) (by rfl) hgrants h

theorem post_correlates {r : Response} (h : Present id s) (hid : r.requestId = id) :
    (correlator id).Meets anywhere (post r) (fun _ _ s' => Present id s') own s := by
  have hmessage : r.message.get? "requestId" = some (.str id) := by rw [Response.message_requestId, hid]
  have hpresent : Present id { s with posted := s.posted ++ [r.message] } := { h with }
  refine meets_call ⟨trivial, ⟨h.holds, hmessage⟩, trivial, fun x => ⟨trivial, ?_⟩⟩
  cases x with
  | ok => exact hpresent
  | error e => exact hpresent

theorem conclude_correlates {outcome : Except Stop Response} (h : Ends (Approves id) (Ended id) outcome own s) :
    (correlator id).Meets anywhere (conclude setup id outcome) (fun _ _ s' => Present id s') own s := by
  have hback {missed : Bool} {f : Unit → Program (Except Error Unit)} {own : Holdings} {s : Account}
      (htallies : Tallies id missed own s)
      (hf : ∀ own s, Present id s → (correlator id).Meets anywhere (f ()) (fun _ _ s' => Present id s') own s) :
      (correlator id).Meets anywhere (rollBack setup own >>= f) (fun _ _ s' => Present id s') own s :=
    meets_bind ((correlates_of_silent (silent_of_topics (keepsTo_rollBack setup own) (by decide))
      (rollBack_settles htallies)).imp fun _ own s hsettled => hf own s hsettled.1.toPresent)
  refine meets_conclude_of_parts (fun _ _ _ => ⟨trivial, rfl⟩) (fun _ _ => ⟨trivial, rfl⟩) ?approved ?declined ?fatal
  case approved =>
    rintro r rfl
    obtain ⟨hrunning, hid, -⟩ := h
    refine meets_bind ((correlates_of_silent (silent_of_topics (keepsTo_closeSurface own.surface) (by decide))
      (closeSurface_meets hrunning.returning own.surface)).imp ?_)
    rintro _ _ _ ⟨rfl, rfl⟩
    exact post_correlates hrunning.closed.toPresent hid
  case declined =>
    rintro code message rfl
    exact hback h fun own s hs => post_correlates hs rfl
  case fatal =>
    rintro e rfl
    exact hback (f := fun _ => return .error e) h.1 fun _ _ hs => hs

/-- **A request posts under its id**, and only while it has it. -/
theorem handleRequest_correlates (r : Request) :
    (correlator r.id).Meets anywhere (handleRequest setup r) (fun _ _ _ => True) {} {} := by
  have hrun (policy : ConfirmationPolicy) : (correlator r.id).Meets (Tallies r.id false) (run setup r policy).run
      (Ends (Approves r.id) (Ended r.id)) {} { registered := [(r.id, true)] } :=
    correlates_of_silent (Only.mono (run_goesOn setup r policy) (fun _ => Effect.isSilent_of_isOnward) fun _ hr => hr)
      (run_keeps (.start r.id) policy)
  refine meets_handleRequest (fun _ _ _ _ => ⟨trivial, rfl⟩) (fun _ => ⟨⟨trivial, rfl⟩, fun _ => ⟨trivial, rfl⟩⟩)
    (fun _ _ => ⟨trivial, rfl⟩) (fun _ => trivial) trivial hrun (fun _ _ h => ⟨trivial, h⟩)
    (Tallies.start r.id) fun outcome own s h => ?_
  exact (conclude_correlates h).imp fun _ _ _ _ => ⟨trivial, trivial⟩

end Account

/-! ## Envelopes that cannot be read -/

/-- The one who allows one message only. -/
def soleMessage (m : Json) : Observer Unit where
  after _ _ := ()
  allows
    | _, .called (.post m') => m' = m
    | _, _ => True

theorem post_soleMessage (r : Response) :
    (soleMessage r.message).Meets anywhere (post r) (fun _ _ _ => True) {} () := by
  refine meets_call ⟨trivial, rfl, trivial, fun x => ⟨trivial, ?_⟩⟩
  cases x with
  | ok => trivial
  | error e => trivial

/-! ## Runs -/

variable {setup : Setup} {raw : Json} {w w' : Wallet (Except Error Unit)}
  {ss ss₁ ss₂ : List (Step (Except Error Unit))} {st posting : Step (Except Error Unit)} {i : Nat} {id : String}
  {m : Json}

/-- **Who posts under an id that another request has**: nobody but the rejection of an envelope that cannot be read and
seems to carry that id, in every run of a wallet, beside any number of other envelopes. -/
theorem posts_under_id_iff (run : Run w ss w') (hempty : w.tasks = []) (hordinary : ∀ st ∈ ss, st.move.IsOrdinary)
    (hst : st ∈ ss) (hstart : st.move = .start (handle setup raw)) (hss : ss = ss₁ ++ posting :: ss₂)
    (hposting : posting.happening = .called st.before.tasks.length (.post m)) (hother : st.before.tasks.length ≠ i)
    (hholds : (accountOf i ss₁).Holds id) :
    m.get? "requestId" = some (.str id) ↔ ∃ e, Request.read raw = .error e ∧ Request.peekId raw = id := by
  generalize hj : st.before.tasks.length = j at hposting hother
  have hevent : posting.happening.event? j = some (.called (.post m)) := Happening.event?_of_eq hposting
  unfold handle at hstart
  cases hread : Request.read raw with
  | error e =>
    rw [hread] at hstart
    have hmessage : m = (rejection raw e).message :=
      run.allowed_since_start hst hstart hj (post_soleMessage (rejection raw e)) hss hevent
    rw [hmessage, Response.message_requestId]
    constructor
    · intro h
      exact ⟨e, rfl, Json.str.inj (Option.some.inj h)⟩
    · rintro ⟨-, -, h⟩
      exact congrArg (some ∘ Json.str) h
  | ok q =>
    rw [hread] at hstart
    constructor
    · intro hid
      obtain ⟨hheld, hown⟩ : (accountOf j ss₁).Holds q.id ∧ m.get? "requestId" = some (.str q.id) :=
        run.allowed_since_start hst hstart hj (Account.handleRequest_correlates q) hss hevent
      rw [hown] at hid
      cases hid
      subst hss
      have htenure : Tenure posting.before.host fun i => accountOf i ss₁ :=
        run.cut.1.tenure hempty fun st hst => hordinary st (List.mem_append_left _ hst)
      exact absurd (htenure.unique j i q.id hheld hholds) hother
    · rintro ⟨e, h, -⟩
      cases h

/-! An envelope of another version comes in under an id that runs. -/

def staleEnvelope : Json :=
  .obj [("payload", .obj [("nearAccountId", .str "a")]), ("requestId", .str "r"), ("schemaVersion", .int 1),
    ("type", .str "showPrivateKey")]

def staleMessage : Json := (rejection staleEnvelope (.schemaVersion 2 "1")).message

def intrude : List (Move (Except Error Unit)) :=
  [Move.start (handle quietSetup showEnvelope), Move.start (handle quietSetup staleEnvelope)] ++
  List.replicate 3 (Move.advance 0)

theorem intrusion : ∃ ss posting w' st, Run ⟨quietHost, []⟩ (ss ++ [posting]) w' ∧ movesOf ss = intrude ∧ st ∈ ss ∧
    st.move = .start (handle quietSetup staleEnvelope) ∧ st.before.tasks.length = 1 ∧ posting.move = .advance 1 ∧
    posting.happening = .called 1 (.post staleMessage) ∧ (accountOf 0 ss).Holds "r" := by
  have htold : ((Wallet.mk quietHost []).trace? intrude).bind (fun r => (r.2.step? (.advance 1)).map fun s =>
      ((accountOf 0 r.1).registered, (accountOf 0 r.1).unregistered, s.1.message? 1)) =
      some ([("r", true)], [], some staleMessage) := by decide +kernel
  obtain ⟨⟨ss, w₁⟩, htrace, htold⟩ := Option.bind_eq_some_iff.1 htold
  obtain ⟨⟨happening, w'⟩, last, htold⟩ := Option.map_eq_some_iff.1 htold
  simp only [Prod.mk.injEq] at htold
  obtain ⟨hregistered, hunregistered, hmessage⟩ := htold
  have hholds : (accountOf 0 ss).Holds "r" := by
    refine ⟨?_, ?_⟩
    · rw [hregistered]
      exact List.mem_singleton_self _
    · rw [hunregistered]
      exact List.not_mem_nil
  have hmoves : movesOf ss = intrude := Wallet.moves_of_trace? htrace
  have run := Run.of_trace? htrace
  obtain ⟨first, rest, rfl, hfirst, hrest⟩ := List.map_eq_cons_iff.1 hmoves
  obtain ⟨second, rest, rfl, hstarted, -⟩ := List.map_eq_cons_iff.1 hrest
  refine ⟨_, _, w', second, run.snoc last, hmoves, by simp, hstarted, ?_, rfl, Happening.eq_of_message? hmessage,
    hholds⟩
  cases run with
  | cons now run =>
    cases run with
    | cons _ _ =>
      cases hfirst
      cases now
      rfl

theorem posts_under_id_iff_intrude : ∃ ss posting w' st, Run ⟨quietHost, []⟩ (ss ++ [posting]) w' ∧
    movesOf ss = intrude ∧ st ∈ ss ∧ st.move = .start (handle quietSetup staleEnvelope) ∧ st.before.tasks.length = 1 ∧
    posting.happening = .called 1 (.post staleMessage) ∧ (accountOf 0 ss).Holds "r" ∧
    (staleMessage.get? "requestId" = some (.str "r") ↔
      ∃ e, Request.read staleEnvelope = .error e ∧ Request.peekId staleEnvelope = "r") := by
  obtain ⟨ss, posting, w', st, run, hmoves, hst, hstart, hcount, hmove, hposting, hholds⟩ := intrusion
  have hintrude : ∀ m ∈ intrude, m.IsOrdinary :=
    List.forall_mem_cons.2 ⟨.inl ⟨quietSetup, showEnvelope, rfl⟩,
      List.forall_mem_cons.2 ⟨.inl ⟨quietSetup, staleEnvelope, rfl⟩, .of_all rfl⟩⟩
  have hposted : posting.move.IsOrdinary := by
    rw [hmove]
    exact .of_isOfTask rfl
  have hordinary : ∀ st ∈ ss ++ [posting], st.move.IsOrdinary :=
    List.forall_mem_append.2 ⟨forall_move hmoves hintrude, List.forall_mem_singleton.2 hposted⟩
  exact ⟨ss, posting, w', st, run, hmoves, hst, hstart, hcount, hposting, hholds,
    posts_under_id_iff run rfl hordinary (List.mem_append_left _ hst) hstart rfl (hcount.symm ▸ hposting)
      (hcount.symm ▸ by decide) hholds⟩

/-- The rejection goes out under the id of the request that still runs. -/
theorem rejection_under_running_id : ∃ ss posting w', Run ⟨quietHost, []⟩ (ss ++ [posting]) w' ∧
    movesOf ss = intrude ∧ posting.happening = .called 1 (.post staleMessage) ∧ (accountOf 0 ss).Holds "r" ∧
    staleMessage.get? "requestId" = some (.str "r") := by
  obtain ⟨ss, posting, w', st, run, hmoves, -, -, -, -, hposting, hholds⟩ := intrusion
  exact ⟨ss, posting, w', run, hmoves, hposting, hholds, Response.message_requestId _⟩

end PasskeyConsent

import PasskeyConsent.Proofs.Concurrency.Composition
import PasskeyConsent.Proofs.Confirmation.Disclosure
import PasskeyConsent.Proofs.Confirmation.Onward
import PasskeyConsent.Proofs.Confirmation.Rollback
/-!
# What is given back when there is no answer

Whatever a finished request took is given back or it is kept, and which of the two is settled by its message alone
(`handle_settles`): all is given back unless a confirmation was handed to the sink, and then nothing is, also when the
sink refuses it.
-/
namespace PasskeyConsent

open Observer Program Confirmation

/-- The events by which something is given back. -/
def Event.givesBack : Event → Bool
  | .accessed (.release _) _ | .accessed (.restore _) _ | .called (.reclaim ..) => true
  | _ => false

theorem Effect.Yields.givesBack {e : Effect} {event : Event} (h : e.Yields event) (he : e.isOnward = true) :
    event.givesBack = false := by
  cases h with
  | access a x => cases a <;> first | rfl | cases he
  | call c => cases c <;> first | rfl | cases he
  | answer | wait | stop => rfl
  | watched => cases he

namespace Account

variable {setup : Setup} {id : String} {own : Holdings} {s : Account}

/-- Nothing was given back. -/
structure Withheld (s : Account) : Prop where
  released : s.released = []
  reclaimed : s.reclaimed = []
  restored : s.restored = []

/-- Every number that was reserved is released, and the use of a warm session that was taken is given back. -/
structure Returned (s : Account) : Prop where
  released : s.released = s.reserved
  reclaimed : s.reclaimed = s.consumed
  restored : s.restored = s.consumed.map (·.1.sessionId)

/-- The request has handed a confirmation to the sink. -/
def Confirmed (s : Account) : Prop := ∃ m ∈ s.posted, m.get? "confirmed" = some (.bool true)

theorem Withheld.after (h : s.Withheld) {event : Event} (hevent : event.givesBack = false) :
    (s.after event).Withheld := by
  unfold Account.after
  split
  all_goals first
    | cases hevent
      done
    | exact ⟨h.released, h.reclaimed, h.restored⟩
    | split <;> exact ⟨h.released, h.reclaimed, h.restored⟩

/-- How the account of a request stands when it is over. -/
def Settled (s : Account) : Prop := ¬ s.Confirmed ∧ s.GivenBack ∨ s.Confirmed ∧ s.Withheld

theorem Settled.returned_iff (h : s.Settled) : s.Returned ↔ ¬ s.Confirmed ∨ s.reserved = [] ∧ s.consumed = [] := by
  rcases h with ⟨hnot, hback⟩ | ⟨hconfirmed, hwithheld⟩
  · exact ⟨fun _ => .inl hnot, fun _ => ⟨hback.released, hback.reclaimed, hback.restored⟩⟩
  · constructor
    · intro hreturned
      refine .inr ⟨?_, ?_⟩
      · rw [← hreturned.released, hwithheld.released]
      · rw [← hreturned.reclaimed, hwithheld.reclaimed]
    · rintro (hnot | ⟨hreserved, hconsumed⟩)
      · exact absurd hconfirmed hnot
      · refine ⟨?_, ?_, ?_⟩
        · rw [hwithheld.released, hreserved]
        · rw [hwithheld.reclaimed, hconsumed]
        · rw [hwithheld.restored, hconsumed]
          rfl

theorem not_confirmed_of_posted_nil (h : s.posted = []) : ¬ s.Confirmed := by
  rintro ⟨m, hm, -⟩
  rw [h] at hm
  cases hm

/-! ## Requests -/

/-- Posting a decline leaves the account settled, and so does posting an approval for which nothing was given back. -/
theorem post_settles {r : Response} (h : Closed id false s)
    (hback : r.confirmed = true ∧ s.Withheld ∨ r.confirmed = false ∧ s.GivenBack) :
    keeper.Meets anywhere (post r) (fun _ _ s' => Present id s' ∧ s'.Settled) own s := by
  refine (post_posts h (hback.imp_left And.left)).imp ?_
  rintro _ _ _ ⟨-, rfl⟩
  refine ⟨{ h with }, ?_⟩
  have hmessage := Response.message_confirmed r
  rcases hback with ⟨hconfirmed, hwithheld⟩ | ⟨hdeclined, hback⟩
  · rw [hconfirmed] at hmessage
    exact .inr ⟨⟨_, List.mem_singleton_self _, hmessage⟩, { hwithheld with }⟩
  · refine .inl ⟨?_, { hback with }⟩
    rintro ⟨m, hm, hconfirmed⟩
    rw [List.mem_singleton.1 hm, hmessage, hdeclined] at hconfirmed
    cases hconfirmed

theorem conclude_settles {outcome : Except Stop Response}
    (h : Ends (fun r own s => Approves id r own s ∧ s.Withheld) (Ended id) outcome own s) :
    keeper.Meets anywhere (conclude setup id outcome) (fun _ _ s' => Present id s' ∧ s'.Settled) own s := by
  refine meets_conclude_of_parts (fun _ _ _ => ⟨trivial, rfl⟩) (fun _ _ => ⟨trivial, rfl⟩) ?approved ?declined ?fatal
  case approved =>
    rintro r rfl
    obtain ⟨⟨hrunning, -, hconfirmed⟩, hwithheld⟩ := h
    refine meets_bind ((closeSurface_meets hrunning.returning own.surface).imp ?_)
    rintro _ _ _ ⟨rfl, rfl⟩
    exact post_settles hrunning.closed (.inl ⟨hconfirmed, { hwithheld with }⟩)
  case declined =>
    rintro code message rfl
    exact meets_bind ((rollBack_settles h).imp fun _ _ _ hsettled =>
      post_settles hsettled.1 (.inr ⟨rfl, hsettled.2⟩))
  case fatal =>
    rintro e rfl
    exact meets_bind ((rollBack_settles h.1).imp fun _ _ _ hsettled =>
      ⟨hsettled.1.toPresent, .inl ⟨not_confirmed_of_posted_nil hsettled.1.posted, hsettled.2⟩⟩)

/-- An approving flow has given nothing back. -/
theorem run_withholds (r : Request) (policy : ConfirmationPolicy) :
    keeper.Meets (Tallies r.id false) (run setup r policy).run
      (Ends (fun r' own s => Approves r.id r' own s ∧ s.Withheld) (Ended r.id)) {}
      { registered := [(r.id, true)] } := by
  have hkept : (run setup r policy).run.Only
      (fun e => ∀ event, e.Yields event → ∀ s : Account, s.Withheld → (keeper.after s event).Withheld) anyResult :=
    Only.mono (run_goesOn setup r policy) (fun _ he _ hevent _ h => h.after (hevent.givesBack he)) fun _ _ => trivial
  have hnothing : Withheld { registered := [(r.id, true)] } := ⟨rfl, rfl, rfl⟩
  refine (Meets.keep hkept (run_keeps (.start r.id) policy) hnothing).mono (fun _ _ h => h.1) fun outcome _ _ h => ?_
  cases outcome with
  | ok r' => exact h
  | error e => exact h.1

theorem handleRequest_settles (r : Request) :
    keeper.Meets anywhere (handleRequest setup r) (fun _ _ s' => s'.Settled) {} {} := by
  refine meets_handleRequest (fun _ _ _ _ => ⟨trivial, rfl⟩) (fun _ => ⟨⟨trivial, rfl⟩, fun _ => ⟨trivial, rfl⟩⟩)
    (fun _ _ => ⟨trivial, rfl⟩) (fun _ => trivial) ?_ (run_withholds r) (fun _ _ h => ⟨trivial, h⟩)
    (Tallies.start r.id) fun outcome own s h => ?_
  · exact .inl ⟨not_confirmed_of_posted_nil rfl, rfl, .nil, rfl, rfl, Nat.zero_le 1, rfl, rfl⟩
  · refine (conclude_settles h).imp fun _ _ _ hr => ⟨⟨hr.1.holds, hr.1.attachments⟩, ?_⟩
    exact hr.2.imp (fun h => ⟨h.1, { h.2 with }⟩) fun h => ⟨h.1, { h.2 with }⟩

theorem mem_released_after {s : Account} {e : Event} {n : Nat} (h : n ∈ (s.after e).released) :
    n ∈ s.released ∨ e = .accessed (.release n) () := by
  unfold after at h
  split at h
  case h_4 =>
    rcases List.mem_append.1 h with h | h
    · exact .inl h
    · rw [List.mem_singleton.1 h]
      exact .inr rfl
  all_goals first | exact .inl h | (split at h <;> exact .inl h)

end Account

/-! ## Runs -/

theorem Wallet.Goes.release {α : Type} {w w' : Wallet α} {m : Move α} {i n : Nat}
    (g : w.Goes m (.accessed i (.release n) ()) w') : n ∉ w'.host.sequencer.reserved := by
  obtain ⟨task, own, -, hhost⟩ := g.exists_access rfl
  rw [← hhost]
  simp [Host.access, Sequencer.release]

variable {setup : Setup} {raw : Json} {w w' : Wallet (Except Error Unit)} {ss : List (Step (Except Error Unit))}
  {i : Nat} {x : Except Error Unit}

theorem Account.settles_handle (setup : Setup) (raw : Json) :
    keeper.Meets anywhere (handle setup raw) (fun _ _ s => s.Settled) {} {} := by
  unfold handle
  cases Request.read raw with
  | error e =>
    refine (rejection_posts raw e).imp fun _ _ s hs => .inl ⟨?_, ?_⟩ <;> subst hs
    · rintro ⟨m, hm, hconfirmed⟩
      rw [List.mem_singleton.1 hm, Response.message_confirmed] at hconfirmed
      cases hconfirmed
    · exact ⟨rfl, .nil, rfl, rfl, Nat.zero_le 1, rfl, rfl⟩
  | ok q => exact handleRequest_settles q

theorem handle_account_settled (run : Run w ss w') (started : w.tasks[i]? = some { program := handle setup raw })
    (returned : w'.result? i = some x) : (accountOf i ss).Settled := by
  obtain ⟨_, hsettled⟩ := run.result started (.of_meets (Account.settles_handle setup raw)) returned
  exact hsettled

/-- **A finished request has given back what it took just when it has not handed a confirmation to the sink**, whatever
it returned, an error of the sink among others, unless it took nothing; and each number that it released was free
then. -/
theorem handle_settles (run : Run w ss w') (started : w.tasks[i]? = some { program := handle setup raw })
    (returned : w'.result? i = some x) :
    ((accountOf i ss).Returned ↔
      ¬ (accountOf i ss).Confirmed ∨ (accountOf i ss).reserved = [] ∧ (accountOf i ss).consumed = []) ∧
    ∀ n ∈ (accountOf i ss).released, ∃ st ∈ ss, st.happening = .accessed i (.release n) () ∧
      n ∉ st.after.host.sequencer.reserved := by
  refine ⟨(handle_account_settled run started returned).returned_iff, fun n hn => ?_⟩
  obtain ⟨_, hevent, rfl⟩ := (mem_seen (fun _ _ _ => Account.mem_released_after) hn).resolve_left List.not_mem_nil
  obtain ⟨st, hst, he⟩ := List.mem_filterMap.1 hevent
  have hhappening := Happening.eq_of_event? he
  have hgoes := run.goes hst
  rw [hhappening] at hgoes
  exact ⟨st, hst, hhappening, hgoes.release⟩

/-! A use of a warm session is approved and the sink refuses the confirmation. -/

def warmHost : Host where
  sequencer := { key := some ⟨"a", "k"⟩, next := some 7 }
  turn := some ⟨⟨"k", 6, 7, 1, "h"⟩, 0⟩
  maxAge := 1000
  ledger := { limits := ⟨3, ⟨0⟩⟩, sessions := ({} : Table WarmSession).put "s" ⟨"a", 3, ⟨100, 0⟩⟩ }

def warmEnvelope : Json :=
  .obj [("payload", .obj [("nearAccountId", .str "a"), ("sessionId", .str "s"), ("signingAuthMode", .str "warmSession"),
      ("txSigningRequests", .arr [.obj [("receiverId", .str "b")]])]),
    ("requestId", .str "r"), ("schemaVersion", .int 2), ("type", .str "signTransaction")]

def warmWallet : Wallet (Except Error Unit) := ⟨warmHost, [{ program := handle quietSetup warmEnvelope }]⟩

def warmGrant : WarmSessionGrant := ⟨"s", 2, ⟨100, 0⟩⟩

def warmApproval : Response :=
  { Response.approved "r" with
    transactionContext := some ⟨"k", "6", "7", "1", "h", ["7"]⟩
    warmSession := some warmGrant }

def sinkGone : Except Error Unit := .error (.channel (.sendFailed "sink" "gone"))

def refuseApproval : List (Move (Except Error Unit)) :=
  List.replicate 3 (Move.advance 0) ++ [Move.answer 0 .preferences { uiMode := .skip }] ++
  List.replicate 8 (Move.advance 0) ++ [Move.answer 0 (.dispense warmGrant "a") (.ok ())] ++
  List.replicate 6 (Move.advance 0) ++
  [Move.answer 0 (.post warmApproval.message) (.error (.sendFailed "sink" "gone")), Move.advance 0]

theorem handle_settles_refuseApproval :
    ∃ ss w', Run warmWallet ss w' ∧ w'.result? 0 = some sinkGone ∧
      ((accountOf 0 ss).Returned ↔
        ¬ (accountOf 0 ss).Confirmed ∨ (accountOf 0 ss).reserved = [] ∧ (accountOf 0 ss).consumed = []) ∧
      ∀ n ∈ (accountOf 0 ss).released, ∃ st ∈ ss, st.happening = .accessed 0 (.release n) () ∧
        n ∉ st.after.host.sequencer.reserved := by
  have hmoves : (warmWallet.trace? refuseApproval).bind (·.2.result? 0) = some sinkGone := by decide +kernel
  obtain ⟨ss, w', run, -, returned⟩ := Run.of_moves hmoves
  exact ⟨ss, w', run, returned, handle_settles run rfl returned⟩

/-- The number stays reserved and the use stays taken, although the request has returned an error. -/
theorem refused_approval_withholds :
    ∃ ss w', Run warmWallet ss w' ∧ w'.result? 0 = some sinkGone ∧
      (accountOf 0 ss).reserved = [7] ∧ 7 ∈ w'.host.sequencer.reserved ∧
      (accountOf 0 ss).consumed = [(warmGrant, "a")] ∧ (accountOf 0 ss).reclaimed = [] ∧
      (accountOf 0 ss).restored = [] := by
  have hended : (warmWallet.trace? refuseApproval).map (fun r => (r.2.result? 0, r.2.host.sequencer.reserved)) =
      some (some sinkGone, [7]) := by decide +kernel
  have htook : (warmWallet.trace? refuseApproval).map (fun r =>
      ((accountOf 0 r.1).reserved, (accountOf 0 r.1).consumed, (accountOf 0 r.1).reclaimed, (accountOf 0 r.1).restored)) =
      some ([7], [(warmGrant, "a")], [], []) := by decide +kernel
  obtain ⟨⟨ss, w'⟩, htrace, hended⟩ := Option.map_eq_some_iff.1 hended
  rw [htrace] at htook
  simp only [Option.map_some, Option.some.injEq, Prod.mk.injEq] at hended htook
  obtain ⟨returned, hreserved⟩ := hended
  obtain ⟨htaken, hconsumed, hreclaimed, hrestored⟩ := htook
  have hleft : 7 ∈ w'.host.sequencer.reserved := by
    rw [hreserved]
    exact List.mem_singleton_self 7
  exact ⟨ss, w', .of_trace? htrace, returned, htaken, hleft, hconsumed, hreclaimed, hrestored⟩

end PasskeyConsent

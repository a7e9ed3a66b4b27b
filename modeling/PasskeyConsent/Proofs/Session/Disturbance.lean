import PasskeyConsent.Proofs.Concurrency.Composition
import PasskeyConsent.Proofs.Session.Restitution
/-!
# What other accounts can do to a session

A session is found by the account that it was granted to, and by no other.  Requests of other accounts sign under
session ids of their own choice: they grant, take and give back.  What an account finds is what it would find if they
had never been there (`Visited.finds_alone`), unless one of them has had the session granted to itself, or has given a
use back that it took before the session was the account's.  So two runs that differ in such requests only are alike to
the account (`sessions_found_alike`).
-/
namespace PasskeyConsent

open Observer Program Confirmation
open Ledger (Mark Deed Act marksOf lastGrantee?)

variable {α : Type} {id account : String}

/-! ## What an account finds -/

namespace Ledger

variable {l l' : Ledger} {now : Instant} {id' account' : String}

/-- The session that an account finds under an id. -/
def found (l : Ledger) (id account : String) : Option WarmSession := (l.sessions.get? id).filter (·.account = account)

theorem found_eq_some {s : WarmSession} :
    l.found id account = some s ↔ l.sessions.get? id = some s ∧ s.account = account := by
  simp [found, Option.filter_eq_some_iff]

theorem found_of_get? {entry : Option WarmSession} (h : l.sessions.get? id = entry) :
    l.found id account = entry.filter (·.account = account) := by rw [found, h]

/-- **What one who takes a use is answered** depends on what it finds. -/
theorem consume_of_found (l : Ledger) (now : Instant) (id account : String) :
    (l.consume now id account).1 =
      match l.found id account with
      | none => .error (.notFound id)
      | some s =>
        if s.isOver now then .error (.expired id)
        else if s.remainingUses = 0 then .error (.exhausted id)
        else .ok ⟨id, s.remainingUses - 1, s.expiresAt⟩ := by
  unfold consume found
  cases l.sessions.get? id with
  | none => rfl
  | some s =>
    by_cases hs : s.account = account
    · simp only [ne_eq, hs, not_true_eq_false, if_false, Option.filter_some, decide_true, if_true]
      split
      · rfl
      · split <;> rfl
    · simp only [ne_eq, hs, not_false_eq_true, if_true, Option.filter_some, decide_false, Bool.false_eq_true, if_false]

theorem found_of_consume {g : WarmSessionGrant} (h : (l.consume now id account).1 = .ok g) :
    ∃ s, l.found id account = some s := by
  rw [consume_of_found] at h
  cases hs : l.found id account with
  | none =>
    rw [hs] at h
    cases h
  | some s => exact ⟨s, rfl⟩

/-! What is found after each operation depends on what was found before. -/

theorem found_after_of_ne (l : Ledger) (now : Instant) {act : Act} {id' : String} (hact : act.session? = some id')
    (hne : id' ≠ id) : (l.after now act).found id account = l.found id account :=
  found_of_get? (get?_after_of_ne hact (Ne.symm hne))

theorem found_grant (l : Ledger) (now : Instant) (id' account' id account : String) :
    (l.after now (.grant id' account')).found id account =
      match now.addNanos? l.timeToLive with
      | none => l.found id account
      | some expiresAt =>
        if id' = id then (if account' = account then some ⟨account', l.limits.maxUses, expiresAt⟩ else none)
        else l.found id account := by
  by_cases hid : id' = id
  · subst hid
    show (((l.grant now id' account').map (·.2)).getD l).found id' account = _
    unfold grant
    cases now.addNanos? l.timeToLive with
    | none => rfl
    | some expiresAt =>
      dsimp only [Option.map_some, Option.getD_some]
      rw [found_of_get? (Table.get?_put_self ..), Option.filter_some, if_pos rfl]
      simp only [decide_eq_true_eq]
  · rw [found_after_of_ne l now rfl hid]
    cases now.addNanos? l.timeToLive with
    | none => rfl
    | some expiresAt => exact (if_neg hid).symm

theorem found_consume (l : Ledger) (now : Instant) (id' account' id account : String) :
    (l.after now (.consume id' account')).found id account =
      if id' = id ∧ account' = account then
        (l.found id account).bind fun s =>
          if s.isUsable now then some { s with remainingUses := s.remainingUses - 1 } else none
      else l.found id account := by
  by_cases hid : id' = id
  · subst hid
    show (l.consume now id' account').2.found id' account = _
    rcases consume_cases l now id' account' with ⟨heq, hother⟩ | ⟨s, hs, rfl, ⟨hu, e, heq⟩ | ⟨hu, heq⟩⟩ <;> rw [heq]
    · split
      · rename_i hsame
        rw [hsame.2] at hother
        have hnone : l.found id' account = none := by
          refine Option.eq_none_iff_forall_ne_some.2 fun s hs => ?_
          obtain ⟨hs, haccount⟩ := found_eq_some.1 hs
          exact hother s hs haccount
        rw [hnone]
        rfl
      · rfl
    · rw [found_of_get? (Table.get?_erase_self ..), found_of_get? hs, Option.filter_some]
      by_cases haccount : s.account = account <;> simp [haccount, hu]
    · rw [found_of_get? (Table.get?_put_self ..), found_of_get? hs, Option.filter_some, Option.filter_some]
      by_cases haccount : s.account = account <;> simp [haccount, hu]
  · rw [if_neg fun h => hid h.1]
    exact found_after_of_ne l now rfl hid

theorem found_restore (l : Ledger) (now : Instant) (id' id account : String) :
    (l.after now (.restore id')).found id account =
      if id' = id then
        (l.found id account).map fun s =>
          if s.isOver now then s
          else if s.remainingUses < l.limits.maxUses then { s with remainingUses := s.remainingUses + 1 }
          else { s with remainingUses := l.limits.maxUses }
      else l.found id account := by
  split
  · rename_i hid
    subst hid
    show (l.restore now id').2.found id' account = _
    rcases restore_cases l now id' with ⟨heq, hover⟩ | ⟨s, hs, hover, ⟨huses, heq⟩ | ⟨huses, heq⟩⟩ <;> rw [heq]
    · cases hs : l.found id' account with
      | none => rfl
      | some s => simp [hover s (found_eq_some.1 hs).1]
    · rw [found_of_get? (Table.get?_put_self ..), found_of_get? hs, Option.filter_some, Option.filter_some]
      by_cases haccount : s.account = account <;> simp [haccount, hover, huses]
    · rw [found_of_get? (Table.get?_put_self ..), found_of_get? hs, Option.filter_some, Option.filter_some]
      by_cases haccount : s.account = account <;> simp [haccount, hover, UInt32.not_lt.2 huses]
  · rename_i hid
    exact found_after_of_ne l now rfl hid

theorem found_revoke (l : Ledger) (now : Instant) (id' id account : String) :
    (l.after now (.revoke id')).found id account = if id' = id then none else l.found id account := by
  split
  · rename_i hid
    subst hid
    exact found_of_get? (l := l.after now (.revoke id')) (Table.get?_erase_self ..)
  · rename_i hid
    exact found_after_of_ne l now rfl hid

theorem found_purge (hl : l.IsSound) (now : Instant) (id account : String) :
    (l.after now .purge).found id account = (l.found id account).filter (·.isUsable now) := by
  have hget := Table.get?_keep hl (·.isUsable now) id
  rw [found_of_get? (l := l.after now .purge) hget, found]
  simp only [Option.filter_filter, Bool.and_comm]

/-- **Whoever finds the same finds the same after the same operation.** -/
theorem found_after_congr (hl : l.IsSound) (hl' : l'.IsSound) (hlimits : l.limits = l'.limits)
    (h : l.found id account = l'.found id account) (now : Instant) (act : Act) :
    (l.after now act).found id account = (l'.after now act).found id account := by
  cases act with
  | grant id' account' => simp only [found_grant, timeToLive, hlimits, h]
  | consume id' account' => simp only [found_consume, h]
  | restore id' => simp only [found_restore, hlimits, h]
  | status id' => exact h
  | revoke id' => simp only [found_revoke, h]
  | purge => simp only [found_purge hl, found_purge hl', h]

end Ledger
/-! ## What a request to sign a transaction does with sessions -/

/-- The account that an envelope asks to sign a transaction for. -/
def signer? (raw : Json) : Option String :=
  match Request.read raw with
  | .ok q =>
    match q.payload with
    | .signTransaction p => some p.account
    | _ => none
  | .error _ => none

/-- An operation of the ledger by one who has sessions granted to an account, takes uses of it and gives uses back. -/
def Ledger.Act.IsOf (account : String) : Act → Prop
  | .grant _ account' | .consume _ account' => account' = account
  | .restore _ => True
  | .status _ | .revoke _ | .purge => False

/-- The one who sees to it that whatever a task does with sessions it does for one account. -/
def visitor (account : String) : Observer Unit where
  after _ _ := ()
  allows
    | _, .accessed a _ => ∀ act, a.ledgerAct? = some act → act.IsOf account
    | _, _ => True

namespace Visit

theorem visitor_overlooks {e : Effect} (he : ∀ a, e = .access a → ∀ act, a.ledgerAct? = some act → act.IsOf account)
    (hwatched : e.topic ≠ .watched) : (visitor account).Overlooks e := by
  cases e with
  | access a => exact fun x _ => ⟨he a rfl, rfl⟩
  | suspend u =>
    cases u with
    | call c => exact fun _ => ⟨⟨trivial, rfl⟩, fun _ => ⟨trivial, rfl⟩⟩
    | wait w => exact fun _ _ => ⟨trivial, rfl⟩
  | watched => exact absurd rfl hwatched

/-- What has nothing to do with sessions. -/
abbrev otherTopics : List Topic :=
  [.clock, .key, .binding, .turn, .chain, .reservation, .release, .freshness, .ceremony, .handover, .registry,
   .cancellation, .state, .surface, .holdings, .preferences, .answer, .breakdown]

theorem visitor_overlooks_topics : (visitor account).OverlooksTopics otherTopics := by
  intro e he
  refine visitor_overlooks (fun a ha act hact => ?_) fun hwatched => ?_
  · subst ha
    cases a <;> first
      | exact absurd he Bool.false_ne_true
      | cases hact
  · rw [hwatched] at he
    exact absurd he Bool.false_ne_true

/-- A step deals with sessions for the account only, wherever it stops. -/
abbrev Brings {ε : Type} (account : String) (p : ExceptT ε Program α) : Prop :=
  (visitor account).Brings (fun _ => True) p (fun _ _ => True) ()

theorem after_topics {ε β : Type} {topics : List Topic} {F : ε → Prop} {p : ExceptT ε Program α}
    {f : α → ExceptT ε Program β} (hp : p.run.KeepsTo topics (Ends anyResult F)) (ht : topics ⊆ otherTopics)
    (hf : ∀ a, Brings account (f a)) : Brings account (p >>= f) :=
  Observer.Brings.after_topics (visitor_overlooks_topics.mono ht) hp trivial hf

variable {setup : Setup}

theorem grantSession_brings (id session account : String) : Brings account (Stage.grantSession id session account) := by
  refine fun own => meets_liftAccess fun x _ => ⟨fun act hact => ?_, ?_⟩
  · cases hact
    rfl
  · cases x with
    | some g => exact trivial
    | none => exact meets_liftAccess fun _ _ => ⟨nofun, fun _ => trivial, nofun⟩

theorem signWithCeremony_brings (id : String) (p : SignTransactionPayload) (count : Nat) :
    Brings p.account (signWithCeremony setup id p count) := by
  refine after_topics (keepsTo_turnContext _) (by decide) fun base => ?_
  refine after_topics (keepsTo_bootstrap _ _ _) (by decide) fun _ => ?_
  refine after_topics (keepsTo_bindFreshness _ _ _ _) (by decide) fun challenge => ?_
  refine after_topics (keepsTo_collectAssertion _ _ _ _) (by decide) fun collected => ?_
  refine after_topics (keepsTo_reserveNonces _ _) (by decide) fun nonces => ?_
  refine after_topics (keepsTo_deliverSeed _ _ _) (by decide) fun _ => ?_
  dsimp only
  split
  · exact Observer.Brings.done trivial
  · refine Observer.Brings.bind (P := fun _ _ => True) (fun own => ?_) fun _ _ _ => Observer.Brings.done trivial
    exact (grantSession_brings id _ p.account own).mapExcept fun _ _ _ _ => trivial

theorem signOnSession_brings (id : String) (p : SignTransactionPayload) (count : Nat) :
    Brings p.account (signOnSession id p count) := by
  refine after_topics (keepsTo_turnContext _) (by decide) fun base => ?_
  refine Observer.Brings.bind (P := fun _ _ => True) (Observer.Brings.orStop fun own x _ => ⟨fun act hact => ?_, ?_⟩)
    fun grant _ _ => ?_
  · cases hact
    rfl
  · cases x <;> exact trivial
  refine Observer.Brings.bind (P := fun _ _ => True) (Observer.Brings.orStop fun own => ?_) fun _ _ _ => ?_
  · refine ⟨trivial, trivial, trivial, fun x => ⟨trivial, ?_⟩⟩
    cases x <;> exact trivial
  refine after_topics (keepsTo_reserveNonces _ _) (by decide) fun nonces => ?_
  exact fun own => meets_liftAccess fun _ _ => ⟨nofun, trivial⟩

theorem run_brings {q : Request} {p : SignTransactionPayload} (hp : q.payload = .signTransaction p)
    (policy : ConfirmationPolicy) : Brings p.account (Confirmation.run setup q policy) := by
  have hperform : Brings p.account (perform setup q) := by
    unfold perform
    rw [hp]
    dsimp only
    split
    · exact signWithCeremony_brings _ _ _
    · exact signOnSession_brings _ _ _
  unfold Confirmation.run
  split
  · exact after_topics (keepsTo_awaitUser _ _) (by decide) fun _ => hperform
  · exact hperform

theorem rollBack_meets (held own : Holdings) (s : Unit) :
    (visitor account).Meets anywhere (rollBack setup held) (fun _ _ s' => s' = s) own s := by
  have hback : (rollBack setup held).Only (visitor account).Overlooks anyResult := by
    refine only_rollBack (fun _ => ?_) (fun _ _ => ?_) (fun _ => ?_) (fun _ => ?_) (fun _ => ?_) setup held <;>
    · refine visitor_overlooks (fun a ha act hact => ?_) nofun
      cases ha <;> cases hact <;> exact trivial
  exact meets_of_overlooked hback (fun _ => trivial) fun _ _ _ => rfl

/-- **A request to sign a transaction deals with sessions for its own account only**, wherever it is stopped. -/
theorem handle_meets (setup : Setup) {raw : Json} (h : signer? raw = some account) :
    (visitor account).Meets anywhere (handle setup raw) (fun _ _ _ => True) {} () := by
  unfold signer? at h
  split at h
  · rename_i q hread
    split at h
    · rename_i p hp
      cases h
      rw [handle_of_read hread]
      have hpost (r : Response) (own : Holdings) :
          (visitor p.account).Meets anywhere (post r) (fun _ _ _ => True) own () :=
        meets_of_overlooked_topics (visitor_overlooks_topics.mono (by decide)) (keepsTo_post r) (fun _ => trivial)
          fun _ _ _ => trivial
      have hrun (policy : ConfirmationPolicy) : (visitor p.account).Meets anywhere (Confirmation.run setup q policy).run
          (fun _ _ _ => True) {} () := (run_brings hp policy {}).imp fun _ _ _ _ => trivial
      refine meets_handleRequest (fun state _ => visitor_overlooks_topics _ rfl) (visitor_overlooks_topics _ rfl)
        (visitor_overlooks_topics _ rfl) (fun _ => nofun) trivial hrun (fun _ _ _ => ⟨trivial, trivial⟩) trivial
        fun outcome own _ _ => ?_
      refine meets_conclude_of_rollBack (visitor_overlooks_topics.mono (by decide))
        (rollBack_meets own own _) (fun r _ own => ?_) (fun code message _ own => ?_) fun e _ own => ?_
      · exact (hpost r own).imp fun _ _ _ _ => ⟨nofun, trivial⟩
      · exact (hpost _ own).imp fun _ _ _ _ => ⟨nofun, trivial⟩
      · exact ⟨nofun, trivial⟩
    · cases h
  · cases h

end Visit

/-! ## What a guest can do to what is found -/

namespace Ledger

variable {l : Ledger} {now : Instant} {guest : String}

theorem mark?_grant {expiresAt : Instant} (h : now.addNanos? l.timeToLive = some expiresAt) :
    Deed.mark? id ⟨l, now, .grant id account⟩ = some (.granted account) := by
  refine if_pos ⟨rfl, ?_⟩
  unfold grant
  rw [h]
  rfl

theorem mark?_restore {s : WarmSession} (hs : l.sessions.get? id = some s) (hover : s.isOver now = false)
    (huses : s.remainingUses < l.limits.maxUses) : Deed.mark? id ⟨l, now, .restore id⟩ = some .raised := by
  refine if_pos ⟨rfl, ?_⟩
  show l.usesLeft id < (l.restore now id).2.usesLeft id
  rcases restore_cases l now id with ⟨-, hall⟩ | ⟨t, ht, -, ⟨-, heq⟩ | ⟨hle, -⟩⟩
  · rw [hall s hs] at hover
    cases hover
  · rw [hs] at ht
    cases ht
    rw [heq, usesLeft, usesLeft, hs, Table.get?_put_self]
    show s.remainingUses.toNat < (s.remainingUses + 1).toNat
    rw [toNat_succ huses]
    exact Nat.lt_succ_self _
  · rw [hs] at ht
    cases ht
    exact absurd huses (UInt32.not_lt.2 hle)

/-- **Another account changes what is found in two ways only**: a session that is there is granted anew, or has one use
more. -/
theorem found_after_guest {act : Act} (hact : act.IsOf guest) (hguest : guest ≠ account)
    (hbounded : ∀ s, l.sessions.get? id = some s → s.remainingUses ≤ l.limits.maxUses) :
    (l.after now act).found id account = l.found id account ∨
    (∃ s, l.found id account = some s) ∧
      (Deed.mark? id ⟨l, now, act⟩ = some (.granted guest) ∨ Deed.mark? id ⟨l, now, act⟩ = some .raised) := by
  cases act with
  | grant id' account' =>
    cases hact
    rw [found_grant]
    cases hend : now.addNanos? l.timeToLive with
    | none => exact .inl rfl
    | some expiresAt =>
      dsimp only
      split
      · rename_i hid
        subst hid
        cases l.found id' account with
        | none => exact .inl rfl
        | some s => exact .inr ⟨⟨s, rfl⟩, .inl (mark?_grant hend)⟩
      · exact .inl rfl
  | consume id' account' =>
    cases hact
    rw [found_consume, if_neg fun h => hguest h.2]
    exact .inl rfl
  | restore id' =>
    rw [found_restore]
    split
    · rename_i hid
      subst hid
      cases hs : l.found id' account with
      | none => exact .inl rfl
      | some s =>
        have hget := (found_eq_some.1 hs).1
        rw [Option.map_some]
        split
        · exact .inl rfl
        · rename_i hover
          split
          · rename_i huses
            exact .inr ⟨⟨s, rfl⟩, .inr (mark?_restore hget (Bool.eq_false_iff.2 hover) huses)⟩
          · rename_i huses
            rw [← UInt32.le_antisymm (hbounded s hget) (UInt32.not_lt.1 huses)]
            exact .inl rfl
    · exact .inl rfl
  | status | revoke | purge => exact hact.elim

theorem grant_of_mark? {act : Act} (h : Deed.mark? id ⟨l, now, act⟩ = some (.granted account)) :
    act = .grant id account ∧ ∃ expiresAt, now.addNanos? l.timeToLive = some expiresAt := by
  unfold Deed.mark? at h
  split at h
  · rename_i id' account' hact
    obtain rfl : act = .grant id' account' := hact
    split at h
    · rename_i hgrant
      obtain ⟨rfl, hsome⟩ := hgrant
      cases h
      refine ⟨rfl, Option.isSome_iff_exists.1 ?_⟩
      rw [← Option.isSome_map]
      exact hsome
    · cases h
  · split at h <;> cases h
  · split at h <;> cases h
  all_goals cases h

/-- A grant to the account is found, whatever there was before. -/
theorem found_after_granted {l' : Ledger} {act : Act} (hlimits : l.limits = l'.limits)
    (h : Deed.mark? id ⟨l, now, act⟩ = some (.granted account)) :
    (l.after now act).found id account = (l'.after now act).found id account := by
  obtain ⟨rfl, expiresAt, hend⟩ := grant_of_mark? h
  have hsame : l'.timeToLive = l.timeToLive := by simp only [timeToLive, hlimits]
  simp only [found_grant, hsame, hend, hlimits, if_true]

/-- One who was granted a session that was another's was granted it since. -/
theorem granted_since {ms ms' : List Mark} (h : lastGrantee? ms = some guest)
    (h' : lastGrantee? (ms ++ ms') = some account) (hguest : guest ≠ account) : .granted account ∈ ms' := by
  unfold lastGrantee? at h h'
  rw [List.filterMap_append, List.getLast?_append, h] at h'
  cases hlast : (ms'.filterMap Mark.grantee?).getLast? with
  | none =>
    rw [hlast] at h'
    exact absurd (Option.some.inj h') hguest
  | some last =>
    rw [hlast] at h'
    cases h'
    obtain ⟨m, hm, hgrantee⟩ := List.mem_filterMap.1 (List.mem_of_getLast? hlast)
    cases m with
    | granted account =>
      cases hgrantee
      exact hm
    | consumed | raised => cases hgrantee

/-! ## A ledger without the others -/

/-- The ledger after these operations, each at its reading of the clock. -/
def replay (l : Ledger) (work : List (Instant × Act)) : Ledger := work.foldl (fun l done => l.after done.1 done.2) l

theorem replay_snoc (l : Ledger) (work : List (Instant × Act)) (now : Instant) (act : Act) :
    l.replay (work ++ [(now, act)]) = (l.replay work).after now act := List.foldl_append

theorem replay_kept (work : List (Instant × Act)) (hl : l.IsSound) :
    (l.replay work).IsSound ∧ (l.replay work).limits = l.limits := by
  induction work generalizing l with
  | nil => exact ⟨hl, rfl⟩
  | cons done work ih =>
    obtain ⟨hsound, hlimits⟩ := ih (l := l.after done.1 done.2) (Deed.after_isSound (d := ⟨l, done.1, done.2⟩) hl)
    exact ⟨hsound, hlimits.trans (Deed.after_limits ⟨l, done.1, done.2⟩)⟩

end Ledger

/-! ## Beside the requests of others -/

/-- One of these tasks makes the step's access. -/
def Step.isOf (others : List Nat) (st : Step α) : Bool := st.client?.any others.contains

/-- What everyone but these tasks does to the ledger, with the reading of the clock at each operation. -/
def workBut (others : List Nat) (ss : List (Step α)) : List (Instant × Act) :=
  ss.filterMap fun st => if st.isOf others then none else st.deed?.map fun d => (d.now, d.act)

theorem workBut_snoc_none {others : List Nat} {st : Step α} (h : st.deed? = none) (ss : List (Step α)) :
    workBut others (ss ++ [st]) = workBut others ss := by
  unfold workBut
  rw [filterMap_snoc, h, Option.map_none, ite_self]
  exact List.append_nil _

theorem workBut_snoc_other {others : List Nat} {st : Step α} (h : st.isOf others = true) (ss : List (Step α)) :
    workBut others (ss ++ [st]) = workBut others ss := by
  unfold workBut
  rw [filterMap_snoc, h]
  exact List.append_nil _

theorem workBut_snoc_own {others : List Nat} {st : Step α} (h : st.isOf others = false) {d : Deed}
    (hd : st.deed? = some d) (ss : List (Step α)) :
    workBut others (ss ++ [st]) = workBut others ss ++ [(d.now, d.act)] := by
  unfold workBut
  rw [filterMap_snoc, h, hd]
  rfl

/-- The task gives back a use of the session that it took before the session was granted to the account. -/
def TookBefore (id account : String) (i : Nat) (done : List (Step α)) : Prop :=
  ∃ pre taking between, done = pre ++ taking :: between ∧ taking.client? = some i ∧
    taking.mark? id = some .consumed ∧ ∃ granting ∈ between, granting.mark? id = some (.granted account)

/-- **How one of the others disturbs** a session that the account finds: it has the session granted to another account,
or it gives back a use that it took before the session was the account's. -/
structure Step.Intrudes (id account : String) (others : List Nat) (done : List (Step α)) (st : Step α) : Prop where
  found : ∃ s, st.before.host.ledger.found id account = some s
  does : ∃ i ∈ others, st.client? = some i ∧
    ((∃ guest, guest ≠ account ∧ st.mark? id = some (.granted guest)) ∨
      st.mark? id = some .raised ∧ TookBefore id account i done)

/-- The session was disturbed since it was last granted to the account. -/
def Disturbed (id account : String) (others : List Nat) (ss : List (Step α)) : Prop :=
  ∃ done st later, ss = done ++ st :: later ∧ st.Intrudes id account others done ∧
    ∀ st' ∈ later, st'.mark? id ≠ some (.granted account)

theorem Step.Intrudes.disturbed {others : List Nat} {done : List (Step α)} {st : Step α}
    (h : st.Intrudes id account others done) : Disturbed id account others (done ++ [st]) :=
  ⟨done, st, [], rfl, h, fun _ hst => absurd hst List.not_mem_nil⟩

theorem Disturbed.snoc {others : List Nat} {ss : List (Step α)} (h : Disturbed id account others ss) {st : Step α}
    (hst : st.mark? id ≠ some (.granted account)) : Disturbed id account others (ss ++ [st]) := by
  obtain ⟨done, disturbing, later, rfl, hdisturbs, hlater⟩ := h
  refine ⟨done, disturbing, later ++ [st], by rw [List.append_assoc, List.cons_append], hdisturbs, ?_⟩
  exact List.forall_mem_append.2 ⟨hlater, fun st' hst' => List.mem_singleton.1 hst' ▸ hst⟩

/-- A run from a ledger without sessions, in which each of these tasks handles a request of another account to sign a
transaction. -/
structure Visited (limits : SessionLimits) (account : String) (others : List Nat) (w : Wallet (Except Error Unit))
    (ss : List (Step (Except Error Unit))) (w' : Wallet (Except Error Unit)) : Prop where
  run : Run w ss w'
  empty : w.tasks = []
  fresh : w.host.ledger = ⟨limits, {}⟩
  starts : StartsOrdinary ss
  visits : ∀ i ∈ others, ∃ st ∈ ss, st.before.tasks.length = i ∧
    ∃ setup raw guest, st.move = .start (handle setup raw) ∧ signer? raw = some guest ∧ guest ≠ account

namespace Visited

variable {limits : SessionLimits} {others : List Nat} {w w' : Wallet (Except Error Unit)}
  {ss done rest : List (Step (Except Error Unit))} {st : Step (Except Error Unit)} {i : Nat}

theorem isSound (h : Visited limits account others w ss w') : w.host.ledger.IsSound := by
  rw [h.fresh]
  exact List.nodup_nil

/-- Whatever one of the others does with sessions is done for its own account. -/
theorem guest (h : Visited limits account others w ss w') (hi : i ∈ others) :
    ∃ guest, guest ≠ account ∧ ∀ {done st rest act}, ss = done ++ st :: rest → st.client? = some i →
      st.happening.use?.bind (·.access.ledgerAct?) = some act → act.IsOf guest := by
  obtain ⟨starting, hstarting, hlength, setup, raw, guest, hstart, hsigner, hguest⟩ := h.visits i hi
  refine ⟨guest, hguest, fun {done st rest act} hss hclient hact => ?_⟩
  unfold Step.client? at hclient
  split at hclient
  · rename_i j a x hst
    cases hclient
    rw [hst] at hact
    exact h.run.allowed_since_start hstarting hstart hlength (Visit.handle_meets setup hsigner) hss
      (Happening.event?_of_eq (e := .accessed a x) hst) act hact
  · cases hclient

/-- The account that finds a session is the one that it was last granted to. -/
theorem last_grantee (h : Visited limits account others w ss w') (hss : ss = done ++ st :: rest) {finder : String}
    (hfound : ∃ s, st.before.host.ledger.found id finder = some s) :
    lastGrantee? (done.filterMap (·.mark? id)) = some finder := by
  have run := h.run
  subst hss
  have hbalanced : Ledger.Balanced w.host.ledger.limits.maxUses.toNat ([] ++ marksOf id (done.filterMap Step.deed?))
      (st.before.host.ledger.sessions.get? id) :=
    run.cut.1.served.balanced h.isSound (by rw [h.fresh]; exact .nil _)
  rw [List.nil_append, marksOf_deeds] at hbalanced
  obtain ⟨s, hs⟩ := hfound
  obtain ⟨hentry, rfl⟩ := Ledger.found_eq_some.1 hs
  exact (hbalanced.entry s hentry).1

/-- **One that raises the uses that are left** gives back a use that it took before. -/
theorem took_before (h : Visited limits account others w ss w') (hss : ss = done ++ st :: rest) (hi : i ∈ others)
    (hclient : st.client? = some i) (hraised : st.mark? id = some .raised)
    (hfound : ∃ s, st.before.host.ledger.found id account = some s) : TookBefore id account i done := by
  obtain ⟨guest, hguest, hof⟩ := h.guest hi
  obtain ⟨x, hx⟩ := st.happening_of_raised hclient (beq_iff_eq.2 hraised)
  obtain ⟨-, -, htook⟩ := h.run.bursar_allows h.empty h.starts hss
    (Happening.event?_of_eq (e := .accessed (.restore id) x) hx)
  obtain ⟨⟨g, taker⟩, hconsumed, hid⟩ := List.map_eq_singleton_iff.1 htook
  rw [accountOf_consumed, historyOf, List.filterMap_filterMap, ← List.nil_append [(g, taker)]] at hconsumed
  obtain ⟨pre, taking, between, rfl, -, htaken, -⟩ := exists_of_filterMap_eq hconsumed
  obtain ⟨session, htaking⟩ := Step.happening_of_taken htaken
  have hpart : ss = pre ++ taking :: (between ++ st :: rest) := by rw [hss, List.append_assoc, List.cons_append]
  have hgoes := h.run.goes (hpart ▸ List.mem_append_right _ List.mem_cons_self)
  obtain ⟨hsession, htaker, hmark, -⟩ := Step.taken hgoes htaking
  obtain rfl : session = id := hsession.symm.trans hid
  have htake : Act.IsOf guest (.consume session taker) := hof hpart htaker (by rw [htaking]; rfl)
  obtain rfl : taker = guest := htake
  refine ⟨pre, taking, between, rfl, htaker, hmark, ?_⟩
  -- The session was the guest's when the use was taken, so it has been granted to the account since.
  have hbefore := h.last_grantee hpart (Ledger.found_of_consume (htaking ▸ hgoes).consume)
  have hafter := h.last_grantee hss hfound
  rw [List.filterMap_append] at hafter
  obtain ⟨granting, hgranting, hgrant⟩ := List.mem_filterMap.1 (Ledger.granted_since hbefore hafter hguest)
  refine ⟨granting, (List.mem_cons.1 hgranting).resolve_left fun heq => ?_, hgrant⟩
  rw [heq, hmark] at hgrant
  cases hgrant

/-- No session has more uses left than a new one. -/
theorem bounded (h : Visited limits account others w ss w') (hss : ss = done ++ st :: rest) (id : String) :
    ∀ s, st.before.host.ledger.sessions.get? id = some s →
      s.remainingUses ≤ st.before.host.ledger.limits.maxUses := by
  have run := h.run
  subst hss
  have hserved := run.cut.1.served
  rw [h.fresh] at hserved
  rw [hserved.limits_eq]
  exact hserved.accounts.bounded id

/-- What the account finds is what it would find if the others had not been there, or it was disturbed. -/
abbrev FindsAlone (limits : SessionLimits) (id account : String) (others : List Nat) (ss : List (Step α)) (l : Ledger) :
    Prop :=
  l.found id account = (Ledger.replay ⟨limits, {}⟩ (workBut others ss)).found id account ∨
    Disturbed id account others ss

/-- What everyone else does comes to the same without the others. -/
theorem finds_after_own (h : Visited limits account others w ss w') (hss : ss = done ++ st :: rest) {act : Act}
    (hdeed : st.deed? = some ⟨st.before.host.ledger, st.before.host.wallClock, act⟩) (hown : st.isOf others = false)
    (hthere : FindsAlone limits id account others done st.before.host.ledger) :
    FindsAlone limits id account others (done ++ [st])
      (st.before.host.ledger.after st.before.host.wallClock act) := by
  have hempty : Ledger.IsSound ⟨limits, {}⟩ := List.nodup_nil
  obtain ⟨hsound', hlimits'⟩ := Ledger.replay_kept (workBut others done) hempty
  have run := h.run
  rw [hss] at run
  have hsound := run.cut.1.served.isSound h.isSound
  have hlimits := run.cut.1.served.limits_eq
  rw [h.fresh, ← hlimits'] at hlimits
  unfold FindsAlone
  rw [workBut_snoc_own hown hdeed, Ledger.replay_snoc]
  rcases hthere with hsame | hdisturbed
  · exact .inl (Ledger.found_after_congr hsound hsound' hlimits hsame _ _)
  · by_cases hgrant : st.mark? id = some (.granted account)
    · rw [Step.mark?, hdeed] at hgrant
      exact .inl (Ledger.found_after_granted hlimits hgrant)
    · exact .inr (hdisturbed.snoc hgrant)

/-- What one of the others does changes nothing, or disturbs. -/
theorem finds_after_other (h : Visited limits account others w ss w') (hss : ss = done ++ st :: rest) {act : Act}
    (hdeed : st.deed? = some ⟨st.before.host.ledger, st.before.host.wallClock, act⟩)
    (hact : st.happening.use?.bind (·.access.ledgerAct?) = some act) (hother : st.isOf others = true)
    (hthere : FindsAlone limits id account others done st.before.host.ledger) :
    FindsAlone limits id account others (done ++ [st])
      (st.before.host.ledger.after st.before.host.wallClock act) := by
  obtain ⟨i, hclient, hi⟩ := (Option.any_eq_true _ _).1 hother
  have hi : i ∈ others := List.contains_iff_mem.1 hi
  obtain ⟨guest, hguest, hof⟩ := h.guest hi
  have hact := hof hss hclient hact
  have hmark : st.mark? id = Deed.mark? id ⟨st.before.host.ledger, st.before.host.wallClock, act⟩ := by
    rw [Step.mark?, hdeed]
    rfl
  unfold FindsAlone
  rw [workBut_snoc_other hother]
  rcases hthere with hsame | hdisturbed
  · rcases Ledger.found_after_guest hact hguest (h.bounded hss id) with hkept | ⟨hfound, hdoes⟩
    · exact .inl (hkept.trans hsame)
    · refine .inr (Step.Intrudes.disturbed ⟨hfound, i, hi, hclient, ?_⟩)
      rw [← hmark] at hdoes
      exact hdoes.imp (fun hgrant => ⟨guest, hguest, hgrant⟩) fun hraised =>
        ⟨hraised, h.took_before hss hi hclient hraised hfound⟩
  · refine .inr (hdisturbed.snoc fun hgrant => hguest ?_)
    obtain ⟨rfl, -⟩ := Ledger.grant_of_mark? (hmark ▸ hgrant)
    exact Eq.symm hact

/-- **What an account finds is what it would find if the others had not been there**, in every run and whatever they
come to, unless one of them has disturbed it since the session was last granted to the account. -/
theorem finds_alone (h : Visited limits account others w ss w') (id : String) :
    FindsAlone limits id account others ss w'.host.ledger := by
  refine h.run.along (I := fun done w => FindsAlone limits id account others done w.host.ledger)
    (.inl (by rw [h.fresh]; rfl)) fun done st rest hss _ hgoes hthere => ?_
  rcases Step.ledger_cases st hgoes with ⟨hdeed, hledger⟩ | ⟨act, hact, hdeed, hledger⟩
  · have hmark : st.mark? id = none := by rw [Step.mark?, hdeed]; rfl
    unfold FindsAlone
    rw [hledger, workBut_snoc_none hdeed]
    exact hthere.imp_right fun hdisturbed => hdisturbed.snoc (by simp [hmark])
  · rw [hledger]
    cases hother : st.isOf others with
    | false => exact h.finds_after_own hss hdeed hother hthere
    | true => exact h.finds_after_other hss hdeed hact hother hthere

end Visited

/-- **Requests of other accounts leave what an account finds as it is, except in two ways.**  Two runs in which everyone
else does the same to the ledger, at the same readings of the clock, may differ in any requests of other accounts to
sign a transaction: in how many there are, how they sign, under which session ids, and how they end.  A session that the
account finds after one of them it finds after the other, with the same uses left and the same end, and it is answered
the same when it takes a use, unless since the last grant to the account one of these requests has had the session
granted to its own account or has given a use of it back that it took before that grant. -/
theorem sessions_found_alike {limits : SessionLimits} {others₁ others₂ : List Nat}
    {w₁ w₁' w₂ w₂' : Wallet (Except Error Unit)} {ss₁ ss₂ : List (Step (Except Error Unit))}
    (h₁ : Visited limits account others₁ w₁ ss₁ w₁') (h₂ : Visited limits account others₂ w₂ ss₂ w₂')
    (hwork : workBut others₁ ss₁ = workBut others₂ ss₂) (id : String) :
    Disturbed id account others₁ ss₁ ∨ Disturbed id account others₂ ss₂ ∨
      w₁'.host.ledger.found id account = w₂'.host.ledger.found id account ∧
      ∀ now, (w₁'.host.ledger.consume now id account).1 = (w₂'.host.ledger.consume now id account).1 := by
  rcases h₁.finds_alone id with hfound₁ | hdisturbed
  · rcases h₂.finds_alone id with hfound₂ | hdisturbed
    · have hsame : w₁'.host.ledger.found id account = w₂'.host.ledger.found id account := by
        rw [hfound₁, hfound₂, hwork]
      exact .inr (.inr ⟨hsame, fun now => by rw [Ledger.consume_of_found, Ledger.consume_of_found, hsame]⟩)
    · exact .inr (.inl hdisturbed)
  · exact .inl hdisturbed

/-- Nobody disturbs who neither has the session granted to another nor gives a use of it back. -/
theorem not_disturbed {others : List Nat} {ss : List (Step α)}
    (h : ∀ m ∈ ss.filterMap (·.mark? id), m = .granted account ∨ m = .consumed) : ¬ Disturbed id account others ss := by
  rintro ⟨done, st, later, rfl, ⟨-, i, -, -, hdoes⟩, -⟩
  have hmem {m : Mark} (hm : st.mark? id = some m) : m = .granted account ∨ m = .consumed :=
    h m (List.mem_filterMap.2 ⟨st, List.mem_append_right _ List.mem_cons_self, hm⟩)
  rcases hdoes with ⟨guest, hguest, hgrant⟩ | ⟨hraised, -⟩
  · rcases hmem hgrant with heq | heq <;> cases heq
    exact hguest rfl
  · rcases hmem hraised with heq | heq <;> cases heq

/-! A session is granted to one account, and another signs under the same session id.  It may be refused the session, or
sign with a ceremony and have it granted to itself. -/

def refuseOther : List (Move (Except Error Unit)) :=
  let message := (Response.declined "r" .warmSessionUnavailable "Warm session s not found").message
  (reachTurn 0 "r" "warmSession").tail ++ List.replicate 4 (Move.advance 0) ++
    [Move.answer 0 (.post message) (.ok ()), Move.advance 0]

def takeOver : List (Move (Except Error Unit)) := (reachTurn 0 "g" "webAuthn").tail ++ renewSession 0 "g" "7"

/-- What is asked of a run, apart from what it is a run of. -/
def comesTo (others : List Nat) (marks : List Mark) (entry : Option WarmSession)
    (r : List (Step (Except Error Unit)) × Wallet (Except Error Unit)) : Bool :=
  decide (r.1.filterMap (·.mark? "s") = marks) && decide (workBut others r.1 = [(⟨0, 0⟩, .grant "s" "b")]) &&
    decide (r.2.host.ledger.found "s" "b" = entry) && decide (∀ i ∈ others, r.2.result? i = some (.ok ()))

/-- A run from a ledger without sessions that comes to that. -/
structure Comes (others : List Nat) (marks : List Mark) (entry : Option WarmSession)
    (ss : List (Step (Except Error Unit))) (w' : Wallet (Except Error Unit)) : Prop where
  visited : Visited ⟨1, ⟨60000000000⟩⟩ "b" others ⟨grantingHost, []⟩ ss w'
  marks : ss.filterMap (·.mark? "s") = marks
  work : workBut others ss = [(⟨0, 0⟩, .grant "s" "b")]
  entry : w'.host.ledger.found "s" "b" = entry
  ended : ∀ i ∈ others, w'.result? i = some (.ok ())

theorem Comes.of_moves {others : List Nat} {marks : List Mark} {entry : Option WarmSession}
    (ms : List (Move (Except Error Unit))) (hordinary : ∀ m ∈ ms, m.IsOrdinary)
    (hvisits : ∀ {ss w'}, Run ⟨grantingHost, []⟩ ss w' → ss.map (·.move) = ms → ∀ i ∈ others, ∃ st ∈ ss,
      st.before.tasks.length = i ∧ ∃ setup raw guest, st.move = .start (handle setup raw) ∧ signer? raw = some guest ∧
        guest ≠ "b")
    (h : ((Wallet.mk grantingHost []).trace? ms).any (comesTo others marks entry) = true) :
    ∃ ss w', Comes others marks entry ss w' := by
  obtain ⟨⟨ss, w'⟩, htrace, hcomes⟩ := (Option.any_eq_true _ _).1 h
  simp only [comesTo, Bool.and_eq_true, decide_eq_true_eq] at hcomes
  obtain ⟨⟨⟨hmarks, hwork⟩, hfound⟩, hended⟩ := hcomes
  have run := Run.of_trace? htrace
  have hmoves := Wallet.moves_of_trace? htrace
  exact ⟨ss, w', ⟨run, rfl, rfl, .of_moves hmoves hordinary, hvisits run hmoves⟩, hmarks, hwork, hfound, hended⟩

/-- The same for a run beside a request of the other account. -/
theorem Comes.of_visit {marks : List Mark} {entry : Option WarmSession} (request mode : String)
    (rest : List (Move (Except Error Unit))) (hinner : rest.all Move.isOfTask = true)
    (hsigner : signer? (onSession request mode) = some "a")
    (h : ((Wallet.mk grantingHost []).trace? (.outside (.grant "s" "b") ::
      .start (handle quietSetup (onSession request mode)) :: rest)).any (comesTo [0] marks entry) = true) :
    ∃ ss w', Comes [0] marks entry ss w' := by
  have hordinary :
      ∀ m ∈ Move.outside (.grant "s" "b") :: Move.start (handle quietSetup (onSession request mode)) :: rest,
        m.IsOrdinary :=
    List.forall_mem_cons.2 ⟨rfl, List.forall_mem_cons.2
      ⟨.inl ⟨quietSetup, onSession request mode, rfl⟩, .of_all hinner⟩⟩
  refine Comes.of_moves _ hordinary (fun {ss w'} run hmoves i hi => ?_) h
  obtain ⟨granting, later, rfl, hgranting, hmoves⟩ := List.map_eq_cons_iff.1 hmoves
  obtain ⟨st, later, rfl, hstart, -⟩ := List.map_eq_cons_iff.1 hmoves
  refine ⟨st, List.mem_cons_of_mem _ List.mem_cons_self, ?_, quietSetup, _, "a", hstart, hsigner, by decide⟩
  rw [List.mem_singleton.1 hi]
  cases run with
  | cons first run =>
    cases hgranting
    cases first
    cases run with
    | cons second run => rfl

theorem Comes.without : ∃ ss w', Comes [] [.granted "b"] (some ⟨"b", 1, ⟨60, 0⟩⟩) ss w' :=
  Comes.of_moves [.outside (.grant "s" "b")] (List.forall_mem_singleton.2 rfl) (fun _ _ => nofun) (by decide +kernel)

/-- One who is refused the session leaves it as it is. -/
theorem sessions_found_alike_refused :
    ∃ ss₁ w₁ ss₂ w₂, Comes [0] [.granted "b"] (some ⟨"b", 1, ⟨60, 0⟩⟩) ss₁ w₁ ∧
      Comes [] [.granted "b"] (some ⟨"b", 1, ⟨60, 0⟩⟩) ss₂ w₂ ∧
      w₁.host.ledger.found "s" "b" = w₂.host.ledger.found "s" "b" ∧
      ∀ now, (w₁.host.ledger.consume now "s" "b").1 = (w₂.host.ledger.consume now "s" "b").1 := by
  obtain ⟨ss₁, w₁, h₁⟩ : ∃ ss w', Comes [0] [.granted "b"] (some ⟨"b", 1, ⟨60, 0⟩⟩) ss w' :=
    Comes.of_visit "r" "warmSession" refuseOther rfl (by decide +kernel) (by decide +kernel)
  obtain ⟨ss₂, w₂, h₂⟩ := Comes.without
  have hundisturbed {others : List Nat} {ss : List (Step (Except Error Unit))}
      (hmarks : ss.filterMap (·.mark? "s") = [.granted "b"]) : ¬ Disturbed "s" "b" others ss :=
    not_disturbed (hmarks ▸ List.forall_mem_singleton.2 (.inl rfl))
  have halike := sessions_found_alike h₁.visited h₂.visited (h₁.work.trans h₂.work.symm) "s"
  exact ⟨ss₁, w₁, ss₂, w₂, h₁, h₂, (halike.resolve_left (hundisturbed h₁.marks)).resolve_left (hundisturbed h₂.marks)⟩

/-- One who has it granted to itself takes it away. -/
theorem session_lost_to_other :
    ∃ ss₁ w₁ ss₂ w₂, Comes [0] [.granted "b", .granted "a"] none ss₁ w₁ ∧
      Comes [] [.granted "b"] (some ⟨"b", 1, ⟨60, 0⟩⟩) ss₂ w₂ ∧
      (w₁.host.ledger.consume ⟨0, 0⟩ "s" "b").1 = .error (.notFound "s") ∧
      (w₂.host.ledger.consume ⟨0, 0⟩ "s" "b").1 = .ok ⟨"s", 0, ⟨60, 0⟩⟩ := by
  obtain ⟨ss₁, w₁, h₁⟩ : ∃ ss w', Comes [0] [.granted "b", .granted "a"] none ss w' :=
    Comes.of_visit "g" "webAuthn" takeOver rfl (by decide +kernel) (by decide +kernel)
  obtain ⟨ss₂, w₂, h₂⟩ := Comes.without
  refine ⟨ss₁, w₁, ss₂, w₂, h₁, h₂, ?_, ?_⟩
  · rw [Ledger.consume_of_found, h₁.entry]
  · rw [Ledger.consume_of_found, h₂.entry]
    rfl

end PasskeyConsent

import PasskeyConsent.Proofs.Confirmation.Cancellation
import PasskeyConsent.Proofs.Session.Budget
/-!
# What comes back of a declined request

A request that took a use of a session and is not approved gives it back once, but what comes of it is up to the others.
A session whose uses are all taken is removed by the next one who looks for a use of it, and by a purge, also while a
use is still out that would come back; and the budget may be full of uses that came back late.  In a session that is
left alone otherwise there is no third way (`Run.use_comes_back`).
-/
namespace PasskeyConsent

open Confirmation
open Ledger (Mark Deed Affects)

variable {α : Type} {id account : String}

namespace Step

/-- The session has one use more after the step. -/
def GivesUse (id : String) (st : Step α) : Prop :=
  ∃ s s', st.before.host.ledger.sessions.get? id = some s ∧ st.after.host.ledger.sessions.get? id = some s' ∧
    s'.remainingUses.toNat = s.remainingUses.toNat + 1

/-- The session has no use left, and is removed. -/
def Discards (id : String) (st : Step α) : Prop :=
  (∃ s, st.before.host.ledger.sessions.get? id = some s ∧ s.remainingUses = 0) ∧
    st.after.host.ledger.sessions.get? id = none

/-- **What a step does to a session** is what an operation of the ledger does; a step that does not touch the ledger is
as good as a look at the session. -/
theorem affects {st : Step α} (g : st.before.Goes st.move st.happening st.after)
    (hsound : st.before.host.ledger.IsSound) (id : String) :
    ∃ d : Deed, (st.deed? = some d ∨ d.act = .status id) ∧ d.now = st.before.host.wallClock ∧
      d.before.limits = st.before.host.ledger.limits ∧
      Affects id d (st.before.host.ledger.sessions.get? id) (st.mark? id) (st.after.host.ledger.sessions.get? id) := by
  rcases ledger_cases st g with ⟨hdeed, hledger⟩ | ⟨act, -, hdeed, hledger⟩
  · refine ⟨⟨st.before.host.ledger, st.before.host.wallClock, .status id⟩, .inr rfl, rfl, rfl, ?_⟩
    rw [hledger, mark?, hdeed]
    exact .kept _
  · refine ⟨_, .inl hdeed, rfl, rfl, ?_⟩
    rw [hledger, mark?, hdeed]
    exact Deed.affects hsound id

end Step

theorem Wallet.Goes.isSound {w w' : Wallet α} {m : Move α} {h : Happening} (g : w.Goes m h w')
    (hsound : w.host.ledger.IsSound) : w'.host.ledger.IsSound :=
  (Run.cons g.step? (.nil w')).served.isSound hsound

/-- The session is left alone in these steps: it is neither granted anew nor revoked, and does not end. -/
structure LeftAlone (id : String) (expiresAt : Instant) (ss : List (Step α)) : Prop where
  granted : ∀ st ∈ ss, ∀ account, st.mark? id ≠ some (.granted account)
  revoked : ∀ st ∈ ss, ∀ d, st.deed? = some d → d.act ≠ .revoke id
  alive : ∀ st ∈ ss, expiresAt.le st.before.host.wallClock = false

theorem LeftAlone.mono {expiresAt : Instant} {ss ss' : List (Step α)} (h : LeftAlone id expiresAt ss) (hsub : ss' ⊆ ss) :
    LeftAlone id expiresAt ss' :=
  ⟨fun st hst => h.granted st (hsub hst), fun st hst => h.revoked st (hsub hst), fun st hst => h.alive st (hsub hst)⟩

theorem LeftAlone.of_cons {expiresAt : Instant} {st : Step α} {ss : List (Step α)}
    (h : LeftAlone id expiresAt (st :: ss)) : LeftAlone id expiresAt [st] ∧ LeftAlone id expiresAt ss :=
  ⟨h.mono fun _ hst => List.mem_singleton.1 hst ▸ List.mem_cons_self, h.mono (List.subset_cons_self st ss)⟩

/-- **A session that is left alone is removed only when it has no use left.** -/
theorem Step.survives (st : Step α) {expiresAt : Instant} (g : st.before.Goes st.move st.happening st.after)
    (hsound : st.before.host.ledger.IsSound) (halone : LeftAlone id expiresAt [st]) :
    (st.before.host.ledger.sessions.get? id = none → st.after.host.ledger.sessions.get? id = none) ∧
    ∀ s, st.before.host.ledger.sessions.get? id = some s → s.expiresAt = expiresAt →
      (∃ s', st.after.host.ledger.sessions.get? id = some s' ∧ s'.expiresAt = expiresAt) ∨ st.Discards id := by
  have hmem : st ∈ [st] := List.mem_singleton_self st
  obtain ⟨d, hact, hnow, -, haffects⟩ := Step.affects g hsound id
  have hrevoked : d.act ≠ .revoke id := by
    rcases hact with hdeed | hstatus
    · exact halone.revoked st hmem d hdeed
    · rw [hstatus]
      nofun
  have hgranted := halone.granted st hmem
  have halive := halone.alive st hmem
  unfold Step.Discards
  rw [← hnow] at halive
  generalize st.before.host.ledger.sessions.get? id = old, st.mark? id = m,
    st.after.host.ledger.sessions.get? id = new at haffects hgranted ⊢
  cases haffects with
  | granted account => exact absurd rfl (hgranted account)
  | consumed | raised | capped => exact ⟨nofun, fun s hs hend => .inl ⟨_, rfl, Option.some.inj hs ▸ hend⟩⟩
  | kept => exact ⟨fun h => h, fun s hs hend => .inl ⟨s, hs, hend⟩⟩
  | revoked h => exact absurd h hrevoked
  | @dropped t hu =>
    refine ⟨nofun, fun s hs hend => .inr ⟨⟨s, hs, ?_⟩, rfl⟩⟩
    cases hs
    subst hend
    by_contra hne
    have husable : t.isUsable d.now = true := WarmSession.isUsable_iff.2 ⟨hne, halive⟩
    rw [hu] at husable
    cases husable

namespace Run

variable {w w' : Wallet α} {ss : List (Step α)} {expiresAt : Instant}

/-- What is gone stays gone. -/
theorem stays_gone (run : Run w ss w') (hsound : w.host.ledger.IsSound) (halone : LeftAlone id expiresAt ss)
    (hgone : w.host.ledger.sessions.get? id = none) : w'.host.ledger.sessions.get? id = none := by
  induction run with
  | nil => exact hgone
  | @cons w w₁ w' m h ss first rest ih =>
    have hgoes := Wallet.Goes.of_step? first
    obtain ⟨hnow, hrest⟩ := halone.of_cons
    exact ih (hgoes.isSound hsound) hrest ((Step.survives ⟨w, m, h, w₁⟩ hgoes hsound hnow).1 hgone)

/-- **A session that is left alone is there at the end**, or it was removed when it had no use left. -/
theorem survives (run : Run w ss w') (hsound : w.host.ledger.IsSound) (halone : LeftAlone id expiresAt ss)
    {s : WarmSession} (hs : w.host.ledger.sessions.get? id = some s) (hend : s.expiresAt = expiresAt) :
    (∃ s', w'.host.ledger.sessions.get? id = some s' ∧ s'.expiresAt = expiresAt) ∧ (∀ st ∈ ss, ¬ st.Discards id) ∨
    w'.host.ledger.sessions.get? id = none ∧ ∃ st ∈ ss, st.Discards id := by
  induction run generalizing s with
  | nil => exact .inl ⟨⟨s, hs, hend⟩, fun _ hst => absurd hst List.not_mem_nil⟩
  | @cons w w₁ w' m h ss first rest ih =>
    have hgoes := Wallet.Goes.of_step? first
    obtain ⟨hnow, hrest⟩ := halone.of_cons
    have hstep := (Step.survives ⟨w, m, h, w₁⟩ hgoes hsound hnow).2 s hs hend
    rcases hstep with ⟨s₁, hs₁, hend₁⟩ | hdiscards
    · have hkept : ¬ Step.Discards id ⟨w, m, h, w₁⟩ := fun hdiscards => by
        have hnone := hdiscards.2
        rw [hs₁] at hnone
        cases hnone
      rcases ih (hgoes.isSound hsound) hrest hs₁ hend₁ with ⟨hthere, hnone⟩ | ⟨hgone, st, hst, hdiscards⟩
      · exact .inl ⟨hthere, List.forall_mem_cons.2 ⟨hkept, hnone⟩⟩
      · exact .inr ⟨hgone, st, List.mem_cons_of_mem _ hst, hdiscards⟩
    · exact .inr ⟨rest.stays_gone (hgoes.isSound hsound) hrest hdiscards.2, _, List.mem_cons_self, hdiscards⟩

end Run

/-! ## Taking and giving back -/

theorem Host.access_consume (h : Host) (task : Nat) (own : Holdings) (session account : String) :
    (h.access task own (.consume session account)).1 = (h.ledger.consume h.wallClock session account).1 := by
  simp only [Host.access]
  rcases h.ledger.consume h.wallClock session account with ⟨_ | _, l⟩ <;> rfl

/-- What is answered to one who takes a use is what the ledger answers. -/
theorem Wallet.Goes.consume {w w' : Wallet α} {m : Move α} {i : Nat} {r : Except SessionError WarmSessionGrant}
    (goes : w.Goes m (.accessed i (.consume id account) r) w') :
    (w.host.ledger.consume w.host.wallClock id account).1 = r := by
  obtain ⟨task, own, hanswer, -⟩ := goes.exists_access rfl
  rw [← Host.access_consume _ task own, hanswer]

namespace Step

variable {st : Step α} {i : Nat}

/-- **A use is taken of a session that is there**, and leaves it with the end that the grant names. -/
theorem taken {g : WarmSessionGrant} (goes : st.before.Goes st.move st.happening st.after)
    (h : st.happening = .accessed i (.consume id account) (.ok g)) :
    g.sessionId = id ∧ st.client? = some i ∧ st.mark? id = some .consumed ∧
      (∃ s, st.before.host.ledger.sessions.get? id = some s) ∧
      ∃ s, st.after.host.ledger.sessions.get? id = some s ∧ s.expiresAt = g.expiresAt := by
  have hledger := goes.ledger
  rw [h] at goes hledger
  have hanswer := goes.consume
  have hclient : st.client? = some i := by simp only [client?, h]
  have hmark : st.mark? id = some .consumed := by
    have hdeed : st.deed? = some ⟨st.before.host.ledger, st.before.host.wallClock, .consume id account⟩ := by
      simp only [deed?, h]
      rfl
    rw [mark?, hdeed]
    exact if_pos ⟨rfl, by rw [hanswer]; rfl⟩
  change st.after.host.ledger = (st.before.host.ledger.consume st.before.host.wallClock id account).2 at hledger
  rcases Ledger.consume_cases st.before.host.ledger st.before.host.wallClock id account with
    ⟨heq, -⟩ | ⟨s, hs, -, ⟨-, e, heq⟩ | ⟨-, heq⟩⟩ <;> rw [heq] at hanswer hledger <;> cases hanswer
  refine ⟨rfl, hclient, hmark, ⟨s, hs⟩, { s with remainingUses := s.remainingUses - 1 }, ?_, rfl⟩
  rw [hledger]
  exact Table.get?_put_self _ _ _

/-- **A use is given back** to a session that is there and not over, unless its budget is full. -/
theorem givesUse_iff {n : Option UInt32} (goes : st.before.Goes st.move st.happening st.after)
    (h : st.happening = .accessed i (.restore id) n) {s : WarmSession}
    (hs : st.before.host.ledger.sessions.get? id = some s) (hover : s.isOver st.before.host.wallClock = false) :
    st.GivesUse id ↔ s.remainingUses < st.before.host.ledger.limits.maxUses := by
  have hledger := goes.ledger
  rw [h] at hledger
  change st.after.host.ledger = (st.before.host.ledger.restore st.before.host.wallClock id).2 at hledger
  have hafter {uses : UInt32} (heq : st.after.host.ledger =
      { st.before.host.ledger with
        sessions := st.before.host.ledger.sessions.put id { s with remainingUses := uses } }) :
      st.GivesUse id ↔ uses.toNat = s.remainingUses.toNat + 1 := by
    have hget : st.after.host.ledger.sessions.get? id = some { s with remainingUses := uses } := by
      rw [heq]
      exact Table.get?_put_self _ _ _
    constructor
    · rintro ⟨t, t', ht, ht', hmore⟩
      rw [hs] at ht
      rw [hget] at ht'
      cases ht
      cases ht'
      exact hmore
    · exact fun hmore => ⟨s, _, hs, hget, hmore⟩
  rcases Ledger.restore_cases st.before.host.ledger st.before.host.wallClock id with
    ⟨heq, hall⟩ | ⟨t, ht, -, ⟨hlt, heq⟩ | ⟨hle, heq⟩⟩
  · rw [hall s hs] at hover
    cases hover
  · rw [hs] at ht
    cases ht
    rw [hafter (hledger.trans (congrArg Prod.snd heq)), Ledger.toNat_succ hlt]
    exact iff_of_true rfl hlt
  · rw [hs] at ht
    cases ht
    rw [hafter (hledger.trans (congrArg Prod.snd heq))]
    have hnot := UInt32.le_iff_toNat_le.1 hle
    refine iff_of_false (fun hmore => ?_) (UInt32.not_lt.2 hle)
    omega

end Step

/-- Whoever gives a use back to a session that is gone gives it to nobody. -/
theorem Step.not_givesUse_of_gone {st : Step α} (h : st.before.host.ledger.sessions.get? id = none) :
    ¬ st.GivesUse id := by
  rintro ⟨s, -, hs, -⟩
  rw [h] at hs
  cases hs

/-- **A session that is there was granted in the run**, and not granted anew since. -/
theorem Run.last_grant {w w' : Wallet α} {ss : List (Step α)} (run : Run w ss w')
    (hfresh : w.host.ledger.sessions = {}) {s : WarmSession} (hs : w'.host.ledger.sessions.get? id = some s) :
    ∃ pre granting since, ss = pre ++ granting :: since ∧ granting.mark? id = some (.granted s.account) ∧
      ∀ st ∈ since, ∀ account, st.mark? id ≠ some (.granted account) := by
  have hsound : w.host.ledger.IsSound := by
    show w.host.ledger.sessions.keys.Nodup
    rw [hfresh]
    exact List.nodup_nil
  refine run.along (I := fun done w => ∀ s, w.host.ledger.sessions.get? id = some s →
    ∃ pre granting since, done = pre ++ granting :: since ∧ granting.mark? id = some (.granted s.account) ∧
      ∀ st ∈ since, ∀ account, st.mark? id ≠ some (.granted account)) ?_ ?_ s hs
  · intro s hs
    rw [hfresh] at hs
    cases hs
  · intro done st rest _ before hgoes hdone s hs
    obtain ⟨d, -, -, -, haffects⟩ := Step.affects hgoes (before.served.isSound hsound) id
    have hlater {t : WarmSession} (ht : st.before.host.ledger.sessions.get? id = some t) (hacc : t.account = s.account)
        (hmark : ∀ account, st.mark? id ≠ some (.granted account)) :
        ∃ pre granting since, done ++ [st] = pre ++ granting :: since ∧
          granting.mark? id = some (.granted s.account) ∧
          ∀ st ∈ since, ∀ account, st.mark? id ≠ some (.granted account) := by
      obtain ⟨pre, granting, since, rfl, hgrant, hsince⟩ := hdone t ht
      refine ⟨pre, granting, since ++ [st], by simp, hacc ▸ hgrant, List.forall_mem_append.2 ⟨hsince, ?_⟩⟩
      rintro _ hst
      rw [List.mem_singleton.1 hst]
      exact hmark
    generalize hold : st.before.host.ledger.sessions.get? id = old at haffects
    generalize hmark : st.mark? id = m at haffects hlater
    generalize st.after.host.ledger.sessions.get? id = new at haffects hs
    cases haffects with
    | granted account =>
      cases hs
      exact ⟨done, st, [], rfl, hmark, fun _ h => absurd h List.not_mem_nil⟩
    | consumed | raised | capped => cases hs; exact hlater hold rfl nofun
    | kept => subst hs; exact hlater hold rfl nofun
    | revoked | dropped => cases hs

/-! ## What comes back -/

/-- A use of the last grant of the session came back late. -/
def BroughtLate (id : String) (ss : List (Step α)) : Prop :=
  ∃ pre granting since account, ss = pre ++ granting :: since ∧ granting.mark? id = some (.granted account) ∧
    (∀ st ∈ since, ∀ account, st.mark? id ≠ some (.granted account)) ∧ lateReturns id since ≠ []

theorem Step.happening_of_taken {st : Step α} {i : Nat} {g : WarmSessionGrant}
    (h : (st.happening.event? i).bind Event.taken? = some (g, account)) :
    ∃ session, st.happening = .accessed i (.consume session account) (.ok g) := by
  obtain ⟨e, he, htaken⟩ := Option.bind_eq_some_iff.1 h
  unfold Event.taken? at htaken
  split at htaken
  · rename_i session _ _
    cases htaken
    exact ⟨session, Happening.eq_of_event? he⟩
  · cases htaken

theorem Step.happening_of_returned {st : Step α} {i : Nat}
    (h : (st.happening.event? i).bind Event.returned? = some id) :
    ∃ n, st.happening = .accessed i (.restore id) n := by
  obtain ⟨e, he, hreturned⟩ := Option.bind_eq_some_iff.1 h
  unfold Event.returned? at hreturned
  split at hreturned
  · rename_i session n
    cases hreturned
    exact ⟨n, Happening.eq_of_event? he⟩
  · cases hreturned

namespace Run

variable {setup : Setup} {raw : Json} {w w' : Wallet (Except Error Unit)}
  {ss ss₁ later between rest : List (Step (Except Error Unit))} {st taking returning : Step (Except Error Unit)}
  {i : Nat} {x : Except Error Unit} {n : Option UInt32} {g : WarmSessionGrant}

/-- **A request that took a use and is not approved gives it back**, after it took it. -/
theorem gives_back (run : Run w ss w') (hempty : w.tasks = []) (hstarts : StartsOrdinary ss) (hst : st ∈ ss)
    (hstart : st.move = .start (handle setup raw)) (hi : st.before.tasks.length = i)
    (hreturned : w'.result? i = some x) (hdeclined : ¬ (accountOf i ss).Confirmed) (hss : ss = ss₁ ++ taking :: later)
    (htaking : taking.happening = .accessed i (.consume id account) (.ok g)) :
    ∃ between returning rest n, later = between ++ returning :: rest ∧
      returning.happening = .accessed i (.restore id) n := by
  have htaken : (taking.happening.event? i).bind Event.taken? = some (g, account) := by
    rw [Happening.event?_of_eq (e := .accessed (.consume id account) (.ok g)) htaking]
    rfl
  have hmem : taking ∈ ss := hss ▸ List.mem_append_right _ List.mem_cons_self
  obtain ⟨-, hback⟩ := (settled_of_start run hst hstart hi hreturned).resolve_right fun h => hdeclined h.1
  have hconsumed (part : List (Step (Except Error Unit))) : (accountOf i part).consumed =
      part.filterMap fun st => (st.happening.event? i).bind Event.taken? := by
    rw [accountOf_consumed, historyOf, List.filterMap_filterMap]
  have hone : (accountOf i ss).consumed = [(g, account)] := by
    have htook : (g, account) ∈ (accountOf i ss).consumed := by
      rw [hconsumed]
      exact List.mem_filterMap.2 ⟨taking, hmem, htaken⟩
    obtain ⟨only, honly⟩ := List.length_eq_one_iff.1
      (Nat.le_antisymm hback.once (List.length_pos_of_mem htook))
    rw [honly] at htook ⊢
    rw [List.mem_singleton.1 htook]
  have hid : g.sessionId = id := (Step.taken (run.goes hmem) htaking).1
  have hrestored : ss.filterMap (fun st => (st.happening.event? i).bind Event.returned?) = [] ++ id :: [] := by
    have hrestored := hback.restored
    rw [accountOf_restored, hone, historyOf, List.filterMap_filterMap] at hrestored
    rw [hrestored, ← hid]
    rfl
  obtain ⟨pre, returning, post, hsplit, -, hreturning, -⟩ := exists_of_filterMap_eq hrestored
  obtain ⟨n, hhappening⟩ := Step.happening_of_returned hreturning
  -- Whoever gives back has taken before, and nobody takes twice.
  have hnone : taking ∉ returning :: post := by
    intro hafter
    obtain ⟨-, -, htook⟩ := run.bursar_allows hempty hstarts hsplit
      (Happening.event?_of_eq (e := .accessed (.restore id) n) hhappening)
    have hlength := congrArg List.length hone
    rw [hsplit, hconsumed, List.filterMap_append, List.length_append, ← hconsumed, ← List.length_map (·.1.sessionId),
      htook] at hlength
    have hpos : 0 < ((returning :: post).filterMap fun st => (st.happening.event? i).bind Event.taken?).length :=
      List.length_pos_of_mem (List.mem_filterMap.2 ⟨taking, hafter, htaken⟩)
    simp only [List.length_singleton] at hlength
    omega
  rcases List.append_eq_append_iff.1 (hss.symm.trans hsplit) with ⟨mid, -, hmid⟩ | ⟨mid, -, hmid⟩
  · cases mid with
    | nil => exact absurd ((List.cons.inj hmid).1 ▸ List.mem_cons_self) hnone
    | cons c between => exact ⟨between, returning, post, n, (List.cons.inj hmid).2, hhappening⟩
  · exact absurd (hmid ▸ List.mem_append_right _ List.mem_cons_self) hnone

/-- **A budget that is full when a use of it comes back** is full of a use that came back late. -/
theorem brought_late (run : Run w (ss₁ ++ taking :: between ++ returning :: rest) w') (hempty : w.tasks = [])
    (hfresh : w.host.ledger.sessions = {}) (hstarts : StartsOrdinary (ss₁ ++ taking :: between ++ returning :: rest))
    (htaking : taking.happening = .accessed i (.consume id account) (.ok g))
    (hreturning : returning.happening = .accessed i (.restore id) n)
    (hgranted : ∀ st ∈ between, ∀ account, st.mark? id ≠ some (.granted account))
    (hfull : w.host.ledger.limits.maxUses.toNat ≤ returning.before.host.ledger.usesLeft id) :
    BroughtLate id (ss₁ ++ taking :: between) := by
  obtain ⟨before, -, -⟩ := run.cut
  obtain ⟨first, atTaking, -⟩ := before.cut
  obtain ⟨-, hclient, hmark, ⟨s, hs⟩, -⟩ := Step.taken (.of_step? atTaking) htaking
  obtain ⟨pre, granting, since, rfl, hgrant, hsince⟩ := first.last_grant hfresh hs
  have hwindow : pre ++ granting :: since ++ taking :: between = pre ++ granting :: (since ++ taking :: between) :=
    List.append_assoc ..
  have hagain : ∀ st ∈ since ++ taking :: between, ∀ account, st.mark? id ≠ some (.granted account) := by
    refine List.forall_mem_append.2 ⟨hsince, List.forall_mem_cons.2 ⟨fun account => ?_, hgranted⟩⟩
    rw [hmark]
    nofun
  refine ⟨pre, granting, since ++ taking :: between, s.account, hwindow, hgrant, hagain, fun hnone => ?_⟩
  rw [hwindow] at before
  obtain ⟨_, untilGrant, window⟩ := before.split
  have hsound := untilGrant.served.isSound (l := w.host.ledger) (by
    show w.host.ledger.sessions.keys.Nodup
    rw [hfresh]
    exact List.nodup_nil)
  obtain ⟨hspent, hleft⟩ := window.since_grant hsound hgrant hagain
  rw [untilGrant.served.limits_eq] at hspent hleft
  -- Every use that came back is matched by one that was taken, and the one of this request is still out.
  obtain ⟨hkept, -, -⟩ := run.bursar_allows hempty hstarts rfl
    (Happening.event?_of_eq (e := .accessed (.restore id) n) hreturning)
  have hpart : (since ++ taking :: between).Sublist (pre ++ granting :: since ++ taking :: between) := by
    rw [hwindow]
    exact (List.sublist_cons_self granting _).trans (List.sublist_append_right pre _)
  have hcover : [i].length + (ownReturns id (since ++ taking :: between)).length ≤
      (since ++ taking :: between).countP (·.isMark id .consumed) := length_add_ownReturns_le (List.nodup_singleton i)
    (fun j hj => ⟨taking, List.mem_append_right _ List.mem_cons_self, by rw [hclient, List.mem_singleton.1 hj], hmark⟩)
    (fun j hj => by
      have hsub := restored_sublist j hpart
      rw [List.mem_singleton.1 hj, hkept] at hsub
      exact List.mem_singleton.1 hj ▸ List.sublist_nil.1 hsub)
    (fun j => Nat.le_trans (restored_sublist j (hpart.trans (List.sublist_append_left _ _))).length_le
      (run.frugal hempty hstarts j).once)
  rw [length_returnsOf, hnone] at hspent hleft
  simp only [List.length_singleton, List.length_nil] at hcover hspent hleft
  unfold Ledger.usesLeft at hfull
  cases hentry : returning.before.host.ledger.sessions.get? id with
  | none =>
    rw [hentry] at hfull
    simp only [Option.elim_none] at hfull
    omega
  | some t =>
    rw [hentry] at hfull
    simp only [Option.elim_some] at hfull
    have hbalance := hleft t hentry
    omega

/-- **What comes of a use that a declined request took**: it is given back, and if the session is left alone otherwise,
then the session has one use more unless it was removed in between, which takes one that has no use left, or its budget
is full already, which takes a use that came back late.  This holds in every run, beside any number of other requests
and purges, whatever the collaborators answer and whatever the clock reads. -/
theorem use_comes_back (run : Run w ss w') (hempty : w.tasks = []) (hfresh : w.host.ledger.sessions = {})
    (hstarts : StartsOrdinary ss) (hst : st ∈ ss) (hstart : st.move = .start (handle setup raw))
    (hi : st.before.tasks.length = i) (hreturned : w'.result? i = some x) (hdeclined : ¬ (accountOf i ss).Confirmed)
    (hss : ss = ss₁ ++ taking :: later) (htaking : taking.happening = .accessed i (.consume id account) (.ok g)) :
    ∃ between returning rest n, later = between ++ returning :: rest ∧
      returning.happening = .accessed i (.restore id) n ∧
      (LeftAlone id g.expiresAt (between ++ [returning]) →
        (returning.GivesUse id ↔ (∀ st ∈ between, ¬ st.Discards id) ∧
          returning.before.host.ledger.usesLeft id < w.host.ledger.limits.maxUses.toNat) ∧
        (w.host.ledger.limits.maxUses.toNat ≤ returning.before.host.ledger.usesLeft id →
          BroughtLate id (ss₁ ++ taking :: between))) := by
  obtain ⟨between, returning, rest, n, hlater, hreturning⟩ :=
    run.gives_back hempty hstarts hst hstart hi hreturned hdeclined hss htaking
  refine ⟨between, returning, rest, n, hlater, hreturning, fun halone => ?_⟩
  have hsplit : ss = ss₁ ++ taking :: between ++ returning :: rest := by
    rw [hss, hlater, List.append_assoc, List.cons_append]
  clear hst
  subst hsplit
  have haloneBetween : LeftAlone id g.expiresAt between := halone.mono (List.subset_append_left between _)
  refine ⟨?_, run.brought_late hempty hfresh hstarts htaking hreturning haloneBetween.granted⟩
  obtain ⟨before, atReturn, -⟩ := run.cut
  obtain ⟨first, atTaking, since⟩ := before.cut
  have hsound : w.host.ledger.IsSound := by
    show w.host.ledger.sessions.keys.Nodup
    rw [hfresh]
    exact List.nodup_nil
  have hlimits := before.served.limits_eq
  have hgoes := Wallet.Goes.of_step? atTaking
  obtain ⟨-, -, -, -, s, hs, hend⟩ := Step.taken hgoes htaking
  have hsoundAfter := hgoes.isSound (first.served.isSound hsound)
  unfold Ledger.usesLeft
  rcases since.survives hsoundAfter haloneBetween hs hend with ⟨⟨t, ht, halive⟩, hkept⟩ | ⟨hgone, hdiscarded⟩
  · have hover : t.isOver returning.before.host.wallClock = false := by
      unfold WarmSession.isOver
      rw [halive]
      exact halone.alive returning (List.mem_append_right _ (List.mem_singleton_self _))
    rw [Step.givesUse_iff (.of_step? atReturn) hreturning ht hover, ht, Option.elim_some, hlimits, UInt32.lt_iff_toNat_lt]
    exact ⟨fun hless => ⟨hkept, hless⟩, And.right⟩
  · refine iff_of_false (Step.not_givesUse_of_gone hgone) fun ⟨hkept, _⟩ => ?_
    obtain ⟨discarding, hmem, hdiscards⟩ := hdiscarded
    exact hkept discarding hmem hdiscards

end Run

/-! A session of one use is granted, and a request takes the use and is declined.  In between, another request may be
refused the use that is out, and the session is removed with that. -/

def grantingHost : Host := { renewedHost with ledger := { limits := ⟨1, ⟨60000000000⟩⟩ } }

def takeUse : List (Move (Except Error Unit)) :=
  Move.outside (.grant "s" "a") :: (reachTurn 0 "q" "warmSession" ++ List.replicate 2 (Move.advance 0))

def refuseUse : List (Move (Except Error Unit)) :=
  let message := (Response.declined "r" .warmSessionUnavailable "Warm session s has no remaining uses").message
  reachTurn 1 "r" "warmSession" ++ List.replicate 4 (Move.advance 1) ++
    [Move.answer 1 (.post message) (.ok ()), Move.advance 1]

/-- Whether a step leaves the session alone. -/
def Step.spares (id : String) (expiresAt : Instant) (st : Step α) : Bool :=
  (st.deed?.all fun d => d.act != .revoke id && (d.mark? id).all (·.grantee?.isNone)) &&
    !expiresAt.le st.before.host.wallClock

theorem LeftAlone.of_spares {expiresAt : Instant} {ss : List (Step α)} (h : ∀ st ∈ ss, st.spares id expiresAt = true) :
    LeftAlone id expiresAt ss := by
  have hdeed (st : Step α) (hst : st ∈ ss) (d : Deed) (hd : st.deed? = some d) :
      d.act ≠ .revoke id ∧ (d.mark? id).all (·.grantee?.isNone) = true := by
    have hall := (Bool.and_eq_true_iff.1 (h st hst)).1
    rw [hd, Option.all_some, Bool.and_eq_true_iff, bne_iff_ne] at hall
    exact hall
  refine ⟨fun st hst account hmark => ?_, fun st hst d hd => (hdeed st hst d hd).1, fun st hst => ?_⟩
  · obtain ⟨d, hd, hm⟩ := Option.bind_eq_some_iff.1 hmark
    have hnone := (hdeed st hst d hd).2
    rw [hm] at hnone
    cases hnone
  · exact Bool.not_eq_true' _ ▸ (Bool.and_eq_true_iff.1 (h st hst)).2

/-- The uses of a session before and after each step at which a task gives one back. -/
def usesAround (i : Nat) (id : String) (ss : List (Step α)) : List (Option UInt32 × Option UInt32) :=
  (ss.filter fun st => (st.happening.event? i).bind Event.returned? == some id).map fun st =>
    ((st.before.host.ledger.sessions.get? id).map (·.remainingUses),
      (st.after.host.ledger.sessions.get? id).map (·.remainingUses))

theorem usesAround_of_returning {i : Nat} {ss : List (Step α)} {st : Step α} {n : Option UInt32} (hst : st ∈ ss)
    (h : st.happening = .accessed i (.restore id) n) :
    ((st.before.host.ledger.sessions.get? id).map (·.remainingUses),
      (st.after.host.ledger.sessions.get? id).map (·.remainingUses)) ∈ usesAround i id ss := by
  refine List.mem_map.2 ⟨st, List.mem_filter.2 ⟨hst, beq_iff_eq.2 ?_⟩, rfl⟩
  rw [Happening.event?_of_eq (e := .accessed (.restore id) n) h]
  rfl

/-- A use of a session that is left alone is taken, and its taker is declined. -/
structure Declines (ss₁ : List (Step (Except Error Unit))) (st taking : Step (Except Error Unit))
    (later : List (Step (Except Error Unit))) (w' : Wallet (Except Error Unit)) : Prop where
  run : Run ⟨grantingHost, []⟩ (ss₁ ++ taking :: later) w'
  starts : StartsOrdinary (ss₁ ++ taking :: later)
  mem : st ∈ ss₁ ++ taking :: later
  start : st.move = .start (handle quietSetup (onSession "q" "warmSession"))
  first : st.before.tasks.length = 0
  returned : w'.result? 0 = some (.ok ())
  declined : ¬ (accountOf 0 (ss₁ ++ taking :: later)).Confirmed
  taking : taking.happening = .accessed 0 (.consume "s" "a") (.ok ⟨"s", 0, ⟨60, 0⟩⟩)
  alone : LeftAlone "s" ⟨60, 0⟩ later

/-- What is asked of a run in which the use is given back, apart from what becomes of it. -/
def declineFacts (ss : List (Step (Except Error Unit))) (w' : Wallet (Except Error Unit)) : Bool :=
  decide (w'.result? 0 = some (.ok ())) && ss.tail.all (·.spares "s" ⟨60, 0⟩) &&
    (accountOf 0 ss).consumed == [(⟨"s", 0, ⟨60, 0⟩⟩, "a")] &&
    (accountOf 0 ss).posted.all fun m => m.get? "confirmed" != some (.bool true)

/-- Moves that take a use and decline are such a run. -/
theorem declines_of_moves {others : List (Move (Except Error Unit))} (hordinary : ∀ m ∈ others, m.IsOrdinary)
    (uses : Option UInt32 × Option UInt32)
    (h : ((Wallet.mk grantingHost []).trace? (takeUse ++ others ++ declineUse 0 "q")).map (fun r =>
        (declineFacts r.1 r.2, usesAround 0 "s" r.1)) = some (true, [uses])) :
    ∃ ss₁ st taking later w', Declines ss₁ st taking later w' ∧ usesAround 0 "s" (ss₁ ++ taking :: later) = [uses] := by
  obtain ⟨⟨ss, w'⟩, htrace, htold⟩ := Option.map_eq_some_iff.1 h
  simp only [Prod.mk.injEq] at htold
  obtain ⟨hfacts, huses⟩ := htold
  simp only [declineFacts, Bool.and_eq_true, decide_eq_true_eq, List.all_eq_true, bne_iff_ne, beq_iff_eq] at hfacts
  obtain ⟨⟨⟨hreturned, hspares⟩, hconsumed⟩, hposted⟩ := hfacts
  have run := Run.of_trace? htrace
  have hmoves := Wallet.moves_of_trace? htrace
  have hall : ∀ m ∈ takeUse ++ others ++ declineUse 0 "q", m.IsOrdinary := by
    have hreach : ∀ m ∈ reachTurn 0 "q" "warmSession", m.IsOrdinary :=
      List.forall_mem_cons.2 ⟨.inl ⟨quietSetup, onSession "q" "warmSession", rfl⟩, .of_all rfl⟩
    have htake : ∀ m ∈ takeUse, m.IsOrdinary :=
      List.forall_mem_cons.2 ⟨rfl, List.forall_mem_append.2 ⟨hreach, .of_all rfl⟩⟩
    exact List.forall_mem_append.2 ⟨List.forall_mem_append.2 ⟨htake, hordinary⟩, .of_all rfl⟩
  have hstarts : StartsOrdinary ss := .of_moves hmoves hall
  obtain ⟨granting, rest, rfl, hgranting, hmoves⟩ := List.map_eq_cons_iff.1 hmoves
  obtain ⟨st, rest, rfl, hstart, -⟩ := List.map_eq_cons_iff.1 hmoves
  -- The grant and the start are nothing to the request.
  have hfirst : st.before.tasks.length = 0 ∧ historyOf 0 (granting :: st :: rest) = historyOf 0 rest := by
    cases run with
    | cons first run =>
      cases hgranting
      cases first
      cases run with
      | cons second run =>
        cases hstart
        cases second
        exact ⟨rfl, rfl⟩
  have htook : rest.filterMap (fun st => (st.happening.event? 0).bind Event.taken?) =
      [] ++ (⟨"s", 0, ⟨60, 0⟩⟩, "a") :: [] := by
    rw [← List.filterMap_filterMap]
    show (historyOf 0 rest).filterMap Event.taken? = _
    rw [← hfirst.2, ← accountOf_consumed]
    exact hconsumed
  obtain ⟨pre, taking, later, rfl, -, htaking, -⟩ := exists_of_filterMap_eq htook
  obtain ⟨session, hhappening⟩ := Step.happening_of_taken htaking
  have hmem : taking ∈ granting :: st :: (pre ++ taking :: later) := by simp
  obtain ⟨rfl, -⟩ := Step.taken (run.goes hmem) hhappening
  refine ⟨granting :: st :: pre, st, taking, later, w',
    ⟨run, hstarts, ?_, hstart, hfirst.1, hreturned, ?_, hhappening, ?_⟩, huses⟩
  · exact List.mem_cons_of_mem _ List.mem_cons_self
  · rintro ⟨m, hm, hconfirmed⟩
    exact hposted m hm hconfirmed
  · refine .of_spares fun st' hst' => hspares st' ?_
    exact List.mem_cons_of_mem _ (List.mem_append_right _ (List.mem_cons_of_mem _ hst'))

/-- The use that a declined request gives back is the one that the session has afterwards. -/
theorem use_comes_back_declined :
    ∃ ss₁ st taking later w', Declines ss₁ st taking later w' ∧
      ∃ between returning rest n, later = between ++ returning :: rest ∧
        returning.happening = .accessed 0 (.restore "s") n ∧ returning.GivesUse "s" ∧
        (LeftAlone "s" ⟨60, 0⟩ (between ++ [returning]) →
          (returning.GivesUse "s" ↔ (∀ st ∈ between, ¬ st.Discards "s") ∧
            returning.before.host.ledger.usesLeft "s" < grantingHost.ledger.limits.maxUses.toNat) ∧
          (grantingHost.ledger.limits.maxUses.toNat ≤ returning.before.host.ledger.usesLeft "s" →
            BroughtLate "s" (ss₁ ++ taking :: between))) := by
  obtain ⟨ss₁, st, taking, later, w', h, huses⟩ := declines_of_moves (List.forall_mem_nil _) (some 0, some 1)
    (by decide +kernel)
  obtain ⟨between, returning, rest, n, hlater, hreturning, hback⟩ := h.run.use_comes_back rfl rfl h.starts h.mem h.start
    h.first h.returned h.declined rfl h.taking
  have hmem : returning ∈ ss₁ ++ taking :: later :=
    List.mem_append_right _ (List.mem_cons_of_mem _ (hlater ▸ List.mem_append_right _ List.mem_cons_self))
  have haround := usesAround_of_returning hmem hreturning
  rw [huses, List.mem_singleton, Prod.mk.injEq] at haround
  obtain ⟨s, hs, hnone⟩ := Option.map_eq_some_iff.1 haround.1
  obtain ⟨s', hs', hone⟩ := Option.map_eq_some_iff.1 haround.2
  refine ⟨ss₁, st, taking, later, w', h, between, returning, rest, n, hlater, hreturning, ⟨s, s', hs, hs', ?_⟩, hback⟩
  rw [hnone, hone]
  rfl

/-- The session is neither granted anew nor revoked and does not end, and the use that is given back is lost. -/
theorem use_lost_to_refused :
    ∃ ss₁ st taking later w', Declines ss₁ st taking later w' ∧
      ∃ between returning rest n, later = between ++ returning :: rest ∧
        returning.happening = .accessed 0 (.restore "s") n ∧ LeftAlone "s" ⟨60, 0⟩ (between ++ [returning]) ∧
        returning.after.host.ledger.sessions.get? "s" = none ∧ ¬ returning.GivesUse "s" := by
  have hordinary : ∀ m ∈ refuseUse, m.IsOrdinary :=
    List.forall_mem_cons.2 ⟨.inl ⟨quietSetup, onSession "r" "warmSession", rfl⟩, .of_all rfl⟩
  obtain ⟨ss₁, st, taking, later, w', h, huses⟩ := declines_of_moves hordinary (none, none) (by decide +kernel)
  obtain ⟨between, returning, rest, n, hlater, hreturning⟩ := h.run.gives_back rfl h.starts h.mem h.start h.first
    h.returned h.declined rfl h.taking
  have hmem : returning ∈ ss₁ ++ taking :: later :=
    List.mem_append_right _ (List.mem_cons_of_mem _ (hlater ▸ List.mem_append_right _ List.mem_cons_self))
  have haround := usesAround_of_returning hmem hreturning
  rw [huses, List.mem_singleton, Prod.mk.injEq] at haround
  refine ⟨ss₁, st, taking, later, w', h, between, returning, rest, n, hlater, hreturning, h.alone.mono ?_,
    Option.map_eq_none_iff.1 haround.2, Step.not_givesUse_of_gone (Option.map_eq_none_iff.1 haround.1)⟩
  rw [hlater, List.append_cons between returning rest]
  exact List.subset_append_left (between ++ [returning]) rest

end PasskeyConsent

import Mathlib.Data.List.Nodup
import Mathlib.Data.List.Perm.Subperm
import PasskeyConsent.Proofs.Confirmation.Signature
import PasskeyConsent.Proofs.Nonce.Uniqueness
import PasskeyConsent.Proofs.Session.Accounting
import PasskeyConsent.Proofs.Session.Returns
/-!
# The budget of a grant

Every run of a wallet is a run of its ledger (`Run.served`).  A use is given back without the name of the grant that it
was taken from, so one that was taken before a session was renewed is added to the budget of the new grant.  Uses that
are given back by those who took them since the grant cancel out; what is left is that no more uses are approved than
the grant has, and one more for each use that came back late (`Run.approved_le_budget`).
-/
namespace PasskeyConsent

open Confirmation
open Ledger (Mark Deed marksOf)

variable {α : Type} {id account : String}

/-! ## The ledger along a run -/

/-- The operation of the ledger that an access is. -/
def Access.ledgerAct? : Access → Option Ledger.Act
  | .grant session account => some (.grant session account)
  | .consume session account => some (.consume session account)
  | .restore session => some (.restore session)
  | .revoke session => some (.revoke session)
  | .purge => some .purge
  | _ => none

namespace Step

/-- What a step does to the ledger. -/
def deed? (st : Step α) : Option Deed :=
  (st.happening.use?.bind (·.access.ledgerAct?)).map (⟨st.before.host.ledger, st.before.host.wallClock, ·⟩)

/-- What a step is to a session. -/
def mark? (id : String) (st : Step α) : Option Mark := st.deed?.bind (·.mark? id)

/-- The task that makes the access of a step. -/
def client? (st : Step α) : Option Nat :=
  match st.happening with
  | .accessed i _ _ => some i
  | _ => none

end Step

theorem marksOf_deeds (id : String) (ss : List (Step α)) :
    marksOf id (ss.filterMap Step.deed?) = ss.filterMap (·.mark? id) := List.filterMap_filterMap

theorem Host.access_ledger (h : Host) (task : Nat) (own : Holdings) (a : Access) :
    (h.access task own a).2.1.ledger = (a.ledgerAct?.map (h.ledger.after h.wallClock)).getD h.ledger := by
  cases a with
  | grant session account =>
    show _ = ((h.ledger.grant h.wallClock session account).map (·.2)).getD h.ledger
    simp only [Host.access]
    cases h.ledger.grant h.wallClock session account <;> rfl
  | consume session account =>
    show _ = (h.ledger.consume h.wallClock session account).2
    simp only [Host.access]
    rcases h.ledger.consume h.wallClock session account with ⟨_ | _, l⟩ <;> rfl
  | reserve count => simp only [Host.access]; cases h.sequencer.reserve count <;> rfl
  | markBroadcast text => simp only [Host.access]; cases h.sequencer.markBroadcast text <;> rfl
  | register id => simp only [Host.access]; cases h.pending.contains id <;> rfl
  | cancel id => simp only [Host.access, Host.cancel]; cases h.pending.contains id <;> rfl
  | _ => rfl

theorem Wallet.Goes.ledger {w w' : Wallet α} {m : Move α} {h : Happening} (g : w.Goes m h w') :
    w'.host.ledger =
      ((h.use?.bind (·.access.ledgerAct?)).map (w.host.ledger.after w.host.wallClock)).getD w.host.ledger := by
  cases g with
  | access => exact w.host.access_ledger _ _ _
  | outside a => exact w.host.access_ledger _ _ _
  | @look i t v ht hs hl => cases v <;> rfl
  | @wait i t t' v x ht hl hr => cases v <;> rfl
  | _ => rfl

/-- **What a step does to the ledger**: an operation, or nothing. -/
theorem Step.ledger_cases (st : Step α) (g : st.before.Goes st.move st.happening st.after) :
    (st.deed? = none ∧ st.after.host.ledger = st.before.host.ledger) ∨
    ∃ act, st.happening.use?.bind (·.access.ledgerAct?) = some act ∧
      st.deed? = some ⟨st.before.host.ledger, st.before.host.wallClock, act⟩ ∧
      st.after.host.ledger = st.before.host.ledger.after st.before.host.wallClock act := by
  have hledger := g.ledger
  unfold deed?
  cases hact : st.happening.use?.bind (·.access.ledgerAct?) with
  | none =>
    rw [hact] at hledger
    exact .inl ⟨rfl, hledger⟩
  | some act =>
    rw [hact] at hledger
    exact .inr ⟨act, rfl, rfl, hledger⟩

/-- **Every run of a wallet is a run of its ledger.** -/
theorem Run.served {w w' : Wallet α} {ss : List (Step α)} (run : Run w ss w') :
    Ledger.Served w.host.ledger (ss.filterMap Step.deed?) w'.host.ledger := by
  induction run with
  | nil w => exact .nil _
  | @cons w w₁ w' m h ss first rest ih =>
    have hgoes := Wallet.Goes.of_step? first
    rcases Step.ledger_cases ⟨w, m, h, w₁⟩ hgoes with ⟨hdeed, hsame⟩ | ⟨act, -, hdeed, hafter⟩
    · rw [List.filterMap_cons_none hdeed]
      exact (show w₁.host.ledger = w.host.ledger from hsame) ▸ ih
    · rw [List.filterMap_cons_some hdeed]
      exact .cons w.host.wallClock act ((show w₁.host.ledger = w.host.ledger.after _ act from hafter) ▸ ih)

/-! ## Uses and returns -/

namespace Step

/-- Whether a step is this to a session. -/
def isMark (id : String) (m : Mark) (st : Step α) : Bool := st.mark? id == some m

end Step

/-- Whether it was a task that made these steps' access and took a use of the session at one of them. -/
def tookUse (id : String) (ss : List (Step α)) (client : Option Nat) : Bool :=
  client.isSome && ss.any fun st => st.isMark id .consumed && st.client? == client

/-- The steps that give a use of the session back. -/
def returnsOf (id : String) (ss : List (Step α)) : List (Step α) := ss.filter (·.isMark id .raised)

/-- Those made by a task that has taken a use in these steps. -/
def ownReturns (id : String) (ss : List (Step α)) : List (Step α) :=
  (returnsOf id ss).filter fun st => tookUse id ss st.client?

/-- Those made by anyone else: what they give back was taken before, or was not taken at all. -/
def lateReturns (id : String) (ss : List (Step α)) : List (Step α) :=
  (returnsOf id ss).filter fun st => !tookUse id ss st.client?

theorem Step.happening_of_raised {st : Step α} {i : Nat} (hclient : st.client? = some i)
    (hmark : st.isMark id .raised = true) : ∃ x, st.happening = .accessed i (.restore id) x := by
  obtain ⟨d, hd, hm⟩ := Option.bind_eq_some_iff.1 (beq_iff_eq.1 hmark)
  obtain ⟨act, hact, rfl⟩ := Option.map_eq_some_iff.1 hd
  obtain ⟨before, move, happening, after⟩ := st
  cases happening with
  | accessed j a x =>
    cases hclient
    have hrestore : act = .restore id := by
      unfold Deed.mark? at hm
      split at hm
      · split at hm <;> cases hm
      · split at hm <;> cases hm
      · rename_i hsession
        split at hm
        · rename_i hid
          exact hid.1 ▸ hsession
        · cases hm
      all_goals cases hm
    subst hrestore
    cases a <;> cases hact
    exact ⟨x, rfl⟩
  | _ => cases hclient

/-- What a task gives back of one session is not more than it gives back at all. -/
theorem countP_returns_le (id : String) (i : Nat) (ss : List (Step α)) :
    ss.countP (fun st => st.client? == some i && st.isMark id .raised) ≤ (accountOf i ss).restored.length := by
  rw [accountOf_restored, historyOf, List.filterMap_filterMap, List.length_filterMap_eq_countP]
  refine List.countP_mono_left fun st _ hst => ?_
  obtain ⟨hclient, hmark⟩ := Bool.and_eq_true_iff.1 hst
  obtain ⟨x, hx⟩ := st.happening_of_raised (beq_iff_eq.1 hclient) hmark
  rw [Happening.event?_of_eq (e := .accessed (.restore id) x) hx]
  rfl

/-- Tasks that give back one use at most are as many as the uses that they give back. -/
theorem nodup_ownReturns {ss : List (Step α)} (honce : ∀ i, (accountOf i ss).restored.length ≤ 1) :
    ((ownReturns id ss).map Step.client?).Nodup := by
  refine List.nodup_iff_count_le_one.2 fun client => ?_
  rw [List.count_eq_countP, List.countP_map]
  cases client with
  | none =>
    refine Nat.le_trans (Nat.le_of_eq (List.countP_eq_zero.2 fun st hst hnone => ?_)) (Nat.zero_le 1)
    have htook := (List.mem_filter.1 hst).2
    rw [show st.client? = none from beq_iff_eq.1 hnone] at htook
    cases htook
  | some i =>
    refine Nat.le_trans ?_ (Nat.le_trans (countP_returns_le id i ss) (honce i))
    rw [ownReturns, returnsOf, List.countP_filter, List.countP_filter]
    refine List.countP_mono_left fun st _ hst => ?_
    simp only [Bool.and_eq_true, Function.comp_apply] at hst
    rw [hst.1.1, hst.2]
    rfl

/-- A task that has given nothing back is none of those who gave back their own. -/
theorem not_mem_ownReturns {ss : List (Step α)} {i : Nat} (hkept : (accountOf i ss).restored = []) :
    some i ∉ (ownReturns id ss).map Step.client? := by
  intro hreturned
  obtain ⟨st, hst, hclient⟩ := List.mem_map.1 hreturned
  obtain ⟨hmem, hraised⟩ := List.mem_filter.1 (List.mem_filter.1 hst).1
  have hpos : 0 < ss.countP (fun st => st.client? == some i && st.isMark id .raised) :=
    List.countP_pos_iff.2 ⟨st, hmem, by rw [hclient, hraised]; simp⟩
  have hle := countP_returns_le id i ss
  rw [hkept] at hle
  exact absurd (Nat.lt_of_lt_of_le hpos hle) (Nat.lt_irrefl 0)

/-- **Those who take a use cover those who give their own back**: every task that has taken a use and has given none
back, and every task that has given back its own, took a use of its own. -/
theorem length_add_ownReturns_le {ss : List (Step α)} {keepers : List Nat} (hnodup : keepers.Nodup)
    (htook : ∀ i ∈ keepers, ∃ st ∈ ss, st.client? = some i ∧ st.mark? id = some .consumed)
    (hkept : ∀ i ∈ keepers, (accountOf i ss).restored = []) (honce : ∀ i, (accountOf i ss).restored.length ≤ 1) :
    keepers.length + (ownReturns id ss).length ≤ ss.countP (·.isMark id .consumed) := by
  have hkeepers : (keepers.map some).Nodup := hnodup.map fun _ _ h => Option.some.inj h
  have hall : (keepers.map some ++ (ownReturns id ss).map Step.client?).Nodup := by
    refine List.nodup_append.2 ⟨hkeepers, nodup_ownReturns honce, fun client hclient returner hreturner heq => ?_⟩
    obtain ⟨i, hi, rfl⟩ := List.mem_map.1 hclient
    exact not_mem_ownReturns (hkept i hi) (heq ▸ hreturner)
  have hsubset : keepers.map some ++ (ownReturns id ss).map Step.client? ⊆
      (ss.filter (·.isMark id .consumed)).map Step.client? := by
    intro client hclient
    rcases List.mem_append.1 hclient with hkeeper | hreturner
    · obtain ⟨i, hi, rfl⟩ := List.mem_map.1 hkeeper
      obtain ⟨st, hst, hclient, hmark⟩ := htook i hi
      exact List.mem_map.2 ⟨st, List.mem_filter.2 ⟨hst, beq_iff_eq.2 hmark⟩, hclient⟩
    · obtain ⟨st, hst, rfl⟩ := List.mem_map.1 hreturner
      obtain ⟨-, htaken⟩ := Bool.and_eq_true_iff.1 (List.mem_filter.1 hst).2
      obtain ⟨taking, htaking, hmark⟩ := List.any_eq_true.1 htaken
      obtain ⟨hconsumed, hsame⟩ := Bool.and_eq_true_iff.1 hmark
      exact List.mem_map.2 ⟨taking, List.mem_filter.2 ⟨htaking, hconsumed⟩, beq_iff_eq.1 hsame⟩
  have hlength := (hall.subperm hsubset).length_le
  rw [List.countP_eq_length_filter]
  simpa only [List.length_append, List.length_map] using hlength

theorem restored_sublist (i : Nat) {part ss : List (Step α)} (h : part.Sublist ss) :
    (accountOf i part).restored.Sublist (accountOf i ss).restored := by
  rw [accountOf_restored, accountOf_restored]
  exact (h.filterMap _).filterMap _

theorem length_returnsOf (id : String) (ss : List (Step α)) :
    ss.countP (·.isMark id .raised) = (ownReturns id ss).length + (lateReturns id ss).length := by
  rw [List.countP_eq_length_filter]
  exact List.length_eq_length_filter_add _

/-! ## Since a grant -/

/-- **Since a grant**, what was taken and what was given back balance with what is left. -/
theorem Run.since_grant {w w' : Wallet α} {granting : Step α} {since : List (Step α)}
    (run : Run w (granting :: since) w') (hsound : w.host.ledger.IsSound)
    (hgrant : granting.mark? id = some (.granted account))
    (hsince : ∀ st ∈ since, ∀ a, st.mark? id ≠ some (.granted a)) :
    since.countP (·.isMark id .consumed) ≤
      w.host.ledger.limits.maxUses.toNat + since.countP (·.isMark id .raised) ∧
    ∀ s, w'.host.ledger.sessions.get? id = some s →
      s.remainingUses.toNat + since.countP (·.isMark id .consumed) =
        w.host.ledger.limits.maxUses.toNat + since.countP (·.isMark id .raised) := by
  obtain ⟨d, hd, hm⟩ := Option.bind_eq_some_iff.1 hgrant
  have hserved := run.served
  rw [List.filterMap_cons_some hd] at hserved
  have hnone : ∀ m ∈ marksOf id (since.filterMap Step.deed?), m.grantee? = none := by
    intro m hmem
    rw [marksOf_deeds] at hmem
    obtain ⟨st, hst, hmark⟩ := List.mem_filterMap.1 hmem
    cases m with
    | granted a => exact absurd hmark (hsince st hst a)
    | consumed | raised => rfl
  have hcount (m : Mark) : (marksOf id (since.filterMap Step.deed?)).count m = since.countP (·.isMark id m) := by
    rw [marksOf_deeds, List.count_filterMap]
    rfl
  have hbalance := hserved.since_grant hsound hm hnone
  rw [hcount, hcount] at hbalance
  exact hbalance

variable {w w' : Wallet (Except Error Unit)} {ss ss₁ since rest : List (Step (Except Error Unit))}
  {granting : Step (Except Error Unit)}

/-- The session is not renewed in these steps, and each of these tasks has taken a use of it there and was approved. -/
structure Spends (id : String) (since ss : List (Step (Except Error Unit))) (approved : List Nat) : Prop where
  renewed : ∀ st ∈ since, ∀ account, st.mark? id ≠ some (.granted account)
  different : approved.Nodup
  taken : ∀ i ∈ approved, ∃ st ∈ since, st.client? = some i ∧ st.mark? id = some .consumed
  confirmed : ∀ i ∈ approved, (accountOf i ss).Confirmed

/-- **No more uses of a grant are approved than it has, and one more for each use that came back late**: in every run of
a wallet, whatever is approved, declined or cancelled, whoever renews sessions and purges the ledger, and whatever the
clock reads. -/
theorem Run.approved_le_budget (run : Run w ss w') (hempty : w.tasks = []) (hsound : w.host.ledger.IsSound)
    (hstarts : StartsOrdinary ss) (hss : ss = ss₁ ++ granting :: since ++ rest)
    (hgrant : granting.mark? id = some (.granted account)) {approved : List Nat} (h : Spends id since ss approved) :
    approved.length ≤ w.host.ledger.limits.maxUses.toNat + (lateReturns id since).length := by
  have hpart : since.Sublist ss := by
    rw [hss, List.append_assoc, List.cons_append]
    exact ((List.sublist_append_left since rest).cons granting).trans (List.sublist_append_right ss₁ _)
  have hfrugal := run.frugal hempty hstarts
  have honce (i : Nat) : (accountOf i since).restored.length ≤ 1 :=
    Nat.le_trans (restored_sublist i hpart).length_le (hfrugal i).once
  have hkept (i : Nat) (hi : i ∈ approved) : (accountOf i since).restored = [] := by
    have hsub := restored_sublist i hpart
    rw [(hfrugal i).withheld (h.confirmed i hi)] at hsub
    exact List.sublist_nil.1 hsub
  have hcover := length_add_ownReturns_le h.different h.taken hkept honce
  rw [hss, List.append_assoc] at run
  obtain ⟨_, before, after⟩ := run.split
  obtain ⟨_, window, -⟩ := after.split
  have hlimits := before.served.limits_eq
  obtain ⟨hspent, -⟩ := window.since_grant (before.served.isSound hsound) hgrant h.renewed
  rw [hlimits, length_returnsOf] at hspent
  omega

/-! A session of one use is renewed while its use is taken.  The use comes back after that of the new grant has been
approved, and another request is approved with it. -/

def renewedHost : Host :=
  { warmHost with
    bootstraps := ({} : Table FreshnessChallenge).put "a" (.ofOutput keptInput keptOutput)
    ledger := { limits := ⟨1, ⟨60000000000⟩⟩, sessions := ({} : Table WarmSession).put "s" ⟨"a", 1, ⟨60, 0⟩⟩ } }

def onSession (id mode : String) : Json :=
  .obj [("payload", .obj [("nearAccountId", .str "a"), ("sessionId", .str "s"), ("signingAuthMode", .str mode),
      ("txSigningRequests", .arr [.obj [("receiverId", .str "b")]])]),
    ("requestId", .str id), ("schemaVersion", .int 2), ("type", .str "signTransaction")]

def signedOnSession (id nonce : String) (uses : UInt32) : Response :=
  { Response.approved id with
    transactionContext := some ⟨"k", "6", nonce, "1", "h", [nonce]⟩
    warmSession := some ⟨"s", uses, ⟨60, 0⟩⟩ }

/-- What a request does until it has the context of the turn, when no surface is shown. -/
def reachTurn (i : Nat) (id mode : String) : List (Move (Except Error Unit)) :=
  Move.start (handle quietSetup (onSession id mode)) ::
  (List.replicate 3 (Move.advance i) ++ [Move.answer i .preferences { uiMode := .skip }] ++
  List.replicate 6 (Move.advance i))

/-- A request that has come so far signs with a ceremony and has the session granted. -/
def renewSession (i : Nat) (id nonce : String) : List (Move (Except Error Unit)) :=
  let input : FreshnessInput := ⟨"a", "", 1, "h", some (Digest.intent [⟨"b", []⟩])⟩
  let options : AssertionOptions := ⟨"", [1, 2, 3], ["c"], PrfSalts.forAccount "a"⟩
  let response : Response :=
    { signedOnSession id nonce 1 with
      credential := some secretCredential.record
      vrfChallenge := some (.ofOutput keptInput keptOutput) }
  List.replicate 3 (Move.advance i) ++ [Move.answer i .latestBlock (.error .notInitialized)] ++
  List.replicate 2 (Move.advance i) ++ [Move.answer i (.evaluate input.derive) (.error .keypairNotLoaded)] ++
  List.replicate 2 (Move.advance i) ++ [Move.answer i (.authenticators "a") (.ok [])] ++
  [Move.advance i, Move.answer i (.currentPasskey "a" []) (.ok ⟨[⟨"c", 0, []⟩], none⟩)] ++
  [Move.advance i, Move.answer i (.assertion options) (.ok secretCredential)] ++
  List.replicate 6 (Move.advance i) ++ [Move.answer i (.post response.message) (.ok ()), Move.advance i]

/-- Or it takes a use and is approved, -/
def approveUse (i : Nat) (id nonce : String) : List (Move (Except Error Unit)) :=
  List.replicate 2 (Move.advance i) ++ [Move.answer i (.dispense ⟨"s", 0, ⟨60, 0⟩⟩ "a") (.ok ())] ++
  List.replicate 6 (Move.advance i) ++ [Move.answer i (.post (signedOnSession id nonce 0).message) (.ok ()),
    Move.advance i]

/-- or has taken one and is declined. -/
def declineUse (i : Nat) (id : String) : List (Move (Except Error Unit)) :=
  let message := (Response.declined id .warmSessionUnavailable "Session key dispense failed: gone").message
  [Move.answer i (.dispense ⟨"s", 0, ⟨60, 0⟩⟩ "a") (.error (.dispenseFailed "gone"))] ++
  List.replicate 3 (Move.advance i) ++ [Move.answer i (.reclaim ⟨"s", 0, ⟨60, 0⟩⟩ "a") ()] ++
  List.replicate 2 (Move.advance i) ++ [Move.answer i (.post message) (.ok ()), Move.advance i]

def renewWhileUsed : List (Move (Except Error Unit)) :=
  reachTurn 0 "q" "warmSession" ++ List.replicate 2 (Move.advance 0) ++
  reachTurn 1 "g" "webAuthn" ++ renewSession 1 "g" "7" ++ reachTurn 2 "r" "warmSession" ++ approveUse 2 "r" "8" ++
  declineUse 0 "q" ++ reachTurn 3 "t" "warmSession" ++ approveUse 3 "t" "9"

theorem StartsOrdinary.of_moves {ms : List (Move (Except Error Unit))} (hmoves : ss.map (·.move) = ms)
    (h : ∀ m ∈ ms, m.IsOrdinary) : StartsOrdinary ss := by
  intro st hst p hp
  have hordinary := forall_move hmoves h st hst
  rw [hp] at hordinary
  exact hordinary

/-- The operations of the ledger at these steps: whose each is, and what it is to the session. -/
def workOf (id : String) (ss : List (Step α)) : List (Option Nat × Ledger.Act × Option Mark) :=
  ss.filterMap fun st => st.deed?.map fun d => (st.client?, d.act, d.mark? id)

theorem mem_workOf {ss : List (Step α)} {st : Step α} (hst : st ∈ ss) {d : Deed} (hd : st.deed? = some d) :
    (st.client?, d.act, d.mark? id) ∈ workOf id ss :=
  List.mem_filterMap.2 ⟨st, hst, by rw [hd]; rfl⟩

theorem step_of_work {ss : List (Step α)} {client : Option Nat} {act : Ledger.Act} {m : Option Mark}
    (work₁ : List (Option Nat × Ledger.Act × Option Mark)) {work₂ : List (Option Nat × Ledger.Act × Option Mark)}
    (h : workOf id ss = work₁ ++ (client, act, m) :: work₂) :
    ∃ ss₁ st ss₂, ss = ss₁ ++ st :: ss₂ ∧ st.client? = client ∧ st.mark? id = m ∧ workOf id ss₂ = work₂ := by
  obtain ⟨ss₁, st, ss₂, hss, -, hwork, hafter⟩ := exists_of_filterMap_eq h
  obtain ⟨d, hd, heq⟩ := Option.map_eq_some_iff.1 hwork
  cases heq
  exact ⟨ss₁, st, ss₂, hss, rfl, by rw [Step.mark?, hd]; rfl, hafter⟩

theorem renewWhileUsed_ordinary : ∀ m ∈ renewWhileUsed, m.IsOrdinary := by
  have hreach (i : Nat) (id mode : String) : ∀ m ∈ reachTurn i id mode, m.IsOrdinary :=
    List.forall_mem_cons.2 ⟨.inl ⟨quietSetup, onSession id mode, rfl⟩, .of_all rfl⟩
  have hrenew : ∀ m ∈ renewSession 1 "g" "7", m.IsOrdinary := .of_all rfl
  have happrove (i : Nat) (id nonce : String) : ∀ m ∈ approveUse i id nonce, m.IsOrdinary := .of_all rfl
  have hdecline : ∀ m ∈ declineUse 0 "q", m.IsOrdinary := .of_all rfl
  have htake : ∀ m ∈ List.replicate 2 (Move.advance (α := Except Error Unit) 0), m.IsOrdinary := .of_all rfl
  simp only [renewWhileUsed, List.forall_mem_append]
  exact ⟨⟨⟨⟨⟨⟨⟨⟨hreach _ _ _, htake⟩, hreach _ _ _⟩, hrenew⟩, hreach _ _ _⟩, happrove _ _ _⟩, hdecline⟩, hreach _ _ _⟩,
    happrove _ _ _⟩

/-- The session is renewed, and then two uses are taken and approved; one was given back in between. -/
theorem renewWhileUsed_run :
    ∃ ss₁ granting since ss w', Run ⟨renewedHost, []⟩ ss w' ∧ StartsOrdinary ss ∧
      ss = ss₁ ++ granting :: since ++ [] ∧ granting.mark? "s" = some (.granted "a") ∧
      (∀ st ∈ since, ∀ d, st.deed? = some d → d.act ≠ .revoke "s") ∧ Spends "s" since ss [2, 3] := by
  have htold : ((Wallet.mk renewedHost []).trace? renewWhileUsed).map (fun r =>
        (workOf "s" r.1, [2, 3].all fun i => (accountOf i r.1).posted.any fun m =>
          m.get? "confirmed" == some (.bool true))) =
      some ([(some 0, .consume "s" "a", some .consumed), (some 1, .grant "s" "a", some (.granted "a")),
        (some 2, .consume "s" "a", some .consumed), (some 0, .restore "s", some .raised),
        (some 3, .consume "s" "a", some .consumed)], true) := by decide +kernel
  obtain ⟨⟨ss, w'⟩, htrace, htold⟩ := Option.map_eq_some_iff.1 htold
  obtain ⟨hwork, hconfirmed⟩ := Prod.mk.inj htold
  obtain ⟨ss₁, granting, since, hss, -, hgrant, hsince⟩ := step_of_work [_] hwork
  have hdone : ∀ st ∈ since, ∀ d, st.deed? = some d →
      d.act ≠ .revoke "s" ∧ ∀ account, d.mark? "s" ≠ some (.granted account) := by
    intro st hst d hd
    have hmem : (st.client?, d.act, d.mark? "s") ∈ workOf "s" since := mem_workOf hst hd
    rw [hsince] at hmem
    generalize d.act = act, d.mark? "s" = m, st.client? = client at hmem ⊢
    simp only [List.mem_cons, List.not_mem_nil, or_false, Prod.mk.injEq] at hmem
    rcases hmem with ⟨-, rfl, rfl⟩ | ⟨-, rfl, rfl⟩ | ⟨-, rfl, rfl⟩ <;> exact ⟨nofun, nofun⟩
  refine ⟨ss₁, granting, since, ss, w', .of_trace? htrace,
    .of_moves (Wallet.moves_of_trace? htrace) renewWhileUsed_ordinary, hss.trans (List.append_nil _).symm,
    hgrant, fun st hst d hd => (hdone st hst d hd).1, ?_, by decide, fun i hi => ?_, fun i hi => ?_⟩
  · intro st hst account hmark
    obtain ⟨d, hd, hm⟩ := Option.bind_eq_some_iff.1 hmark
    exact (hdone st hst d hd).2 account hm
  · have hmem : (some i, .consume "s" "a", some .consumed) ∈ workOf "s" since := by
      rw [hsince]
      simp only [List.mem_cons, List.not_mem_nil, or_false] at hi
      rcases hi with rfl | rfl <;> decide
    obtain ⟨work₁, work₂, hwork⟩ := List.append_of_mem hmem
    obtain ⟨before, st, after, rfl, hclient, hmark, -⟩ := step_of_work work₁ hwork
    exact ⟨st, List.mem_append_right _ List.mem_cons_self, hclient, hmark⟩
  · obtain ⟨m, hm, hposted⟩ := List.any_eq_true.1 (List.all_eq_true.1 hconfirmed i hi)
    exact ⟨m, hm, beq_iff_eq.1 hposted⟩

theorem approved_le_budget_renewWhileUsed :
    ∃ ss₁ granting since ss w', Run ⟨renewedHost, []⟩ ss w' ∧ ss = ss₁ ++ granting :: since ++ [] ∧
      granting.mark? "s" = some (.granted "a") ∧ Spends "s" since ss [2, 3] ∧
      [2, 3].length ≤ renewedHost.ledger.limits.maxUses.toNat + (lateReturns "s" since).length := by
  obtain ⟨ss₁, granting, since, ss, w', run, hstarts, hss, hgrant, -, hspends⟩ := renewWhileUsed_run
  have hsound : renewedHost.ledger.IsSound := List.nodup_singleton _
  exact ⟨ss₁, granting, since, ss, w', run, hss, hgrant, hspends,
    run.approved_le_budget rfl hsound hstarts hss hgrant hspends⟩

/-- The grant has one use, and is neither renewed nor revoked before the two that are approved are taken. -/
theorem approved_exceeds_uses :
    ∃ ss₁ granting since ss w', Run ⟨renewedHost, []⟩ ss w' ∧ StartsOrdinary ss ∧
      ss = ss₁ ++ granting :: since ++ [] ∧ granting.mark? "s" = some (.granted "a") ∧
      (∀ st ∈ since, ∀ d, st.deed? = some d → d.act ≠ .revoke "s") ∧ Spends "s" since ss [2, 3] ∧
      renewedHost.ledger.limits.maxUses.toNat < [2, 3].length := by
  obtain ⟨ss₁, granting, since, ss, w', run, hstarts, hss, hgrant, hrevoked, hspends⟩ := renewWhileUsed_run
  exact ⟨ss₁, granting, since, ss, w', run, hstarts, hss, hgrant, hrevoked, hspends, by decide⟩

end PasskeyConsent

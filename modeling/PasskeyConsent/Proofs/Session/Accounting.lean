import Mathlib.Data.List.DropRight
import PasskeyConsent.Session.Ledger
/-!
# The accounts of a ledger

What the operations of a ledger do to one session is written down as the marks of that session: that it was granted,
that a use was taken, that a use was given back.  `Deed.affects` says once what an operation can do to a session, and
with which mark; every law of the ledger is read off the marks.  The uses that are left balance with the marks since the
last grant, in whatever order the operations come and whatever the clock reads at each (`Balanced`).
-/
namespace PasskeyConsent

namespace WarmSession

variable {s : WarmSession} {now : Instant}

theorem isUsable_iff : s.isUsable now = true ↔ s.remainingUses ≠ 0 ∧ s.isOver now = false := by
  simp [isUsable]

/-- A session that is over stays over. -/
theorem isOver_mono {later : Instant} (hle : now.le later = true) (h : s.isOver now = true) :
    s.isOver later = true := Instant.le_trans h hle

theorem isUsable_anti {later : Instant} (hle : now.le later = true) (h : s.isUsable later = true) :
    s.isUsable now = true := by
  obtain ⟨huses, hover⟩ := isUsable_iff.1 h
  refine isUsable_iff.2 ⟨huses, ?_⟩
  cases hnow : s.isOver now with
  | false => rfl
  | true => rw [isOver_mono hle hnow] at hover; cases hover

end WarmSession

namespace Ledger

variable {l l' : Ledger} {now : Instant} {id account : String}

/-! ## What each operation does -/

theorem grant_eq_some {p : WarmSessionGrant × Ledger} (h : l.grant now id account = some p) :
    ∃ expiresAt, p.2 = { l with sessions := l.sessions.put id ⟨account, l.limits.maxUses, expiresAt⟩ } := by
  obtain ⟨expiresAt, -, heq⟩ := Option.map_eq_some_iff.1 h
  cases heq
  exact ⟨expiresAt, rfl⟩

/-- **What taking a use does**: it is refused and nothing changes, or the session cannot be used and is removed, or the
use is taken. -/
theorem consume_cases (l : Ledger) (now : Instant) (id account : String) :
    (l.consume now id account = (.error (.notFound id), l) ∧
      ∀ s, l.sessions.get? id = some s → s.account ≠ account) ∨
    ∃ s, l.sessions.get? id = some s ∧ s.account = account ∧
      ((s.isUsable now = false ∧ ∃ e, l.consume now id account =
          (.error e, { l with sessions := l.sessions.erase id })) ∨
       (s.isUsable now = true ∧ l.consume now id account =
          (.ok ⟨id, s.remainingUses - 1, s.expiresAt⟩,
            { l with sessions := l.sessions.put id { s with remainingUses := s.remainingUses - 1 } }))) := by
  unfold consume
  cases hs : l.sessions.get? id with
  | none => exact .inl ⟨rfl, nofun⟩
  | some s =>
    dsimp only
    split
    · rename_i hne
      exact .inl ⟨rfl, fun _ h => Option.some.inj h ▸ hne⟩
    · rename_i heq
      refine .inr ⟨s, rfl, not_not.1 heq, ?_⟩
      split
      · rename_i hover
        exact .inl ⟨by simp [WarmSession.isUsable, hover], _, rfl⟩
      · rename_i hover
        split
        · rename_i hzero
          exact .inl ⟨by simp [WarmSession.isUsable, hzero], _, rfl⟩
        · rename_i huses
          exact .inr ⟨WarmSession.isUsable_iff.2 ⟨huses, Bool.eq_false_iff.2 hover⟩, rfl⟩

/-- **What giving a use back does**: nothing to a session that is gone or over, and to another one use more up to the
full budget. -/
theorem restore_cases (l : Ledger) (now : Instant) (id : String) :
    (l.restore now id = (none, l) ∧ ∀ s, l.sessions.get? id = some s → s.isOver now = true) ∨
    ∃ s, l.sessions.get? id = some s ∧ s.isOver now = false ∧
      ((s.remainingUses < l.limits.maxUses ∧ l.restore now id = (some (s.remainingUses + 1),
          { l with sessions := l.sessions.put id { s with remainingUses := s.remainingUses + 1 } })) ∨
       (l.limits.maxUses ≤ s.remainingUses ∧ l.restore now id = (some l.limits.maxUses,
          { l with sessions := l.sessions.put id { s with remainingUses := l.limits.maxUses } }))) := by
  unfold restore
  cases hs : l.sessions.get? id with
  | none => exact .inl ⟨rfl, nofun⟩
  | some s =>
    dsimp only
    split
    · rename_i hover
      exact .inl ⟨rfl, fun _ h => Option.some.inj h ▸ hover⟩
    · rename_i hover
      refine .inr ⟨s, rfl, Bool.eq_false_iff.2 hover, ?_⟩
      split
      · rename_i hlt
        exact .inl ⟨hlt, rfl⟩
      · rename_i hlt
        exact .inr ⟨UInt32.not_lt.1 hlt, rfl⟩

theorem status_of_get? {s : WarmSession} (h : l.sessions.get? id = some s) :
    l.status now id = if s.isUsable now then some (s.grant id) else none := by
  unfold status
  rw [h]
  rfl

theorem status_of_gone (h : l.sessions.get? id = none) : l.status now id = none := by
  unfold status
  rw [h]
  rfl

theorem status_isSome :
    (l.status now id).isSome = true ↔ ∃ s, l.sessions.get? id = some s ∧ s.isUsable now = true := by
  cases hs : l.sessions.get? id with
  | none => simp [status_of_gone hs]
  | some s => cases hu : s.isUsable now <;> simp [status_of_get? hs, hu]

/-! ## Operations as they are carried out -/

/-- An operation of a ledger. -/
inductive Act where
  | grant (id account : String)
  | consume (id account : String)
  | restore (id : String)
  | status (id : String)
  | revoke (id : String)
  | purge
deriving DecidableEq, Repr

/-- The ledger after an operation at a reading of the clock.  A grant that has no end in the calendar leaves it as it
is. -/
def after (l : Ledger) (now : Instant) : Act → Ledger
  | .grant id account => ((l.grant now id account).map (·.2)).getD l
  | .consume id account => (l.consume now id account).2
  | .restore id => (l.restore now id).2
  | .status _ => l
  | .revoke id => (l.revoke id).2
  | .purge => (l.purge now).2

/-- The session that an operation is about.  A purge is about all of them. -/
def Act.session? : Act → Option String
  | .grant id _ | .consume id _ | .restore id | .status id | .revoke id => some id
  | .purge => none

/-- **What an operation does to the table of sessions**: nothing, or it puts or erases the session that it is about, or
it sweeps out all that cannot be used. -/
inductive Alters (l : Ledger) (now : Instant) (act : Act) : Ledger → Prop
  | nothing : Alters l now act l
  | puts {id : String} (hid : act.session? = some id) (s : WarmSession) :
    Alters l now act { l with sessions := l.sessions.put id s }
  | erases {id : String} (hid : act.session? = some id) : Alters l now act { l with sessions := l.sessions.erase id }
  | sweeps (hact : act = .purge) : Alters l now act { l with sessions := l.sessions.keep (·.isUsable now) }

theorem after_alters (l : Ledger) (now : Instant) (act : Act) : l.Alters now act (l.after now act) := by
  cases act with
  | grant id account =>
    show l.Alters now _ ((l.grant now id account).map (·.2) |>.getD l)
    cases hg : l.grant now id account with
    | none => exact .nothing
    | some p =>
      obtain ⟨expiresAt, hl⟩ := grant_eq_some hg
      show l.Alters now _ p.2
      rw [hl]
      exact .puts rfl _
  | consume id account =>
    show l.Alters now _ (l.consume now id account).2
    rcases consume_cases l now id account with ⟨heq, -⟩ | ⟨s, -, -, ⟨-, e, heq⟩ | ⟨-, heq⟩⟩ <;> rw [heq]
    · exact .nothing
    · exact .erases rfl
    · exact .puts rfl _
  | restore id =>
    show l.Alters now _ (l.restore now id).2
    rcases restore_cases l now id with ⟨heq, -⟩ | ⟨s, -, -, ⟨-, heq⟩ | ⟨-, heq⟩⟩ <;> rw [heq]
    · exact .nothing
    · exact .puts rfl _
    · exact .puts rfl _
  | status id => exact .nothing
  | revoke id => exact .erases rfl
  | purge => exact .sweeps rfl

/-- An operation on one session leaves the others as they are. -/
theorem get?_after_of_ne {act : Act} {id' : String} (hact : act.session? = some id') (hne : id ≠ id') :
    (l.after now act).sessions.get? id = l.sessions.get? id := by
  have change := l.after_alters now act
  generalize l.after now act = l' at change ⊢
  cases change with
  | nothing => rfl
  | puts hid s =>
    cases hact.symm.trans hid
    exact Table.get?_put_of_ne _ hne _
  | erases hid =>
    cases hact.symm.trans hid
    exact Table.get?_erase_of_ne _ hne
  | sweeps hpurge =>
    subst hpurge
    cases hact

/-- An operation with the ledger that it is carried out on and the reading of the clock. -/
structure Deed where
  before : Ledger
  now : Instant
  act : Act
deriving DecidableEq, Repr

/-- What a deed was to a session. -/
inductive Mark where
  /-- It was granted anew, to an account. -/
  | granted (account : String)
  /-- A use was taken. -/
  | consumed
  /-- A use was given back that the session did not have. -/
  | raised
deriving DecidableEq, Repr

/-- The uses that a session has left, none if it is gone. -/
def usesLeft (l : Ledger) (id : String) : Nat := (l.sessions.get? id).elim 0 (·.remainingUses.toNat)

namespace Deed

def after (d : Deed) : Ledger := d.before.after d.now d.act

def mark? (id : String) (d : Deed) : Option Mark :=
  match d.act with
  | .grant id' account => if id' = id ∧ (d.before.grant d.now id' account).isSome then some (.granted account) else none
  | .consume id' account => if id' = id ∧ (d.before.consume d.now id' account).1.isOk then some .consumed else none
  | .restore id' => if id' = id ∧ d.before.usesLeft id < d.after.usesLeft id then some .raised else none
  | .status _ | .revoke _ | .purge => none

end Deed

/-- **Everything that a deed can do to a session**, with the mark that it leaves. -/
inductive Affects (id : String) (d : Deed) : Option WarmSession → Option Mark → Option WarmSession → Prop
  | granted {old : Option WarmSession} (account : String) (expiresAt : Instant) :
    Affects id d old (some (.granted account)) (some ⟨account, d.before.limits.maxUses, expiresAt⟩)
  | consumed {s : WarmSession} (h : s.isUsable d.now = true) :
    Affects id d (some s) (some .consumed) (some { s with remainingUses := s.remainingUses - 1 })
  | raised {s : WarmSession} (hover : s.isOver d.now = false) (h : s.remainingUses < d.before.limits.maxUses) :
    Affects id d (some s) (some .raised) (some { s with remainingUses := s.remainingUses + 1 })
  | capped {s : WarmSession} (h : d.before.limits.maxUses ≤ s.remainingUses) :
    Affects id d (some s) none (some { s with remainingUses := d.before.limits.maxUses })
  | kept (entry : Option WarmSession) : Affects id d entry none entry
  | revoked {entry : Option WarmSession} (h : d.act = .revoke id) : Affects id d entry none none
  | dropped {s : WarmSession} (h : s.isUsable d.now = false) : Affects id d (some s) none none

theorem toNat_succ {a b : UInt32} (h : a < b) : (a + 1).toNat = a.toNat + 1 := by
  have hlt := UInt32.lt_iff_toNat_lt.1 h
  have hb := b.toNat_lt
  rw [UInt32.toNat_add]
  exact Nat.mod_eq_of_lt (by simp only [UInt32.toNat_one]; omega)

theorem toNat_pred {a : UInt32} (h : a ≠ 0) : (a - 1).toNat + 1 = a.toNat := by
  have hpos : 0 < a.toNat := Nat.pos_of_ne_zero fun h0 => h (UInt32.toNat_inj.1 h0)
  have hle : (1 : UInt32) ≤ a := UInt32.le_iff_toNat_le.2 hpos
  rw [UInt32.toNat_sub_of_le _ _ hle]
  exact Nat.sub_add_cancel hpos

/-- Each session stands once in the ledger. -/
def IsSound (l : Ledger) : Prop := l.sessions.keys.Nodup

namespace Deed

variable {d : Deed}

@[simp] theorem after_limits (d : Deed) : d.after.limits = d.before.limits := by
  have change := d.before.after_alters d.now d.act
  unfold after
  generalize d.before.after d.now d.act = l' at change ⊢
  cases change <;> rfl

theorem after_isSound (h : d.before.IsSound) : d.after.IsSound := by
  have change := d.before.after_alters d.now d.act
  unfold after
  generalize d.before.after d.now d.act = l' at change ⊢
  cases change with
  | nothing => exact h
  | puts _ s => exact Table.nodup_keys_put h _ s
  | erases => exact Table.nodup_keys_erase h _
  | sweeps => exact Table.nodup_keys_keep h _

/-! ## What a deed does to a session -/

/-- A deed leaves no mark on another session than the one it is about. -/
theorem mark?_of_ne {id' : String} (hact : d.act.session? = some id') (hne : id ≠ id') : d.mark? id = none := by
  obtain ⟨l, now, act⟩ := d
  cases act with
  | grant | consume | restore =>
    cases hact
    exact if_neg fun h => hne h.1.symm
  | status | revoke | purge => rfl

theorem affects_of_ne {id' : String} (hact : d.act.session? = some id') (hne : id ≠ id') :
    Affects id d (d.before.sessions.get? id) (d.mark? id) (d.after.sessions.get? id) := by
  have hkept : d.after.sessions.get? id = d.before.sessions.get? id := get?_after_of_ne hact hne
  rw [hkept, mark?_of_ne hact hne]
  exact .kept _

theorem affects_grant (hact : d.act = .grant id account) :
    Affects id d (d.before.sessions.get? id) (d.mark? id) (d.after.sessions.get? id) := by
  obtain ⟨l, now, act⟩ := d
  subst hact
  show Affects id _ (l.sessions.get? id) (if id = id ∧ (l.grant now id account).isSome then _ else none)
    (((l.grant now id account).map (·.2) |>.getD l).sessions.get? id)
  cases hg : l.grant now id account with
  | none =>
    rw [if_neg (by simp)]
    exact .kept _
  | some p =>
    obtain ⟨expiresAt, hl⟩ := grant_eq_some hg
    show Affects id _ _ _ (p.2.sessions.get? id)
    rw [hl, if_pos ⟨rfl, rfl⟩, Table.get?_put_self]
    exact .granted account expiresAt

theorem affects_consume (hact : d.act = .consume id account) :
    Affects id d (d.before.sessions.get? id) (d.mark? id) (d.after.sessions.get? id) := by
  obtain ⟨l, now, act⟩ := d
  subst hact
  show Affects id _ (l.sessions.get? id) (if id = id ∧ (l.consume now id account).1.isOk then _ else none)
    ((l.consume now id account).2.sessions.get? id)
  rcases consume_cases l now id account with ⟨heq, -⟩ | ⟨s, hs, -, ⟨hu, e, heq⟩ | ⟨hu, heq⟩⟩ <;> rw [heq]
  · rw [if_neg (by simp [Except.isOk, Except.toBool])]
    exact .kept _
  · rw [if_neg (by simp [Except.isOk, Except.toBool]), hs, Table.get?_erase_self]
    exact .dropped hu
  · rw [if_pos ⟨rfl, rfl⟩, hs, Table.get?_put_self]
    exact .consumed hu

theorem affects_restore (hact : d.act = .restore id) :
    Affects id d (d.before.sessions.get? id) (d.mark? id) (d.after.sessions.get? id) := by
  obtain ⟨l, now, act⟩ := d
  subst hact
  show Affects id _ (l.sessions.get? id)
    (if id = id ∧ l.usesLeft id < (l.restore now id).2.usesLeft id then _ else none)
    ((l.restore now id).2.sessions.get? id)
  rcases restore_cases l now id with ⟨heq, -⟩ | ⟨s, hs, hover, ⟨huses, heq⟩ | ⟨huses, heq⟩⟩ <;> rw [heq]
  · rw [if_neg (by simp)]
    exact .kept _
  · have hmore : s.remainingUses.toNat < (s.remainingUses + 1).toNat := (toNat_succ huses).symm ▸ Nat.lt_succ_self _
    rw [if_pos ⟨rfl, by simpa [usesLeft, hs, Table.get?_put_self] using hmore⟩, hs, Table.get?_put_self]
    exact .raised hover huses
  · rw [if_neg (by simpa [usesLeft, hs, Table.get?_put_self] using UInt32.le_iff_toNat_le.1 huses), hs,
      Table.get?_put_self]
    exact .capped huses

theorem affects_status {id' : String} (hact : d.act = .status id') :
    Affects id d (d.before.sessions.get? id) (d.mark? id) (d.after.sessions.get? id) := by
  obtain ⟨l, now, act⟩ := d
  subst hact
  exact .kept _

theorem affects_revoke (hact : d.act = .revoke id) :
    Affects id d (d.before.sessions.get? id) (d.mark? id) (d.after.sessions.get? id) := by
  obtain ⟨l, now, act⟩ := d
  subst hact
  show Affects id _ (l.sessions.get? id) none ((l.sessions.erase id).get? id)
  rw [Table.get?_erase_self]
  exact .revoked rfl

/-- A purge drops a session that cannot be used. -/
theorem affects_purge (h : d.before.IsSound) (hact : d.act = .purge) :
    Affects id d (d.before.sessions.get? id) (d.mark? id) (d.after.sessions.get? id) := by
  obtain ⟨l, now, act⟩ := d
  subst hact
  show Affects id _ (l.sessions.get? id) none ((l.sessions.keep (·.isUsable now)).get? id)
  rw [Table.get?_keep h]
  cases hs : l.sessions.get? id with
  | none => exact .kept _
  | some s =>
    cases hu : s.isUsable now with
    | true =>
      rw [Option.filter_some, if_pos hu]
      exact .kept _
    | false =>
      rw [Option.filter_some, if_neg (by simp [hu])]
      exact .dropped hu

/-- **What a deed does to a session**, whichever operation it is. -/
theorem affects (h : d.before.IsSound) (id : String) :
    Affects id d (d.before.sessions.get? id) (d.mark? id) (d.after.sessions.get? id) := by
  by_cases hother : ∃ id', d.act.session? = some id' ∧ id ≠ id'
  · obtain ⟨id', hid', hne⟩ := hother
    exact affects_of_ne hid' hne
  · have hself {id' : String} (hid' : d.act.session? = some id') : id' = id :=
      not_not.1 fun hne => hother ⟨id', hid', Ne.symm hne⟩
    cases hact : d.act with
    | grant id' account =>
      obtain rfl : id' = id := hself (congrArg Act.session? hact)
      exact affects_grant hact
    | consume id' account =>
      obtain rfl : id' = id := hself (congrArg Act.session? hact)
      exact affects_consume hact
    | restore id' =>
      obtain rfl : id' = id := hself (congrArg Act.session? hact)
      exact affects_restore hact
    | status id' => exact affects_status hact
    | revoke id' =>
      obtain rfl : id' = id := hself (congrArg Act.session? hact)
      exact affects_revoke hact
    | purge => exact affects_purge h hact

end Deed

/-! ## Marks -/

/-- The marks of a session in the order in which they were made. -/
def marksOf (id : String) (ds : List Deed) : List Mark := ds.filterMap (·.mark? id)

namespace Mark

def grantee? : Mark → Option String
  | granted account => some account
  | consumed | raised => none

end Mark

/-- The account that a session was last granted to. -/
def lastGrantee? (ms : List Mark) : Option String := (ms.filterMap Mark.grantee?).getLast?

/-- The marks since the last grant. -/
def sinceGrant (ms : List Mark) : List Mark := ms.rtakeWhile fun m => m.grantee?.isNone

/-- **The balance of a session**: the uses that are left and those that were taken since the last grant are as many as
those that a new session has and those that were given back.  Of a session that is gone no more than these were taken. -/
structure Balanced (maxUses : Nat) (ms : List Mark) (entry : Option WarmSession) : Prop where
  spent : (sinceGrant ms).count .consumed ≤ maxUses + (sinceGrant ms).count .raised
  entry : ∀ s, entry = some s → lastGrantee? ms = some s.account ∧
    s.remainingUses.toNat ≤ maxUses ∧
    s.remainingUses.toNat + (sinceGrant ms).count .consumed = maxUses + (sinceGrant ms).count .raised

theorem Balanced.nil (maxUses : Nat) : Balanced maxUses [] none := ⟨Nat.zero_le _, nofun⟩

theorem sinceGrant_granted (ms : List Mark) (account : String) : sinceGrant (ms ++ [.granted account]) = [] :=
  List.rtakeWhile_concat_neg _ _ _ (by simp [Mark.grantee?])

theorem sinceGrant_snoc (ms : List Mark) {m : Mark} (h : m.grantee? = none) :
    sinceGrant (ms ++ [m]) = sinceGrant ms ++ [m] :=
  List.rtakeWhile_concat_pos _ _ _ (by simp [h])

theorem sinceGrant_of_granted (done : List Mark) (account : String) {ms : List Mark}
    (h : ∀ m ∈ ms, m.grantee? = none) : sinceGrant (done ++ .granted account :: ms) = ms := by
  induction ms using List.reverseRecOn with
  | nil => exact sinceGrant_granted done account
  | append_singleton ms m ih =>
    obtain ⟨hms, hm⟩ := List.forall_mem_append.1 h
    rw [← List.cons_append, ← List.append_assoc, sinceGrant_snoc _ (hm m (List.mem_singleton_self m)), ih hms]

theorem lastGrantee?_granted (ms : List Mark) (account : String) :
    lastGrantee? (ms ++ [.granted account]) = some account := by
  simp [lastGrantee?, Mark.grantee?]

theorem lastGrantee?_snoc (ms : List Mark) {m : Mark} (h : m.grantee? = none) :
    lastGrantee? (ms ++ [m]) = lastGrantee? ms := by
  simp [lastGrantee?, h]

/-- A session that is granted is balanced, whatever it was before. -/
theorem Balanced.granted (ms : List Mark) (account : String) (expiresAt : Instant) (maxUses : UInt32) :
    Balanced maxUses.toNat (ms ++ [.granted account]) (some ⟨account, maxUses, expiresAt⟩) := by
  constructor
  · rw [sinceGrant_granted]
    exact Nat.zero_le _
  · rintro _ ⟨rfl⟩
    rw [lastGrantee?_granted, sinceGrant_granted]
    exact ⟨rfl, Nat.le_refl _, rfl⟩

/-- **A deed keeps the balance of every session.** -/
theorem Balanced.affects {d : Deed} {ms : List Mark} {old new : Option WarmSession} {m : Option Mark}
    (h : Balanced d.before.limits.maxUses.toNat ms old) (ha : Affects id d old m new) :
    Balanced d.before.limits.maxUses.toNat (ms ++ m.toList) new := by
  cases ha with
  | granted account expiresAt => exact .granted ms account expiresAt _
  | @consumed s hu =>
    obtain ⟨hlast, hle, hbalance⟩ := h.entry s rfl
    have hless := toNat_pred (WarmSession.isUsable_iff.1 hu).1
    show Balanced _ (ms ++ [.consumed]) _
    have hs := sinceGrant_snoc ms (m := .consumed) rfl
    refine ⟨?_, fun t ht => ?_⟩
    · rw [hs, List.count_append, List.count_append]
      show _ + 1 ≤ _ + (_ + 0)
      omega
    · cases ht
      rw [hs, lastGrantee?_snoc ms rfl, List.count_append, List.count_append]
      refine ⟨hlast, ?_, ?_⟩
      · show (s.remainingUses - 1).toNat ≤ _
        omega
      · show (s.remainingUses - 1).toNat + (_ + 1) = _ + (_ + 0)
        omega
  | @raised s hover huses =>
    obtain ⟨hlast, hle, hbalance⟩ := h.entry s rfl
    have hmore := toNat_succ huses
    have hlt := UInt32.lt_iff_toNat_lt.1 huses
    show Balanced _ (ms ++ [.raised]) _
    have hs := sinceGrant_snoc ms (m := .raised) rfl
    refine ⟨?_, fun t ht => ?_⟩
    · rw [hs, List.count_append, List.count_append]
      show _ + 0 ≤ _ + (_ + 1)
      omega
    · cases ht
      rw [hs, lastGrantee?_snoc ms rfl, List.count_append, List.count_append]
      refine ⟨hlast, ?_, ?_⟩
      · show (s.remainingUses + 1).toNat ≤ _
        omega
      · show (s.remainingUses + 1).toNat + (_ + 0) = _ + (_ + 1)
        omega
  | @capped s huses =>
    obtain ⟨hlast, hle, hbalance⟩ := h.entry s rfl
    have heq : s.remainingUses.toNat = d.before.limits.maxUses.toNat :=
      Nat.le_antisymm hle (UInt32.le_iff_toNat_le.1 huses)
    rw [Option.toList_none, List.append_nil]
    refine ⟨h.spent, fun t ht => ?_⟩
    cases ht
    exact ⟨hlast, Nat.le_refl _, by rw [← hbalance, heq]⟩
  | kept entry =>
    rw [Option.toList_none, List.append_nil]
    exact h
  | revoked _ | dropped _ =>
    rw [Option.toList_none, List.append_nil]
    exact ⟨h.spent, nofun⟩

/-! ## Runs of a ledger -/

/-- A ledger through a sequence of deeds, whatever the clock reads at each. -/
inductive Served : Ledger → List Deed → Ledger → Prop
  | nil (l : Ledger) : Served l [] l
  | cons {l l' : Ledger} {ds : List Deed} (now : Instant) (act : Act) (rest : Served (l.after now act) ds l') :
    Served l (⟨l, now, act⟩ :: ds) l'

namespace Served

variable {ds : List Deed}

theorem limits_eq (h : Served l ds l') : l'.limits = l.limits := by
  induction h with
  | nil => rfl
  | cons now act rest ih => rw [ih]; exact Deed.after_limits ⟨_, now, act⟩

theorem isSound (h : Served l ds l') (hl : l.IsSound) : l'.IsSound := by
  induction h with
  | nil => exact hl
  | @cons l _ _ now act rest ih => exact ih (Deed.after_isSound (d := ⟨l, now, act⟩) hl)

/-- **Every session stays balanced**, with the marks that it had before. -/
theorem balanced (h : Served l ds l') (hl : l.IsSound) {ms : List Mark}
    (hms : Balanced l.limits.maxUses.toNat ms (l.sessions.get? id)) :
    Balanced l.limits.maxUses.toNat (ms ++ marksOf id ds) (l'.sessions.get? id) := by
  induction h generalizing ms with
  | nil => rw [marksOf, List.filterMap_nil, List.append_nil]; exact hms
  | @cons l l' ds now act rest ih =>
    have hthere := hms.affects (d := ⟨l, now, act⟩) (Deed.affects hl id)
    have hlimits : (l.after now act).limits = l.limits := Deed.after_limits ⟨l, now, act⟩
    have hmarks : ms ++ marksOf id (⟨l, now, act⟩ :: ds) =
        ms ++ (Deed.mark? id ⟨l, now, act⟩).toList ++ marksOf id ds := by
      rw [marksOf, List.filterMap_cons, List.append_assoc]
      cases Deed.mark? id ⟨l, now, act⟩ <;> rfl
    have hrest := ih (Deed.after_isSound (d := ⟨l, now, act⟩) hl) (by rw [hlimits]; exact hthere)
    rw [hlimits] at hrest
    rw [hmarks]
    exact hrest

/-- **Since a grant** of a session no more uses are taken than a new session has and are given back, and what is left of
it are the others. -/
theorem since_grant {d : Deed} (h : Served l (d :: ds) l') (hl : l.IsSound) (hd : d.mark? id = some (.granted account))
    (hsince : ∀ m ∈ marksOf id ds, m.grantee? = none) :
    (marksOf id ds).count .consumed ≤ l.limits.maxUses.toNat + (marksOf id ds).count .raised ∧
    ∀ s, l'.sessions.get? id = some s →
      s.remainingUses.toNat + (marksOf id ds).count .consumed =
        l.limits.maxUses.toNat + (marksOf id ds).count .raised := by
  cases h with
  | cons now act rest =>
    have hlimits : (l.after now act).limits = l.limits := Deed.after_limits ⟨l, now, act⟩
    have hgranted : Balanced l.limits.maxUses.toNat [.granted account] ((l.after now act).sessions.get? id) := by
      have haffects : Affects id ⟨l, now, act⟩ (l.sessions.get? id) (some (.granted account))
          ((l.after now act).sessions.get? id) := hd ▸ Deed.affects hl id
      generalize l.sessions.get? id = old, (l.after now act).sessions.get? id = new at haffects
      cases haffects with
      | granted _ expiresAt => exact .granted [] account expiresAt _
    have hbalanced := rest.balanced (Deed.after_isSound (d := ⟨l, now, act⟩) hl) (hlimits ▸ hgranted)
    rw [hlimits] at hbalanced
    have hmarks : sinceGrant ([.granted account] ++ marksOf id ds) = marksOf id ds :=
      sinceGrant_of_granted [] account hsince
    have hspent := hbalanced.spent
    rw [hmarks] at hspent
    refine ⟨hspent, fun s hs => ?_⟩
    have hentry := (hbalanced.entry s hs).2.2
    rw [hmarks] at hentry
    exact hentry

end Served

/-! ## The laws of a ledger -/

/-- The count of a purge is the number of the sessions that have no status. -/
theorem purge_count (hl : l.IsSound) (now : Instant) :
    (l.purge now).1 = (l.sessions.keys.filter fun id => (l.status now id).isNone).length := by
  have hstatus (id : String) : ((l.sessions.get? id).any (·.isUsable now)) = (l.status now id).isSome := by
    cases hs : l.sessions.get? id with
    | none => rw [status_of_gone hs]; rfl
    | some s => cases hu : s.isUsable now <;> simp [status_of_get? hs, hu]
  have hkept : (l.sessions.keep (·.isUsable now)).keys = l.sessions.keys.filter fun id => (l.status now id).isSome :=
    (Table.keys_keep hl _).trans (List.filter_congr fun id _ => hstatus id)
  have hsize (t : Table WarmSession) : t.size = t.keys.length := (List.length_map _).symm
  show l.sessions.size - (l.sessions.keep _).size = _
  rw [hsize, hsize, hkept, List.length_eq_length_filter_add fun id => (l.status now id).isSome, Nat.add_sub_cancel_left]
  simp only [Option.not_isSome]

theorem get?_purge (hl : l.IsSound) (now : Instant) (id : String) :
    (l.purge now).2.sessions.get? id = if (l.status now id).isSome then l.sessions.get? id else none := by
  show (l.sessions.keep _).get? id = _
  rw [Table.get?_keep hl]
  cases hs : l.sessions.get? id with
  | none => rw [status_of_gone hs]; rfl
  | some s => cases hu : s.isUsable now <;> simp [status_of_get? hs, hu, Option.filter_some]

/-- A purge changes no status from then on. -/
theorem status_purge (hl : l.IsSound) {later : Instant} (hle : now.le later = true) (id : String) :
    (l.purge now).2.status later id = l.status later id := by
  cases hs : l.sessions.get? id with
  | none =>
    rw [status_of_gone hs]
    exact status_of_gone (by rw [get?_purge hl, status_of_gone hs]; rfl)
  | some s =>
    have hpurged := get?_purge hl now id
    rw [status_of_get? hs] at hpurged
    cases hu : s.isUsable now with
    | true =>
      rw [hu] at hpurged
      rw [status_of_get? hs, status_of_get? (hpurged.trans hs)]
    | false =>
      have hlater : s.isUsable later = false := by
        cases hlater : s.isUsable later with
        | false => rfl
        | true => rw [WarmSession.isUsable_anti hle hlater] at hu; cases hu
      rw [hu] at hpurged
      rw [status_of_get? hs, status_of_gone hpurged, hlater]
      rfl

/-- **The accounts of a ledger** that began with these limits and without sessions and went through these deeds. -/
structure Accounts (limits : SessionLimits) (ds : List Deed) (l : Ledger) : Prop where
  /-- No session has more uses left than a new one. -/
  bounded : ∀ id s, l.sessions.get? id = some s → s.remainingUses ≤ limits.maxUses
  /-- Since the last grant, what is left are the uses of a new session less those taken and more those given back. -/
  balanced : ∀ id s, l.sessions.get? id = some s →
    s.remainingUses.toNat + (sinceGrant (marksOf id ds)).count .consumed =
      limits.maxUses.toNat + (sinceGrant (marksOf id ds)).count .raised
  /-- A use can be taken exactly if the session has a status and was last granted to the account. -/
  consumable : ∀ now id account, (l.consume now id account).1.isOk = true ↔
    (l.status now id).isSome = true ∧ lastGrantee? (marksOf id ds) = some account
  /-- It is then the status with one use less and the same end. -/
  consumed : ∀ now id account g, (l.consume now id account).1 = .ok g → ∃ g₀, l.status now id = some g₀ ∧
    g.sessionId = g₀.sessionId ∧ g.remainingUses.toNat + 1 = g₀.remainingUses.toNat ∧ g.expiresAt = g₀.expiresAt
  /-- Another account changes nothing. -/
  refused : ∀ now id account, lastGrantee? (marksOf id ds) ≠ some account →
    l.consume now id account = (.error (.notFound id), l)
  /-- A purge counts the sessions without a status, each of which stands once, -/
  purged : ∀ now, l.sessions.keys.Nodup ∧
    (l.purge now).1 = (l.sessions.keys.filter fun id => (l.status now id).isNone).length
  /-- removes exactly these, -/
  kept : ∀ now id, (l.purge now).2.sessions.get? id = if (l.status now id).isSome then l.sessions.get? id else none
  /-- and changes no status, at its own instant or any later one. -/
  statuses : ∀ now later id, now.le later = true → (l.purge now).2.status later id = l.status later id

/-- **The accounts are right after every run of the ledger**, in whatever order the operations come and whatever the
clock reads at each. -/
theorem Served.accounts {limits : SessionLimits} {ds : List Deed} (h : Served ⟨limits, {}⟩ ds l) :
    Accounts limits ds l := by
  have hempty : IsSound ⟨limits, {}⟩ := List.nodup_nil
  have hsound : l.IsSound := h.isSound hempty
  have hbalanced (id : String) : Balanced limits.maxUses.toNat (marksOf id ds) (l.sessions.get? id) := by
    have hmarks : Balanced limits.maxUses.toNat ([] ++ marksOf id ds) (l.sessions.get? id) := h.balanced hempty (.nil _)
    rwa [List.nil_append] at hmarks
  refine {
    bounded := fun id s hs => UInt32.le_iff_toNat_le.2 ((hbalanced id).entry s hs).2.1
    balanced := fun id s hs => ((hbalanced id).entry s hs).2.2
    consumable := fun now id account => ?consumable
    consumed := fun now id account g hg => ?consumed
    refused := fun now id account hne => ?refused
    purged := fun now => ⟨hsound, purge_count hsound now⟩
    kept := get?_purge hsound
    statuses := fun now later id hle => status_purge hsound hle id }
  case consumable =>
    rw [status_isSome]
    rcases consume_cases l now id account with ⟨heq, hother⟩ | ⟨s, hs, rfl, ⟨hu, e, heq⟩ | ⟨hu, heq⟩⟩ <;> rw [heq]
    · refine ⟨nofun, fun ⟨⟨s, hs, _⟩, hlast⟩ => absurd ?_ (hother s hs)⟩
      rw [((hbalanced id).entry s hs).1] at hlast
      exact Option.some.inj hlast
    · refine ⟨nofun, fun ⟨⟨t, ht, hut⟩, _⟩ => ?_⟩
      rw [hs] at ht
      cases ht
      rw [hu] at hut
      cases hut
    · exact ⟨fun _ => ⟨⟨s, hs, hu⟩, ((hbalanced id).entry s hs).1⟩, fun _ => rfl⟩
  case consumed =>
    rcases consume_cases l now id account with ⟨heq, -⟩ | ⟨s, hs, -, ⟨-, e, heq⟩ | ⟨hu, heq⟩⟩ <;> rw [heq] at hg <;>
      cases hg
    refine ⟨s.grant id, ?_, rfl, toNat_pred (WarmSession.isUsable_iff.1 hu).1, rfl⟩
    rw [status_of_get? hs, if_pos hu]
  case refused =>
    rcases consume_cases l now id account with ⟨heq, -⟩ | ⟨s, hs, rfl, -⟩
    · exact heq
    · exact absurd ((hbalanced id).entry s hs).1 hne

/-- A session of one use that is used up, refuses the next use to another account, and is revived. -/
theorem accounts_of_revived : ∃ ds l, Served ⟨⟨1, ⟨60000000000⟩⟩, {}⟩ ds l ∧
    marksOf "s1" ds = [.granted "alice", .consumed, .raised] ∧
    l.status ⟨4, 0⟩ "s1" = some ⟨"s1", 1, ⟨60, 0⟩⟩ ∧ Accounts ⟨1, ⟨60000000000⟩⟩ ds l := by
  have run : Served ⟨⟨1, ⟨60000000000⟩⟩, {}⟩ _ _ :=
    .cons ⟨0, 0⟩ (.grant "s1" "alice") <| .cons ⟨1, 0⟩ (.consume "s1" "alice") <|
    .cons ⟨2, 0⟩ (.consume "s1" "mallory") <| .cons ⟨3, 0⟩ (.restore "s1") (.nil _)
  exact ⟨_, _, run, by decide +kernel, by decide +kernel, run.accounts⟩

end Ledger
end PasskeyConsent

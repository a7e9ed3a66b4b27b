import PasskeyConsent.Proofs.Config.Resolution
import PasskeyConsent.Proofs.Session.Accounting
import PasskeyConsent.Proofs.Text.Numeral
/-!
# How long a session lasts

A configuration that has been resolved gives its sessions uses and some seconds to live.  The seconds pass three limits
before they end a session: 64 bits, the milliseconds that a duration of the calendar can count, and the last second of
the calendar.  What is beyond the second limit counts as no time at all, so that the session is over when it is granted;
what is within it and beyond the third cannot be granted.  Every other session is there with all its uses
(`granted_usable_iff`).
-/
namespace PasskeyConsent

namespace Config

variable {env : Environment} {s : Settings} {c : Config} {key : String}

theorem positive_eq_ok {n m : Nat} (h : positive key n = .ok m) : 0 < m ∧ m = n := by
  unfold positive at h
  split at h
  · cases h
  · rename_i hn
    cases h
    exact ⟨Nat.pos_of_ne_zero hn, rfl⟩

theorem le_of_numberOf {limit n : Nat} {text : String}
    (h : Environment.numberOf (Text.readNumeral limit) key text = .ok n) : n ≤ limit := by
  unfold Environment.numberOf at h
  cases hread : Text.readNumeral limit text with
  | error f => rw [hread] at h; cases h
  | ok m => rw [hread] at h; exact Except.ok.inj h ▸ Text.le_of_readNumeral hread

/-- A session of a resolved configuration has uses. -/
theorem uses_of_resolve (h : resolve env s = .ok c) : 0 < c.warmSession.maxUses := by
  have hpos {n : Nat} (hn : 0 < n) (hle : n ≤ Text.maxU32) (hc : .ok (.ofNat n) = (Except.ok c.warmSession.maxUses : Except ConfigError _)) :
      0 < c.warmSession.maxUses := by
    rw [← Except.ok.inj hc, UInt32.lt_iff_toNat_lt, UInt32.toNat_ofNat_of_lt' (Nat.lt_of_le_of_lt hle (by decide))]
    exact hn
  obtain ⟨given, -, hread⟩ := settles_of_resolve h .maxUses
  cases given with
  | none =>
    obtain ⟨n, hn, hc⟩ := ok_of_bind hread
    obtain ⟨hpositive, heq⟩ := positive_eq_ok hn
    exact hpos hpositive (heq ▸ Nat.le_sub_one_of_lt (UInt32.toNat_lt _)) hc
  | some text =>
    obtain ⟨m, hm, hread⟩ := ok_of_bind hread
    obtain ⟨n, hn, hc⟩ := ok_of_bind hread
    obtain ⟨hpositive, heq⟩ := positive_eq_ok hn
    exact hpos hpositive (heq ▸ le_of_numberOf hm) hc

/-- A session of a resolved configuration has some seconds to live, as many as fit 64 bits. -/
theorem time_of_resolve (h : resolve env s = .ok c) :
    ∃ t, 0 < t ∧ t ≤ Text.maxU64 ∧ c.warmSession.timeToLive = .ofSeconds t := by
  obtain ⟨given, -, hread⟩ := settles_of_resolve h .timeToLive
  cases given with
  | none =>
    obtain ⟨n, hn, hc⟩ := ok_of_bind hread
    obtain ⟨hpositive, heq⟩ := positive_eq_ok hn
    exact ⟨n, hpositive, heq ▸ Nat.le_sub_one_of_lt (UInt64.toNat_lt _), (Except.ok.inj hc).symm⟩
  | some text =>
    obtain ⟨m, hm, hread⟩ := ok_of_bind hread
    obtain ⟨n, hn, hc⟩ := ok_of_bind hread
    obtain ⟨hpositive, heq⟩ := positive_eq_ok hn
    exact ⟨n, hpositive, heq ▸ le_of_numberOf hm, (Except.ok.inj hc).symm⟩

end Config

open Calendar

/-- What a clock reads: an instant of the calendar that is in no leap second. -/
def Instant.IsReading (now : Instant) : Prop :=
  firstSecond ≤ now.seconds ∧ now.seconds ≤ lastSecond ∧ now.nanos < 1000000000

instance (now : Instant) : Decidable now.IsReading := inferInstanceAs (Decidable (_ ∧ _ ∧ _))

/-- Whole seconds are added to an instant as they are. -/
theorem Instant.addNanos?_seconds {now : Instant} (hnow : now.nanos < 1000000000) (t : Nat) :
    now.addNanos? (t * 1000000000) =
      if now.seconds + t ≤ lastSecond then some ⟨now.seconds + t, now.nanos⟩ else none := by
  have hnanos : now.nanos + t * 1000000000 % 1000000000 = now.nanos := by omega
  have hseconds : t * 1000000000 / 1000000000 + now.nanos / 1000000000 = t := by omega
  simp only [addNanos?, hnanos, hseconds, Nat.mod_eq_of_lt hnow]

namespace Ledger

variable {l : Ledger} {t : Nat}

/-- A time to live is what it says, or nothing if it has more milliseconds than can be counted. -/
theorem timeToLive_of_seconds (ht : l.limits.timeToLive = .ofSeconds t) :
    l.timeToLive = (if t * 1000 ≤ longestMillis then t else 0) * 1000000000 := by
  have hcountable : t * 1000000000 ≤ longestMillis * 1000000 ↔ t * 1000 ≤ longestMillis := by
    rw [show t * 1000000000 = t * 1000 * 1000000 by omega]
    exact Nat.mul_le_mul_right_iff (by decide)
  rw [timeToLive, ht]
  simp only [Duration.ofSeconds, hcountable]
  split
  · rfl
  · rw [Nat.zero_mul]

/-- The state of a session right after its grant. -/
theorem status_of_granted {now e : Instant} {id account : String} (huses : 0 < l.limits.maxUses) :
    ({ l with sessions := l.sessions.put id ⟨account, l.limits.maxUses, e⟩ } : Ledger).status now id =
      if e.le now then none else some ⟨id, l.limits.maxUses, e⟩ := by
  have hne : l.limits.maxUses ≠ 0 := fun h => by
    rw [h] at huses
    exact absurd huses (by decide)
  rw [status_of_get? (l.sessions.get?_put_self id _)]
  cases hle : e.le now with
  | true => exact if_neg fun h => by simp [WarmSession.isUsable, WarmSession.isOver, hle] at h
  | false => exact if_pos (by simp [WarmSession.isUsable, WarmSession.isOver, hle, hne])

/-- **What a grant is at the moment it is made**, for every resolved configuration and every reading of the clock: it
fails just if its time to live can be counted and takes it past the end of the calendar; a session that has been granted
is there with all its uses if its time to live can be counted, and else it is over already. -/
theorem granted_usable_iff {env : Environment} {s : Settings} {c : Config} (hc : Config.resolve env s = .ok c)
    (hl : l.limits = c.warmSession) {now : Instant} (hnow : now.IsReading) (id account : String) :
    ∃ t, 0 < t ∧ t ≤ Text.maxU64 ∧ 0 < c.warmSession.maxUses ∧ c.warmSession.timeToLive = .ofSeconds t ∧
      (l.grant now id account = none ↔ t * 1000 ≤ longestMillis ∧ lastSecond < now.seconds + t) ∧
      ∀ g l', l.grant now id account = some (g, l') →
        l'.status now id =
          if t * 1000 ≤ longestMillis then some ⟨id, c.warmSession.maxUses, ⟨now.seconds + t, now.nanos⟩⟩ else none := by
  obtain ⟨t, ht, hle, htime⟩ := Config.time_of_resolve hc
  obtain ⟨-, hlast, hnanos⟩ := hnow
  have huses := Config.uses_of_resolve hc
  refine ⟨t, ht, hle, huses, htime, ?_⟩
  rw [← hl] at huses htime
  rw [← hl, grant, timeToLive_of_seconds htime, Instant.addNanos?_seconds hnanos]
  by_cases hcount : t * 1000 ≤ longestMillis
  · simp only [if_pos hcount]
    split
    · rename_i hend
      refine ⟨by simp [hcount, hend], fun g l' h => ?_⟩
      cases Option.some.inj h
      have hover : Instant.le ⟨now.seconds + t, now.nanos⟩ now = false := by simp [Instant.le]; omega
      rw [status_of_granted huses, hover]
      rfl
    · rename_i hend
      refine ⟨by simp [hcount]; omega, fun g l' h => ?_⟩
      cases h
  · simp only [if_neg hcount]
    rw [if_pos (by omega)]
    refine ⟨by simp [hcount], fun g l' h => ?_⟩
    cases Option.some.inj h
    have hover : Instant.le ⟨now.seconds + (0 : Nat), now.nanos⟩ now = true := by simp [Instant.le]
    rw [status_of_granted huses, hover]
    rfl

/-- Settings under which a session lasts some seconds. -/
def lasting (t : UInt64) : Settings := { rpc := { url := some "https://[::1]" }, warmSession := { ttlSecs := t } }

/-- A moment of the year 2023. -/
def someMoment : Instant := ⟨1700000000, 0⟩

theorem granted_usable_iff_minute :
    ∃ c, Config.resolve {} (lasting 60) = .ok c ∧ ∃ g l, c.ledger.grant someMoment "s1" "alice.testnet" = some (g, l) ∧
      l.status someMoment "s1" = some ⟨"s1", 3, ⟨1700000060, 0⟩⟩ := by
  obtain ⟨c, hc, hlimits⟩ := ok_of_any (r := Config.resolve {} (lasting 60))
    (p := fun c => c.warmSession = ⟨3, .ofSeconds 60⟩) (by decide +kernel)
  have hlimits : c.warmSession = ⟨3, .ofSeconds 60⟩ := of_decide_eq_true hlimits
  obtain ⟨t, -, -, -, ht, hfails, hstatus⟩ :=
    granted_usable_iff (l := c.ledger) hc rfl (show someMoment.IsReading by decide +kernel) "s1" "alice.testnet"
  have ht : t = 60 := by
    rw [hlimits] at ht
    have := congrArg Duration.nanos ht
    simp only [Duration.ofSeconds] at this
    omega
  subst ht
  cases hgrant : c.ledger.grant someMoment "s1" "alice.testnet" with
  | none => exact absurd (hfails.1 hgrant) (by decide +kernel)
  | some p =>
    refine ⟨c, hc, p.1, p.2, hgrant, ?_⟩
    rw [hstatus p.1 p.2 hgrant, hlimits]
    rfl

/-- **A time to live that the configuration takes may be none at all, or more than a grant survives.** -/
theorem granted_already_over :
    (∃ c, Config.resolve {} (lasting 10000000000000000) = .ok c ∧ ∃ g l,
      c.ledger.grant someMoment "s1" "alice.testnet" = some (g, l) ∧ l.status someMoment "s1" = none) ∧
    ∃ c, Config.resolve {} (lasting 9000000000000) = .ok c ∧
      c.ledger.grant someMoment "s1" "alice.testnet" = none := by
  constructor
  · obtain ⟨c, hc, hlimits⟩ := ok_of_any (r := Config.resolve {} (lasting 10000000000000000))
      (p := fun c => c.warmSession = ⟨3, .ofSeconds 10000000000000000⟩) (by decide +kernel)
    refine ⟨c, hc, ?_⟩
    rw [Config.ledger, of_decide_eq_true hlimits]
    exact ⟨_, _, rfl, by decide +kernel⟩
  · obtain ⟨c, hc, hlimits⟩ := ok_of_any (r := Config.resolve {} (lasting 9000000000000))
      (p := fun c => c.warmSession = ⟨3, .ofSeconds 9000000000000⟩) (by decide +kernel)
    refine ⟨c, hc, ?_⟩
    rw [Config.ledger, of_decide_eq_true hlimits]
    decide +kernel

end Ledger
end PasskeyConsent

import PasskeyConsent.Proofs.Nonce.Rebinding
/-!
# Numbers behind a broadcast

A number that was marked as broadcast is spent, and every number before it: the floor does not go back, the next number
lies beyond it, and an answer of the chain that is older than the broadcast is taken in only as far as it goes beyond
the floor (`Serves.spent`).  Only a reset makes the sequencer forget it.  So what is reserved lies beyond the last
answer of the chain, beyond every broadcast and below the greatest number of all (`reserve_beyond_broadcasts`).
-/
namespace PasskeyConsent

open Text (maxU64)

variable {α : Type}

/-- The number was marked as broadcast, and the sequencer has not been reset since. -/
def Broadcast (us : List Use) (n : Nat) : Prop :=
  ∃ us₁ text us₂, us = us₁ ++ ⟨.markBroadcast text, .ok ()⟩ :: us₂ ∧ Text.readU64 text = .ok n ∧ ∀ u ∈ us₂, ¬ u.Resets

theorem Broadcast.of_snoc {us : List Use} {u : Use} {n : Nat} (h : Broadcast (us ++ [u]) n) :
    (∃ text, u = ⟨.markBroadcast text, .ok ()⟩ ∧ Text.readU64 text = .ok n) ∨ Broadcast us n ∧ ¬ u.Resets := by
  obtain ⟨us₁, text, us₂, heq, hread, hkept⟩ := h
  rcases snoc_eq_append_cons heq with ⟨-, rfl, -⟩ | ⟨us₃, rfl, hus⟩
  · exact .inl ⟨text, rfl, hread⟩
  · obtain ⟨hbefore, hlast⟩ := List.forall_mem_append.1 hkept
    exact .inr ⟨⟨us₁, text, us₃, hus, hread, hbefore⟩, hlast u (List.mem_singleton_self u)⟩

namespace Sequencer

variable {s s' : Sequencer} {us : List Use} {u : Use} {n : Nat} {text : String}

/-- The number is passed, and the floor keeps it so whatever the chain answers. -/
def Spent (s : Sequencer) (n : Nat) : Prop := s.Passed n ∧ ∃ floor, s.floor = some floor ∧ n ≤ floor

theorem spent_of_markBroadcast (h : s.markBroadcast text = .ok s') (hread : Text.readU64 text = .ok n) : s'.Spent n := by
  obtain ⟨m, hm, hlt, rfl⟩ := markBroadcast_eq_ok h
  have hmn : m = n := Except.ok.inj (hm.symm.trans hread)
  have hfloor : n ≤ max (s.floor.getD m) m := hmn ▸ Nat.le_max_right _ _
  exact ⟨Passed.mark hlt (.inr hmn.symm) _ _, _, rfl, hfloor⟩

/-- **What is spent stays spent.** -/
theorem Serves.spent (h : s.Serves u s') (hn : s.Spent n) : s'.Spent n := by
  obtain ⟨hpassed, floor, hfloor, hle⟩ := hn
  refine ⟨?_, h.floor hfloor hle⟩
  cases ha : u.absorbed? with
  | none => exact h.passed ha hpassed
  | some a =>
    obtain ⟨x, rfl⟩ := Use.eq_of_absorbed? ha
    cases h with
    | absorb => exact passed_absorb (.inr ⟨floor, hfloor, hle⟩)
    | other => exact hpassed

theorem Takes.spent_of_mark (t : s.Takes ⟨.markBroadcast text, .ok ()⟩ s') (hread : Text.readU64 text = .ok n) :
    s'.Spent n := by
  cases t.serves id with
  | mark h => exact spent_of_markBroadcast h hread
  | other _ hretires => exact absurd hread (hretires n)

/-- **In the course of a life**, what was broadcast since the last reset is spent. -/
theorem Lives.spent (h : Lives s us s') (hn : Broadcast us n) : s'.Spent n := by
  induction h with
  | nil =>
    obtain ⟨us₁, text, us₂, heq, -⟩ := hn
    cases us₁ <;> cases heq
  | snoc _ last ih =>
    rcases hn.of_snoc with ⟨text, rfl, hread⟩ | ⟨hbefore, hreset⟩
    · exact last.spent_of_mark hread
    · exact (last.serves hreset).spent (ih hbefore)

theorem Passed.lt_of_mem_picked {count : Nat} {picked : List Nat} (hn : s.Passed n) (h : s.reserve count = .ok (picked, s'))
    {m : Nat} (hm : m ∈ picked) : n < m := by
  by_cases hle : m ≤ n
  · exact absurd hm ((hn.of_le hle).not_mem_picked h)
  · exact Nat.lt_of_not_le hle

/-- **Marking fails just for a text that is no number, or the greatest.** -/
theorem markBroadcast_isOk_iff : (s.markBroadcast text).isOk = true ↔ ∃ n < maxU64, Text.readU64 text = .ok n := by
  unfold markBroadcast
  cases hread : Text.readU64 text with
  | error e => simp [Except.isOk, Except.toBool]
  | ok n =>
    by_cases hlt : n < maxU64
    · simp [hlt, Except.isOk, Except.toBool]
    · simp [hlt, Except.isOk, Except.toBool]

end Sequencer

/-- What a failed marking leaves of the host, and when it fails. -/
theorem Host.access_markBroadcast (h : Host) (task : Nat) (own : Holdings) (text : String) :
    ((h.access task own (.markBroadcast text)).1 = .ok () ↔ ∃ n < maxU64, Text.readU64 text = .ok n) ∧
      ((h.access task own (.markBroadcast text)).1 ≠ .ok () → (h.access task own (.markBroadcast text)).2 = (h, own)) := by
  rw [← Sequencer.markBroadcast_isOk_iff (s := h.sequencer)]
  simp only [Host.access]
  cases h.sequencer.markBroadcast text with
  | error e => simp [Except.isOk, Except.toBool]
  | ok s => simp [Except.isOk, Except.toBool]

variable {w w' : Wallet α} {m : Move α} {happening : Happening} {ss ss₁ ss₂ : List (Step α)} {st : Step α}

/-- A sequencer that gives out numbers goes by the answer to a query, and has passed what the answer says is used. -/
theorem Run.passed_of_reserve (run : Run w ss w') (hempty : w.tasks = []) (hnext : w.host.sequencer.next = none)
    (huses : ∀ st ∈ ss, st.move.UsesSequencer) {count : Nat} {picked : List Nat} {s : Sequencer}
    (hs : w'.host.sequencer.reserve count = .ok (picked, s)) :
    ∃ k accessNonce during, GoesByQuery ss k accessNonce during ∧ w'.host.sequencer.Passed accessNonce := by
  rcases run.lives.goesBy hnext with ⟨hnone, -⟩ | ⟨-, accessNonce, hgoes, hpassed⟩
  · obtain ⟨start, hstart, -⟩ := Sequencer.reserve_eq_ok hs
    rw [hnone] at hstart
    cases hstart
  · obtain ⟨k, during, hquery⟩ := run.goesByQuery hempty huses hgoes
    exact ⟨k, accessNonce, during, hquery, hpassed⟩

/-- **What is reserved lies beyond the last answer of the chain and beyond every broadcast**, whatever is asked in
between and however late it is answered, and below the greatest number.  Marking succeeds for every number below the
greatest, and where it fails nothing changes. -/
theorem reserve_beyond_broadcasts (run : Run w ss w') (hempty : w.tasks = []) (hnext : w.host.sequencer.next = none)
    (huses : ∀ st ∈ ss, st.move.UsesSequencer) (hss : ss = ss₁ ++ st :: ss₂) :
    (∀ count picked, st.happening.use? = some ⟨.reserve count, .ok picked⟩ →
      ∃ k accessNonce during, GoesByQuery ss₁ k accessNonce during ∧
        ∀ n ∈ picked, accessNonce < n ∧ n < maxU64 ∧ ∀ b, Broadcast (usesOf ss₁) b → b < n) ∧
    ∀ text r, st.happening.use? = some ⟨.markBroadcast text, r⟩ →
      (r = .ok () ↔ ∃ b < maxU64, Text.readU64 text = .ok b) ∧ (r ≠ .ok () → st.after.host = st.before.host) := by
  subst hss
  obtain ⟨before, -, -⟩ := run.cut
  have hgoes := run.goes (List.mem_append_right ss₁ List.mem_cons_self)
  refine ⟨fun count picked hreserve => ?_, fun text r hmark => ?_⟩
  · obtain ⟨s, hs⟩ := hgoes.reserve_ok hreserve
    have hthere : ∀ st' ∈ ss₁, st'.move.UsesSequencer := fun st' h => huses st' (List.mem_append_left _ h)
    obtain ⟨k, accessNonce, during, hquery, hpassed⟩ := before.passed_of_reserve hempty hnext hthere hs
    obtain ⟨_, -, -, -, hpicked, -⟩ := Sequencer.reserve_eq_ok hs
    refine ⟨k, accessNonce, during, hquery, fun n hn => ⟨hpassed.lt_of_mem_picked hs hn, (hpicked n hn).2.1, ?_⟩⟩
    exact fun b hb => (before.lives.spent hb).1.lt_of_mem_picked hs hn
  · obtain ⟨task, own, hanswer, hhost⟩ := hgoes.exists_access hmark
    obtain ⟨hiff, hunchanged⟩ := st.before.host.access_markBroadcast task own text
    rw [hanswer] at hiff hunchanged
    refine ⟨hiff, fun hfailed => ?_⟩
    rw [← hhost, hunchanged hfailed]

/-! The chain answers 150, a task marks 160 as broadcast, and a node that lags behind answers it 100. -/

def broadcastThenReserve : Program (Except Error Unit) := do
  let _ ← Program.access (.markBroadcast "160")
  reserveOne

theorem broadcastThenReserve_takesTurns : broadcastThenReserve.TakesTurns :=
  .bind (.effect (.access (.markBroadcast "160")) rfl) fun _ => reserveOne_takesTurns

def broadcastBeforeLag : List (Move (Except Error Unit)) :=
  Move.start lookUp :: Move.start broadcastThenReserve ::
  (fetching 0 ⟨"a", "k"⟩ 150 ++ List.replicate 3 (Move.advance 0) ++ [Move.advance 1] ++ fetching 1 ⟨"a", "k"⟩ 100 ++
  List.replicate 3 (Move.advance 1))

theorem reserve_beyond_broadcasts_lag :
    ∃ ss₁ st, ∃ w' : Wallet (Except Error Unit), Run ⟨boundHost, []⟩ (ss₁ ++ [st]) w' ∧
      ss₁.map (·.move) = broadcastBeforeLag ∧ (∀ st' ∈ ss₁ ++ [st], st'.move.UsesSequencer) ∧
      st.happening = .accessed 1 (.reserve 1) (.ok [161]) ∧ Broadcast (usesOf ss₁) 160 ∧
      ∃ k accessNonce during, GoesByQuery ss₁ k accessNonce during ∧ accessNonce < 161 ∧
        ∀ b, Broadcast (usesOf ss₁) b → b < 161 := by
  obtain ⟨ss, w, w', htrace, hstep, huses⟩ : ∃ ss w w',
      (Wallet.mk boundHost []).trace? broadcastBeforeLag = some (ss, w) ∧
      w.step? (.advance 1) = some (.accessed 1 (.reserve 1) (.ok [161]), w') ∧
      usesOf ss = [⟨.youngTurn, none⟩, ⟨.boundKey, some ⟨"a", "k"⟩⟩, ⟨.absorb 150, 151⟩,
        ⟨.keepTurn ⟨"k", 150, 151, 7, "b"⟩, ()⟩, ⟨.leaveTurn, ()⟩] ++ ⟨.markBroadcast "160", .ok ()⟩ ::
        [⟨.youngTurn, none⟩, ⟨.boundKey, some ⟨"a", "k"⟩⟩, ⟨.absorb 100, 161⟩, ⟨.keepTurn ⟨"k", 100, 161, 7, "b"⟩, ()⟩,
          ⟨.leaveTurn, ()⟩] := ⟨_, _, _, rfl, rfl, rfl⟩
  have hmoves := Wallet.moves_of_trace? htrace
  have hall : ∀ m ∈ broadcastBeforeLag, m.UsesSequencer := by
    refine List.forall_mem_cons.2 ⟨.turns lookUp_takesTurns, List.forall_mem_cons.2
      ⟨.turns broadcastThenReserve_takesTurns, fun m hm => .of_isOfTask ?_⟩⟩
    exact List.all_eq_true.1 (rfl : (broadcastBeforeLag.drop 2).all Move.isOfTask = true) m hm
  rw [← hmoves] at hall
  have hthere : ∀ st' ∈ ss ++ [⟨w, .advance 1, .accessed 1 (.reserve 1) (.ok [161]), w'⟩], st'.move.UsesSequencer := by
    refine List.forall_mem_append.2 ⟨List.forall_mem_map.1 hall, fun st' hst' => ?_⟩
    rw [List.mem_singleton.1 hst']
    exact .of_isOfTask rfl
  have htopics : ∀ u ∈ usesOf ss, u.access.topic ≠ .binding := by
    rw [huses]
    decide
  have hbroadcast : Broadcast (usesOf ss) 160 := by
    refine ⟨_, "160", _, huses, rfl, fun u hu => Use.not_resets_of_topic (htopics u ?_)⟩
    rw [huses]
    exact List.mem_append_right _ (List.mem_cons_of_mem _ hu)
  have run := (Run.of_trace? htrace).snoc hstep
  obtain ⟨hreserved, -⟩ := reserve_beyond_broadcasts run rfl rfl hthere rfl
  obtain ⟨k, accessNonce, during, hquery, hbeyond⟩ := hreserved 1 [161] rfl
  obtain ⟨hanswer, -, hbroadcasts⟩ := hbeyond 161 (List.mem_singleton_self 161)
  exact ⟨ss, _, w', run, hmoves, hthere, rfl, hbroadcast, k, accessNonce, during, hquery, hanswer, hbroadcasts⟩

end PasskeyConsent

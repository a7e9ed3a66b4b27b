import PasskeyConsent.Proofs.Nonce.Lifetime
/-!
# Answers that lag behind

A node of the chain may answer less than another one has answered before.  While a sequencer is bound to one key, two
things decide where it goes on: the last answer, whatever the ones before it were, and the greatest number that was
marked as broadcast (`Tracks`).  So it gives out only numbers beyond these two, and goes back behind an earlier answer
just when a number that is free lies between (`reserve_behind_iff`).
-/
namespace PasskeyConsent

open Text (maxU64)

variable {α : Type}

namespace Use

/-- The number that is marked as broadcast. -/
def marked? : Use → Option Nat
  | ⟨.markBroadcast text, .ok ()⟩ => (Text.readU64 text).toOption
  | _ => none

theorem retires_of_marked? {u : Use} {n : Nat} (h : u.marked? = some n) : u.Retires n := by
  unfold marked? at h
  split at h
  · rename_i text
    cases hread : Text.readU64 text with
    | ok m =>
      rw [hread] at h
      cases h
      exact hread
    | error e =>
      rw [hread] at h
      cases h
  · cases h

theorem retires_of_absorbed? {u : Use} {n : Nat} (h : u.absorbed? = some n) : u.Retires n := by
  obtain ⟨x, rfl⟩ := eq_of_absorbed? h
  exact Nat.le_refl n

end Use

/-- The numbers that were marked as broadcast. -/
def marked (us : List Use) : List Nat := us.filterMap Use.marked?

theorem marked_snoc (us : List Use) (u : Use) : marked (us ++ [u]) = marked us ++ u.marked?.toList :=
  filterMap_snoc _ us u

/-- The number lies beyond the last answer of the chain and beyond every broadcast. -/
structure Ahead (us : List Use) (m : Nat) : Prop where
  answer : ∀ last, (absorbed us).getLast? = some last → last < m
  broadcasts : ∀ b ∈ marked us, b < m

theorem ahead_snoc_of_unheard {us : List Use} {u : Use} (hmarked : u.marked? = none) (habsorbed : u.absorbed? = none)
    {m : Nat} : Ahead (us ++ [u]) m ↔ Ahead us m := by
  have h₁ : marked (us ++ [u]) = marked us := by rw [marked_snoc, hmarked]; exact List.append_nil _
  have h₂ : absorbed (us ++ [u]) = absorbed us := by rw [absorbed_snoc, habsorbed]; exact List.append_nil _
  constructor
  · intro h
    exact ⟨h₂ ▸ h.answer, h₁ ▸ h.broadcasts⟩
  · intro h
    exact ⟨h₂ ▸ h.answer, h₁ ▸ h.broadcasts⟩

theorem ahead_snoc_of_marked {us : List Use} {u : Use} {n : Nat} (hmarked : u.marked? = some n)
    (habsorbed : u.absorbed? = none) {m : Nat} : Ahead (us ++ [u]) m ↔ Ahead us m ∧ n < m := by
  have h₁ : marked (us ++ [u]) = marked us ++ [n] := by rw [marked_snoc, hmarked]; rfl
  have h₂ : absorbed (us ++ [u]) = absorbed us := by rw [absorbed_snoc, habsorbed]; exact List.append_nil _
  constructor
  · intro h
    have hall := h₁ ▸ h.broadcasts
    exact ⟨⟨h₂ ▸ h.answer, fun b hb => hall b (List.mem_append_left _ hb)⟩,
      hall n (List.mem_append_right _ (List.mem_singleton_self n))⟩
  · rintro ⟨h, hn⟩
    refine ⟨h₂ ▸ h.answer, ?_⟩
    rw [h₁]
    exact List.forall_mem_append.2 ⟨h.broadcasts, List.forall_mem_singleton.2 hn⟩

theorem ahead_snoc_of_absorb {us : List Use} {a x m : Nat} :
    Ahead (us ++ [⟨.absorb a, x⟩]) m ↔ a < m ∧ ∀ b ∈ marked us, b < m := by
  have h₁ : marked (us ++ [⟨.absorb a, x⟩]) = marked us := by rw [marked_snoc]; exact List.append_nil _
  have h₂ : (absorbed (us ++ [⟨.absorb a, x⟩])).getLast? = some a := by rw [absorbed_snoc]; exact List.getLast?_concat
  constructor
  · intro h
    exact ⟨h.answer a h₂, h₁ ▸ h.broadcasts⟩
  · rintro ⟨ha, hb⟩
    refine ⟨fun last hlast => ?_, h₁ ▸ hb⟩
    rw [h₂] at hlast
    cases hlast
    exact ha

namespace Sequencer

/-- **What decides where a sequencer goes on**: the floor is the greatest broadcast, and the next number the least one
that lies beyond it and the last answer. -/
structure Tracks (us : List Use) (s : Sequencer) : Prop where
  floor : ∀ m, (∀ floor, s.floor = some floor → floor < m) ↔ ∀ b ∈ marked us, b < m
  next : ∀ next, s.next = some next → ∀ m < maxU64, next ≤ m ↔ Ahead us m

namespace Tracks

variable {us : List Use} {u : Use} {s s' : Sequencer}

theorem nil (hfloor : s.floor = none) (hnext : s.next = none) : Tracks [] s := by
  constructor
  · intro m
    rw [hfloor]
    exact ⟨fun _ b hb => absurd hb List.not_mem_nil, fun _ f hf => by cases hf⟩
  · intro next h
    rw [hnext] at h
    cases h

/-- What neither answers nor marks anything. -/
theorem unheard (tracks : Tracks us s) (hmarked : u.marked? = none) (habsorbed : u.absorbed? = none)
    (hfloor : s'.floor = s.floor) (hnext : s'.next = s.next) : Tracks (us ++ [u]) s' := by
  constructor
  · intro m
    rw [hfloor, tracks.floor, marked_snoc, hmarked]
    exact (List.append_nil (marked us)).symm ▸ Iff.rfl
  · intro next h m hm
    rw [ahead_snoc_of_unheard hmarked habsorbed]
    exact tracks.next next (hnext ▸ h) m hm

theorem mark (tracks : Tracks us s) {text : String} (h : s.markBroadcast text = .ok s') :
    Tracks (us ++ [⟨.markBroadcast text, .ok ()⟩]) s' := by
  obtain ⟨n, hread, hlt, rfl⟩ := markBroadcast_eq_ok h
  have hmarked : (⟨.markBroadcast text, .ok ()⟩ : Use).marked? = some n := by
    show (Text.readU64 text).toOption = some n
    rw [hread]
    rfl
  constructor
  · intro m
    rw [marked_snoc, hmarked]
    have hsplit : (∀ b ∈ marked us ++ [n], b < m) ↔ (∀ b ∈ marked us, b < m) ∧ n < m := by
      rw [List.forall_mem_append, List.forall_mem_singleton]
    show (∀ floor, some (max (s.floor.getD n) n) = some floor → floor < m) ↔ ∀ b ∈ marked us ++ [n], b < m
    rw [hsplit, ← tracks.floor m]
    cases s.floor with
    | none => simp
    | some f =>
      simp only [Option.getD_some, Option.some.injEq, forall_eq']
      exact Nat.max_lt
  · intro next' hnext' m hm
    rw [ahead_snoc_of_marked hmarked rfl]
    obtain ⟨next, hnext, rfl⟩ := Option.map_eq_some_iff.1 hnext'
    rw [← tracks.next next hnext m hm]
    split <;> omega

theorem absorb (tracks : Tracks us s) (a x : Nat) : Tracks (us ++ [⟨.absorb a, x⟩]) (s.absorb a) := by
  constructor
  · intro m
    rw [marked_snoc]
    exact (List.append_nil (marked us)).symm ▸ tracks.floor m
  · intro next hnext m hm
    cases hnext
    have hfloor : (∀ floor, s.floor = some floor → successor floor ≤ m) ↔
        ∀ floor, s.floor = some floor → floor < m :=
      forall₂_congr fun floor _ => successor_le_iff hm
    rw [ahead_snoc_of_absorb, nextAfter_le_iff, successor_le_iff hm, hfloor, tracks.floor m]

/-- **Every use keeps it.** -/
theorem serve (tracks : Tracks us s) (h : s.Serves u s') : Tracks (us ++ [u]) s' := by
  cases h with
  | reserve h =>
    obtain ⟨-, -, -, -, -, rfl⟩ := reserve_eq_ok h
    exact tracks.unheard rfl rfl rfl rfl
  | release n => exact tracks.unheard rfl rfl rfl rfl
  | releaseText text =>
    unfold Sequencer.releaseText
    split
    · exact tracks.unheard rfl rfl rfl rfl
    · exact tracks.unheard rfl rfl rfl rfl
  | releaseAll => exact tracks.unheard rfl rfl rfl rfl
  | mark h => exact tracks.mark h
  | absorb a x => exact tracks.absorb a x
  | other _ hretires =>
    apply tracks.unheard _ _ rfl rfl
    · exact Option.eq_none_iff_forall_ne_some.2 fun n hn => hretires n (Use.retires_of_marked? hn)
    · exact Option.eq_none_iff_forall_ne_some.2 fun n hn => hretires n (Use.retires_of_absorbed? hn)

end Tracks

theorem Lives.tracks {s s' : Sequencer} {us : List Use} (h : Lives s us s') (hkept : ∀ u ∈ us, ¬ u.Resets)
    (hfloor : s.floor = none) (hnext : s.next = none) : Tracks us s' := by
  induction h with
  | nil => exact .nil hfloor hnext
  | snoc _ last ih =>
    obtain ⟨hbefore, hlast⟩ := List.forall_mem_append.1 hkept
    exact (ih hbefore).serve (last.serves (hlast _ (List.mem_singleton_self _)))

end Sequencer

variable {w w' : Wallet α} {ss ss₁ ss₂ : List (Step α)} {st : Step α}

/-- **A sequencer goes back behind an answer of the chain just when a number lies between** that is free and beyond
both the last answer and all broadcasts.  It has been bound to one key throughout; what it gives out is beyond the
last answer and all broadcasts in any case. -/
theorem reserve_behind_iff (run : Run w ss w') {k : AccessKey} (hbound : w.host.sequencer = { key := some k })
    (hkept : ∀ u ∈ usesOf ss, ¬ u.Resets) (hss : ss = ss₁ ++ st :: ss₂) {count : Nat} {picked : List Nat}
    (hreserve : st.happening.use? = some ⟨.reserve count, .ok picked⟩) :
    (∀ n ∈ picked, Ahead (usesOf ss₁) n) ∧ ∀ a ∈ absorbed (usesOf ss₁), (∃ n ∈ picked, n ≤ a) ↔
      0 < count ∧ ∃ m ≤ a, Ahead (usesOf ss₁) m ∧ m ∉ st.before.host.sequencer.reserved := by
  subst hss
  obtain ⟨before, -, -⟩ := run.cut
  have hbefore : ∀ u ∈ usesOf ss₁, ¬ u.Resets := by
    intro u hu
    apply hkept u
    rw [usesOf, List.filterMap_append]
    exact List.mem_append_left _ hu
  have tracks := before.lives.tracks hbefore (by rw [hbound]) (by rw [hbound])
  obtain ⟨s, hs⟩ := (run.goes (List.mem_append_right _ List.mem_cons_self)).reserve_ok hreserve
  obtain ⟨next, hnext, hlength, -, hpicked, -⟩ := Sequencer.reserve_eq_ok hs
  have hahead : ∀ n ∈ picked, Ahead (usesOf ss₁) n := by
    intro n hn
    obtain ⟨hle, hlt, -⟩ := hpicked n hn
    exact (tracks.next next hnext n hlt).1 hle
  refine ⟨hahead, fun a _ => ?_⟩
  constructor
  · rintro ⟨n, hn, hle⟩
    have hcount : 0 < count := hlength ▸ List.length_pos_of_mem hn
    exact ⟨hcount, n, hle, hahead n hn, (hpicked n hn).2.2⟩
  · rintro ⟨hcount, m, hle, hm, hfree⟩
    by_cases hlt : m < maxU64
    · have hstart : next ≤ m := (tracks.next next hnext m hlt).2 hm
      obtain ⟨n, hn, hnm⟩ := Sequencer.reserve_le_of_free hs hcount hnext hstart hfree
      exact ⟨n, hn, Nat.le_trans hnm hle⟩
    · -- Beyond the greatest number nothing is given out, so whatever is picked is below `m`.
      obtain ⟨n, hn⟩ := List.exists_mem_of_length_pos (hlength.symm ▸ hcount)
      have hbelow := (hpicked n hn).2.1
      exact ⟨n, hn, by omega⟩

/-! A node answers 150, and another one, which lags behind, 100. -/

def lookUp : Program (Except Error Unit) := do
  let _ ← (Turn.context true).run
  return .ok ()

theorem lookUp_takesTurns : lookUp.TakesTurns := .bind (.context true) fun _ => .done _

/-- The moves of a task that fetches the context of a turn, up to the answer of the latest block. -/
def fetching (task : Nat) (k : AccessKey) (accessNonce : UInt64) : List (Move (Except Error Unit)) :=
  List.replicate 4 (Move.advance task) ++
  [Move.answer task (.accessKey k) (.ok ⟨accessNonce, 7, "b"⟩), Move.advance task,
    Move.answer task .latestBlock (.ok ⟨7, "b"⟩)]

def laggingNode : List (Move (Except Error Unit)) :=
  [Move.start lookUp, Move.start reserveOne] ++ fetching 0 ⟨"a", "k"⟩ 150 ++ List.replicate 3 (Move.advance 0) ++
  fetching 1 ⟨"a", "k"⟩ 100 ++ List.replicate 3 (Move.advance 1)

theorem laggingNode_run :
    ∃ ss₁ st, ∃ w' : Wallet (Except Error Unit), Run ⟨boundHost, []⟩ (ss₁ ++ [st]) w' ∧ ss₁.map (·.move) = laggingNode ∧
      st.before.result? 0 = some (.ok ()) ∧ absorbed (usesOf ss₁) = [150, 100] ∧
      (∀ u ∈ usesOf (ss₁ ++ [st]), ¬ u.Resets) ∧ st.happening = .accessed 1 (.reserve 1) (.ok [101]) := by
  obtain ⟨ss₁, w₁, w', htrace, huses, hstep, hdone⟩ : ∃ ss₁ w₁ w',
      (Wallet.mk boundHost []).trace? laggingNode = some (ss₁, w₁) ∧
      usesOf ss₁ = [⟨.youngTurn, none⟩, ⟨.boundKey, some ⟨"a", "k"⟩⟩, ⟨.absorb 150, 151⟩,
        ⟨.keepTurn ⟨"k", 150, 151, 7, "b"⟩, ()⟩, ⟨.leaveTurn, ()⟩, ⟨.youngTurn, none⟩,
        ⟨.boundKey, some ⟨"a", "k"⟩⟩, ⟨.absorb 100, 101⟩, ⟨.keepTurn ⟨"k", 100, 101, 7, "b"⟩, ()⟩, ⟨.leaveTurn, ()⟩] ∧
      w₁.step? (.advance 1) = some (.accessed 1 (.reserve 1) (.ok [101]), w') ∧
      w₁.result? 0 = some (.ok ()) := ⟨_, _, _, rfl, rfl, rfl, rfl⟩
  refine ⟨ss₁, ⟨w₁, .advance 1, _, w'⟩, w', (Run.of_trace? htrace).snoc hstep, Wallet.moves_of_trace? htrace, hdone,
    by rw [huses]; rfl, ?_, rfl⟩
  have htopics : ∀ u ∈ usesOf (ss₁ ++ [⟨w₁, .advance 1, .accessed 1 (.reserve 1) (.ok [101]), w'⟩]),
      u.access.topic ≠ .binding := by
    rw [usesOf_snoc, huses]
    show ∀ u ∈ [_, _, _, _, _, _, _, _, _, _] ++ [(⟨.reserve 1, .ok [101]⟩ : Use)], u.access.topic ≠ .binding
    decide
  exact fun u hu => Use.not_resets_of_topic (htopics u hu)

theorem reserve_behind_iff_laggingNode :
    ∃ ss₁ st, ∃ w' : Wallet (Except Error Unit), Run ⟨boundHost, []⟩ (ss₁ ++ [st]) w' ∧
      (∀ u ∈ usesOf (ss₁ ++ [st]), ¬ u.Resets) ∧ 150 ∈ absorbed (usesOf ss₁) ∧
      st.happening = .accessed 1 (.reserve 1) (.ok [101]) ∧ (∀ n ∈ [101], Ahead (usesOf ss₁) n) ∧
      ∃ m ≤ 150, Ahead (usesOf ss₁) m ∧ m ∉ st.before.host.sequencer.reserved := by
  obtain ⟨ss₁, st, w', run, -, -, habsorbed, hkept, hreserve⟩ := laggingNode_run
  obtain ⟨hahead, hbehind⟩ := reserve_behind_iff run rfl hkept rfl (by rw [hreserve]; rfl)
  have hanswer : 150 ∈ absorbed (usesOf ss₁) := habsorbed ▸ List.mem_cons_self
  have hback : ∃ n ∈ [101], n ≤ 150 := ⟨101, List.mem_singleton_self 101, by decide⟩
  exact ⟨ss₁, st, w', run, hkept, hanswer, hreserve, hahead, ((hbehind 150 hanswer).1 hback).2⟩

/-- The context with 150 is complete, and yet the next number to be given out is 101. -/
theorem reserve_behind_answer :
    ∃ ss₁ st, ∃ w' : Wallet (Except Error Unit), Run ⟨boundHost, []⟩ (ss₁ ++ [st]) w' ∧
      ss₁.map (·.move) = laggingNode ∧ (∀ u ∈ usesOf (ss₁ ++ [st]), ¬ u.Resets) ∧
      st.before.result? 0 = some (.ok ()) ∧ ∃ a ∈ absorbed (usesOf ss₁), ∃ n ≤ a,
        st.happening = .accessed 1 (.reserve 1) (.ok [n]) := by
  obtain ⟨ss₁, st, w', run, hmoves, hdone, habsorbed, hkept, hreserve⟩ := laggingNode_run
  have hanswer : 150 ∈ absorbed (usesOf ss₁) := habsorbed ▸ List.mem_cons_self
  exact ⟨ss₁, st, w', run, hmoves, hkept, hdone, 150, hanswer, 101, by decide, hreserve⟩

end PasskeyConsent

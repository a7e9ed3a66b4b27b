import PasskeyConsent.Proofs.Confirmation.Answer
import PasskeyConsent.Proofs.Confirmation.Flows
/-!
# No number is given out twice

What a task absorbs is the last answer that any task had of the chain, whatever the others have done between the answer
and its use (`Latest`); so access nonces are absorbed in the order in which the chain answered them, and the history of
the sequencer along a run is one in which no number that is retired or still out is given out (`reserve_fresh`).
-/
namespace PasskeyConsent

open Observer Program Confirmation
open TurnPhase (watcher)

variable {α : Type}

/-- What the chain has answered for the access nonce. -/
def Happening.accessNonce? : Happening → Option Nat
  | .answered _ (.accessKey _) (.ok info) => some info.nonce.toNat
  | _ => none

/-- The access nonces that the chain has answered in a run, in order. -/
def accessNonces (ss : List (Step α)) : List Nat := ss.filterMap (·.happening.accessNonce?)

theorem accessNonces_snoc (ss : List (Step α)) (st : Step α) :
    accessNonces (ss ++ [st]) = accessNonces ss ++ st.happening.accessNonce?.toList := filterMap_snoc _ ss st

/-! ## Only the last answer is absorbed -/

/-- **The answer that a task has inside the turn is the last one**, so that what has been absorbed comes in the order of
the answers. -/
structure Latest (answers taken : List Nat) (phases : Nat → TurnPhase) : Prop where
  last : ∀ i a, phases i = .inside (some a) → answers.getLast? = some a
  mem : ∀ a ∈ taken, a ∈ answers
  sorted : answers.Pairwise (· ≤ ·) → taken.Pairwise (· ≤ ·)

namespace Latest

variable {answers taken : List Nat} {phases phases' : Nat → TurnPhase}

theorem nil : Latest [] [] fun _ => .outside where
  last _ _ h := by cases h
  mem _ h := by cases h
  sorted _ := .nil

theorem of_phases (latest : Latest answers taken phases)
    (h : ∀ i a, phases' i = .inside (some a) → phases i = .inside (some a)) : Latest answers taken phases' :=
  ⟨fun i a hi => latest.last i a (h i a hi), latest.mem, latest.sorted⟩

/-- The chain answers the one task that is inside. -/
theorem answer (latest : Latest answers taken phases) {i a : Nat} (hi : ∀ j b, phases' j = .inside (some b) → j = i)
    (ha : phases' i = .inside (some a)) : Latest (answers ++ [a]) taken phases' where
  last j b hj := by
    rw [hi j b hj, ha] at hj
    cases hj
    exact List.getLast?_concat
  mem b hb := List.mem_append_left _ (latest.mem b hb)
  sorted h := latest.sorted (h.sublist (List.sublist_append_left _ _))

theorem absorb (latest : Latest answers taken phases) {i a : Nat} (ha : phases i = .inside (some a)) :
    Latest answers (taken ++ [a]) phases := by
  have hlast := latest.last i a ha
  refine ⟨latest.last, fun b hb => ?_, fun h => ?_⟩
  · rcases List.mem_append.1 hb with hb | hb
    · exact latest.mem b hb
    · rw [List.mem_singleton.1 hb]
      exact List.mem_of_getLast? hlast
  · refine List.pairwise_append.2 ⟨latest.sorted h, List.pairwise_singleton _ _, fun b hb c hc => ?_⟩
    rw [List.mem_singleton.1 hc]
    obtain ⟨front, rfl⟩ := List.getLast?_eq_some_iff.1 hlast
    rcases List.mem_append.1 (latest.mem b hb) with hb | hb
    · exact (List.pairwise_append.1 h).2.2 b hb a (List.mem_singleton_self a)
    · exact Nat.le_of_eq (List.mem_singleton.1 hb)

end Latest

/-- Only an answer of the chain gives a task inside the turn one. -/
theorem TurnPhase.of_after_inside {s : TurnPhase} {e : Event} {i a : Nat} (h : s.after e = .inside (some a))
    (he : (e.happening i).accessNonce? = none) : s = .inside (some a) := by
  unfold after at h
  split at h
  · cases h
  · cases he
  · cases h
  · cases h
  · exact h

theorem TurnPhase.of_afterAll_inside {phases : Nat → TurnPhase} {h : Happening} (hh : h.accessNonce? = none) {j a : Nat}
    (hj : watcher.afterAll phases h j = .inside (some a)) : phases j = .inside (some a) := by
  unfold afterAll at hj
  cases he : h.event? j with
  | none =>
    rw [he] at hj
    exact hj
  | some e =>
    rw [he] at hj
    rw [Happening.eq_of_event? he] at hh
    exact TurnPhase.of_after_inside hj hh

/-- The chain's answer to a task inside the turn is the only one there. -/
theorem Latest.answered {answers taken : List Nat} {phases : Nat → TurnPhase} {l : Lane} {i : Nat} {k : AccessKey}
    {info : AccessKeyInfo} (latest : Latest answers taken phases) (admits : Admits l phases)
    (hinside : phases i ≠ .outside) :
    Latest (answers ++ [info.nonce.toNat]) taken
      (watcher.afterAll phases (.answered i (.accessKey k) (.ok info))) := by
  have hself := watcher.afterAll_self phases i (.answered (.accessKey k) (.ok info))
  refine latest.answer (i := i) (fun j b hj => ?_) hself
  by_cases hij : i = j
  · exact hij.symm
  · have hother : watcher.afterAll phases (.answered i (.accessKey k) (.ok info)) j = phases j :=
      watcher.afterAll_of_ne phases hij (.answered (.accessKey k) (.ok info))
    rw [hother] at hj
    have hj' : phases j ≠ .outside := fun h => by rw [h] at hj; cases hj
    exact absurd (Option.some.inj ((admits i hinside).symm.trans (admits j hj'))) hij

/-- What one step adds to the answers and to what is absorbed. -/
theorem Latest.step {answers taken : List Nat} {phases : Nat → TurnPhase} {l : Lane} {h : Happening}
    (latest : Latest answers taken phases) (admits : Admits l phases)
    (hallows : ∀ i e, h.event? i = some e → watcher.allows (phases i) e)
    (hout : ∀ a x, h = .used a x → Program.otherTopics.contains a.topic = true) :
    Latest (answers ++ h.accessNonce?.toList) (taken ++ absorbed h.use?.toList) (watcher.afterAll phases h) := by
  cases hh : h.accessNonce? with
  | some a =>
    obtain ⟨i, k, info, rfl, rfl⟩ : ∃ i k info, h = .answered i (.accessKey k) (.ok info) ∧ a = info.nonce.toNat := by
      unfold Happening.accessNonce? at hh
      split at hh
      · exact ⟨_, _, _, rfl, (Option.some.inj hh).symm⟩
      · cases hh
    show Latest (answers ++ [_]) (taken ++ []) _
    rw [List.append_nil]
    exact latest.answered admits (hallows i _ (Event.event?_happening i (.answered (.accessKey k) (.ok info))))
  | none =>
    have hphases := latest.of_phases fun j a hj => TurnPhase.of_afterAll_inside hh hj
    show Latest (answers ++ []) _ _
    rw [List.append_nil]
    cases hu : h.use? with
    | none =>
      show Latest answers (taken ++ []) _
      rw [List.append_nil]
      exact hphases
    | some u =>
      obtain ⟨a, x⟩ := u
      by_cases ha : ∃ n, a = .absorb n
      · obtain ⟨n, rfl⟩ := ha
        obtain ⟨i, rfl⟩ : ∃ i, h = .accessed i (.absorb n) x := by
          unfold Happening.use? at hu
          split at hu
          · cases hu
            exact ⟨_, rfl⟩
          · cases hu
            exact absurd (hout _ _ rfl) Bool.false_ne_true
          · cases hu
        refine hphases.absorb (i := i) ?_
        have hself : watcher.afterAll phases (.accessed i (.absorb n) x) i = phases i :=
          watcher.afterAll_self phases i (.accessed (.absorb n) x)
        rw [hself]
        exact hallows i _ (Event.event?_happening i (.accessed (.absorb n) x))
      · have hnone : absorbed [(⟨a, x⟩ : Use)] = [] := by
          cases a <;> first | rfl | exact absurd ⟨_, rfl⟩ ha
        show Latest answers (taken ++ absorbed [_]) _
        rw [hnone, List.append_nil]
        exact hphases

/-! ## Along a run -/

theorem Host.access_serves (h : Host) (task : Nat) (own : Holdings) {a : Access} (ha : a.topic ≠ .binding) :
    h.sequencer.Serves ⟨a, (h.access task own a).1⟩ (h.access task own a).2.1.sequencer := by
  cases a with
  | bindKey | unbindKey => exact absurd rfl ha
  | absorb n => exact .absorb n _
  | release n => exact .release n
  | releaseText text => exact .releaseText text
  | releaseAll => exact .releaseAll
  | reserve count =>
    simp only [Host.access]
    cases hr : h.sequencer.reserve count with
    | error e => exact .other (fun _ => id) fun _ => id
    | ok r => exact .reserve hr
  | markBroadcast text =>
    simp only [Host.access]
    cases hr : h.sequencer.markBroadcast text with
    | error e => exact .other (fun _ => id) fun _ => id
    | ok r => exact .mark hr
  | grant session account => simp only [Host.access]; split <;> exact .other (fun _ => id) fun _ => id
  | consume session account => simp only [Host.access]; split <;> exact .other (fun _ => id) fun _ => id
  | register name => simp only [Host.access]; split <;> exact .other (fun _ => id) fun _ => id
  | cancel name => simp only [Host.access, Host.cancel]; split <;> exact .other (fun _ => id) fun _ => id
  | _ => exact .other (fun _ => id) fun _ => id

/-- **The sequencer serves every use that a move makes of it**, and nothing else touches it. -/
theorem Wallet.Goes.served {w w' : Wallet α} {m : Move α} {happening : Happening} (g : w.Goes m happening w')
    {phases : Nat → TurnPhase} (hm : m.TakesTurns)
    (hallows : ∀ i e, happening.event? i = some e → watcher.allows (phases i) e) :
    Sequencer.Served w.host.sequencer happening.use?.toList w'.host.sequencer := by
  cases g with
  | @access i t a next ht hp =>
    have hallowed := hallows i _ (Event.event?_happening i (.accessed a _))
    have ha : a.topic ≠ .binding := by
      cases a <;> first | exact False.elim hallowed | (intro h; cases h)
    exact .cons (w.host.access_serves i t.own ha) (.nil _)
  | outside a =>
    have ha : a.topic ≠ .binding := fun h => by
      have hother : otherTopics.contains a.topic = true := hm
      rw [h] at hother
      exact absurd hother Bool.false_ne_true
    exact .cons (w.host.access_serves _ _ ha) (.nil _)
  | @look i t u ht hs hl => cases u <;> exact .nil _
  | @wait i t t' u x ht hl hr => cases u <;> exact .nil _
  | _ => exact .nil _

/-- What holds of the turn, of the chain's answers and of the sequencer in the middle of a run. -/
structure InTurn (start : Sequencer) (done : List (Step α)) (w : Wallet α) (phases : Nat → TurnPhase) : Prop where
  admits : Admits w.host.turnLane phases
  latest : Latest (accessNonces done) (absorbed (usesOf done)) phases
  served : Sequencer.Served start (usesOf done) w.host.sequencer

variable {w w' : Wallet α} {ss : List (Step α)}

theorem Run.inTurn (run : Run w ss w') (hempty : w.tasks = []) (hturns : ∀ st ∈ ss, st.move.TakesTurns) :
    InTurn w.host.sequencer ss w' fun i => watcher.seen .outside (historyOf i ss) := by
  have hstart : Run.Starts watcher (fun _ _ s => s = .outside) .outside ss := by
    intro st hst p hp
    have hmove := hturns st hst
    rw [hp] at hmove
    exact Program.TakesTurns.meets hmove {}
  have hinit : InTurn w.host.sequencer [] w fun _ => .outside := ⟨fun _ h => absurd rfl h, .nil, .nil _⟩
  refine run.invariant hempty hstart hinit fun done st hst phases hgoes hallows inTurn => ?_
  have hout (a : Access) (x : a.Answer) (h : st.happening = .used a x) : otherTopics.contains a.topic = true := by
    have hmove := hturns st hst
    rw [h] at hgoes
    generalize st.move = m, st.after = after at hgoes hmove
    cases hgoes with
    | outside => exact hmove
  refine ⟨hgoes.admits (hturns st hst) hallows inTurn.admits, ?_, ?_⟩
  · rw [accessNonces_snoc, usesOf_snoc, absorbed, List.filterMap_append]
    exact inTurn.latest.step inTurn.admits hallows hout
  · rw [usesOf_snoc]
    exact inTurn.served.append (hgoes.served (hturns st hst) hallows)

/-- **No number is given out twice**, in any run of a wallet whose tasks take turns, as long as the access nonces that
the chain answers do not decrease: where a number is reserved, it was not marked as broadcast before, no access nonce
from it on was absorbed before, and since each earlier time that it was reserved it has been released. -/
theorem reserve_fresh (run : Run w ss w') (hempty : w.tasks = []) (hturns : ∀ st ∈ ss, st.move.TakesTurns)
    (hchain : (accessNonces ss).Pairwise (· ≤ ·)) {us₁ us₂ : List Use} {u : Use} (huses : usesOf ss = us₁ ++ u :: us₂)
    {n : Nat} (hn : u.Reserves n) :
    (∀ v ∈ us₁, ¬ v.Retires n) ∧
    ∀ vs₁ v vs₂, us₁ = vs₁ ++ v :: vs₂ → v.Reserves n → ∃ r ∈ vs₂, r.Releases n := by
  have inTurn := run.inTurn hempty hturns
  obtain ⟨hretired, hout⟩ := inTurn.served.fresh (inTurn.latest.sorted hchain) huses hn
  refine ⟨fun v hv hr => hretired ⟨v, hv, hr⟩, fun vs₁ v vs₂ hvs hv => ?_⟩
  refine Classical.byContradiction fun hkept => ?_
  exact hout ⟨vs₁, v, vs₂, hvs, hv, fun r hr hreleases => hkept ⟨r, hr, hreleases⟩⟩

/-! A number that is reserved in a turn, released and reserved again, beside a request. -/

def boundHost : Host := { quietHost with sequencer := { key := some ⟨"a", "k"⟩ } }

def reserveOne : Program (Except Error Unit) := do
  let _ ← (Turn.context true).run
  let _ ← access (.reserve 1)
  return .ok ()

def reserveTwice : List (Move (Except Error Unit)) :=
  [Move.start (handle quietSetup showEnvelope), Move.start reserveOne] ++
  List.replicate 4 (Move.advance 1) ++ [Move.answer 1 (.accessKey ⟨"a", "k"⟩) (.ok ⟨4, 7, "b"⟩)] ++
  [Move.advance 1, Move.answer 1 .latestBlock (.ok ⟨7, "b"⟩)] ++
  List.replicate 4 (Move.advance 1) ++ [Move.outside (.release 5), Move.outside (.reserve 1)]

theorem reserveOne_takesTurns : reserveOne.TakesTurns :=
  .bind (.context true) fun _ => .bind (.effect (.access (.reserve 1)) rfl) fun _ => .done _

theorem reserve_fresh_reserveTwice :
    ∃ ss w' us v vs u, Run ⟨boundHost, []⟩ ss w' ∧ ss.map (·.move) = reserveTwice ∧
      usesOf ss = (us ++ v :: vs) ++ [u] ∧ v.Reserves 5 ∧ u.Reserves 5 ∧ ∃ r ∈ vs, r.Releases 5 := by
  obtain ⟨⟨ss, w'⟩, htrace, huses, hnonces⟩ : ∃ r, (Wallet.mk boundHost []).trace? reserveTwice = some r ∧
      usesOf r.1 = ([⟨.youngTurn, none⟩, ⟨.boundKey, some ⟨"a", "k"⟩⟩, ⟨.absorb 4, 5⟩,
        ⟨.keepTurn ⟨"k", 4, 5, 7, "b"⟩, ()⟩, ⟨.leaveTurn, ()⟩] ++ (⟨.reserve 1, .ok [5]⟩ :: [⟨.release 5, ()⟩])) ++
        [⟨.reserve 1, .ok [5]⟩] ∧ accessNonces r.1 = [4] := ⟨_, rfl, rfl, rfl⟩
  have hmoves := Wallet.moves_of_trace? htrace
  have hturns : ∀ st ∈ ss, st.move.TakesTurns := by
    intro st hst
    have hmem : st.move ∈ reserveTwice := hmoves ▸ List.mem_map_of_mem hst
    generalize st.move = m at hmem
    simp only [reserveTwice, List.mem_append, List.mem_cons, List.mem_replicate, List.not_mem_nil, or_false] at hmem
    rcases hmem with (((((h | h) | ⟨-, h⟩) | h) | h | h) | ⟨-, h⟩) | h | h <;> subst h
    · exact handle_takesTurns quietSetup showEnvelope
    · exact reserveOne_takesTurns
    all_goals trivial
  have hchain : (accessNonces ss).Pairwise (· ≤ ·) := hnonces ▸ List.pairwise_singleton _ 4
  have run := Run.of_trace? htrace
  have hagain : (⟨.reserve 1, .ok [5]⟩ : Use).Reserves 5 := List.mem_singleton_self 5
  have fresh := reserve_fresh run rfl hturns hchain huses hagain
  exact ⟨ss, w', _, _, _, _, run, hmoves, huses, hagain, hagain, fresh.2 _ _ _ rfl hagain⟩

end PasskeyConsent

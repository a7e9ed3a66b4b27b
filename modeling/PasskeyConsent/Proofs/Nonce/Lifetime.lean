import PasskeyConsent.Proofs.Nonce.Uniqueness
/-!
# The life of a sequencer

A sequencer that is bound to another key, or to none, forgets all that it knows, so its life falls into spans.  Every
run of a wallet is a life of its sequencer, whatever the tasks do (`Run.lives`).  Two things are read off the uses of a
life alone: the key that the sequencer is bound to (`Lives.key`), and the answer of the chain that it goes by, which is
the last one that it has taken in since its span began (`Lives.goesBy`).
-/
namespace PasskeyConsent

variable {α : Type}

namespace Use

/-- The use makes the sequencer forget what it knows. -/
def Resets : Use → Prop
  | ⟨.bindKey _, changed⟩ => changed = true
  | ⟨.unbindKey, _⟩ => True
  | _ => False

/-- The key that the sequencer is bound to after the use. -/
def bound (k : Option AccessKey) : Use → Option AccessKey
  | ⟨.bindKey k', true⟩ => some k'
  | ⟨.unbindKey, _⟩ => none
  | _ => k

variable {u : Use}

theorem not_resets_of_topic (h : u.access.topic ≠ .binding) : ¬ u.Resets := by
  obtain ⟨a, x⟩ := u
  cases a <;> first | exact absurd rfl h | exact id

theorem bound_of_not_resets (h : ¬ u.Resets) (k : Option AccessKey) : u.bound k = k := by
  obtain ⟨a, x⟩ := u
  cases a with
  | bindKey k' =>
    cases x with
    | true => exact absurd rfl h
    | false => rfl
  | unbindKey => exact absurd trivial h
  | _ => rfl

theorem absorbed?_of_resets (h : u.Resets) : u.absorbed? = none := by
  obtain ⟨a, x⟩ := u
  cases a <;> first | exact h.elim | rfl

theorem eq_of_absorbed? {a : Nat} (h : u.absorbed? = some a) : ∃ x, u = ⟨.absorb a, x⟩ := by
  unfold absorbed? at h
  split at h
  · cases h
    exact ⟨_, rfl⟩
  · cases h

end Use

/-- The key that a sequencer is bound to after a history. -/
def boundAfter (k : Option AccessKey) (us : List Use) : Option AccessKey := us.foldl Use.bound k

theorem boundAfter_append (k : Option AccessKey) (us vs : List Use) :
    boundAfter k (us ++ vs) = boundAfter (boundAfter k us) vs := List.foldl_append

theorem boundAfter_of_not_resets {us : List Use} (h : ∀ u ∈ us, ¬ u.Resets) (k : Option AccessKey) :
    boundAfter k us = k := by
  induction us with
  | nil => rfl
  | cons u us ih =>
    obtain ⟨hu, hus⟩ := List.forall_mem_cons.1 h
    show boundAfter (u.bound k) us = k
    rw [Use.bound_of_not_resets hu, ih hus]

/-- The answer that a sequencer goes by: the last one that it has taken in, since it forgot what it knew before. -/
def GoesBy (us : List Use) (accessNonce : Nat) : Prop :=
  ∃ us₁ x us₂, us = us₁ ++ ⟨.absorb accessNonce, x⟩ :: us₂ ∧ ∀ v ∈ us₂, ¬ v.Resets ∧ v.absorbed? = none

theorem GoesBy.of_absorb (us : List Use) (a x : Nat) : GoesBy (us ++ [⟨.absorb a, x⟩]) a :=
  ⟨us, x, [], rfl, fun _ hv => absurd hv List.not_mem_nil⟩

theorem GoesBy.snoc {us : List Use} {a : Nat} (h : GoesBy us a) {u : Use} (hu : ¬ u.Resets)
    (ha : u.absorbed? = none) : GoesBy (us ++ [u]) a := by
  obtain ⟨us₁, x, us₂, rfl, hsince⟩ := h
  exact ⟨us₁, x, us₂ ++ [u], by simp, List.forall_mem_append.2 ⟨hsince, fun v hv => List.mem_singleton.1 hv ▸ ⟨hu, ha⟩⟩⟩

theorem GoesBy.of_snoc {us : List Use} {u : Use} {a : Nat} (h : GoesBy (us ++ [u]) a) :
    u.absorbed? = some a ∨ GoesBy us a ∧ ¬ u.Resets ∧ u.absorbed? = none := by
  obtain ⟨us₁, x, us₂, heq, hsince⟩ := h
  rcases snoc_eq_append_cons heq with ⟨-, rfl, -⟩ | ⟨us₃, rfl, hus⟩
  · exact .inl rfl
  · obtain ⟨hbefore, hlast⟩ := List.forall_mem_append.1 hsince
    exact .inr ⟨⟨us₁, x, us₃, hus, hbefore⟩, hlast u (List.mem_singleton_self u)⟩

namespace Sequencer

/-- How a sequencer takes a use: it serves it, or is bound anew. -/
inductive Takes (s : Sequencer) : Use → Sequencer → Prop
  | serve {u : Use} {s' : Sequencer} (h : s.Serves u s') (hu : u.access.topic ≠ .binding) : Takes s u s'
  | bind (k : AccessKey) : Takes s ⟨.bindKey k, !s.isBoundTo k⟩ (s.bindTo k)
  | unbind : Takes s ⟨.unbindKey, ()⟩ {}

/-- A life of a sequencer: how it takes one use after another. -/
inductive Lives : Sequencer → List Use → Sequencer → Prop
  | nil (s : Sequencer) : Lives s [] s
  | snoc {s s' s'' : Sequencer} {us : List Use} {u : Use} (before : Lives s us s') (last : s'.Takes u s'') :
    Lives s (us ++ [u]) s''

variable {s s' s'' : Sequencer} {u : Use} {us vs : List Use}

theorem Serves.key (h : s.Serves u s') : s'.key = s.key := by
  cases h with
  | reserve h => obtain ⟨-, -, -, -, -, rfl⟩ := reserve_eq_ok h; rfl
  | releaseText text => unfold Sequencer.releaseText; split <;> rfl
  | mark h => obtain ⟨-, -, -, rfl⟩ := markBroadcast_eq_ok h; rfl
  | release | releaseAll | absorb | other => rfl

theorem Takes.key (h : s.Takes u s') : s'.key = u.bound s.key := by
  cases h with
  | serve h hu => rw [h.key, Use.bound_of_not_resets (Use.not_resets_of_topic hu)]
  | bind k =>
    unfold bindTo
    cases hk : s.isBoundTo k with
    | true => rfl
    | false => rfl
  | unbind => rfl

/-- After a reset nothing is known but the key. -/
theorem Takes.of_resets (h : s.Takes u s') (hu : u.Resets) : s' = { key := s'.key } := by
  cases h with
  | serve h hu' => exact absurd hu (Use.not_resets_of_topic hu')
  | bind k =>
    have hfree : s.isBoundTo k = false := by simpa [Use.Resets] using hu
    unfold bindTo
    rw [hfree]
    rfl
  | unbind => rfl

/-- What does not reset the sequencer is served by it. -/
theorem Takes.serves (h : s.Takes u s') (hu : ¬ u.Resets) : s.Serves u s' := by
  cases h with
  | serve h => exact h
  | bind k =>
    have hbound : s.isBoundTo k = true := by simpa [Use.Resets] using hu
    unfold bindTo
    rw [hbound]
    exact .other (fun _ => id) fun _ => id
  | unbind => exact absurd trivial hu

/-- **The key is read off the uses.** -/
theorem Lives.key (h : Lives s us s') : s'.key = boundAfter s.key us := by
  induction h with
  | nil => rfl
  | snoc _ last ih =>
    rw [last.key, ih, boundAfter_append]
    rfl

/-! ## The answer that it goes by -/

/-- What is served changes the next number only where it marks a broadcast or takes in an answer of the chain. -/
theorem Serves.next_isSome (h : s.Serves u s') (hu : u.absorbed? = none) : s'.next.isSome = s.next.isSome := by
  cases h with
  | reserve h => obtain ⟨-, -, -, -, -, rfl⟩ := reserve_eq_ok h; rfl
  | releaseText text => unfold Sequencer.releaseText; split <;> rfl
  | mark h => obtain ⟨-, -, -, rfl⟩ := markBroadcast_eq_ok h; exact Option.isSome_map ..
  | absorb => cases hu
  | release | releaseAll | other => rfl

theorem Serves.passed (h : s.Serves u s') (hu : u.absorbed? = none) {n : Nat} (hn : s.Passed n) : s'.Passed n := by
  cases h with
  | reserve h => obtain ⟨-, -, -, -, -, rfl⟩ := reserve_eq_ok h; exact hn.of_next_eq rfl
  | releaseText text => unfold Sequencer.releaseText; split <;> exact hn.of_next_eq rfl
  | mark h => obtain ⟨m, -, hlt, rfl⟩ := markBroadcast_eq_ok h; exact Passed.mark hlt (.inl hn) _ _
  | absorb => cases hu
  | release | releaseAll => exact hn.of_next_eq rfl
  | other => exact hn

/-- **A sequencer knows a next number just when it goes by an answer of the chain**, and has then passed all that the
answer says is used. -/
theorem Lives.goesBy (h : Lives s us s') (hs : s.next = none) :
    (s'.next = none ∧ ∀ a, ¬ GoesBy us a) ∨ s'.next.isSome ∧ ∃ a, GoesBy us a ∧ s'.Passed a := by
  induction h with
  | nil =>
    refine .inl ⟨hs, ?_⟩
    rintro a ⟨us₁, x, us₂, heq, -⟩
    cases us₁ <;> cases heq
  | @snoc s₁ s' us u _ last ih =>
    by_cases hreset : u.Resets
    · have hnone := Use.absorbed?_of_resets hreset
      refine .inl ⟨by rw [last.of_resets hreset], fun a ha => ?_⟩
      rcases ha.of_snoc with ha | ⟨-, hkept, -⟩
      · rw [hnone] at ha
        cases ha
      · exact hkept hreset
    · have serves := last.serves hreset
      cases ha : u.absorbed? with
      | some a =>
        obtain ⟨x, rfl⟩ := Use.eq_of_absorbed? ha
        cases serves with
        | absorb => exact .inr ⟨rfl, a, .of_absorb _ _ _, passed_absorb (.inl (Nat.le_refl a))⟩
        | other _ hretires => exact absurd (Nat.le_refl a) (hretires a)
      | none =>
        rcases ih with ⟨hnext, hnot⟩ | ⟨hnext, a, hgoes, hpassed⟩
        · refine .inl ⟨?_, fun b hb => ?_⟩
          · rw [← Option.isNone_iff_eq_none, ← Option.not_isSome, serves.next_isSome ha, hnext]
            rfl
          · rcases hb.of_snoc with hb | ⟨hb, -⟩
            · rw [ha] at hb
              cases hb
            · exact hnot b hb
        · exact .inr ⟨(serves.next_isSome ha).trans hnext, a, hgoes.snoc hreset ha, serves.passed ha hpassed⟩

end Sequencer

/-! ## Along a run -/

theorem usesOf_append (ss₁ ss₂ : List (Step α)) : usesOf (ss₁ ++ ss₂) = usesOf ss₁ ++ usesOf ss₂ :=
  List.filterMap_append

theorem usesOf_cons_some {st : Step α} {u : Use} (h : st.happening.use? = some u) (ss : List (Step α)) :
    usesOf (st :: ss) = u :: usesOf ss := List.filterMap_cons_some h

/-- Every use of the host is made at a step of the run. -/
theorem step_of_use {ss : List (Step α)} {us₁ us₂ : List Use} {u : Use} (h : usesOf ss = us₁ ++ u :: us₂) :
    ∃ ss₁ st ss₂, ss = ss₁ ++ st :: ss₂ ∧ usesOf ss₁ = us₁ ∧ st.happening.use? = some u ∧ usesOf ss₂ = us₂ :=
  exists_of_filterMap_eq h

theorem Host.access_takes (h : Host) (task : Nat) (own : Holdings) (a : Access) :
    h.sequencer.Takes ⟨a, (h.access task own a).1⟩ (h.access task own a).2.1.sequencer := by
  by_cases ha : a.topic = .binding
  · cases a with
    | bindKey k => exact .bind k
    | unbindKey => exact .unbind
    | _ => cases ha
  · exact .serve (h.access_serves task own ha) ha

theorem Host.access_reserve (h : Host) (task : Nat) (own : Holdings) (count : Nat) :
    (h.access task own (.reserve count)).1 = (h.sequencer.reserve count).map Prod.fst := by
  simp only [Host.access]
  cases h.sequencer.reserve count <;> rfl

variable {w w' : Wallet α} {m : Move α} {happening : Happening} {ss ss₁ ss₂ : List (Step α)}

/-- The sequencer takes the use that a move makes of it. -/
theorem Wallet.Goes.takes (g : w.Goes m happening w') {u : Use} (hu : happening.use? = some u) :
    w.host.sequencer.Takes u w'.host.sequencer := by
  obtain ⟨a, x⟩ := u
  obtain ⟨task, own, rfl, hhost⟩ := g.exists_access hu
  rw [← hhost]
  exact w.host.access_takes task own a

/-- The key that is read is the one that the sequencer is bound to. -/
theorem Wallet.Goes.boundKey {i : Nat} {k : Option AccessKey} (g : w.Goes m (.accessed i .boundKey k) w') :
    w.host.sequencer.key = k := by
  cases g with
  | access => rfl

/-- What is answered to a reservation is what the sequencer gives out. -/
theorem Wallet.Goes.reserve (g : w.Goes m happening w') {count : Nat} {r : Except ChainError (List Nat)}
    (hu : happening.use? = some ⟨.reserve count, r⟩) : (w.host.sequencer.reserve count).map Prod.fst = r := by
  obtain ⟨task, own, hanswer, -⟩ := g.exists_access hu
  rw [← w.host.access_reserve task own count, hanswer]

theorem Wallet.Goes.reserve_ok (g : w.Goes m happening w') {count : Nat} {picked : List Nat}
    (hu : happening.use? = some ⟨.reserve count, .ok picked⟩) :
    ∃ s, w.host.sequencer.reserve count = .ok (picked, s) := by
  have h := g.reserve hu
  cases hr : w.host.sequencer.reserve count with
  | error e =>
    rw [hr] at h
    cases h
  | ok r =>
    rw [hr] at h
    cases h
    exact ⟨r.2, rfl⟩

/-- Nothing else touches it. -/
theorem Wallet.Goes.sequencer_eq (g : w.Goes m happening w') (hu : happening.use? = none) :
    w'.host.sequencer = w.host.sequencer := by
  cases g with
  | access | outside => cases hu
  | @look i t v ht hs hl => cases v <;> rfl
  | @wait i t t' v x ht hl hr => cases v <;> rfl
  | _ => rfl

/-- **Every run is a life of the sequencer.** -/
theorem Run.lives (run : Run w ss w') : Sequencer.Lives w.host.sequencer (usesOf ss) w'.host.sequencer := by
  refine run.along (I := fun done w₁ => Sequencer.Lives w.host.sequencer (usesOf done) w₁.host.sequencer) (.nil _) ?_
  intro done st rest _ _ hgoes hlives
  rw [usesOf_snoc]
  cases hu : st.happening.use? with
  | none =>
    rw [hgoes.sequencer_eq hu]
    exact (List.append_nil (usesOf done)).symm ▸ hlives
  | some u => exact .snoc hlives (hgoes.takes hu)

/-- **The key that is bound is what has become of one that was read**: whoever read it, it has changed since only where
the sequencer was bound anew. -/
theorem Run.key_of_read {before since : List (Step α)} {read : Step α} {i : Nat} {k : AccessKey}
    (run : Run w (before ++ read :: since) w') (hread : read.happening = .accessed i .boundKey (some k)) :
    w'.host.sequencer.key = boundAfter (some k) (usesOf since) := by
  have hkey : read.before.host.sequencer.key = some k := by
    have hgoes := run.goes (List.mem_append_right before List.mem_cons_self)
    rw [hread] at hgoes
    exact hgoes.boundKey
  have huse : read.happening.use? = some ⟨.boundKey, some k⟩ := by rw [hread]; rfl
  obtain ⟨-, now, after⟩ := run.cut
  have hlives := (Run.cons now after).lives.key
  rw [hkey, usesOf_cons_some huse] at hlives
  exact hlives

end PasskeyConsent

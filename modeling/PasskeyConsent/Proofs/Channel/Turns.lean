import PasskeyConsent.Proofs.Channel.Usage
/-!
# Turns in the signing worker's lane

Whoever asks for the lane has a place in it until it has had its turn or is stopped, and nobody else has one; the first
place is the turn, and those behind it keep their order (`Run.turns`).  So an attach that is dropped, in its turn or
before it, leaves the lane to the next.
-/
namespace PasskeyConsent

open Observer
open AttachPhase (porter)

variable {α : Type}

/-! ## What has happened since -/

/-- A step of the one kind has been made, and none of the other since. -/
def Since (begins ends : Step α → Prop) (ss : List (Step α)) : Prop :=
  ∃ ss₁ st ss₂, ss = ss₁ ++ st :: ss₂ ∧ begins st ∧ ∀ later ∈ ss₂, ¬ ends later

section

variable {begins ends : Step α → Prop} {ss : List (Step α)} {st : Step α}

theorem not_since_nil : ¬ Since begins ends [] :=
  fun ⟨_, _, _, h, _⟩ => List.append_ne_nil_of_right_ne_nil _ (List.cons_ne_nil _ _) h.symm

theorem since_snoc : Since begins ends (ss ++ [st]) ↔ begins st ∨ Since begins ends ss ∧ ¬ ends st := by
  constructor
  · rintro ⟨ss₁, st', ss₂, heq, hbegins, hlater⟩
    rcases snoc_eq_append_cons heq with ⟨-, rfl, -⟩ | ⟨ss₃, rfl, rfl⟩
    · exact .inl hbegins
    · exact .inr ⟨⟨ss₁, st', ss₃, rfl, hbegins, fun later h => hlater later (List.mem_append_left _ h)⟩,
        hlater st (List.mem_append_right _ List.mem_cons_self)⟩
  · rintro (hbegins | ⟨⟨ss₁, st', ss₂, rfl, hbegins, hlater⟩, hst⟩)
    · exact ⟨ss, st, [], rfl, hbegins, fun _ h => absurd h List.not_mem_nil⟩
    · refine ⟨ss₁, st', ss₂ ++ [st], by rw [List.append_assoc, List.cons_append], hbegins, ?_⟩
      exact List.forall_mem_append.2 ⟨hlater, List.forall_mem_singleton.2 hst⟩

theorem Since.append (h : Since begins ends ss) {more : List (Step α)} (hmore : ∀ st ∈ more, ¬ ends st) :
    Since begins ends (ss ++ more) := by
  obtain ⟨ss₁, st, ss₂, rfl, hbegins, hlater⟩ := h
  exact ⟨ss₁, st, ss₂ ++ more, by rw [List.append_assoc, List.cons_append], hbegins,
    List.forall_mem_append.2 ⟨hlater, hmore⟩⟩

end

/-! ## Places in a lane -/

namespace Lane

/-- Who has the lane and who waits for it, in the order of their turns. -/
def places (l : Lane) : List Nat := l.holder.toList ++ l.waiting

/-- Nobody has two places, and nobody waits for a lane that no one has. -/
structure Sound (l : Lane) : Prop where
  nodup : l.places.Nodup
  waiting : l.holder = none → l.waiting = []

variable {l : Lane} {i : Nat}

theorem sound_empty : Sound {} := ⟨.nil, fun _ => rfl⟩

theorem Sound.holder_eq (sound : l.Sound) : l.holder = l.places.head? := by
  unfold places
  cases h : l.holder with
  | none => rw [sound.waiting h]; rfl
  | some j => rfl

/-- Who asks for the lane has a place in it, the last if it had none. -/
theorem places_ask (sound : l.Sound) (i : Nat) :
    (l.ask i).2.places = if i ∈ l.places then l.places else l.places ++ [i] := by
  unfold ask places
  cases h : l.holder with
  | none => simp [sound.waiting h]
  | some j =>
    by_cases hj : j = i
    · simp [hj, h]
    · by_cases hi : i ∈ l.waiting
      · simp [hj, hi, h]
      · simp [hj, hi, Ne.symm hj]

/-- Who leaves the lane has no place in it; the others keep theirs. -/
theorem places_leave (sound : l.Sound) (i : Nat) : (l.leave i).places = l.places.erase i := by
  have hnodup := sound.nodup
  unfold leave places at *
  by_cases h : l.holder = some i
  · rw [if_pos h, h]
    cases l.waiting with
    | nil => simp
    | cons next rest => simp
  · rw [if_neg h]
    rw [hnodup.erase_eq_filter]
    cases hl : l.holder with
    | none => simp
    | some j =>
      have hj : j ≠ i := fun heq => h (by rw [hl, heq])
      simp [hj]

theorem mem_places_ask (sound : l.Sound) {i j : Nat} : i ∈ (l.ask j).2.places ↔ i = j ∨ i ∈ l.places := by
  rw [places_ask sound]
  split
  · rename_i hj
    exact ⟨.inr, fun h => h.elim (fun heq => heq ▸ hj) id⟩
  · rw [List.mem_append, List.mem_singleton, or_comm]

theorem mem_places_leave (sound : l.Sound) {i j : Nat} : i ∈ (l.leave j).places ↔ i ≠ j ∧ i ∈ l.places := by
  rw [places_leave sound, sound.nodup.mem_erase_iff]

theorem Sound.ask (sound : l.Sound) (i : Nat) : (l.ask i).2.Sound := by
  refine ⟨?_, fun h => ?_⟩
  · rw [places_ask sound]
    split
    · exact sound.nodup
    · rename_i hi
      refine List.nodup_append.2 ⟨sound.nodup, List.nodup_cons.2 ⟨List.not_mem_nil, .nil⟩, fun j hj k hk heq => ?_⟩
      cases List.mem_singleton.1 hk
      exact hi (heq ▸ hj)
  · unfold Lane.ask at h
    split at h
    · cases h
    · rename_i hl
      split at h
      · rw [hl] at h; cases h
      · split at h <;> · rw [hl] at h; cases h

theorem Sound.leave (sound : l.Sound) (i : Nat) : (l.leave i).Sound := by
  refine ⟨places_leave sound i ▸ sound.nodup.erase i, fun h => ?_⟩
  unfold Lane.leave at h ⊢
  split
  · rename_i hl
    rw [if_pos hl] at h
    split at h
    · rfl
    · cases h
  · rename_i hl
    rw [if_neg hl] at h
    show l.waiting.filter _ = []
    rw [sound.waiting h]
    rfl

/-- Who asks is let in exactly if the first place is its own then. -/
theorem ask_fst_iff (sound : l.Sound) : (l.ask i).1 = true ↔ (l.ask i).2.places.head? = some i := by
  rw [← (sound.ask i).holder_eq]
  refine ⟨holder_of_ask, fun h => ?_⟩
  unfold ask at h ⊢
  split
  · rfl
  · rename_i j hl
    rw [hl] at h
    dsimp only at h
    split at h
    · rename_i hj
      rw [if_pos hj]
    · rename_i hj
      split at h
      · exact absurd (Option.some.inj (hl.symm.trans h)) hj
      · exact absurd (Option.some.inj (show some j = some i from h)) hj

end Lane

/-! ## Places along a run -/

/-- The signing worker's lane. -/
def Wallet.lane (w : Wallet α) : Lane := w.host.hub.queue.lane Hub.signerName

/-- The task is let into the lane. -/
def Step.Enters (st : Step α) (i : Nat) : Prop := st.happening = .looked i (.worker Hub.signerName) (some ())

/-- The task asks for the lane, and is let in or has to wait. -/
def Step.Asks (st : Step α) (i : Nat) : Prop := ∃ x, st.happening = .looked i (.worker Hub.signerName) x

/-- The task is through with the lane, or is dropped. -/
def Step.Leaves (st : Step α) (i : Nat) : Prop :=
  st.happening = .accessed i (.leaveWorker Hub.signerName) () ∨ st.happening = .stopped i

/-- The task is in its turn. -/
def InLane (ss : List (Step α)) (i : Nat) : Prop := Since (·.Enters i) (·.Leaves i) ss

/-- The task has asked for a turn and is not through with it. -/
def HasPlace (ss : List (Step α)) (i : Nat) : Prop := Since (·.Asks i) (·.Leaves i) ss

theorem Happening.eq_iff_event? {happening : Happening} {i : Nat} (e : Event) :
    happening = e.happening i ↔ happening.event? i = some e := ⟨event?_of_eq, eq_of_event?⟩

/-- **Who is in the lane and who waits for it**, as far as the run has got. -/
structure Turns (done : List (Step α)) (l : Lane) (phases : Nat → AttachPhase) : Prop where
  sound : l.Sound
  inside : ∀ i, InLane done i ↔ phases i ≠ .out
  places : ∀ i, i ∈ l.places ↔ HasPlace done i

/-- A task is in an attach if it has just been let in, or was in one and neither leaves nor is stopped. -/
theorem AttachPhase.after_ne_out_iff {s : AttachPhase} {e : Event} (hallowed : porter.allows s e) :
    porter.after s e ≠ .out ↔ e = .waited (.worker Hub.signerName) () ∨
      s ≠ .out ∧ e ≠ .accessed (.leaveWorker Hub.signerName) () ∧ e ≠ .stopped := by
  constructor
  · intro h
    by_cases hworker : ∃ name x, e = .waited (.worker name) x
    · obtain ⟨name, x, rfl⟩ := hworker
      obtain ⟨rfl, -⟩ := hallowed
      exact .inl rfl
    · refine .inr ⟨of_after_ne_out hallowed (fun name x heq => hworker ⟨name, x, heq⟩) h, ?_, ?_⟩ <;>
      · rintro rfl
        exact h rfl
  · rintro (rfl | ⟨hs, hleave, hstop⟩)
    · exact nofun
    · cases e with
      | accessed a x =>
        cases a with
        | isAttached session =>
          cases x with
          | true => exact hs
          | false =>
            show (if s = entered then vacant session else s) ≠ out
            split
            · exact nofun
            · exact hs
        | leaveWorker name =>
          obtain ⟨rfl, -⟩ := hallowed
          exact absurd rfl hleave
        | openBox | attach | abandonBox => exact nofun
        | _ => exact hs
      | waited w x =>
        cases w with
        | worker name => exact nofun
        | send envelope =>
          rcases x with _ | ⟨⟩
          · exact hs
          · cases s <;> first | exact hs | exact nofun
        | ack session due =>
          cases x with
          | received m => cases s <;> first | exact hs | exact nofun
          | _ => exact hs
        | _ => exact hs
      | stopped => exact absurd rfl hstop
      | _ => exact hs

section

variable {l l' : Lane} {i : Nat}

theorem Lane.Passes.of_asked {x : Option Unit} (passes : l.Passes (.looked i (.worker Hub.signerName) x) l') :
    l' = (l.ask i).2 ∧ x.isSome = (l.ask i).1 := by
  cases passes with
  | rest hidle => cases hidle
  | asked _ hx => exact ⟨rfl, hx⟩

theorem Lane.Passes.of_left (passes : l.Passes (.accessed i (.leaveWorker Hub.signerName) ()) l') :
    l' = l.leave i := by
  cases passes with
  | rest hidle => cases hidle
  | left => rfl

theorem Lane.Passes.of_stopped (passes : l.Passes (.stopped i) l') : l' = l.leave i := by
  cases passes with
  | rest hidle => cases hidle
  | stopped => rfl

end

namespace Turns

variable {done : List (Step α)} {l l' : Lane} {phases : Nat → AttachPhase} {st : Step α}

theorem fresh : Turns ([] : List (Step α)) {} fun _ => .out :=
  ⟨Lane.sound_empty, fun _ => ⟨fun h => absurd h not_since_nil, fun h => absurd rfl h⟩,
    fun _ => ⟨nofun, fun h => absurd h not_since_nil⟩⟩

theorem step (turns : Turns done l phases) (passes : l.Passes st.happening l')
    (hallows : ∀ i e, st.happening.event? i = some e → porter.allows (phases i) e) :
    Turns (done ++ [st]) l' (porter.afterAll phases st.happening) := by
  refine ⟨?sound, fun i => ?inside, fun i => ?places⟩
  case sound =>
    generalize st.happening = happening at passes
    cases passes with
    | rest => exact turns.sound
    | asked j => exact turns.sound.ask j
    | left j => exact turns.sound.leave j
    | stopped j => exact turns.sound.leave j
  case inside =>
    have henters : st.Enters i ↔ st.happening.event? i = some (.waited (.worker Hub.signerName) ()) :=
      Happening.eq_iff_event? (.waited (.worker _) ())
    have hleaves : st.Leaves i ↔ st.happening.event? i = some (.accessed (.leaveWorker Hub.signerName) ()) ∨
        st.happening.event? i = some .stopped :=
      or_congr (Happening.eq_iff_event? (.accessed (.leaveWorker _) ())) (Happening.eq_iff_event? .stopped)
    have hthere := turns.inside i
    unfold InLane at hthere ⊢
    rw [since_snoc, henters, hleaves, hthere]
    unfold afterAll
    cases he : st.happening.event? i with
    | none => simp
    | some e =>
      dsimp only
      rw [AttachPhase.after_ne_out_iff (hallows i e he)]
      simp
  case places =>
    unfold HasPlace
    rw [since_snoc]
    show _ ↔ st.Asks i ∨ HasPlace done i ∧ ¬ st.Leaves i
    rw [← turns.places i]
    unfold Step.Asks Step.Leaves
    generalize st.happening = happening at passes
    cases passes with
    | rest hidle =>
      have hnot {other : Happening} (h : other.turns = true) : happening ≠ other := by
        rintro rfl
        rw [hidle] at h
        cases h
      have hasks : ¬ ∃ x, happening = .looked i (.worker Hub.signerName) x := fun ⟨x, h⟩ => hnot rfl h
      have hleave : happening ≠ .accessed i (.leaveWorker Hub.signerName) () := hnot rfl
      have hstop : happening ≠ .stopped i := hnot rfl
      simp [hasks, hleave, hstop]
    | asked j hx =>
      rw [Lane.mem_places_ask turns.sound]
      simp [eq_comm]
    | left j =>
      rw [Lane.mem_places_leave turns.sound]
      simp [eq_comm, and_comm]
    | stopped j =>
      rw [Lane.mem_places_leave turns.sound]
      simp [eq_comm, and_comm]

end Turns

/-- **Who is in the lane and who waits for it**, in every run of the users of a new hub. -/
theorem Run.turns {w w' : Wallet α} {ss : List (Step α)} (run : Run w ss w') (hempty : w.tasks = [])
    (hnew : w.host.hub = {}) (huses : ∀ st ∈ ss, st.move.UsesHub) :
    LaneHeld w'.host.hub.queue (fun i => porter.seen .out (historyOf i ss)) ∧
      Turns ss w'.lane fun i => porter.seen .out (historyOf i ss) := by
  refine run.invariant (I := fun done w phases => LaneHeld w.host.hub.queue phases ∧ Turns done w.lane phases) hempty
    (Run.starts_usesHub huses) ⟨fun i hi => absurd rfl hi, ?_⟩ fun done st hst phases g hallows hthere => ?_
  · rw [Wallet.lane, hnew]
    exact .fresh
  obtain ⟨held, turns⟩ := hthere
  exact ⟨g.laneHeld (huses st hst) hallows held, turns.step (g.passes (huses st hst)) hallows⟩

end PasskeyConsent

import PasskeyConsent.Proofs.Nonce.Calls
/-!
# Places in the lane of the turn

A call asks for its turn and gets a place; who has the first one is inside, and nobody else is (`Queued`).  All that can
become of the lane and of the context that is kept is `Host.Turns`.
-/
namespace PasskeyConsent

open Observer
open CallPhase (caller)

/-! ## What becomes of the turn -/

/-- What happens has to do with the lane of the turn or the context that is kept. -/
def Happening.isOfTurn : Happening → Bool
  | .looked _ .turn _ | .accessed _ .leaveTurn _ | .accessed _ (.keepTurn _) _ | .stopped _ => true
  | _ => false

/-- **Everything that can become of the turn**, with what happens: of its lane and of the context that is kept. -/
inductive Host.Turns (h : Host) : Happening → Lane → Option CachedTurn → Prop
  | rest {happening : Happening} (hidle : happening.isOfTurn = false) : Turns h happening h.turnLane h.turn
  | asked (i : Nat) {x : Option Unit} (hx : x.isSome = (h.turnLane.ask i).1) :
    Turns h (.looked i .turn x) (h.turnLane.ask i).2 h.turn
  | left (i : Nat) : Turns h (.accessed i .leaveTurn ()) (h.turnLane.leave i) h.turn
  | kept (i : Nat) (c : BaseContext) : Turns h (.accessed i (.keepTurn c) ()) h.turnLane (some ⟨c, h.now⟩)
  | stopped (i : Nat) : Turns h (.stopped i) (h.turnLane.leave i) h.turn

namespace Host

/-- An access leaves the clock as it is. -/
theorem access_clock (h : Host) (task : Nat) (own : Holdings) (a : Access) :
    (h.access task own a).2.1.now = h.now ∧ (h.access task own a).2.1.maxAge = h.maxAge := by
  have change := h.access_changes task own a
  generalize (h.access task own a).2.1 = h' at change ⊢
  cases change <;> exact ⟨rfl, rfl⟩

theorem access_turn_eq (h : Host) (task : Nat) (own : Holdings) {a : Access} (hkeep : ∀ c, a ≠ .keepTurn c)
    (hdrop : a ≠ .dropTurn) : (h.access task own a).2.1.turn = h.turn := by
  have change := h.access_changes task own a
  generalize (h.access task own a).2.1 = h' at change ⊢
  cases change with
  | keepTurn c => exact absurd rfl (hkeep c)
  | dropTurn => exact absurd rfl hdrop
  | _ => rfl

theorem look_rest (h : Host) (task : Nat) (w : Wait) :
    (h.look task w).2.turn = h.turn ∧ (h.look task w).2.now = h.now ∧ (h.look task w).2.maxAge = h.maxAge := by
  cases w <;> exact ⟨rfl, rfl, rfl⟩

/-- No access but those to the turn changes it. -/
theorem access_turns (h : Host) (task : Nat) (own : Holdings) {a : Access} (hdrop : a ≠ .dropTurn) :
    h.Turns (.accessed task a (h.access task own a).1) (h.access task own a).2.1.turnLane
      (h.access task own a).2.1.turn := by
  by_cases hleave : a = .leaveTurn
  · subst hleave
    exact .left task
  · by_cases hkeep : ∃ c, a = .keepTurn c
    · obtain ⟨c, rfl⟩ := hkeep
      exact .kept task c
    · have hnot (c : BaseContext) : a ≠ .keepTurn c := fun heq => hkeep ⟨c, heq⟩
      rw [h.access_turnLane task own hleave, h.access_turn_eq task own hnot hdrop]
      refine .rest ?_
      cases a <;> first | rfl | exact absurd rfl hleave | exact absurd rfl (hnot _)

theorem look_turns (h : Host) (task : Nat) (w : Wait) :
    h.Turns (.looked task w (h.look task w).1) (h.look task w).2.turnLane (h.look task w).2.turn := by
  rw [(h.look_rest task w).1]
  by_cases hw : w = .turn
  · subst hw
    refine .asked task ?_
    show (if (h.turnLane.ask task).1 then some () else none).isSome = _
    cases (h.turnLane.ask task).1 <;> rfl
  · rw [h.look_turnLane task hw]
    refine .rest ?_
    cases w <;> first | rfl | exact absurd rfl hw

end Host

namespace Wallet.Goes

variable {α : Type} {w w' : Wallet α} {m : Move α} {h : Happening}

theorem turns (g : w.Goes m h w') (hdrop : ∀ i, h ≠ .accessed i .dropTurn ())
    (hm : ∀ a, m = .outside a → a.topic ≠ .turn) : w.host.Turns h w'.host.turnLane w'.host.turn := by
  cases g with
  | @access i t a next ht hp =>
    exact w.host.access_turns i t.own fun ha => by subst ha; exact hdrop i rfl
  | @look i t u ht hs hl => exact hl ▸ w.host.look_turns i u
  | @wait i t t' u x ht hl hr => exact hl ▸ w.host.look_turns i u
  | @stop i t t' ht hs => exact .stopped i
  | outside a =>
    have ha {b : Access} (hb : b.topic = .turn) : a ≠ b := fun heq => hm a rfl (heq ▸ hb)
    show w.host.Turns _ (w.host.access _ _ a).2.1.turnLane (w.host.access _ _ a).2.1.turn
    rw [w.host.access_turnLane _ _ (ha rfl), w.host.access_turn_eq _ _ (fun _ => ha rfl) (ha rfl)]
    exact .rest rfl
  | _ => exact .rest rfl

/-- The clock only goes forward, and how long a context may be used stays. -/
theorem clock (g : w.Goes m h w') : w.host.now ≤ w'.host.now ∧ w'.host.maxAge = w.host.maxAge := by
  cases g with
  | @access i t a next ht hp =>
    obtain ⟨hnow, hage⟩ := w.host.access_clock i t.own a
    exact ⟨Nat.le_of_eq hnow.symm, hage⟩
  | outside a =>
    obtain ⟨hnow, hage⟩ := w.host.access_clock w.tasks.length {} a
    exact ⟨Nat.le_of_eq hnow.symm, hage⟩
  | @look i t u ht hs hl =>
    obtain ⟨-, hnow, hage⟩ := w.host.look_rest i u
    exact ⟨Nat.le_of_eq hnow.symm, hage⟩
  | @wait i t t' u x ht hl hr =>
    obtain ⟨-, hnow, hage⟩ := w.host.look_rest i u
    exact ⟨Nat.le_of_eq hnow.symm, hage⟩
  | pass ms => exact ⟨Nat.le_add_right _ _, rfl⟩
  | _ => exact ⟨Nat.le_refl _, rfl⟩

theorem turnLane_of_left {i : Nat} {u : Unit}
    (g : w.Goes m (.accessed i .leaveTurn u) w') : w'.host.turnLane = w.host.turnLane.leave i := by
  cases g
  rfl

end Wallet.Goes

/-! ## Who is inside -/

namespace CallPhase

variable {s s' : CallPhase} {event : Event} {force : Bool}

/-- What has nothing to do with the lane happens inside. -/
theorem Steps.inside (h : Steps force s event s') (hwait : event ≠ .waited .turn ())
    (hleave : event ≠ .accessed .leaveTurn ()) (hstop : event ≠ .stopped) : s.isInside = true ∧ s'.isInside = true := by
  cases h with
  | enter => exact absurd rfl hwait
  | reuse | leave => exact absurd rfl hleave
  | stopOut | stopBound | stopAsking => exact absurd rfl hstop
  | _ => exact ⟨rfl, rfl⟩

theorem Steps.of_waited {u : Unit} (h : Steps force s (.waited .turn u) s') : s = .out ∧ s' = .entered := by
  cases h
  exact ⟨rfl, rfl⟩

theorem Steps.of_left {u : Unit} (h : Steps force s (.accessed .leaveTurn u) s') :
    ∃ r, s' = .left r ∧ (s = .ends r ∨ ∃ c, s = .looked (some c) ∧ r = .ok c) := by
  cases h with
  | reuse c => exact ⟨_, rfl, .inr ⟨c, rfl, rfl⟩⟩
  | leave r => exact ⟨r, rfl, .inl rfl⟩

theorem Steps.of_stopped (h : Steps force s .stopped s') : s' = .stopped := by
  cases h <;> rfl

theorem Steps.of_kept {c : BaseContext} {u : Unit} (h : Steps force s (.accessed (.keepTurn c) u) s') :
    ∃ kept, s = .absorbed kept ∧ s' = .ends (.ok c) := by
  cases h with
  | keep kept => exact ⟨kept, rfl, rfl⟩

end CallPhase

/-- Who leaves the lane lets in the one that has waited longest. -/
theorem Lane.leave_of_holder {l : Lane} {i j : Nat} {rest : List Nat} (hholder : l.holder = some i)
    (hwaiting : l.waiting = j :: rest) : l.leave i = ⟨some j, rest⟩ := by
  unfold leave
  rw [if_pos hholder, hwaiting]

/-- **Who is in the turn and who waits for it**: the lane is held by the call that is inside, and there is a place in it
only for that one and for those whose turn has not come. -/
structure Queued (l : Lane) (phases : Nat → CallPhase) (count : Nat) : Prop where
  sound : l.Sound
  holds : ∀ i, (phases i).isInside = true → l.holder = some i
  waits : ∀ i ∈ l.places, ((phases i).isInside = true ∨ phases i = .out) ∧ i < count

namespace Queued

variable {l : Lane} {phases : Nat → CallPhase} {count : Nat} {h : Host} {i j : Nat} {event : Event}

theorem unique (queued : Queued l phases count) (hi : (phases i).isInside = true) (hj : (phases j).isInside = true) :
    i = j := Option.some.inj ((queued.holds i hi).symm.trans (queued.holds j hj))

theorem mono (queued : Queued l phases count) {count' : Nat} (hcount : count ≤ count') : Queued l phases count' where
  sound := queued.sound
  holds := queued.holds
  waits i hi := ⟨(queued.waits i hi).1, Nat.lt_of_lt_of_le (queued.waits i hi).2 hcount⟩

/-- What has nothing to do with the lane. -/
theorem rest (queued : Queued l phases count) {happening : Happening}
    (hinside : ∀ i event, happening.event? i = some event →
      (phases i).isInside = true ∧ ((phases i).after event).isInside = true) :
    Queued l ((caller true).afterAll phases happening) count := by
  have hafter (i : Nat) : (caller true).afterAll phases happening i = phases i ∨
      (phases i).isInside = true ∧ ((caller true).afterAll phases happening i).isInside = true := by
    unfold afterAll
    cases hevent : happening.event? i with
    | none => exact .inl rfl
    | some event => exact .inr (hinside i event hevent)
  refine ⟨queued.sound, fun i hi => ?_, fun i hi => ?_⟩
  · rcases hafter i with heq | ⟨hbefore, -⟩
    · exact queued.holds i (heq ▸ hi)
    · exact queued.holds i hbefore
  · obtain ⟨hwhere, hcount⟩ := queued.waits i hi
    rcases hafter i with heq | ⟨-, hnow⟩
    · exact ⟨heq ▸ hwhere, hcount⟩
    · exact ⟨.inl hnow, hcount⟩

/-- Who is let in was not inside before, and nobody else is. -/
theorem enter (queued : Queued l phases count) (hmine : (l.ask i).1 = true) (hout : phases i = .out) (hi : i < count) :
    Queued (l.ask i).2 ((caller true).afterAll phases (.looked i .turn (some ()))) count := by
  have hself : (caller true).afterAll phases (.looked i .turn (some ())) i = .entered := by
    refine (afterAll_self _ _ i (.waited .turn ())).trans ?_
    rw [hout]
    rfl
  have hother {j : Nat} (hij : i ≠ j) : (caller true).afterAll phases (.looked i .turn (some ())) j = phases j :=
    afterAll_of_ne _ _ hij (.waited .turn ())
  refine ⟨queued.sound.ask i, fun j hj => ?_, fun j hj => ?_⟩
  · by_cases hij : i = j
    · exact hij ▸ Lane.holder_of_ask hmine
    · rw [hother hij] at hj
      exact Lane.holder_ask (queued.holds j hj)
  · by_cases hij : i = j
    · subst hij
      rw [hself]
      exact ⟨.inl rfl, hi⟩
    · rw [hother hij]
      exact queued.waits j (((Lane.mem_places_ask queued.sound).1 hj).resolve_left (Ne.symm hij))

/-- Who is not let in gets a place. -/
theorem wait (queued : Queued l phases count) (hout : phases i = .out) (hi : i < count) :
    Queued (l.ask i).2 phases count := by
  refine ⟨queued.sound.ask i, fun j hj => Lane.holder_ask (queued.holds j hj), fun j hj => ?_⟩
  rcases (Lane.mem_places_ask queued.sound).1 hj with rfl | hj
  · exact ⟨.inr hout, hi⟩
  · exact queued.waits j hj

/-- Who is through, or is stopped, has no place. -/
theorem leave (queued : Queued l phases count) (hafter : ((phases i).after event).isInside = false) :
    Queued (l.leave i) ((caller true).afterAll phases (event.happening i)) count := by
  refine ⟨queued.sound.leave i, fun j hj => ?_, fun j hj => ?_⟩
  · by_cases hij : i = j
    · subst hij
      rw [afterAll_self] at hj
      exact absurd (hafter.symm.trans hj) Bool.false_ne_true
    · rw [afterAll_of_ne _ _ hij] at hj
      exact Lane.holder_leave (queued.holds j hj) hij
  · obtain ⟨hne, hj⟩ := (Lane.mem_places_leave queued.sound).1 hj
    rw [afterAll_of_ne _ _ (Ne.symm hne)]
    exact queued.waits j hj

/-- Who is next in the lane has done nothing yet. -/
theorem next (queued : Queued l phases count) {rest : List Nat}
    (hinside : (phases i).isInside = true) (hwaiting : l.waiting = j :: rest) :
    i ≠ j ∧ phases j = .out ∧ j < count := by
  have hholder := queued.holds i hinside
  have hplaces : l.places = i :: j :: rest := by rw [Lane.places, hholder, hwaiting]; rfl
  have hne : i ≠ j := by
    rintro rfl
    have hnodup := queued.sound.1
    rw [hplaces] at hnodup
    exact (List.nodup_cons.1 hnodup).1 List.mem_cons_self
  obtain ⟨hwhere, hcount⟩ := queued.waits j (hplaces ▸ List.mem_cons_of_mem _ List.mem_cons_self)
  exact ⟨hne, hwhere.resolve_left fun hj => hne (queued.unique hinside hj), hcount⟩

/-- **Every move keeps it.** -/
theorem step (queued : Queued h.turnLane phases count) {happening : Happening} {l' : Lane} {t' : Option CachedTurn}
    (turns : h.Turns happening l' t')
    (hsteps : ∀ i event, happening.event? i = some event → (phases i).Steps true event ((phases i).after event))
    (hlook : ∀ i x, happening = .looked i .turn x → phases i = .out ∧ i < count) :
    Queued l' ((caller true).afterAll phases happening) count := by
  cases turns with
  | rest hidle =>
    refine queued.rest fun i event hevent => (hsteps i event hevent).inside ?_ ?_ ?_ <;>
    · rintro rfl
      rw [Happening.eq_of_event? hevent] at hidle
      cases hidle
  | @asked i x hx =>
    obtain ⟨hout, hi⟩ := hlook i x rfl
    cases x with
    | none =>
      rw [afterAll_none _ _ fun _ => rfl]
      exact queued.wait hout hi
    | some u => exact queued.enter hx.symm hout hi
  | left i =>
    have hstep := hsteps i (.accessed .leaveTurn ()) (Event.event?_happening i (.accessed .leaveTurn ()))
    obtain ⟨r, hr, -⟩ := hstep.of_left
    exact queued.leave (hr ▸ rfl : (CallPhase.after _ (.accessed .leaveTurn ())).isInside = false)
  | stopped i =>
    have hstep := hsteps i .stopped (Event.event?_happening i .stopped)
    exact queued.leave (hstep.of_stopped ▸ rfl : (CallPhase.after _ .stopped).isInside = false)
  | kept i c =>
    refine queued.rest fun j event hevent => (hsteps j event hevent).inside ?_ ?_ ?_ <;>
    · rintro rfl
      cases Happening.eq_of_event? hevent

end Queued

end PasskeyConsent

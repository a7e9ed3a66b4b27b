import PasskeyConsent.Proofs.Nonce.Places
import PasskeyConsent.Proofs.Nonce.Lag
/-!
# Sharing the context of a turn

Any number of calls for the context of a turn share one.  The lane lets one of them in at a time, and who is let in
looks again before it asks the chain; so as long as no forced call has its way, none asks while a young context is kept
(`Sharing`).  What is kept first is what all calls return until it is too old, and a call that the chain refuses leaves
everything as it is, and its turn to the next, which asks for itself (`turn_shared`).
-/
namespace PasskeyConsent

open Observer
open CallPhase (caller)

/-! ## What is found and what is returned -/

namespace CallPhase

/-- The young context that the call has found, if there was one, until it knows what it returns. -/
def found? : CallPhase → Option (Option BaseContext)
  | .looked kept | .bound kept _ | .asking kept | .told kept | .absorbed kept => some kept
  | _ => none

/-- The context that the call may return. -/
def returned? : CallPhase → Option BaseContext
  | .looked kept => kept
  | .ends (.ok c) => some c
  | _ => none

/-- The chain has told the call all that it has asked, and nothing is kept of it yet. -/
def isTold : CallPhase → Bool
  | .told _ | .absorbed _ => true
  | _ => false

variable {s s' : CallPhase} {event : Event} {force : Bool}

theorem isInside_of_found? {kept : Option BaseContext} (h : s.found? = some kept) : s.isInside = true := by
  cases s <;> first | rfl | cases h

theorem isInside_of_returned? {c : BaseContext} (h : s.returned? = some c) : s.isInside = true := by
  cases s <;> first | rfl | cases h

theorem isInside_of_isTold (h : s.isTold = true) : s.isInside = true := by
  cases s <;> first | rfl | cases h

/-- The context that may be returned was found, or has been kept. -/
theorem Steps.returned? (h : Steps force s event s') {c : BaseContext} (hs : s'.returned? = some c) :
    event = .accessed .youngTurn (some c) ∨ event = .accessed (.keepTurn c) () ∨ s.returned? = some c := by
  cases h with
  | look kept =>
    cases kept with
    | none => cases hs
    | some c' =>
      cases hs
      exact .inl rfl
  | keep kept c' =>
    cases hs
    exact .inr (.inl rfl)
  | _ => cases hs

/-- What has been found is found by looking. -/
theorem Steps.found? (h : Steps force s event s') {kept : Option BaseContext} (hs : s'.found? = some kept) :
    event = .accessed .youngTurn kept ∨ s.found? = some kept := by
  cases h with
  | look kept' =>
    cases hs
    exact .inl rfl
  | _ => first | exact .inr hs | cases hs

/-- Who is told all has just been told the block, or was before. -/
theorem Steps.isTold (h : Steps force s event s') (hs : s'.isTold = true) :
    (∃ b, event = .answered .latestBlock (.ok b)) ∨ s.isTold = true := by
  cases h with
  | tell b => exact .inl ⟨b, rfl⟩
  | absorb kept => exact .inr rfl
  | _ => cases hs

end CallPhase


namespace Host

/-- The context that is kept, if it is young enough to be used again. -/
def young? (h : Host) : Option CachedTurn := h.turn.filter fun t => h.now - t.fetchedAt < h.maxAge

variable {h h' : Host} {t : CachedTurn}

theorem young?_eq_some : h.young? = some t ↔ h.turn = some t ∧ h.now - t.fetchedAt < h.maxAge := by
  unfold young?
  rw [Option.filter_eq_some_iff, decide_eq_true_eq]

theorem youngTurn_eq (h : Host) : h.youngTurn = h.young?.map (·.context) := by
  unfold youngTurn young?
  cases h.turn with
  | none => rfl
  | some t =>
    by_cases hyoung : h.now - t.fetchedAt < h.maxAge
    · simp [Option.filter, hyoung]
    · simp [Option.filter, hyoung]

theorem youngTurn_eq_none_iff : h.youngTurn = none ↔ h.young? = none := by rw [youngTurn_eq, Option.map_eq_none_iff]

/-- A context that is too old does not become young again. -/
theorem young?_eq_none_of_le (hturn : h'.turn = h.turn) (hnow : h.now ≤ h'.now) (hage : h'.maxAge = h.maxAge)
    (hnone : h.young? = none) : h'.young? = none := by
  refine Option.eq_none_iff_forall_ne_some.2 fun t ht => ?_
  obtain ⟨hkept, hyoung⟩ := young?_eq_some.1 ht
  have hthere : h.young? = some t := young?_eq_some.2 ⟨hturn ▸ hkept, by omega⟩
  rw [hnone] at hthere
  cases hthere

/-- One that is young stays so until its time is over. -/
theorem young?_of_lt (hturn : h'.turn = h.turn) (hage : h'.maxAge = h.maxAge) (hyoung : h.young? = some t)
    (hnow : h'.now < t.fetchedAt + h.maxAge) : h'.young? = some t := by
  obtain ⟨hkept, hlt⟩ := young?_eq_some.1 hyoung
  exact young?_eq_some.2 ⟨hturn.trans hkept, by omega⟩

end Host

/-- **What the calls have found**: nothing, where none is young now either; or what they return, which is kept still. -/
structure Current (h : Host) (phases : Nat → CallPhase) : Prop where
  nothing : ∀ i, (phases i).found? = some none → h.young? = none
  returned : ∀ i c, (phases i).returned? = some c → ∃ t, h.turn = some t ∧ t.context = c
  /-- No call that has found a context is told another. -/
  told : ∀ i c, (phases i).isTold = true → (phases i).found? ≠ some (some c)

/-- What becomes of the record of a task: nothing, or what its event makes of it. -/
theorem Observer.afterAll_cases {σ : Type} (o : Observer σ) (recs : Nat → σ) (happening : Happening) (i : Nat) :
    o.afterAll recs happening i = recs i ∨
      ∃ event, happening.event? i = some event ∧ o.afterAll recs happening i = o.after (recs i) event := by
  unfold afterAll
  cases hevent : happening.event? i with
  | none => exact .inl rfl
  | some event => exact .inr ⟨event, rfl, rfl⟩

namespace Current

variable {h h' : Host} {phases : Nat → CallPhase} {count : Nat} {happening : Happening}

/-- What leaves the context that is kept. -/
theorem rest (current : Current h phases) (hturn : h'.turn = h.turn) (hnow : h.now ≤ h'.now)
    (hage : h'.maxAge = h.maxAge) (hkept : ∀ i c, happening ≠ .accessed i (.keepTurn c) ())
    (hsteps : ∀ i event, happening.event? i = some event → (phases i).Steps true event ((phases i).after event))
    (hlook : ∀ i kept, happening = .accessed i .youngTurn kept → h.youngTurn = kept)
    (htold : ∀ i b c, happening = .answered i .latestBlock (.ok b) → (phases i).found? ≠ some (some c)) :
    Current h' ((caller true).afterAll phases happening) := by
  have hcases := (caller true).afterAll_cases phases happening
  refine ⟨fun i hi => ?_, fun i c hi => ?_, fun i c hi hfound => ?_⟩
  · have hnone : h.young? = none := by
      rcases hcases i with heq | ⟨event, hevent, heq⟩
      · exact current.nothing i (heq ▸ hi)
      · rw [heq] at hi
        rcases (hsteps i event hevent).found? hi with rfl | hi
        · exact Host.youngTurn_eq_none_iff.1 (hlook i none (Happening.eq_of_event? hevent))
        · exact current.nothing i hi
    exact Host.young?_eq_none_of_le hturn hnow hage hnone
  · rw [hturn]
    rcases hcases i with heq | ⟨event, hevent, heq⟩
    · exact current.returned i c (heq ▸ hi)
    · rw [heq] at hi
      rcases (hsteps i event hevent).returned? hi with rfl | rfl | hi
      · have hyoung := hlook i (some c) (Happening.eq_of_event? hevent)
        rw [Host.youngTurn_eq] at hyoung
        obtain ⟨t, ht, hc⟩ := Option.map_eq_some_iff.1 hyoung
        exact ⟨t, (Host.young?_eq_some.1 ht).1, hc⟩
      · exact absurd (Happening.eq_of_event? hevent) (hkept i c)
      · exact current.returned i c hi
  · rcases hcases i with heq | ⟨event, hevent, heq⟩
    · rw [heq] at hi hfound
      exact current.told i c hi hfound
    · rw [heq] at hi hfound
      have hstep := hsteps i event hevent
      rcases hstep.found? hfound with rfl | hbefore
      · rcases hstep.isTold hi with ⟨b, hb⟩ | hi
        · cases hb
        · generalize phases i = s, (phases i).after _ = s' at hstep hi
          cases hstep
          cases hi
      · rcases hstep.isTold hi with ⟨b, rfl⟩ | hi
        · exact htold i b c (Happening.eq_of_event? hevent) hbefore
        · exact current.told i c hi hbefore

/-- Who keeps a context is alone inside. -/
theorem of_kept (queued : Queued h.turnLane phases count) {i : Nat} {c : BaseContext} {kept : Option BaseContext}
    (hphase : phases i = .absorbed kept) (hturn : h'.turn = some ⟨c, h.now⟩) :
    Current h' ((caller true).afterAll phases (.accessed i (.keepTurn c) ())) := by
  have hself : (caller true).afterAll phases (.accessed i (.keepTurn c) ()) i = .ends (.ok c) := by
    refine (afterAll_self _ _ i (.accessed (.keepTurn c) ())).trans ?_
    rw [hphase]
    rfl
  have hother {j : Nat} (hij : i ≠ j) : (caller true).afterAll phases (.accessed i (.keepTurn c) ()) j = phases j :=
    afterAll_of_ne _ _ hij (.accessed (.keepTurn c) ())
  have halone {j : Nat} (hj : (phases j).isInside = true) : i = j := queued.unique (hphase ▸ rfl) hj
  refine ⟨fun j hj => ?_, fun j c' hj => ?_, fun j c' hj hfound => ?_⟩
  · by_cases hij : i = j
    · rw [← hij, hself] at hj
      cases hj
    · rw [hother hij] at hj
      exact absurd (halone (CallPhase.isInside_of_found? hj)) hij
  · by_cases hij : i = j
    · rw [← hij, hself] at hj
      cases hj
      exact ⟨_, hturn, rfl⟩
    · rw [hother hij] at hj
      exact absurd (halone (CallPhase.isInside_of_returned? hj)) hij
  · by_cases hij : i = j
    · rw [← hij, hself] at hj
      cases hj
    · rw [hother hij] at hj
      exact absurd (halone (CallPhase.isInside_of_isTold hj)) hij

end Current

/-! ## The contexts of a run -/

/-- The context that is kept in a step. -/
def Step.kept? (st : Step Fetched) : Option CachedTurn :=
  match st.happening with
  | .accessed _ (.keepTurn c) _ => some ⟨c, st.before.host.now⟩
  | _ => none

/-- The contexts of a run: one that is young when it begins, and those that are kept in it. -/
def contextsIn (h : Host) (ss : List (Step Fetched)) : List CachedTurn := h.young?.toList ++ ss.filterMap Step.kept?

theorem contextsIn_snoc (h : Host) (ss : List (Step Fetched)) (st : Step Fetched) :
    contextsIn h (ss ++ [st]) = contextsIn h ss ++ st.kept?.toList := by
  rw [contextsIn, contextsIn, filterMap_snoc, List.append_assoc]

theorem contextsIn_append (h : Host) (ss₁ ss₂ : List (Step Fetched)) :
    contextsIn h (ss₁ ++ ss₂) = contextsIn h ss₁ ++ ss₂.filterMap Step.kept? := by
  rw [contextsIn, contextsIn, List.filterMap_append, List.append_assoc]

/-- A query is answered to its end: the chain has told the key, and now its latest block. -/
def Step.Fetches (st : Step Fetched) : Prop := ∃ i b, st.happening = .answered i .latestBlock (.ok b)

/-- **How far the sharing has got.** -/
structure Sharing (start : Host) (done : List (Step Fetched)) (w : Wallet Fetched) : Prop where
  queued : Queued w.host.turnLane (phaseOf done) w.tasks.length
  current : Current w.host (phaseOf done)
  age : w.host.maxAge = start.maxAge
  /-- Until a context is kept, none is young and none can be returned; -/
  unkept : contextsIn start done = [] → w.host.young? = none ∧ ∀ i, (phaseOf done i).returned? = none
  /-- the first one stays until its time is over. -/
  first : ∀ t, (contextsIn start done).head? = some t → w.host.now < t.fetchedAt + start.maxAge →
    w.host.young? = some t
  /-- Who was told all is about to keep it. -/
  told : (∃ st ∈ done, st.Fetches) → contextsIn start done = [] → ∃ i, (phaseOf done i).isTold = true

theorem phaseOf_snoc (done : List (Step Fetched)) (st : Step Fetched) :
    phaseOf (done ++ [st]) = (caller true).afterAll (phaseOf done) st.happening := (caller true).seen_snoc .out done st

theorem CallPhase.Steps.told_or {s s' : CallPhase} {event : Event} {force : Bool} (h : Steps force s event s')
    (hs : s.isTold = true) : s'.isTold = true ∨ ∃ c, event = .accessed (.keepTurn c) () := by
  cases h with
  | absorb => exact .inl rfl
  | keep kept c => exact .inr ⟨c, rfl⟩
  | _ => cases hs

namespace Sharing

variable {start : Host} {done : List (Step Fetched)} {st : Step Fetched}

/-- A context is kept by one who has found nothing, so none is young. -/
theorem keep (sharing : Sharing start done st.before) {i : Nat} {c : BaseContext}
    (hnow : st.happening = .accessed i (.keepTurn c) ()) {kept : Option BaseContext}
    (hphase : phaseOf done i = .absorbed kept) (hturn : st.after.host.turn = some ⟨c, st.before.host.now⟩)
    (hclock : st.before.host.now ≤ st.after.host.now) (hage : st.after.host.maxAge = st.before.host.maxAge)
    (queued : Queued st.after.host.turnLane (phaseOf (done ++ [st])) st.after.tasks.length) :
    Sharing start (done ++ [st]) st.after := by
  have hold : st.before.host.young? = none := by
    cases kept with
    | none => exact sharing.current.nothing i (hphase ▸ rfl)
    | some c' => exact absurd (hphase ▸ rfl) (sharing.current.told i c' (hphase ▸ rfl))
  have hcontexts : contextsIn start (done ++ [st]) = contextsIn start done ++ [⟨c, st.before.host.now⟩] := by
    rw [contextsIn_snoc]
    unfold Step.kept?
    rw [hnow]
    rfl
  have hne : contextsIn start (done ++ [st]) ≠ [] := by
    rw [hcontexts]
    exact List.concat_ne_nil _ _
  refine ⟨queued, ?_, hage.trans sharing.age, fun hnil => absurd hnil hne, fun t ht hlt => ?_,
    fun _ hnil => absurd hnil hne⟩
  · rw [phaseOf_snoc, hnow]
    exact .of_kept sharing.queued hphase hturn
  · rw [hcontexts, List.head?_append] at ht
    cases hhead : (contextsIn start done).head? with
    | none =>
      rw [hhead] at ht
      cases ht
      refine Host.young?_eq_some.2 ⟨hturn, ?_⟩
      have hsame := hage.trans sharing.age
      dsimp only at hlt ⊢
      omega
    | some t' =>
      rw [hhead] at ht
      cases ht
      have hyoung := sharing.first t hhead (Nat.lt_of_le_of_lt hclock hlt)
      rw [hold] at hyoung
      cases hyoung

/-- Nothing else touches the context that is kept. -/
theorem rest (sharing : Sharing start done st.before) (hkept : ∀ i c, st.happening ≠ .accessed i (.keepTurn c) ())
    (hturn : st.after.host.turn = st.before.host.turn)
    (hclock : st.before.host.now ≤ st.after.host.now) (hage : st.after.host.maxAge = st.before.host.maxAge)
    (hsteps : ∀ i event, st.happening.event? i = some event →
      (phaseOf done i).Steps true event ((phaseOf done i).after event))
    (hlook : ∀ i kept, st.happening = .accessed i .youngTurn kept → st.before.host.youngTurn = kept)
    (htold : ∀ i b c, st.happening = .answered i .latestBlock (.ok b) → (phaseOf done i).found? ≠ some (some c))
    (queued : Queued st.after.host.turnLane (phaseOf (done ++ [st])) st.after.tasks.length) :
    Sharing start (done ++ [st]) st.after := by
  have hcases := (caller true).afterAll_cases (phaseOf done) st.happening
  have hcontexts : contextsIn start (done ++ [st]) = contextsIn start done := by
    rw [contextsIn_snoc]
    unfold Step.kept?
    split
    · rename_i i c x hnow
      exact absurd hnow (hkept i c)
    · exact List.append_nil _
  refine ⟨queued, ?_, hage.trans sharing.age, fun hnil => ?_, fun t ht hlt => ?_, fun htells hnil => ?_⟩
  · rw [phaseOf_snoc]
    exact sharing.current.rest hturn hclock hage hkept hsteps hlook htold
  · rw [hcontexts] at hnil
    obtain ⟨hnone, hreturned⟩ := sharing.unkept hnil
    refine ⟨Host.young?_eq_none_of_le hturn hclock hage hnone, fun i => Option.eq_none_iff_forall_ne_some.2 fun c hi => ?_⟩
    rw [phaseOf_snoc] at hi
    rcases hcases i with heq | ⟨event, hevent, heq⟩
    · rw [heq, hreturned] at hi
      cases hi
    · rw [heq] at hi
      rcases (hsteps i event hevent).returned? hi with rfl | rfl | hi
      · have hyoung := hlook i (some c) (Happening.eq_of_event? hevent)
        rw [Host.youngTurn_eq_none_iff.2 hnone] at hyoung
        cases hyoung
      · exact hkept i c (Happening.eq_of_event? hevent)
      · rw [hreturned] at hi
        cases hi
  · rw [hcontexts] at ht
    have hyoung := sharing.first t ht (Nat.lt_of_le_of_lt hclock hlt)
    exact Host.young?_of_lt hturn hage hyoung (sharing.age ▸ hlt)
  · rw [hcontexts] at hnil
    obtain ⟨st', hst', hfetches⟩ := htells
    rw [phaseOf_snoc]
    rcases List.mem_append.1 hst' with hst' | hst'
    · obtain ⟨i, hi⟩ := sharing.told ⟨st', hst', hfetches⟩ hnil
      refine ⟨i, ?_⟩
      rcases hcases i with heq | ⟨event, hevent, heq⟩
      · rw [heq]
        exact hi
      · rw [heq]
        refine ((hsteps i event hevent).told_or hi).resolve_right ?_
        rintro ⟨c, rfl⟩
        exact hkept i c (Happening.eq_of_event? hevent)
    · cases List.mem_singleton.1 hst'
      obtain ⟨i, b, hnow⟩ := hfetches
      have hevent := Happening.event?_of_eq (e := .answered .latestBlock (.ok b)) hnow
      have hstep := hsteps i _ hevent
      refine ⟨i, ?_⟩
      rw [hnow]
      refine (congrArg CallPhase.isTold (afterAll_self _ _ i (.answered .latestBlock (.ok b)))).trans ?_
      show ((phaseOf done i).after _).isTold = true
      generalize phaseOf done i = s, (phaseOf done i).after _ = s' at hstep ⊢
      cases hstep
      rfl

end Sharing

/-- **Calls that share a turn**: of those that are forced none is told all, and nobody else touches the turn; the
sequencer may be used meanwhile. -/
def Step.SharesTurn (ss : List (Step Fetched)) (st : Step Fetched) : Prop :=
  match st.move with
  | .start p => p.Asks false ∨ p.Asks true ∧ ∀ b, .answered .latestBlock (.ok b) ∉ historyOf st.before.tasks.length ss
  | .outside a => a.topic ≠ .turn
  | _ => True

theorem asks_of_sharesTurn {ss : List (Step Fetched)} (hshares : ∀ st ∈ ss, st.SharesTurn ss) :
    ∀ st ∈ ss, ∀ p, st.move = .start p → ∃ force, p.Asks force := by
  intro st hst p hp
  have hmove := hshares st hst
  unfold Step.SharesTurn at hmove
  rw [hp] at hmove
  rcases hmove with hasks | ⟨hasks, -⟩
  · exact ⟨false, hasks⟩
  · exact ⟨true, hasks⟩

theorem mem_historyOf {α : Type} {ss₁ ss₂ : List (Step α)} {st : Step α} {i : Nat} {event : Event}
    (h : st.happening.event? i = some event) : event ∈ historyOf i (ss₁ ++ st :: ss₂) := by
  rw [historyOf_append, historyOf_cons_some h]
  exact List.mem_append_right _ List.mem_cons_self

section

variable {w w' : Wallet Fetched} {ss ss₁ ss₂ : List (Step Fetched)} {st : Step Fetched}

/-- Who has found a context is not told another, as a forced call is that has its way. -/
theorem Run.found_of_told (run : Run w ss w') (hempty : w.tasks = []) (hshares : ∀ st ∈ ss, st.SharesTurn ss)
    (hss : ss = ss₁ ++ st :: ss₂) {i : Nat} {b : Block} (hnow : st.happening = .answered i .latestBlock (.ok b))
    (c : BaseContext) : (phaseOf ss₁ i).found? ≠ some (some c) := by
  have hevent := Happening.event?_of_eq (e := .answered .latestBlock (.ok b)) hnow
  subst hss
  obtain ⟨t, t', ht, -, -⟩ := (run.goes (List.mem_append_right ss₁ List.mem_cons_self)).noticed hevent
  obtain ⟨begin, hbegin, p, hp, hi⟩ := run.cut.1.exists_start hempty ht
  have hmem : begin ∈ ss₁ ++ st :: ss₂ := List.mem_append_left _ hbegin
  have hmove := hshares begin hmem
  unfold Step.SharesTurn at hmove
  rw [hp] at hmove
  rcases hmove with hasks | ⟨-, hnot⟩
  · have hallowed : (phaseOf ss₁ i).Steps false _ _ :=
      run.allowed_since_start hmem hp hi (CallPhase.meets hasks nofun {}) rfl hevent
    generalize phaseOf ss₁ i = s, CallPhase.after _ _ = s' at hallowed
    cases hallowed with
    | @tell kept b hkept =>
      rintro heq
      cases heq
      exact absurd (hkept rfl) Bool.false_ne_true
  · rw [hi] at hnot
    exact absurd (mem_historyOf hevent) (hnot b)

/-- **Calls share their turn**, wherever the run has got to. -/
theorem Run.sharing (run : Run w ss w') (hempty : w.tasks = []) (hlane : w.host.turnLane = {})
    (hshares : ∀ st ∈ ss, st.SharesTurn ss) : Sharing w.host ss w' := by
  have hasks := asks_of_sharesTurn hshares
  have hout : ∀ i, phaseOf [] i = .out := fun _ => rfl
  refine run.along (I := Sharing w.host) ⟨?queued, ?current, rfl, ?unkept, ?first, ?told⟩ ?step
  case queued =>
    refine ⟨hlane ▸ Lane.sound_empty, fun i hi => ?_, fun i hi => ?_⟩
    · rw [hout] at hi
      cases hi
    · rw [hlane] at hi
      cases hi
  case current =>
    refine ⟨fun i hi => ?_, fun i c hi => ?_, fun i c hi => ?_⟩ <;>
    · rw [hout] at hi
      cases hi
  case unkept =>
    intro hnil
    refine ⟨?_, fun i => by rw [hout]; rfl⟩
    unfold contextsIn at hnil
    rw [List.filterMap_nil, List.append_nil, Option.toList_eq_nil_iff] at hnil
    exact hnil
  case first =>
    intro t ht _
    unfold contextsIn at ht
    rw [List.filterMap_nil, List.append_nil, Option.head?_toList] at ht
    exact ht
  case told => exact fun ⟨_, hst, _⟩ => absurd hst List.not_mem_nil
  case step =>
    intro done st rest hss before g sharing
    have hsteps (i event) (hevent : st.happening.event? i = some event) :
        (phaseOf done i).Steps true event ((phaseOf done i).after event) := by
      subst hss
      exact run.allowedAll hempty (Run.starts_caller hasks) hevent
    have hdrop (i : Nat) : st.happening ≠ .accessed i .dropTurn () := by
      intro hnow
      have hstep := hsteps i _ (Happening.event?_of_eq (e := .accessed .dropTurn ()) hnow)
      generalize phaseOf done i = s, CallPhase.after _ _ = s' at hstep
      cases hstep
    have houtside (a : Access) (hmove : st.move = .outside a) : a.topic ≠ .turn := by
      have h := hshares st (hss ▸ List.mem_append_right _ List.mem_cons_self)
      unfold Step.SharesTurn at h
      rwa [hmove] at h
    have hturns := g.turns hdrop houtside
    have hqueued : Queued st.after.host.turnLane (phaseOf (done ++ [st])) st.after.tasks.length := by
      rw [phaseOf_snoc]
      refine (sharing.queued.step hturns hsteps fun i x hnow => ?_).mono g.count_le
      subst hss
      have hallowed := run.allowed_look hempty (Run.starts_caller hasks) hnow ()
      rw [hnow] at g
      obtain ⟨⟨t, ht, -⟩, -⟩ := g.of_looked
      exact ⟨(CallPhase.Steps.of_waited hallowed).1, (List.getElem?_eq_some_iff.1 ht).1⟩
    obtain ⟨hclock, hage⟩ := g.clock
    by_cases hkept : ∃ i c, st.happening = .accessed i (.keepTurn c) ()
    · obtain ⟨i, c, hnow⟩ := hkept
      obtain ⟨kept, hphase, -⟩ := (hsteps i _ (Happening.event?_of_eq (e := .accessed (.keepTurn c) ()) hnow)).of_kept
      refine sharing.keep hnow hphase ?_ hclock hage hqueued
      rw [hnow] at hturns
      generalize st.after.host.turnLane = l', st.after.host.turn = t' at hturns
      cases hturns with
      | rest hidle => cases hidle
      | kept => rfl
    · have hnot (i : Nat) (c : BaseContext) : st.happening ≠ .accessed i (.keepTurn c) () := fun h => hkept ⟨i, c, h⟩
      refine sharing.rest hnot ?_ hclock hage hsteps (fun i kept hnow => ?_) (fun i b c hnow => ?_) hqueued
      · generalize st.happening = happening, st.after.host.turnLane = l', st.after.host.turn = t' at hturns hnot
        cases hturns with
        | kept i c => exact absurd rfl (hnot i c)
        | _ => rfl
      · rw [hnow] at g
        obtain ⟨_, _, hyoung, -⟩ := g.exists_access rfl
        exact hyoung
      · exact run.found_of_told hempty hshares hss hnow c

theorem Run.asks_of_bound (run : Run w ss w') (hempty : w.tasks = [])
    (hasks : ∀ st ∈ ss, ∀ p, st.move = .start p → ∃ force, p.Asks force) {j : Nat} {kept : Option BaseContext}
    {k : AccessKey} (hs : phaseOf ss j = .bound kept k) :
    ∃ v, w'.step? (.advance j) = some (.called j (.accessKey k), v) := by
  obtain ⟨t, ht⟩ := run.exists_of_inside (by rw [hs]; rfl)
  have hnext := run.next hempty hasks ht
  rw [hs] at hnext
  obtain ⟨hp, hcalling⟩ := hnext.call_of_bound
  exact ⟨_, (Wallet.Goes.call ht hp hcalling).step?⟩

theorem Run.asks_of_looked (run : Run w ss w') (hempty : w.tasks = [])
    (hasks : ∀ st ∈ ss, ∀ p, st.move = .start p → ∃ force, p.Asks force) {j : Nat} (hs : phaseOf ss j = .looked none)
    {k : AccessKey} (hkey : w'.host.sequencer.key = some k) :
    ∃ more v, Run w' more v ∧
      more.map (·.happening) = [.accessed j .boundKey (some k), .called j (.accessKey k)] := by
  obtain ⟨t, ht⟩ := run.exists_of_inside (by rw [hs]; rfl)
  have hnext := run.next hempty hasks ht
  rw [hs] at hnext
  obtain ⟨next, hp⟩ := hnext.access_of_inside rfl fun event s' hstep => by cases hstep <;> exact ⟨_, rfl⟩
  have first := (Wallet.Goes.access ht hp).step?
  have hanswer : (w'.host.access j t.own .boundKey).1 = some k := hkey
  rw [hanswer] at first
  obtain ⟨v, second⟩ := (run.snoc first).asks_of_bound hempty (Run.asks_snoc hasks nofun)
    (phaseOf_snoc_of (.accessed .boundKey (some k)) rfl hs)
  exact ⟨_, v, .cons first (.cons second (.nil v)), rfl⟩

theorem Run.asks_of_entered (run : Run w ss w') (hempty : w.tasks = [])
    (hasks : ∀ st ∈ ss, ∀ p, st.move = .start p → ∃ force, p.Asks force) {j : Nat} (hs : phaseOf ss j = .entered)
    (hyoung : w'.host.youngTurn = none) {k : AccessKey} (hkey : w'.host.sequencer.key = some k) :
    ∃ more v, Run w' more v ∧ more.map (·.happening) =
      [.accessed j .youngTurn none, .accessed j .boundKey (some k), .called j (.accessKey k)] := by
  obtain ⟨t, ht⟩ := run.exists_of_inside (by rw [hs]; rfl)
  have hnext := run.next hempty hasks ht
  rw [hs] at hnext
  obtain ⟨next, hp⟩ := hnext.access_of_inside rfl fun event s' hstep => by cases hstep; exact ⟨_, rfl⟩
  have first := (Wallet.Goes.access ht hp).step?
  have hanswer : (w'.host.access j t.own .youngTurn).1 = none := hyoung
  rw [hanswer] at first
  obtain ⟨more, v, rest, hhappenings⟩ := (run.snoc first).asks_of_looked hempty (Run.asks_snoc hasks nofun)
    (phaseOf_snoc_of (.accessed .youngTurn none) rfl hs) hkey
  exact ⟨_, v, .cons first rest, congrArg (_ :: ·) hhappenings⟩

/-- **What a call does that is let in where no context is young**: it looks, and asks the chain for the key that the
sequencer is bound to. -/
theorem Run.asks (run : Run w ss w') (hempty : w.tasks = [])
    (hasks : ∀ st ∈ ss, ∀ p, st.move = .start p → ∃ force, p.Asks force) {j : Nat} {t : Task Fetched}
    (ht : w'.tasks[j]? = some t) (hs : phaseOf ss j = .out) (hmine : (w'.host.turnLane.ask j).1 = true)
    (hyoung : w'.host.youngTurn = none) {k : AccessKey} (hkey : w'.host.sequencer.key = some k) :
    ∃ more v, Run w' more v ∧ more.map (·.happening) =
      [.looked j .turn (some ()), .accessed j .youngTurn none, .accessed j .boundKey (some k),
        .called j (.accessKey k)] := by
  have hnext := run.next hempty hasks ht
  rw [hs] at hnext
  obtain ⟨t', hresume⟩ := Task.resume?_of_suspension? hnext.wait_of_out ()
  have hlook : (w'.host.look j .turn).1 = some () := if_pos hmine
  have first := (Wallet.Goes.wait ht hlook hresume).step?
  obtain ⟨more, v, rest, hhappenings⟩ := (run.snoc first).asks_of_entered hempty (Run.asks_snoc hasks nofun)
    (phaseOf_snoc_of (.waited .turn ()) rfl hs) hyoung hkey
  exact ⟨_, v, .cons first rest, congrArg (_ :: ·) hhappenings⟩

/-! ## What calls that share a turn return -/

/-- What neither keeps anything nor takes an answer in leaves the sequencer and the context that is kept. -/
theorem CallPhase.Steps.keeps {s s' : CallPhase} {event : Event} {force : Bool} (h : Steps force s event s')
    (hstores : event.stores = false) {m : Move Fetched} {i : Nat} (g : w.Goes m (event.happening i) w') :
    w'.host.sequencer = w.host.sequencer ∧ w'.host.turn = w.host.turn := by
  have hcalled {c : Call} (g : w.Goes m (.called i c) w') := g.host_of_called
  have hanswered {c : Call} {x : c.Answer} (g : w.Goes m (.answered i c x) w') := g.host_of_answered
  cases h with
  | absorb | keep => cases hstores
  | enter => exact g.of_looked.2.2 ▸ ⟨rfl, rfl⟩
  | look | reuse | unbound | bind | leave =>
    obtain ⟨task, own, -, hhost⟩ := g.exists_access rfl
    exact hhost ▸ ⟨rfl, rfl⟩
  | ask | askBlock => exact hcalled g ▸ ⟨rfl, rfl⟩
  | answer | tell | refuse | refuseBlock => exact hanswered g ▸ ⟨rfl, rfl⟩
  | stopOut | stopBound | stopAsking =>
    cases g
    exact ⟨rfl, rfl⟩

/-- A call leaves the turn and returns. -/
def Step.Completes (st : Step Fetched) (i : Nat) (r : Fetched) : Prop :=
  st.happening = .accessed i .leaveTurn () ∧ st.after.result? i = some r

/-- **What becomes of calls that share a turn.** -/
structure TurnShared (start : Host) (ss : List (Step Fetched)) : Prop where
  /-- Until the first context is too old, all that complete return it, but for those that the chain has refused. -/
  same : ∀ st ∈ ss, (∀ t, (contextsIn start ss).head? = some t → st.before.host.now < t.fetchedAt + start.maxAge) →
    ∀ i r, st.Completes i r → (∃ t, (contextsIn start ss).head? = some t ∧ r = .ok t.context) ∨
      ∃ e, r = .error e ∧ ∃ event ∈ historyOf i ss, event.Refuses e
  /-- Nor is a second one fetched until then. -/
  once : ∀ ss₁ st ss₂, ss = ss₁ ++ st :: ss₂ → (∃ st' ∈ ss₁, st'.Fetches) → st.Fetches →
    ∃ t, (contextsIn start ss).head? = some t ∧ t.fetchedAt + start.maxAge ≤ st.before.host.now
  /-- A call that is not forced leaves with the young context that is kept. -/
  reuses : ∀ begin ∈ ss, ∀ p i, begin.move = .start p → p.Asks false → begin.before.tasks.length = i →
    ∀ st ∈ ss, ∀ c, st.happening = .accessed i .youngTurn (some c) →
      ∃ v, st.after.step? (.advance i) = some (.accessed i .leaveTurn (), v) ∧ v.result? i = some (.ok c)
  /-- A call that the chain refuses leaves with the refusal, and has changed nothing. -/
  refused : ∀ st ∈ ss, ∀ i event e, st.happening.event? i = some event → event.Refuses e →
    (∃ v, st.after.step? (.advance i) = some (.accessed i .leaveTurn (), v) ∧ v.result? i = some (.error e)) ∧
    (∀ st' ∈ ss, ∀ r, st'.Completes i r → r = .error e) ∧
    ∀ st' ∈ ss, ∀ event', st'.happening.event? i = some event' →
      st'.after.host.sequencer = st'.before.host.sequencer ∧ st'.after.host.turn = st'.before.host.turn
  /-- Who leaves lets in the one that has waited longest, which asks for itself where no context is young. -/
  next : ∀ st ∈ ss, ∀ i j rest, st.happening = .accessed i .leaveTurn () →
    st.before.host.turnLane.waiting = j :: rest → st.after.host.turnLane = ⟨some j, rest⟩ ∧
      ∀ k, st.after.host.youngTurn = none → st.after.host.sequencer.key = some k →
        ∃ more v, Run st.after more v ∧ more.map (·.happening) =
          [.looked j .turn (some ()), .accessed j .youngTurn none, .accessed j .boundKey (some k),
            .called j (.accessKey k)]

theorem Run.phase_of_result (run : Run w ss w') (hempty : w.tasks = [])
    (hasks : ∀ st ∈ ss, ∀ p, st.move = .start p → ∃ force, p.Asks force) {i : Nat} {r r' : Fetched}
    (hresult : w'.result? i = some r) (hs : phaseOf ss i = .left r') : r = r' := by
  obtain ⟨t, ht, hr⟩ := Option.bind_eq_some_iff.1 hresult
  have hnext := run.next hempty hasks ht
  rw [hs] at hnext
  have hdone := hnext.done_of_left
  rw [Task.result?_eq_some hr] at hdone
  cases hdone
  rfl

/-- A run up to one of its steps, and that all its calls ask for the context. -/
theorem Run.upTo (run : Run w ss w') (hasks : ∀ st ∈ ss, ∀ p, st.move = .start p → ∃ force, p.Asks force)
    (hss : ss = ss₁ ++ st :: ss₂) : Run w (ss₁ ++ [st]) st.after ∧
      ∀ st' ∈ ss₁ ++ [st], ∀ p, st'.move = .start p → ∃ force, p.Asks force := by
  subst hss
  obtain ⟨before, now, -⟩ := run.cut
  refine ⟨before.snoc now, fun st' hst' => hasks st' ?_⟩
  rw [List.append_cons]
  exact List.mem_append_left ss₂ hst'

/-- Where a call stands that completes. -/
theorem Run.phase_of_completes (run : Run w (ss₁ ++ st :: ss₂) w') (hempty : w.tasks = [])
    (hasks : ∀ st' ∈ ss₁ ++ st :: ss₂, ∀ p, st'.move = .start p → ∃ force, p.Asks force) {i : Nat} {r : Fetched}
    (hcompletes : st.Completes i r) : phaseOf (ss₁ ++ [st]) i = .left r ∧
      (phaseOf ss₁ i = .ends r ∨ ∃ c, phaseOf ss₁ i = .looked (some c) ∧ r = .ok c) := by
  obtain ⟨hleaves, hresult⟩ := hcompletes
  have hstep := run.steps hempty hasks rfl (Happening.event?_of_eq (e := .accessed .leaveTurn ()) hleaves)
  obtain ⟨r', hleft, hs⟩ := hstep.of_left
  obtain ⟨run', hasks'⟩ := run.upTo hasks rfl
  have heq : r = r' := run'.phase_of_result hempty hasks' hresult hleft
  exact heq ▸ ⟨hleft, hs⟩

/-- Calls share their turn up to wherever a run has got. -/
theorem sharesTurn_of_append (hshares : ∀ st ∈ ss₁ ++ ss₂, st.SharesTurn (ss₁ ++ ss₂)) :
    ∀ st ∈ ss₁, st.SharesTurn ss₁ := by
  intro st hst
  have hmove := hshares st (List.mem_append_left _ hst)
  unfold Step.SharesTurn at hmove ⊢
  split
  · rename_i p hp
    rw [hp] at hmove
    refine hmove.imp_right fun ⟨hasks, hnot⟩ => ⟨hasks, fun b hb => hnot b ?_⟩
    rw [historyOf_append]
    exact List.mem_append_left _ hb
  · rename_i a ha
    rw [ha] at hmove
    exact hmove
  · trivial

theorem head?_contextsIn_append {h : Host} {t : CachedTurn} (ht : (contextsIn h ss₁).head? = some t) :
    (contextsIn h (ss₁ ++ ss₂)).head? = some t := by
  rw [contextsIn_append, List.head?_append, ht]
  rfl

/-- Who completes with a context has found or fetched one that is kept. -/
theorem Sharing.same {start : Host} (sharing : Sharing start ss₁ st.before) {i : Nat} {c : BaseContext}
    (hs : (phaseOf ss₁ i).returned? = some c)
    (hyoung : ∀ t, (contextsIn start (ss₁ ++ ss₂)).head? = some t → st.before.host.now < t.fetchedAt + start.maxAge) :
    ∃ t, (contextsIn start (ss₁ ++ ss₂)).head? = some t ∧ c = t.context := by
  obtain ⟨t, hturn, hc⟩ := sharing.current.returned i c hs
  cases hhead : (contextsIn start ss₁).head? with
  | none =>
    rw [(sharing.unkept (List.head?_eq_none_iff.1 hhead)).2] at hs
    cases hs
  | some t₀ =>
    have hfirst : (contextsIn start (ss₁ ++ ss₂)).head? = some t₀ := head?_contextsIn_append hhead
    obtain ⟨hkept, -⟩ := Host.young?_eq_some.1 (sharing.first t₀ hhead (hyoung t₀ hfirst))
    rw [hturn] at hkept
    cases hkept
    exact ⟨t, hfirst, hc.symm⟩

/-- Who is told of a block has found no young context, and nobody else was told of one that is not kept. -/
theorem Sharing.once {start : Host} (sharing : Sharing start ss₁ st.before) (hbefore : ∃ st' ∈ ss₁, st'.Fetches)
    {i : Nat} (hasking : ∃ kept, phaseOf ss₁ i = .asking kept)
    (hfound : ∀ c, (phaseOf ss₁ i).found? ≠ some (some c)) :
    ∃ t, (contextsIn start (ss₁ ++ ss₂)).head? = some t ∧ t.fetchedAt + start.maxAge ≤ st.before.host.now := by
  obtain ⟨kept, hs⟩ := hasking
  rw [hs] at hfound
  have hnone : st.before.host.young? = none := by
    cases kept with
    | none => exact sharing.current.nothing i (hs ▸ rfl)
    | some c => exact absurd rfl (hfound c)
  cases hhead : (contextsIn start ss₁).head? with
  | none =>
    obtain ⟨j, hj⟩ := sharing.told hbefore (List.head?_eq_none_iff.1 hhead)
    have hij : i = j := sharing.queued.unique (hs ▸ rfl) (CallPhase.isInside_of_isTold hj)
    rw [← hij, hs] at hj
    cases hj
  | some t₀ =>
    refine ⟨t₀, head?_contextsIn_append hhead, Nat.le_of_not_lt fun hlt => ?_⟩
    rw [sharing.first t₀ hhead hlt] at hnone
    cases hnone

theorem CallPhase.Steps.of_told {s s' : CallPhase} {b : Block} {force : Bool}
    (h : Steps force s (.answered .latestBlock (.ok b)) s') : ∃ kept, s = .asking kept := by
  cases h with
  | tell => exact ⟨_, rfl⟩

/-! ## The parts of the sharing

Each is read off what is known at one step of the run. -/

section

variable (run : Run w ss w') (hempty : w.tasks = [])
  (hasks : ∀ st ∈ ss, ∀ p, st.move = .start p → ∃ force, p.Asks force)
include run hempty hasks

/-- A call completes with a context that it has found or fetched, or with its refusal. -/
theorem Run.completes_with (hss : ss = ss₁ ++ st :: ss₂) {i : Nat} {r : Fetched} (hcompletes : st.Completes i r) :
    (∃ c, r = .ok c ∧ (phaseOf ss₁ i).returned? = some c) ∨
      ∃ e, r = .error e ∧ ∃ event ∈ historyOf i ss, event.Refuses e := by
  subst hss
  obtain ⟨-, hs⟩ := run.phase_of_completes hempty hasks hcompletes
  rcases hs with hs | ⟨c, hs, rfl⟩
  · cases r with
    | ok c => exact .inl ⟨c, rfl, by rw [hs]; rfl⟩
    | error e =>
      have walks := run.cut.1.walks hempty (fun st' hst' => hasks st' (List.mem_append_left _ hst')) i
      obtain ⟨event, hevent, hrefuses⟩ := walks.refuses (.inl hs)
      refine .inr ⟨e, rfl, event, ?_, hrefuses⟩
      rw [historyOf_append]
      exact List.mem_append_left _ hevent
  · exact .inl ⟨c, rfl, by rw [hs]; rfl⟩

/-- A call that is not forced and finds a young context leaves with it. -/
theorem Run.leaves_with_found (hss : ss = ss₁ ++ st :: ss₂) {begin : Step Fetched} (hbegin : begin ∈ ss)
    {p : Program Fetched} (hp : begin.move = .start p) (hunforced : p.Asks false) {c : BaseContext}
    (hnow : st.happening = .accessed begin.before.tasks.length .youngTurn (some c)) :
    ∃ v, st.after.step? (.advance begin.before.tasks.length) =
        some (.accessed begin.before.tasks.length .leaveTurn (), v) ∧
      v.result? begin.before.tasks.length = some (.ok c) := by
  generalize hi : begin.before.tasks.length = i at hnow
  have hevent := Happening.event?_of_eq (e := .accessed .youngTurn (some c)) hnow
  have hstep := run.steps hempty hasks hss hevent
  have hlooked : phaseOf (ss₁ ++ [st]) i = .looked (some c) := by
    generalize phaseOf ss₁ i = s, phaseOf (ss₁ ++ [st]) i = s' at hstep
    cases hstep
    rfl
  obtain ⟨run', hasks'⟩ := run.upTo hasks hss
  obtain ⟨t, ht⟩ := run'.exists_of_inside (by rw [hlooked]; rfl)
  subst hi hss
  have hbegin' : begin ∈ ss₁ ++ [st] := List.mem_append_left _ (run.started_before hbegin hevent)
  exact run'.leaves hempty hasks' ht (run'.next_unforced hbegin' hp hunforced rfl ht) (.inr ⟨c, rfl, hlooked, rfl⟩)

/-- A call that is refused leaves with the refusal. -/
theorem Run.leaves_refused (hss : ss = ss₁ ++ st :: ss₂) {i : Nat} {event : Event} {e : ChainError}
    (hevent : st.happening.event? i = some event) (hrefuses : event.Refuses e) :
    ∃ v, st.after.step? (.advance i) = some (.accessed i .leaveTurn (), v) ∧ v.result? i = some (.error e) := by
  obtain ⟨run', hasks'⟩ := run.upTo hasks hss
  have hends : phaseOf (ss₁ ++ [st]) i = .ends (.error e) := (run.steps hempty hasks hss hevent).of_refuses hrefuses
  obtain ⟨t, ht⟩ := run'.exists_of_inside (by rw [hends]; rfl)
  exact run'.leaves hempty hasks' ht (run'.next hempty hasks' ht) (.inl hends)

/-- It completes with nothing else. -/
theorem Run.completes_refused (hss : ss = ss₁ ++ st :: ss₂) {i : Nat} {r : Fetched} (hcompletes : st.Completes i r)
    {event : Event} {e : ChainError} (hmem : event ∈ historyOf i ss) (hrefuses : event.Refuses e) : r = .error e := by
  subst hss
  obtain ⟨hleft, -⟩ := run.phase_of_completes hempty hasks hcompletes
  rw [List.append_cons] at run hasks hmem
  rw [historyOf_append, run.silent_of_left hempty hasks hleft, List.append_nil] at hmem
  obtain ⟨between, before, -⟩ := run.split
  have walks := before.walks hempty (fun st h => hasks st (List.mem_append_left _ h)) i
  rcases walks.refused hmem hrefuses with hs | hs
  · cases hleft.symm.trans hs
  · cases hleft.symm.trans hs
    rfl

/-- Nor does it change anything. -/
theorem Run.kept_by_refused (hst : st ∈ ss) {i : Nat} {event event' : Event} {e : ChainError}
    (hevent : st.happening.event? i = some event) (hmem : event' ∈ historyOf i ss) (hrefuses : event'.Refuses e) :
    st.after.host.sequencer = st.before.host.sequencer ∧ st.after.host.turn = st.before.host.turn := by
  obtain ⟨ss₁, ss₂, hss⟩ := List.append_of_mem hst
  have walks := run.walks hempty hasks i
  have hown : event ∈ historyOf i ss := List.mem_filterMap.2 ⟨st, hst, hevent⟩
  have hstores : event.stores = false := by
    refine Bool.eq_false_iff.2 fun hstores => ?_
    rcases walks.refused hmem hrefuses with hs | hs <;>
      rcases walks.stored hown hstores with ⟨kept, hs'⟩ | ⟨c, hs' | hs'⟩ <;> cases hs.symm.trans hs'
  exact (run.steps hempty hasks hss hevent).keeps hstores (Happening.eq_of_event? hevent ▸ run.goes hst)

/-- Who leaves lets in the one that has waited longest, which asks for itself where no context is young. -/
theorem Run.lets_in (hss : ss = ss₁ ++ st :: ss₂) (sharing : Sharing w.host ss₁ st.before) {i j : Nat} {rest : List Nat}
    (hnow : st.happening = .accessed i .leaveTurn ()) (hwaiting : st.before.host.turnLane.waiting = j :: rest) :
    st.after.host.turnLane = ⟨some j, rest⟩ ∧
      ∀ k, st.after.host.youngTurn = none → st.after.host.sequencer.key = some k →
        ∃ more v, Run st.after more v ∧ more.map (·.happening) =
          [.looked j .turn (some ()), .accessed j .youngTurn none, .accessed j .boundKey (some k),
            .called j (.accessKey k)] := by
  have hstep := run.steps hempty hasks hss (Happening.event?_of_eq (e := .accessed .leaveTurn ()) hnow)
  have hinside : (phaseOf ss₁ i).isInside = true := by
    obtain ⟨r, -, hs | ⟨c, hs, -⟩⟩ := hstep.of_left <;> rw [hs] <;> rfl
  obtain ⟨hne, hout, hcount⟩ := sharing.queued.next hinside hwaiting
  obtain ⟨run', hasks'⟩ := run.upTo hasks hss
  have hst : st ∈ ss := hss ▸ List.mem_append_right ss₁ List.mem_cons_self
  have g := run.goes hst
  rw [hnow] at g
  have hlane : st.after.host.turnLane = ⟨some j, rest⟩ := by
    rw [g.turnLane_of_left]
    exact Lane.leave_of_holder (sharing.queued.holds i hinside) hwaiting
  refine ⟨hlane, fun k hyoung hkey => ?_⟩
  have hj := List.getElem?_eq_getElem (Nat.lt_of_lt_of_le hcount g.count_le)
  have hout' : phaseOf (ss₁ ++ [st]) j = .out := by
    rw [phaseOf_snoc_none (hnow ▸ Event.event?_happening_of_ne hne (.accessed .leaveTurn ()))]
    exact hout
  refine run'.asks hempty hasks' hj hout' ?_ hyoung hkey
  rw [hlane]
  exact congrArg Prod.fst (if_pos rfl)

end

/-- **Calls share one context.**  In every run of any number of calls, wherever the chain delays or refuses them and
whichever are stopped, all that complete before the first context is too old return that one, which is fetched once; a
call that is refused gets its refusal and changes nothing, a forced one too, and the next one tries again. -/
theorem turn_shared (run : Run w ss w') (hempty : w.tasks = []) (hlane : w.host.turnLane = {})
    (hshares : ∀ st ∈ ss, st.SharesTurn ss) : TurnShared w.host ss := by
  have hasks := asks_of_sharesTurn hshares
  -- What is known where the run has got to.
  have hthere {ss₁ ss₂ : List (Step Fetched)} {st : Step Fetched} (hss : ss = ss₁ ++ st :: ss₂) :
      Sharing w.host ss₁ st.before := by
    subst hss
    exact run.cut.1.sharing hempty hlane (sharesTurn_of_append hshares)
  refine ⟨?same, ?once, ?reuses, ?refused, ?next⟩
  case same =>
    intro st hst hyoung i r hcompletes
    obtain ⟨ss₁, ss₂, hss⟩ := List.append_of_mem hst
    rcases run.completes_with hempty hasks hss hcompletes with ⟨c, rfl, hreturned⟩ | hrefused
    · subst hss
      obtain ⟨t, ht, hc⟩ := (hthere rfl).same hreturned hyoung
      exact .inl ⟨t, ht, congrArg Except.ok hc⟩
    · exact .inr hrefused
  case once =>
    rintro ss₁ st ss₂ rfl hbefore ⟨i, b, hnow⟩
    have hstep := run.steps hempty hasks rfl (Happening.event?_of_eq (e := .answered .latestBlock (.ok b)) hnow)
    exact (hthere rfl).once hbefore hstep.of_told (run.found_of_told hempty hshares rfl hnow)
  case reuses =>
    rintro begin hbegin p i hp hunforced rfl st hst c hnow
    obtain ⟨ss₁, ss₂, hss⟩ := List.append_of_mem hst
    exact run.leaves_with_found hempty hasks hss hbegin hp hunforced hnow
  case refused =>
    intro st hst i event e hevent hrefuses
    have hmem : event ∈ historyOf i ss := List.mem_filterMap.2 ⟨st, hst, hevent⟩
    obtain ⟨ss₁, ss₂, hss⟩ := List.append_of_mem hst
    refine ⟨run.leaves_refused hempty hasks hss hevent hrefuses, fun st' hst' r hcompletes => ?_,
      fun st' hst' event' hevent' => run.kept_by_refused hempty hasks hst' hevent' hmem hrefuses⟩
    obtain ⟨ss₁', ss₂', hss'⟩ := List.append_of_mem hst'
    exact run.completes_refused hempty hasks hss' hcompletes hmem hrefuses
  case next =>
    intro st hst i j rest hnow hwaiting
    obtain ⟨ss₁, ss₂, hss⟩ := List.append_of_mem hst
    exact run.lets_in hempty hasks hss (hthere hss) hnow hwaiting

end

/-! Four calls, the last of them forced: the first is refused, the second fetches a context, the third finds it, and the
fourth is refused its block. -/

def sharingHost : Host := { boundHost with maxAge := 1000 }

def fourCalls : List (Move Fetched) :=
  [Move.start (Turn.context false).run, Move.start (Turn.context false).run, Move.start (Turn.context false).run,
    Move.start (Turn.context true).run] ++ List.replicate 4 (Move.advance 0) ++
  [Move.advance 1, Move.advance 2, Move.advance 3, Move.pass 5,
    Move.answer 0 (.accessKey ⟨"a", "k"⟩) (.error (.http "down")), Move.advance 0] ++
  List.replicate 4 (Move.advance 1) ++ [Move.answer 1 (.accessKey ⟨"a", "k"⟩) (.ok ⟨150, 7, "b"⟩), Move.advance 1,
    Move.answer 1 .latestBlock (.ok ⟨7, "b"⟩)] ++
  List.replicate 3 (Move.advance 1) ++ List.replicate 3 (Move.advance 2) ++ List.replicate 4 (Move.advance 3) ++
  [Move.answer 3 (.accessKey ⟨"a", "k"⟩) (.ok ⟨160, 8, "c"⟩), Move.advance 3,
    Move.answer 3 .latestBlock (.error (.http "down")), Move.advance 3]

theorem turn_shared_fourCalls :
    ∃ ss, ∃ w' : Wallet Fetched, Run ⟨sharingHost, []⟩ ss w' ∧ ss.map (·.move) = fourCalls ∧
      (∀ st ∈ ss, st.SharesTurn ss) ∧ TurnShared sharingHost ss ∧
      [0, 1, 2, 3].map w'.result? = [some (.error (.http "down")), some (.ok ⟨"k", 150, 151, 7, "b"⟩),
        some (.ok ⟨"k", 150, 151, 7, "b"⟩), some (.error (.http "down"))] := by
  obtain ⟨ss, w', htrace, hstarts, hhistory, hresults⟩ : ∃ ss w',
      (Wallet.mk sharingHost []).trace? fourCalls = some (ss, w') ∧
      ss.map (fun st => (st.move, st.before.tasks.length)) =
        fourCalls.zip ([0, 1, 2, 3] ++ List.replicate (fourCalls.length - 4) 4) ∧
      historyOf 3 ss = [.waited .turn (), .accessed .youngTurn (some ⟨"k", 150, 151, 7, "b"⟩),
        .accessed .boundKey (some ⟨"a", "k"⟩), .called (.accessKey ⟨"a", "k"⟩),
        .answered (.accessKey ⟨"a", "k"⟩) (.ok ⟨160, 8, "c"⟩), .called .latestBlock,
        .answered .latestBlock (.error (.http "down")), .accessed .leaveTurn ()] ∧
      [0, 1, 2, 3].map w'.result? = [some (.error (.http "down")), some (.ok ⟨"k", 150, 151, 7, "b"⟩),
        some (.ok ⟨"k", 150, 151, 7, "b"⟩), some (.error (.http "down"))] := ⟨_, _, rfl, rfl, rfl, rfl⟩
  have hshares : ∀ st ∈ ss, st.SharesTurn ss := by
    intro st hst
    have hmem := List.mem_map_of_mem (f := fun st => (st.move, st.before.tasks.length)) hst
    rw [hstarts] at hmem
    unfold Step.SharesTurn
    split
    · rename_i p hp
      rw [hp] at hmem
      simp [fourCalls] at hmem
      rcases hmem with ⟨rfl, -⟩ | ⟨rfl, -⟩ | ⟨rfl, -⟩ | ⟨rfl, hthree⟩
      · exact .inl .alone
      · exact .inl .alone
      · exact .inl .alone
      · refine .inr ⟨.alone, fun b => ?_⟩
        rw [hthree, hhistory]
        simp
    · rename_i a ha
      rw [ha] at hmem
      simp [fourCalls] at hmem
    · trivial
  have run : Run ⟨sharingHost, []⟩ ss w' := Run.of_trace? htrace
  exact ⟨ss, w', run, Wallet.moves_of_trace? htrace, hshares, turn_shared run rfl rfl hshares, hresults⟩

end PasskeyConsent

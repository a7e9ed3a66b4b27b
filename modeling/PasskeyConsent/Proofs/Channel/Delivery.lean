import PasskeyConsent.Proofs.Channel.Boxes
/-!
# How a seed gets to the worker

A seed that the worker takes was deposited while its session was attached by the attach that made the box, and nothing
else comes out of a box: a box is filled once and taken from once, a second take finds it used up, and one whose attach
failed or whose session was detached is found empty (`seeds_delivered`).  Who did what to a box is kept along the run
beside who has its opening (`Chronicle`).
-/
namespace PasskeyConsent

open Observer
open AttachPhase (porter)

variable {α : Type}

/-! ## Places in a list -/

section

variable {β γ : Type}

/-- What is picked out of a list once stands at one place. -/
theorem eq_of_nodup_filterMap {f : β → Option γ} {c : γ} {x y : β} (hx : f x = some c) (hy : f y = some c) :
    ∀ {l₁ l₂ m₁ m₂ : List β}, l₁ ++ x :: l₂ = m₁ ++ y :: m₂ → ((l₁ ++ x :: l₂).filterMap f).Nodup →
      l₁ = m₁ ∧ x = y ∧ l₂ = m₂
  | [], _, [], _, h, _ => ⟨rfl, (List.cons.inj h).1, (List.cons.inj h).2⟩
  | [], l₂, z :: m₁, m₂, h, hnodup => by
    obtain ⟨-, hl₂⟩ := List.cons.inj h
    rw [List.nil_append, List.filterMap_cons_some hx] at hnodup
    refine absurd (List.mem_filterMap.2 ⟨y, ?_, hy⟩) (List.nodup_cons.1 hnodup).1
    rw [hl₂]
    exact List.mem_append_right _ List.mem_cons_self
  | z :: l₁, l₂, [], m₂, h, hnodup => by
    obtain ⟨rfl, -⟩ := List.cons.inj h
    rw [List.cons_append, List.filterMap_cons_some hy] at hnodup
    exact absurd (List.mem_filterMap.2 ⟨x, List.mem_append_right _ List.mem_cons_self, hx⟩)
      (List.nodup_cons.1 hnodup).1
  | z :: l₁, l₂, z' :: m₁, m₂, h, hnodup => by
    obtain ⟨rfl, htail⟩ := List.cons.inj h
    have hsub : ((l₁ ++ x :: l₂).filterMap f).Sublist ((z :: l₁ ++ x :: l₂).filterMap f) :=
      (List.sublist_cons_self z _).filterMap f
    obtain ⟨rfl, hxy, hl₂⟩ := eq_of_nodup_filterMap hx hy htail (hnodup.sublist hsub)
    exact ⟨rfl, hxy, hl₂⟩

/-- Of two places in a list, either is before the other or they are the same. -/
theorem append_cons_cases {x y : β} {l₁ l₂ m₁ m₂ : List β} (h : l₁ ++ x :: l₂ = m₁ ++ y :: m₂) :
    x = y ∨ x ∈ m₁ ∨ y ∈ l₁ := by
  rcases List.append_eq_append_iff.1 h with ⟨as, rfl, has⟩ | ⟨bs, rfl, hbs⟩
  · cases as with
    | nil => exact .inl (List.cons.inj has).1
    | cons a as =>
      obtain ⟨rfl, -⟩ := List.cons.inj has
      exact .inr (.inl (List.mem_append_right _ List.mem_cons_self))
  · cases bs with
    | nil => exact .inl (List.cons.inj hbs).1.symm
    | cons b bs =>
      obtain ⟨rfl, -⟩ := List.cons.inj hbs
      exact .inr (.inr (List.mem_append_right _ List.mem_cons_self))

/-- What is picked out of a list one by one has different keys, if the last one's is new. -/
theorem nodup_map_filterMap_snoc {δ : Type} {f : β → Option γ} {g : γ → δ} {l : List β} {x : β}
    (h : ((l.filterMap f).map g).Nodup) (hx : ∀ c, f x = some c → ∀ c' ∈ l.filterMap f, g c' ≠ g c) :
    (((l ++ [x]).filterMap f).map g).Nodup := by
  rw [filterMap_snoc, List.map_append]
  refine List.nodup_append.2 ⟨h, ?_, fun k hk k' hk' => ?_⟩
  · cases f x with
    | none => exact .nil
    | some c => exact List.nodup_cons.2 ⟨List.not_mem_nil, .nil⟩
  · obtain ⟨c', hc', rfl⟩ := List.mem_map.1 hk
    obtain ⟨c, hc, rfl⟩ := List.mem_map.1 hk'
    exact hx c (Option.mem_toList.1 hc) c' hc'

end

/-! ## The chronicle -/

/-- **Who did what to each box**, as far as the run has got. -/
structure Chronicle (done : List (Step α)) (h : Hub) (phases : Nat → AttachPhase) : Prop where
  /-- The boxes are made one after another. -/
  opened : done.filterMap (·.happening.opened?) = List.range h.boxes.length
  made : ∀ st ∈ done, ∀ i session n, st.happening = .accessed i (.openBox session) n → ∃ o, h.Opens n session o
  attaching : ∀ i session n, (phases i).box? = some (session, n) → Attaching done i session n
  attached : ∀ session n, h.Opens n session .attached → ∃ i, AttachedBy done i session n
  supplied : ∀ (n : Nat) (b : SeedBox) seed, h.boxes[n]? = some b → b.seed = some seed → Supplied done b.session n seed
  /-- A box that was filled still has the seed, unless its endpoint is spent. -/
  filled : ∀ p ∈ fillingsOf done, ∃ b, h.boxes[p.1]? = some b ∧ b.opening = .gone ∧ (b.seed = some p.2 ∨ b.IsSpent)
  fills_once : ((fillingsOf done).map (·.1)).Nodup
  detached : ∀ st ∈ done, ∀ session n, st.Detaches session n →
    ∃ b, h.boxes[n]? = some b ∧ b.session = session ∧ b.opening = .gone ∧ b.seed = none
  spent : ∀ n, h.SpentAt n ↔ ∃ st ∈ done, st.Takes n ∨ st.Drops n
  yields_once : ((yieldsOf done).map (·.1)).Nodup

namespace Chronicle

variable {done : List (Step α)} {h : Hub} {phases : Nat → AttachPhase} {st : Step α}

theorem fresh (hfresh : h.IsFresh) : Chronicle ([] : List (Step α)) h fun _ => .out := by
  obtain ⟨hboxes, -⟩ := hfresh
  have hnone {n : Nat} {b : SeedBox} (hb : h.boxes[n]? = some b) {P : Prop} : P := by
    rw [hboxes] at hb
    cases hb
  exact
    { opened := by rw [hboxes]; rfl
      made := fun st hst => absurd hst List.not_mem_nil
      attaching := fun _ _ _ hi => nomatch hi
      attached := fun _ _ ⟨_, hb, _⟩ => hnone hb
      supplied := fun _ _ _ hb _ => hnone hb
      filled := fun p hp => absurd hp List.not_mem_nil
      fills_once := .nil
      detached := fun st hst => absurd hst List.not_mem_nil
      spent := fun _ => ⟨fun ⟨_, hb, _⟩ => hnone hb, fun ⟨_, hst, _⟩ => absurd hst List.not_mem_nil⟩
      yields_once := .nil }

/-- What has been yielded has been taken. -/
theorem spent_of_yield (chronicle : Chronicle done h phases) {n : Nat} {seed : SeedMaterial}
    (hy : (n, seed) ∈ yieldsOf done) : h.SpentAt n := by
  obtain ⟨st', hst', hy'⟩ := List.mem_filterMap.1 hy
  exact (chronicle.spent n).2 ⟨st', hst', .inl (.inl ⟨_, Step.yield?_eq_some hy'⟩)⟩

/-- **Every step of a run goes on with the chronicle.** -/
theorem step (chronicle : Chronicle done st.before.host.hub phases) (custody : Custody st.before.host.hub phases)
    (hshift : st.before.host.hub.Shifts st.happening st.after.host.hub)
    (hallows : ∀ i e, st.happening.event? i = some e → porter.allows (phases i) e) :
    Chronicle (done ++ [st]) st.after.host.hub (porter.afterAll phases st.happening) := by
  have hattached {session : String} {n : Nat} (hs : st.before.host.hub.attached.get? session = some n) :=
    (custody.attached session n).1 hs
  refine
    { opened := ?opened, made := ?made, attaching := ?attaching, attached := ?attached, supplied := ?supplied
      filled := ?filled, fills_once := ?fills, detached := ?detached, spent := ?spent, yields_once := ?yields }
  case opened => rw [filterMap_snoc, chronicle.opened, hshift.range_boxes]
  case made =>
    intro st' hst' i session n hopen
    rcases List.mem_append.1 hst' with hst' | hst'
    · obtain ⟨o, b, hb, hsession, -⟩ := chronicle.made st' hst' i session n hopen
      obtain ⟨b', hb', hsession', -⟩ := hshift.stays custody hallows hb
      exact ⟨_, b', hb', hsession'.trans hsession, rfl⟩
    · cases List.mem_singleton.1 hst'
      rw [hopen] at hshift
      exact ⟨_, _, hshift.of_openBox, rfl, rfl⟩
  case attaching =>
    intro i session n hi
    rcases AttachPhase.box?_from hallows hi with ⟨hi, hstays⟩ | hnow
    · exact (chronicle.attaching i session n hi).snoc hstays
    · exact ⟨done, st, [], rfl, hnow, fun _ h => absurd h List.not_mem_nil⟩
  case attached =>
    intro session n hn
    rcases hshift.attached_from custody hallows hn with hn | ⟨i, hnow⟩
    · obtain ⟨i, hattachedBy⟩ := chronicle.attached session n hn
      exact ⟨i, hattachedBy.append _⟩
    · have hi := hallows i (.accessed (.attach session n) ()) (Happening.event?_of_eq hnow)
      exact ⟨i, done, st, [], rfl, hnow, chronicle.attaching i session n (by rw [hi]; rfl)⟩
  case supplied =>
    intro n b' seed hb' hseed
    rcases hshift.seed_from custody hallows hb' hseed with ⟨b, hb, hsession, hseed⟩ | ⟨hu, hs⟩
    · rw [← hsession]
      exact (chronicle.supplied n b seed hb hseed).append _
    · obtain ⟨i, hattachedBy⟩ := chronicle.attached _ n (hattached hs)
      exact ⟨done, st, [], i, rfl, hu, hs, hattachedBy⟩
  case filled =>
    rintro ⟨n, seed⟩ hp
    rw [fillingsOf, filterMap_snoc] at hp
    rcases List.mem_append.1 hp with hp | hp
    · obtain ⟨b, hb, hopening, hseed⟩ := chronicle.filled _ hp
      obtain ⟨b', hb', -, hstays⟩ := hshift.stays custody hallows hb
      obtain ⟨hopening', hseed'⟩ := hstays hopening
      refine ⟨b', hb', hopening', ?_⟩
      rcases hseed with hseed | hspent
      · exact hseed'.imp (fun heq => heq.trans hseed) And.right
      · obtain ⟨b₁, hb₁, hspent'⟩ := (hshift.spentAt custody hallows n).2 (.inl ⟨b, hb, hspent⟩)
        cases Option.some.inj (hb'.symm.trans hb₁)
        exact .inr hspent'
    · obtain ⟨b, hb, hopening, hseed⟩ := Step.box_of_filling hshift (Option.mem_toList.1 hp)
      exact ⟨b, hb, hopening, .inl hseed⟩
  case fills =>
    refine nodup_map_filterMap_snoc chronicle.fills_once fun p hp q hq heq => ?_
    obtain ⟨session, -, hs⟩ := Step.filling?_eq_some hp
    obtain ⟨b, hb, hopening, -⟩ := chronicle.filled q hq
    obtain ⟨b', hb', -, hattached'⟩ := hattached hs
    rw [heq, hb'] at hb
    cases hb
    cases hopening.symm.trans hattached'
  case detached =>
    intro st' hst' session n hdetaches
    rcases List.mem_append.1 hst' with hst' | hst'
    · obtain ⟨b, hb, hsession, hopening, hseed⟩ := chronicle.detached st' hst' session n hdetaches
      obtain ⟨b', hb', hsession', hstays⟩ := hshift.stays custody hallows hb
      obtain ⟨hopening', hseed'⟩ := hstays hopening
      refine ⟨b', hb', hsession'.trans hsession, hopening', ?_⟩
      exact hseed'.elim (fun heq => heq.trans hseed) And.left
    · cases List.mem_singleton.1 hst'
      exact Step.box_of_detach hshift custody hdetaches
  case spent =>
    intro n
    rw [hshift.spentAt custody hallows n, chronicle.spent n]
    simp only [List.mem_append, List.mem_singleton, or_and_right, exists_or, exists_eq_left]
  case yields =>
    refine nodup_map_filterMap_snoc chronicle.yields_once fun p hp q hq heq => ?_
    obtain ⟨b, hb, hfree, -⟩ := Step.box_of_yield hp
    obtain ⟨b', hb', hspent⟩ := chronicle.spent_of_yield hq
    rw [heq, hb] at hb'
    cases hb'
    exact hfree hspent

end Chronicle

/-! ## From the box to the worker -/

/-- **The box of a failed attach** is empty, and nobody has its opening. -/
theorem Chronicle.empty_of_failed {done : List (Step α)} {h : Hub} {phases : Nat → AttachPhase}
    (chronicle : Chronicle done h phases) (custody : Custody h phases) {session : String} {n : Nat}
    (failed : AttachFailed done session n) :
    ∃ b, h.boxes[n]? = some b ∧ b.session = session ∧ b.opening = .gone ∧ b.seed = none := by
  obtain ⟨i, ss₁, opening, ss₂, leaving, ss₃, rfl, hopening, hnever, hleaves⟩ := failed
  obtain ⟨o, b, hb, hsession, -⟩ :=
    chronicle.made opening (List.mem_append_right _ List.mem_cons_self) i session n hopening
  have hnodup := chronicle.opened ▸ List.nodup_range (n := h.boxes.length)
  have hn : opening.happening.opened? = some n := by rw [hopening]; rfl
  -- The box was made once, so whatever else is known of the making is of this one.
  have hplace {a rest : List (Step α)} {opening' : Step α} {j : Nat} {session' : String}
      (heq : ss₁ ++ opening :: (ss₂ ++ leaving :: ss₃) = a ++ opening' :: rest)
      (hopening' : opening'.happening = .accessed j (.openBox session') n) :
      j = i ∧ session' = session ∧ ss₂ ++ leaving :: ss₃ = rest := by
    have hn' : opening'.happening.opened? = some n := by rw [hopening']; rfl
    obtain ⟨-, rfl, hrest⟩ :=
      eq_of_nodup_filterMap (f := fun st : Step α => st.happening.opened?) hn hn' heq hnodup
    cases hopening.symm.trans hopening'
    exact ⟨rfl, rfl, hrest⟩
  have hnot (j : Nat) (session' : String) :
      ¬ AttachedBy (ss₁ ++ opening :: (ss₂ ++ leaving :: ss₃)) j session' n := by
    rintro ⟨_, handing, ss₂', heq, hhanding, a, opening', between, rfl, hopening', hin⟩
    rw [List.append_assoc, List.cons_append] at heq
    obtain ⟨rfl, rfl, hrest⟩ := hplace heq hopening'
    rcases append_cons_cases hrest with rfl | hmem | hmem
    · rcases hleaves with ⟨name, hleaves⟩ | hleaves <;> cases hleaves.symm.trans hhanding
    · exact hin leaving hmem hleaves
    · exact hnever handing hmem hhanding
  cases hwho : b.opening with
  | attaching j =>
    obtain ⟨a, opening', between, heq, hopening', hin⟩ :=
      chronicle.attaching j b.session n ((custody.attaching j b.session n).2 ⟨b, hb, rfl, hwho⟩)
    obtain ⟨rfl, -, rfl⟩ := hplace heq hopening'
    exact absurd hleaves (hin leaving (List.mem_append_right _ List.mem_cons_self))
  | attached =>
    obtain ⟨j, hattached⟩ := chronicle.attached b.session n ⟨b, hb, rfl, hwho⟩
    exact absurd hattached (hnot j _)
  | gone =>
    refine ⟨b, hb, hsession, hwho, ?_⟩
    cases hseed : b.seed with
    | none => rfl
    | some seed =>
      obtain ⟨j, hattached⟩ := (chronicle.supplied n b seed hb hseed).attachedBy
      exact absurd hattached (hnot j _)

/-- **How seeds are delivered** in a run of the users of a hub. -/
structure Delivered (ss : List (Step α)) : Prop where
  /-- A seed that is taken was deposited for the session of the box, which an attach had made and attached. -/
  supplied : ∀ ss₁ st ss₂ n seed, ss = ss₁ ++ st :: ss₂ → st.yield? = some (n, seed) →
    ∃ b, st.before.host.hub.boxes[n]? = some b ∧ Supplied ss₁ b.session n seed
  /-- Every box is filled by one deposit at most, -/
  fills_once : ((fillingsOf ss).map (·.1)).Nodup
  /-- and yields one seed at most, which is what it was filled with. -/
  yields_once : ((yieldsOf ss).map (·.1)).Nodup
  yields_filled : ∀ p ∈ yieldsOf ss, p ∈ fillingsOf ss
  second_take : ∀ ss₁ st ss₂ n, ss = ss₁ ++ st :: ss₂ → st.happening = .signed (.take n) →
    (∃ earlier ∈ ss₁, earlier.Takes n) →
    ∃ b, st.before.host.hub.boxes[n]? = some b ∧ st.took? = some (n, .error (.seedConsumed b.session))
  /-- The first take of an endpoint that was not dropped fails after a detach of the session with the box, -/
  first_take_detached : ∀ ss₁ st ss₂ session n, ss = ss₁ ++ st :: ss₂ → st.happening = .signed (.take n) →
    (∀ earlier ∈ ss₁, ¬ earlier.Takes n ∧ ¬ earlier.Drops n) → (∃ earlier ∈ ss₁, earlier.Detaches session n) →
    st.took? = some (n, .error (.notAttached session))
  /-- and after the attach that made the box has failed or was dropped. -/
  first_take_failed : ∀ ss₁ st ss₂ session n, ss = ss₁ ++ st :: ss₂ → st.happening = .signed (.take n) →
    (∀ earlier ∈ ss₁, ¬ earlier.Takes n ∧ ¬ earlier.Drops n) → AttachFailed ss₁ session n →
    st.took? = some (n, .error (.notAttached session))
  attached_once : ∀ st ∈ ss, st.before.host.hub.attached.keys.Nodup ∧ st.after.host.hub.attached.keys.Nodup
  /-- An attach finds no other box in the place where it puts its own. -/
  no_overwrite : ∀ st ∈ ss, ∀ i session n, st.happening = .accessed i (.attach session n) () →
    st.before.host.hub.attached.get? session = none ∧ st.before.host.hub.Opens n session (.attaching i)

variable {w w' : Wallet α} {ss : List (Step α)}

/-- **Who has which opening and who did what to each box**, in every run of the users of a hub. -/
theorem Run.chronicle (run : Run w ss w') (hempty : w.tasks = []) (hfresh : w.host.hub.IsFresh)
    (huses : ∀ st ∈ ss, st.move.UsesHub) :
    LaneHeld w'.host.hub.queue (fun i => porter.seen .out (historyOf i ss)) ∧
      Custody w'.host.hub (fun i => porter.seen .out (historyOf i ss)) ∧
      Chronicle ss w'.host.hub fun i => porter.seen .out (historyOf i ss) := by
  refine run.invariant (I := fun done w phases => LaneHeld w.host.hub.queue phases ∧ Custody w.host.hub phases ∧
    Chronicle done w.host.hub phases) hempty (Run.starts_usesHub huses)
    ⟨fun i hi => absurd rfl hi, .fresh hfresh, .fresh hfresh⟩ fun done st hst phases g hallows hthere => ?_
  obtain ⟨held, custody, chronicle⟩ := hthere
  have hshift := g.shifts (huses st hst)
  exact ⟨g.laneHeld (huses st hst) hallows held, custody.shifts held hshift hallows,
    chronicle.step custody hshift hallows⟩

/-- A take from an empty box that nobody can fill fails for want of an attach, unless its endpoint is spent. -/
theorem Step.took?_of_empty {st : Step α} {n : Nat} {b : SeedBox} (htake : st.happening = .signed (.take n))
    (hb : st.before.host.hub.boxes[n]? = some b) (hopening : b.opening = .gone) (hseed : b.seed = none)
    (hfree : ¬ st.before.host.hub.SpentAt n) : st.took? = some (n, .error (.notAttached b.session)) := by
  rw [Step.took?_eq htake, Hub.take_of_gone hb (fun hspent => hfree ⟨b, hb, hspent⟩) hseed hopening]
  rfl

/-- An attach that hands its box over finds no other in the place. -/
theorem Custody.of_acked {h : Hub} {phases : Nat → AttachPhase} (custody : Custody h phases) {i n : Nat}
    {session : String} (hi : phases i = .acked session n) :
    h.attached.get? session = none ∧ h.Opens n session (.attaching i) := by
  refine ⟨Option.eq_none_iff_forall_ne_some.2 fun m hm => ?_, (custody.attaching i session n).1 (by rw [hi]; rfl)⟩
  exact custody.not_attached (i := i) (by rw [hi]; rfl) m ((custody.attached session m).1 hm)

/-- **Every seed that is taken was deposited for its box's session while that was attached**, every box is filled and
yields once at most, a take of a spent or an empty endpoint fails and says why, and no session is attached twice: in
every run of any number of attaches, deposits and detaches on one hub, wherever the attaches time out or are dropped,
and whatever the worker does at its end. -/
theorem seeds_delivered (run : Run w ss w') (hempty : w.tasks = []) (hfresh : w.host.hub.IsFresh)
    (huses : ∀ st ∈ ss, st.move.UsesHub) : Delivered ss := by
  -- What is known where the run has got to.
  have hthere {ss₁ ss₂ : List (Step α)} {st : Step α} (heq : ss = ss₁ ++ st :: ss₂) :
      Custody st.before.host.hub (fun i => porter.seen .out (historyOf i ss₁)) ∧
        Chronicle ss₁ st.before.host.hub fun i => porter.seen .out (historyOf i ss₁) := by
    subst heq
    exact (run.cut.1.chronicle hempty hfresh fun st hst => huses st (List.mem_append_left _ hst)).2
  have hsupplied (ss₁ : List (Step α)) (st : Step α) (ss₂ : List (Step α)) (n : Nat) (seed : SeedMaterial)
      (heq : ss = ss₁ ++ st :: ss₂) (hy : st.yield? = some (n, seed)) :
      ∃ b, st.before.host.hub.boxes[n]? = some b ∧ Supplied ss₁ b.session n seed := by
    obtain ⟨b, hb, -, hseed⟩ := Step.box_of_yield hy
    exact ⟨b, hb, (hthere heq).2.supplied n b seed hb hseed⟩
  have hfree {ss₁ ss₂ : List (Step α)} {st : Step α} {n : Nat} (heq : ss = ss₁ ++ st :: ss₂)
      (hfirst : ∀ earlier ∈ ss₁, ¬ earlier.Takes n ∧ ¬ earlier.Drops n) : ¬ st.before.host.hub.SpentAt n := by
    intro hspent
    obtain ⟨earlier, hmem, hspends⟩ := ((hthere heq).2.spent n).1 hspent
    exact hspends.elim (hfirst earlier hmem).1 (hfirst earlier hmem).2
  have hend := run.chronicle hempty hfresh huses
  refine
    { supplied := hsupplied, fills_once := hend.2.2.fills_once, yields_once := hend.2.2.yields_once
      yields_filled := ?filled, second_take := ?second, first_take_detached := ?detached
      first_take_failed := ?failed, attached_once := ?once, no_overwrite := ?overwrite }
  case filled =>
    rintro ⟨n, seed⟩ hp
    obtain ⟨st, hst, hy⟩ := List.mem_filterMap.1 hp
    obtain ⟨ss₁, ss₂, heq⟩ := List.append_of_mem hst
    obtain ⟨b, -, hsupply⟩ := hsupplied ss₁ st ss₂ n seed heq hy
    rw [heq]
    exact (hsupply.append _).filling
  case second =>
    intro ss₁ st ss₂ n heq htake ⟨earlier, hmem, htakes⟩
    obtain ⟨b, hb, hspent⟩ := ((hthere heq).2.spent n).2 ⟨earlier, hmem, .inl htakes⟩
    exact ⟨b, hb, by rw [Step.took?_eq htake, Hub.take_of_spent hb hspent]; rfl⟩
  case detached =>
    intro ss₁ st ss₂ session n heq htake hfirst ⟨earlier, hmem, hdetaches⟩
    obtain ⟨b, hb, rfl, hopening, hseed⟩ := (hthere heq).2.detached earlier hmem session n hdetaches
    exact Step.took?_of_empty htake hb hopening hseed (hfree heq hfirst)
  case failed =>
    intro ss₁ st ss₂ session n heq htake hfirst hfailed
    obtain ⟨custody, chronicle⟩ := hthere heq
    obtain ⟨b, hb, rfl, hopening, hseed⟩ := chronicle.empty_of_failed custody hfailed
    exact Step.took?_of_empty htake hb hopening hseed (hfree heq hfirst)
  case once =>
    intro st hst
    obtain ⟨ss₁, ss₂, heq⟩ := List.append_of_mem hst
    refine ⟨(hthere heq).1.keys, ?_⟩
    subst heq
    obtain ⟨before, now, -⟩ := run.cut
    have huses' : ∀ st' ∈ ss₁ ++ [st], st'.move.UsesHub :=
      List.forall_mem_append.2 ⟨fun st' hst' => huses st' (List.mem_append_left _ hst'),
        List.forall_mem_singleton.2 (huses st hst)⟩
    exact ((before.snoc now).chronicle hempty hfresh huses').2.1.keys
  case overwrite =>
    intro st hst i session n hnow
    obtain ⟨ss₁, ss₂, heq⟩ := List.append_of_mem hst
    obtain ⟨custody, -⟩ := hthere heq
    have hallowed : porter.allows (porter.seen .out (historyOf i ss₁)) (.accessed (.attach session n) ()) := by
      subst heq
      exact run.allowedAll hempty (Run.starts_usesHub huses) (Happening.event?_of_eq hnow)
    exact custody.of_acked hallowed

/-! A seed that is deposited and taken, and a second take. -/

def idleHost : Host := { maxAge := 0, ledger := { limits := ⟨0, ⟨0⟩⟩ } }

def supply : Program (Except ChannelError Unit) := do
  let _ ← (Handover.attach (.ofMillis 20) "s").run
  (Handover.deposit "s" ⟨"k", none⟩).run

def supplyOnce : List (Move (Except ChannelError Unit)) :=
  Move.start supply :: List.replicate 5 (Move.advance 0) ++
  [Move.signer .receive, Move.signer (.acknowledge (.attachOk "s"))] ++ List.replicate 5 (Move.advance 0) ++
  [Move.signer (.take 0), Move.signer (.take 0)]

theorem supply_usesHub : supply.UsesHub := .bind (.attach _ _) fun _ => .deposit _ _

theorem seeds_delivered_supplyOnce :
    ∃ ss w', Run ⟨idleHost, []⟩ ss w' ∧ ss.map (·.move) = supplyOnce ∧ yieldsOf ss = [(0, ⟨"k", none⟩)] ∧
      Delivered ss := by
  obtain ⟨⟨ss, w'⟩, htrace, hyields⟩ : ∃ r, (Wallet.mk idleHost []).trace? supplyOnce = some r ∧
      yieldsOf r.1 = [(0, ⟨"k", none⟩)] := ⟨_, rfl, rfl⟩
  have run := Run.of_trace? htrace
  have hmoves := Wallet.moves_of_trace? htrace
  refine ⟨ss, w', run, hmoves, hyields, seeds_delivered run rfl ⟨rfl, rfl⟩ fun st hst => ?_⟩
  have hmem : st.move ∈ supplyOnce := hmoves ▸ List.mem_map_of_mem hst
  generalize st.move = m at hmem
  simp only [supplyOnce, List.cons_append, List.mem_append, List.mem_cons, List.mem_replicate, List.not_mem_nil,
    or_false] at hmem
  rcases hmem with rfl | (((⟨-, rfl⟩ | rfl | rfl) | ⟨-, rfl⟩) | rfl | rfl)
  · exact supply_usesHub
  all_goals trivial

end PasskeyConsent

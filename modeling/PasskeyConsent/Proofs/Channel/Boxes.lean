import PasskeyConsent.Proofs.Channel.Custody
/-!
# What a step does to one box

Who makes a box, who fills it, who takes from it and who drops its endpoint is seen at the steps of the run.  Each of
these changes one box.  `SeedBox.Becomes` says once what a step can make of a box, and so where what is found in a box
comes from (`Hub.Shifts.seed_from`, `Hub.Shifts.attached_from`, `Hub.Shifts.spentAt`).
-/
namespace PasskeyConsent

open Observer
open AttachPhase (porter)

variable {α : Type}

/-! ## What is seen of the boxes -/

/-- The box that is made. -/
def Happening.opened? : Happening → Option Nat
  | .accessed _ (.openBox _) n => some n
  | _ => none

/-- The task leaves the worker's lane, by itself or because it is stopped. -/
def Happening.Leaves (happening : Happening) (i : Nat) : Prop :=
  (∃ name, happening = .accessed i (.leaveWorker name) ()) ∨ happening = .stopped i

namespace Step

/-- A take by the worker that is answered: the box and the answer. -/
def took? (st : Step α) : Option (Nat × Except ChannelError SeedMaterial) :=
  match st.happening with
  | .signed (.take n) => (st.before.host.hub.take n).1.map (n, ·)
  | _ => none

/-- The box and the seed of a take that succeeds. -/
def yield? (st : Step α) : Option (Nat × SeedMaterial) :=
  match st.took? with
  | some (n, .ok seed) => some (n, seed)
  | _ => none

/-- The box and the seed of a deposit that succeeds: the box is the one that the table has for the session. -/
def filling? (st : Step α) : Option (Nat × SeedMaterial) :=
  match st.happening.use? with
  | some ⟨.deposit session seed, .ok ()⟩ => (st.before.host.hub.attached.get? session).map (·, seed)
  | _ => none

/-- A detach that finds its session attached, with this box. -/
def Detaches (st : Step α) (session : String) (n : Nat) : Prop :=
  st.happening.use? = some ⟨.detach session, true⟩ ∧ st.before.host.hub.attached.get? session = some n

/-- The worker drops its end of the box, or loses it among what it has not read. -/
def Drops (st : Step α) (n : Nat) : Prop :=
  n < st.before.host.hub.boxes.length ∧ (st.happening = .signed (.dropEndpoint n) ∨
    st.happening = .signed .closeInbox ∧ n ∈ st.before.host.hub.inbox.filterMap (·.box))

/-- A take from the box that has come to its end: answered, or given up. -/
def Takes (st : Step α) (n : Nat) : Prop :=
  (∃ r, st.took? = some (n, r)) ∨ n < st.before.host.hub.boxes.length ∧ st.happening = .signed (.giveUp n)

end Step

def yieldsOf (ss : List (Step α)) : List (Nat × SeedMaterial) := ss.filterMap Step.yield?

def fillingsOf (ss : List (Step α)) : List (Nat × SeedMaterial) := ss.filterMap Step.filling?

/-- An attach that is not over: it has made its box and has not left the lane since. -/
def Attaching (ss : List (Step α)) (i : Nat) (session : String) (n : Nat) : Prop :=
  ∃ ss₁ opening ss₂, ss = ss₁ ++ opening :: ss₂ ∧ opening.happening = .accessed i (.openBox session) n ∧
    ∀ st ∈ ss₂, ¬ st.happening.Leaves i

/-- An attach has handed over to the table the opening of the box that it has made. -/
def AttachedBy (ss : List (Step α)) (i : Nat) (session : String) (n : Nat) : Prop :=
  ∃ ss₁ handing ss₂, ss = ss₁ ++ handing :: ss₂ ∧ handing.happening = .accessed i (.attach session n) () ∧
    Attaching ss₁ i session n

/-- An attach has left the lane, by itself or because it was stopped, without attaching the box that it made. -/
def AttachFailed (ss : List (Step α)) (session : String) (n : Nat) : Prop :=
  ∃ i ss₁ opening ss₂ leaving ss₃, ss = ss₁ ++ opening :: (ss₂ ++ leaving :: ss₃) ∧
    opening.happening = .accessed i (.openBox session) n ∧
    (∀ st ∈ ss₂, st.happening ≠ .accessed i (.attach session n) ()) ∧ leaving.happening.Leaves i

/-- The seed was deposited for the session while the session had the box that an attach had made and attached. -/
def Supplied (ss : List (Step α)) (session : String) (n : Nat) (seed : SeedMaterial) : Prop :=
  ∃ ss₁ deposit ss₂ i, ss = ss₁ ++ deposit :: ss₂ ∧ deposit.happening.use? = some ⟨.deposit session seed, .ok ()⟩ ∧
    deposit.before.host.hub.attached.get? session = some n ∧ AttachedBy ss₁ i session n

theorem Attaching.snoc {ss : List (Step α)} {i : Nat} {session : String} {n : Nat} (h : Attaching ss i session n)
    {st : Step α} (hst : ¬ st.happening.Leaves i) : Attaching (ss ++ [st]) i session n := by
  obtain ⟨ss₁, opening, ss₂, rfl, hopening, hin⟩ := h
  refine ⟨ss₁, opening, ss₂ ++ [st], by rw [List.append_assoc, List.cons_append], hopening, ?_⟩
  exact List.forall_mem_append.2 ⟨hin, List.forall_mem_singleton.2 hst⟩

theorem AttachedBy.append {ss : List (Step α)} {i : Nat} {session : String} {n : Nat} (h : AttachedBy ss i session n)
    (more : List (Step α)) : AttachedBy (ss ++ more) i session n := by
  obtain ⟨ss₁, handing, ss₂, rfl, hrest⟩ := h
  exact ⟨ss₁, handing, ss₂ ++ more, by rw [List.append_assoc, List.cons_append], hrest⟩

theorem Supplied.append {ss : List (Step α)} {session : String} {n : Nat} {seed : SeedMaterial}
    (h : Supplied ss session n seed) (more : List (Step α)) : Supplied (ss ++ more) session n seed := by
  obtain ⟨ss₁, deposit, ss₂, i, rfl, hrest⟩ := h
  exact ⟨ss₁, deposit, ss₂ ++ more, i, by rw [List.append_assoc, List.cons_append], hrest⟩

theorem Supplied.attachedBy {ss : List (Step α)} {session : String} {n : Nat} {seed : SeedMaterial}
    (h : Supplied ss session n seed) : ∃ i, AttachedBy ss i session n := by
  obtain ⟨ss₁, deposit, ss₂, i, rfl, -, -, hattached⟩ := h
  exact ⟨i, hattached.append _⟩

theorem Step.filling?_eq_some {st : Step α} {n : Nat} {seed : SeedMaterial} (h : st.filling? = some (n, seed)) :
    ∃ session, st.happening.use? = some ⟨.deposit session seed, .ok ()⟩ ∧
      st.before.host.hub.attached.get? session = some n := by
  unfold filling? at h
  split at h
  · rename_i session seed' hu
    obtain ⟨m, hm, heq⟩ := Option.map_eq_some_iff.1 h
    cases heq
    exact ⟨session, hu, hm⟩
  · cases h

theorem Step.took?_eq_some {st : Step α} {n : Nat} {r : Except ChannelError SeedMaterial} (h : st.took? = some (n, r)) :
    st.happening = .signed (.take n) ∧ (st.before.host.hub.take n).1 = some r := by
  unfold took? at h
  split at h
  · rename_i m hm
    obtain ⟨r', hr', heq⟩ := Option.map_eq_some_iff.1 h
    cases heq
    exact ⟨hm, hr'⟩
  · cases h

theorem Step.took?_eq {st : Step α} {n : Nat} (htake : st.happening = .signed (.take n)) :
    st.took? = (st.before.host.hub.take n).1.map (n, ·) := by
  unfold took?
  rw [htake]

theorem Step.yield?_eq_some {st : Step α} {n : Nat} {seed : SeedMaterial} (h : st.yield? = some (n, seed)) :
    st.took? = some (n, .ok seed) := by
  unfold yield? at h
  split at h
  · rename_i m seed' hm
    cases h
    exact hm
  · cases h

/-- What is taken was there. -/
theorem Step.box_of_yield {st : Step α} {n : Nat} {seed : SeedMaterial} (hy : st.yield? = some (n, seed)) :
    ∃ b, st.before.host.hub.boxes[n]? = some b ∧ ¬ b.IsSpent ∧ b.seed = some seed :=
  Hub.of_take_ok (Step.took?_eq_some (Step.yield?_eq_some hy)).2

/-- What was supplied fills a box. -/
theorem Supplied.filling {ss : List (Step α)} {session : String} {n : Nat} {seed : SeedMaterial}
    (h : Supplied ss session n seed) : (n, seed) ∈ fillingsOf ss := by
  obtain ⟨ss₁, deposit, ss₂, i, rfl, hu, hs, -⟩ := h
  refine List.mem_filterMap.2 ⟨deposit, List.mem_append_right _ List.mem_cons_self, ?_⟩
  unfold Step.filling?
  rw [hu]
  dsimp only
  rw [hs]
  rfl

/-! ## What a shift does to one box -/

/-- **What one step can make of the n-th box** of a hub. -/
inductive SeedBox.Becomes (h : Hub) (happening : Happening) (n : Nat) (b : SeedBox) : SeedBox → Prop
  | same : Becomes h happening n b b
  /-- Whoever has the opening drops it. -/
  | closed (hopen : b.opening ≠ .gone) : Becomes h happening n b { b with opening := .gone }
  | attached (i : Nat) (hi : b.opening = .attaching i) (hnow : happening = .accessed i (.attach b.session n) ()) :
    Becomes h happening n b { b with opening := .attached }
  | filled (seed : SeedMaterial) (hopen : b.opening = .attached)
      (hu : happening.use? = some ⟨.deposit b.session seed, .ok ()⟩) (hs : h.attached.get? b.session = some n) :
    Becomes h happening n b { b with opening := .gone, seed := some seed }
  | worked (m : SignerMove) (hnow : happening = .signed m) : Becomes h happening n b (h.worked m n b)

theorem Happening.opened?_eq_some {happening : Happening} {n : Nat} (h : happening.opened? = some n) :
    ∃ i session, happening = .accessed i (.openBox session) n := by
  unfold opened? at h
  split at h
  · cases h
    exact ⟨_, _, rfl⟩
  · cases h

namespace Hub.Shifts

variable {h h' : Hub} {happening : Happening} {phases : Nat → AttachPhase} {st : Step α}

/-- Boxes come one by one. -/
theorem range_boxes (hshift : h.Shifts happening h') :
    List.range h'.boxes.length = List.range h.boxes.length ++ happening.opened?.toList := by
  have hsame (hlength : h'.boxes.length = h.boxes.length) (hnone : happening.opened? = none) :
      List.range h'.boxes.length = List.range h.boxes.length ++ happening.opened?.toList := by
    rw [hlength, hnone]
    exact (List.append_nil _).symm
  have huse {u : Use} (hu : happening.use? = some u) (ha : u.access.isOfAttach = false) : happening.opened? = none := by
    unfold Happening.opened?
    split
    · cases hu
      cases ha
    · rfl
  cases hshift with
  | rest hidle hboxes =>
    refine hsame (by rw [hboxes]) ?_
    unfold Happening.opened?
    split
    · cases hidle
    · rfl
  | opened i session =>
    show List.range (h.boxes ++ [_]).length = List.range h.boxes.length ++ [h.boxes.length]
    rw [List.length_append]
    exact List.range_succ
  | abandoned i k => exact hsame (List.length_modify ..) rfl
  | attached i session k => exact hsame (List.length_modify ..) rfl
  | detached session hu =>
    refine hsame ?_ (huse hu rfl)
    cases hs : h.attached.get? session with
    | none => rw [detach_of_not_attached _ hs]
    | some k =>
      rw [detach_of_attached _ hs]
      exact List.length_modify ..
  | deposited session seed hu =>
    refine hsame ?_ (huse hu rfl)
    rcases h.deposit_cases session seed with ⟨-, heq⟩ | ⟨k, b, -, -, -, heq⟩ | ⟨k, e, -, -, heq⟩ <;> rw [heq]
    · exact List.length_modify ..
    · exact List.length_modify ..
  | stopped i => exact hsame (List.length_map ..) rfl
  | signed m => exact hsame (h.length_boxes_afterSigner m) rfl

theorem of_openBox {i n : Nat} {session : String} (hshift : h.Shifts (.accessed i (.openBox session) n) h') :
    h'.boxes[n]? = some ⟨session, .attaching i, .fresh, none⟩ := by
  cases hshift with
  | rest hidle => cases hidle
  | opened => rw [getElem?_openBox, if_pos rfl]
  | detached session hu => cases hu
  | deposited session seed hu => cases hu

theorem of_detach {session : String} {x : Bool} (hshift : h.Shifts happening h')
    (hu : happening.use? = some ⟨.detach session, x⟩) : h' = (h.detach session).2 := by
  cases hshift with
  | rest hidle =>
    cases happening with
    | accessed | used =>
      cases hu
      cases hidle
    | _ => cases hu
  | detached session' hu' =>
    rw [hu] at hu'
    cases hu'
    rfl
  | deposited session' seed' hu' =>
    rw [hu] at hu'
    cases hu'
  | _ => cases hu

theorem of_deposit {session : String} {seed : SeedMaterial} {x : Except ChannelError Unit}
    (hshift : h.Shifts happening h') (hu : happening.use? = some ⟨.deposit session seed, x⟩) :
    h.deposit session seed = (x, h') := by
  cases hshift with
  | rest hidle =>
    cases happening with
    | accessed | used =>
      cases hu
      cases hidle
    | _ => cases hu
  | detached session' hu' =>
    rw [hu] at hu'
    cases hu'
  | deposited session' seed' hu' =>
    rw [hu] at hu'
    cases hu'
    rfl
  | _ => cases hu

theorem of_signed {m : SignerMove} (hshift : h.Shifts (.signed m) h') : h' = h.afterSigner m := by
  cases hshift with
  | rest hidle => cases hidle
  | detached session hu => cases hu
  | deposited session seed hu => cases hu
  | signed => rfl

section

variable (hshift : h.Shifts happening h') (custody : Custody h phases)
  (hallows : ∀ i e, happening.event? i = some e → porter.allows (phases i) e) {n : Nat} {b b' : SeedBox}

include hshift custody hallows

/-- **A step does one of these to each box that is there.** -/
theorem becomes (hb : h.boxes[n]? = some b) : ∃ b', h'.boxes[n]? = some b' ∧ b.Becomes h happening n b' := by
  -- A change of one box.
  have hchange {k : Nat} {f : SeedBox → SeedBox} (hk : k = n → b.Becomes h happening n (f b)) :
      ∃ b', (h.changeBox k f).boxes[n]? = some b' ∧ b.Becomes h happening n b' := by
    rw [Hub.getElem?_changeBox]
    split
    · exact ⟨f b, by rw [hb]; rfl, hk (by rename_i hn; exact hn.symm)⟩
    · exact ⟨b, hb, .same⟩
  have hattached {session : String} (hs : h.attached.get? session = some n) :
      b.session = session ∧ b.opening = .attached := by
    obtain ⟨b₁, hb₁, hsession, hopening⟩ := (custody.attached session n).1 hs
    rw [hb] at hb₁
    cases hb₁
    exact ⟨hsession, hopening⟩
  have hattaching {i : Nat} {session : String} (hi : (phases i).box? = some (session, n)) :
      b.session = session ∧ b.opening = .attaching i := by
    obtain ⟨b₁, hb₁, hsession, hopening⟩ := (custody.attaching i session n).1 hi
    rw [hb] at hb₁
    cases hb₁
    exact ⟨hsession, hopening⟩
  cases hshift with
  | rest hidle hboxes => exact ⟨b, hboxes ▸ hb, .same⟩
  | opened i session =>
    rw [getElem?_openBox, if_neg (Nat.ne_of_lt (List.getElem?_eq_some_iff.1 hb).1)]
    exact ⟨b, hb, .same⟩
  | abandoned i k =>
    refine hchange fun hk => .closed ?_
    subst hk
    obtain ⟨session, hi | hi⟩ := hallows i _ (Event.event?_happening i (.accessed (.abandonBox k) ())) <;>
    · have hbox : (phases i).box? = some (session, k) := by rw [hi]; rfl
      rw [(hattaching hbox).2]
      nofun
  | attached i session k =>
    refine hchange fun hk => ?_
    subst hk
    have hi := hallows i _ (Event.event?_happening i (.accessed (.attach session k) ()))
    have hbox : (phases i).box? = some (session, k) := by rw [hi]; rfl
    obtain ⟨rfl, hopening⟩ := hattaching hbox
    exact .attached i hopening rfl
  | detached session hu =>
    cases hs : h.attached.get? session with
    | none =>
      rw [detach_of_not_attached _ hs]
      exact ⟨b, hb, .same⟩
    | some k =>
      rw [detach_of_attached _ hs]
      refine hchange fun hk => .closed ?_
      subst hk
      rw [(hattached hs).2]
      nofun
  | deposited session seed hu =>
    rcases h.deposit_cases session seed with ⟨-, heq⟩ | ⟨k, b', hs, -, -, heq⟩ | ⟨k, e, hs, -, heq⟩ <;>
      rw [heq] at hu ⊢
    · exact ⟨b, hb, .same⟩
    · refine hchange fun hk => ?_
      subst hk
      obtain ⟨rfl, hopening⟩ := hattached hs
      exact .filled seed hopening hu hs
    · refine hchange fun hk => .closed ?_
      subst hk
      rw [(hattached hs).2]
      nofun
  | stopped i =>
    rw [getElem?_abandon, hb]
    refine ⟨_, rfl, ?_⟩
    dsimp only
    split
    · rename_i hi
      exact .closed (by rw [hi]; nofun)
    · exact .same
  | signed m => exact ⟨_, by rw [getElem?_afterSigner, hb]; rfl, .worked m rfl⟩

/-- A box was there, or has just been made. -/
theorem box_from (hb' : h'.boxes[n]? = some b') :
    (∃ b, h.boxes[n]? = some b ∧ b.Becomes h happening n b') ∨
    ∃ i session, happening = .accessed i (.openBox session) n ∧ b' = ⟨session, .attaching i, .fresh, none⟩ := by
  rcases Nat.lt_or_ge n h.boxes.length with hlt | hge
  · obtain ⟨b₁, hb₁, hbecomes⟩ := hshift.becomes custody hallows (List.getElem?_eq_getElem hlt)
    rw [hb'] at hb₁
    cases hb₁
    exact .inl ⟨_, List.getElem?_eq_getElem hlt, hbecomes⟩
  · have hmem := List.mem_range.2 (List.getElem?_eq_some_iff.1 hb').1
    rw [hshift.range_boxes] at hmem
    have hnew := (List.mem_append.1 hmem).resolve_left fun h => absurd (List.mem_range.1 h) (Nat.not_lt.2 hge)
    obtain ⟨i, session, rfl⟩ := Happening.opened?_eq_some (Option.mem_toList.1 hnew)
    rw [hshift.of_openBox] at hb'
    cases hb'
    exact .inr ⟨i, session, rfl, rfl⟩

/-- **A box stays there**, with its session; once nobody has its opening nobody gets it again, and no seed comes in. -/
theorem stays (hb : h.boxes[n]? = some b) :
    ∃ b', h'.boxes[n]? = some b' ∧ b'.session = b.session ∧
      (b.opening = .gone → b'.opening = .gone ∧ (b'.seed = b.seed ∨ b'.seed = none ∧ b'.IsSpent)) := by
  obtain ⟨b', hb', hbecomes⟩ := hshift.becomes custody hallows hb
  refine ⟨b', hb', ?_⟩
  cases hbecomes with
  | same => exact ⟨rfl, fun hgone => ⟨hgone, .inl rfl⟩⟩
  | closed hopen => exact ⟨rfl, fun hgone => absurd hgone hopen⟩
  | attached i hi => exact ⟨rfl, fun hgone => (by cases hi.symm.trans hgone)⟩
  | filled seed hopen => exact ⟨rfl, fun hgone => (by cases hopen.symm.trans hgone)⟩
  | worked m =>
    have hworn := h.worn_worked m n b
    exact ⟨hworn.session, fun hgone => ⟨hworn.opening.trans hgone, hworn.seed⟩⟩

/-- **Where a seed comes from**: it was in the box already, or has just been deposited for its session. -/
theorem seed_from {seed : SeedMaterial} (hb' : h'.boxes[n]? = some b') (hseed : b'.seed = some seed) :
    (∃ b, h.boxes[n]? = some b ∧ b.session = b'.session ∧ b.seed = some seed) ∨
    happening.use? = some ⟨.deposit b'.session seed, .ok ()⟩ ∧ h.attached.get? b'.session = some n := by
  rcases hshift.box_from custody hallows hb' with ⟨b, hb, hbecomes⟩ | ⟨i, session, -, rfl⟩
  · cases hbecomes with
    | filled seed' hopen hu hs =>
      cases hseed
      exact .inr ⟨hu, hs⟩
    | worked m =>
      have hworn := h.worn_worked m n b
      refine .inl ⟨b, hb, hworn.session.symm, ?_⟩
      rcases hworn.seed with heq | ⟨heq, -⟩
      · exact heq.symm.trans hseed
      · rw [heq] at hseed
        cases hseed
    | _ => exact .inl ⟨_, hb, rfl, hseed⟩
  · cases hseed

/-- An attached box was attached already, or has just been handed over. -/
theorem attached_from {session : String} (hn : h'.Opens n session .attached) :
    h.Opens n session .attached ∨ ∃ i, happening = .accessed i (.attach session n) () := by
  obtain ⟨b', hb', rfl, hopening⟩ := hn
  rcases hshift.box_from custody hallows hb' with ⟨b, hb, hbecomes⟩ | ⟨i, session, -, rfl⟩
  · cases hbecomes with
    | same => exact .inl ⟨_, hb, rfl, hopening⟩
    | closed | filled => cases hopening
    | attached i hi hnow => exact .inr ⟨i, hnow⟩
    | worked m =>
      have hworn := h.worn_worked m n b
      exact .inl ⟨b, hb, hworn.session.symm, hworn.opening.symm.trans hopening⟩
  · cases hopening

end

end Hub.Shifts

/-- A box that is filled has the seed, and nobody its opening. -/
theorem Step.box_of_filling {st : Step α} {n : Nat} {seed : SeedMaterial}
    (hshift : st.before.host.hub.Shifts st.happening st.after.host.hub) (hfilling : st.filling? = some (n, seed)) :
    ∃ b, st.after.host.hub.boxes[n]? = some b ∧ b.opening = .gone ∧ b.seed = some seed := by
  obtain ⟨session, hu, hs⟩ := Step.filling?_eq_some hfilling
  have hdeposit := hshift.of_deposit hu
  rcases st.before.host.hub.deposit_cases session seed with ⟨hnone, -⟩ | ⟨k, b, hk, hb, -, heq⟩ | ⟨k, e, -, -, heq⟩
  · cases hs.symm.trans hnone
  · cases hs.symm.trans hk
    refine ⟨{ b with opening := .gone, seed := some seed }, ?_, rfl, rfl⟩
    rw [(Prod.mk.inj (hdeposit.symm.trans heq)).2]
    show (Hub.changeBox _ n _).boxes[n]? = _
    rw [Hub.getElem?_changeBox, if_pos rfl, hb]
    rfl
  · cases hdeposit.symm.trans heq

/-- The box of a session that is detached is empty, and nobody has its opening. -/
theorem Step.box_of_detach {st : Step α} {phases : Nat → AttachPhase} {session : String} {n : Nat}
    (hshift : st.before.host.hub.Shifts st.happening st.after.host.hub) (custody : Custody st.before.host.hub phases)
    (hdetaches : st.Detaches session n) :
    ∃ b, st.after.host.hub.boxes[n]? = some b ∧ b.session = session ∧ b.opening = .gone ∧ b.seed = none := by
  obtain ⟨hu, hs⟩ := hdetaches
  obtain ⟨b, hb, hsession, hopening⟩ := (custody.attached session n).1 hs
  have hseed : b.seed = none := Option.not_isSome_iff_eq_none.1 fun hseed => by
    cases hopening.symm.trans (custody.sealed n b hb hseed)
  refine ⟨{ b with opening := .gone }, ?_, hsession, rfl, hseed⟩
  rw [hshift.of_detach hu, Hub.detach_of_attached _ hs]
  show (Hub.changeBox _ n _).boxes[n]? = _
  rw [Hub.getElem?_changeBox, if_pos rfl, hb]
  rfl

/-! ## Spent endpoints -/

/-- The box is there, and its endpoint yields nothing any more. -/
def Hub.SpentAt (h : Hub) (n : Nat) : Prop := ∃ b, h.boxes[n]? = some b ∧ b.IsSpent

/-- What spends an endpoint that is there is a move of the worker. -/
theorem Step.usesUp_iff {st : Step α} {n : Nat} (hn : n < st.before.host.hub.boxes.length) :
    st.Takes n ∨ st.Drops n ↔ ∃ m, st.happening = .signed m ∧ st.before.host.hub.UsesUp m n := by
  unfold Takes Drops
  constructor
  · rintro ((⟨r, hr⟩ | ⟨-, hnow⟩) | ⟨-, hnow | ⟨hnow, hmem⟩⟩)
    · obtain ⟨hnow, hr⟩ := Step.took?_eq_some hr
      exact ⟨_, hnow, .inl ⟨rfl, by rw [hr]; rfl⟩⟩
    · exact ⟨_, hnow, .inr (.inl rfl)⟩
    · exact ⟨_, hnow, .inr (.inr (.inl rfl))⟩
    · exact ⟨_, hnow, .inr (.inr (.inr ⟨rfl, hmem⟩))⟩
  · rintro ⟨_, hnow, ⟨rfl, hanswer⟩ | rfl | rfl | ⟨rfl, hmem⟩⟩
    · obtain ⟨r, hr⟩ := Option.isSome_iff_exists.1 hanswer
      exact .inl (.inl ⟨r, by simp only [Step.took?, hnow, hr, Option.map_some]⟩)
    · exact .inl (.inr ⟨hn, hnow⟩)
    · exact .inr ⟨hn, .inl hnow⟩
    · exact .inr ⟨hn, .inr ⟨hnow, hmem⟩⟩

theorem Step.lt_of_spends {st : Step α} {n : Nat} (h : st.Takes n ∨ st.Drops n) :
    n < st.before.host.hub.boxes.length := by
  rcases h with (⟨r, hr⟩ | ⟨hn, -⟩) | ⟨hn, -⟩
  · refine Nat.lt_of_not_le fun hle => ?_
    have htake := (Step.took?_eq_some hr).2
    rw [Hub.take_of_none (List.getElem?_eq_none hle)] at htake
    cases htake
  · exact hn
  · exact hn

/-- **An endpoint is spent** by a take, or dropped, and stays so. -/
theorem Hub.Shifts.spentAt {st : Step α} {phases : Nat → AttachPhase}
    (hshift : st.before.host.hub.Shifts st.happening st.after.host.hub) (custody : Custody st.before.host.hub phases)
    (hallows : ∀ i e, st.happening.event? i = some e → porter.allows (phases i) e) (n : Nat) :
    st.after.host.hub.SpentAt n ↔ st.before.host.hub.SpentAt n ∨ st.Takes n ∨ st.Drops n := by
  constructor
  · rintro ⟨b', hb', hspent⟩
    rcases hshift.box_from custody hallows hb' with ⟨b, hb, hbecomes⟩ | ⟨i, session, -, rfl⟩
    · cases hbecomes with
      | worked m hnow =>
        refine ((Hub.isSpent_worked _ m hb).1 hspent).imp (fun h => ⟨b, hb, h⟩) fun h => ?_
        exact (Step.usesUp_iff (List.getElem?_eq_some_iff.1 hb).1).2 ⟨m, hnow, h⟩
      | _ => exact .inl ⟨_, hb, hspent⟩
    · exact absurd hspent (by simp)
  · rintro (⟨b, hb, hspent⟩ | hspends)
    · obtain ⟨b', hb', hbecomes⟩ := hshift.becomes custody hallows hb
      refine ⟨b', hb', ?_⟩
      cases hbecomes with
      | worked m => exact (Hub.isSpent_worked _ m hb).2 (.inl hspent)
      | _ => exact hspent
    · have hlt := Step.lt_of_spends hspends
      obtain ⟨m, hnow, huses⟩ := (Step.usesUp_iff hlt).1 hspends
      rw [hnow] at hshift
      have hb := List.getElem?_eq_getElem hlt
      refine ⟨_, ?_, (Hub.isSpent_worked _ m hb).2 (.inr huses)⟩
      rw [hshift.of_signed, Hub.getElem?_afterSigner, hb]
      rfl

/-- **What an attach has of its box** it had before and has not left, or has just made. -/
theorem AttachPhase.box?_from {phases : Nat → AttachPhase} {happening : Happening}
    (hallows : ∀ i e, happening.event? i = some e → porter.allows (phases i) e) {i : Nat} {session : String} {n : Nat}
    (h : (porter.afterAll phases happening i).box? = some (session, n)) :
    (phases i).box? = some (session, n) ∧ ¬ happening.Leaves i ∨ happening = .accessed i (.openBox session) n := by
  unfold afterAll at h
  cases he : happening.event? i with
  | none =>
    rw [he] at h
    refine .inl ⟨h, ?_⟩
    rintro (⟨name, rfl⟩ | rfl) <;>
    · simp only [Happening.event?, if_pos] at he
      cases he
  | some e =>
    rw [he] at h
    dsimp only at h
    have heq := Happening.eq_of_event? he
    cases hmoves : (e.happening i).movesBoxes with
    | false =>
      refine .inl ⟨(AttachPhase.box?_after (hallows i e he) hmoves).symm.trans h, ?_⟩
      rintro (⟨name, hleaves⟩ | hleaves) <;> rw [hleaves] at he
      · cases (Event.event?_happening i (.accessed (.leaveWorker name) ())).symm.trans he
        cases h
      · cases (Event.event?_happening i .stopped).symm.trans he
        cases h
    | true =>
      have hother (hafter : porter.after (phases i) e = phases i) (hne : ¬ (e.happening i).Leaves i) :
          (phases i).box? = some (session, n) ∧ ¬ happening.Leaves i ∨
            happening = .accessed i (.openBox session) n := by
        rw [hafter] at h
        exact .inl ⟨h, heq ▸ hne⟩
      cases e with
      | accessed a x =>
        cases a with
        | openBox found =>
          cases h
          exact .inr heq
        | abandonBox | attach => cases h
        | detach found => exact hother rfl (by rintro (⟨name, h⟩ | h) <;> cases h)
        | deposit found seed => exact hother rfl (by rintro (⟨name, h⟩ | h) <;> cases h)
        | _ => cases hmoves
      | stopped => cases h
      | _ => cases hmoves

end PasskeyConsent

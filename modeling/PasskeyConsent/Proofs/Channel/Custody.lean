import PasskeyConsent.Proofs.Channel.Usage
/-!
# Who has the opening of a box

The opening of a box belongs to the attach that made it, then to the table of attached sessions under the box's own
session, then to nobody, and only then can there be a seed in it.  `Hub.Shifts` says once what can become of the boxes,
and `Custody` is what every shift keeps: since one attach at a time is in the lane, what it has found not attached stays
so until it attaches it itself.
-/
namespace PasskeyConsent

open Observer
open AttachPhase (porter)

variable {α : Type}

/-! ## What becomes of the boxes -/

/-- The accesses that change a box or the attached sessions. -/
def Access.movesBoxes : Access → Bool
  | .openBox _ | .abandonBox _ | .attach .. | .detach _ | .deposit .. => true
  | _ => false

def Happening.movesBoxes : Happening → Bool
  | .accessed _ a _ | .used a _ => a.movesBoxes
  | .stopped _ | .signed _ => true
  | _ => false

/-- **Everything that can become of the boxes** and of the attached sessions, with what happens. -/
inductive Hub.Shifts (h : Hub) : Happening → Hub → Prop
  | rest {happening : Happening} {h' : Hub} (hidle : happening.movesBoxes = false) (hboxes : h'.boxes = h.boxes)
      (hattached : h'.attached = h.attached)
      (habsent : ∀ i session, happening = .accessed i (.isAttached session) false → h.isAttached session = false) :
    Shifts h happening h'
  | opened (i : Nat) (session : String) :
    Shifts h (.accessed i (.openBox session) h.boxes.length) (h.openBox i session).2
  | abandoned (i n : Nat) : Shifts h (.accessed i (.abandonBox n) ()) (h.abandonBox n)
  | attached (i : Nat) (session : String) (n : Nat) : Shifts h (.accessed i (.attach session n) ()) (h.attach session n)
  | detached {happening : Happening} (session : String)
      (hu : happening.use? = some ⟨.detach session, (h.detach session).1⟩) : Shifts h happening (h.detach session).2
  | deposited {happening : Happening} (session : String) (seed : SeedMaterial)
      (hu : happening.use? = some ⟨.deposit session seed, (h.deposit session seed).1⟩) :
    Shifts h happening (h.deposit session seed).2
  | stopped (i : Nat) : Shifts h (.stopped i) (h.abandon i)
  | signed (m : SignerMove) : Shifts h (.signed m) (h.afterSigner m)

theorem Host.access_boxes (h : Host) (task : Nat) (own : Holdings) {a : Access} (ha : a.movesBoxes = false) :
    (h.access task own a).2.1.hub.boxes = h.hub.boxes ∧ (h.access task own a).2.1.hub.attached = h.hub.attached := by
  have change := h.access_changes task own a
  generalize (h.access task own a).2.1 = h' at change ⊢
  cases change with
  | openBox | abandonBox | attach | detach | deposit => cases ha
  | _ => exact ⟨rfl, rfl⟩

theorem Host.look_boxes (h : Host) (task : Nat) (w : Wait) :
    (h.look task w).2.hub.boxes = h.hub.boxes ∧ (h.look task w).2.hub.attached = h.hub.attached := by
  cases w with
  | send e =>
    obtain ⟨sending, inbox, heq⟩ := h.hub.send_changes task e
    show (h.hub.send task e).2.boxes = h.hub.boxes ∧ (h.hub.send task e).2.attached = h.hub.attached
    rw [heq]
    exact ⟨rfl, rfl⟩
  | _ => exact ⟨rfl, rfl⟩

/-- **A move shifts the boxes** as what happens says. -/
theorem Wallet.Goes.shifts {w w' : Wallet α} {m : Move α} {happening : Happening} (g : w.Goes m happening w')
    (hm : m.UsesHub) : w.host.hub.Shifts happening w'.host.hub := by
  cases g with
  | @access i t a next ht hp =>
    rw [Wallet.setTask_host]
    show Hub.Shifts _ _ (w.host.access i t.own a).2.1.hub
    cases ha : a.movesBoxes with
    | false =>
      obtain ⟨hboxes, hattached⟩ := w.host.access_boxes i t.own ha
      refine .rest ha hboxes hattached fun j session heq => ?_
      injection heq with _ hacc hanswer
      subst hacc
      exact eq_of_heq hanswer
    | true =>
      cases a with
      | openBox session => exact .opened i session
      | abandonBox n => exact .abandoned i n
      | attach session n => exact .attached i session n
      | detach session => exact .detached session rfl
      | deposit session seed => exact .deposited session seed rfl
      | _ => cases ha
  | @look i t u ht hs hl => exact .rest rfl (w.host.look_boxes i u).1 (w.host.look_boxes i u).2 nofun
  | @wait i t t' u x ht hl hr => exact .rest rfl (w.host.look_boxes i u).1 (w.host.look_boxes i u).2 nofun
  | @stop i t t' ht hs => exact .stopped i
  | outside a =>
    show Hub.Shifts _ _ (w.host.access _ _ a).2.1.hub
    cases ha : a.movesBoxes with
    | false => exact .rest ha (w.host.access_boxes _ _ ha).1 (w.host.access_boxes _ _ ha).2 nofun
    | true =>
      cases a with
      | openBox | abandonBox | attach => cases hm
      | detach session => exact .detached session rfl
      | deposit session seed => exact .deposited session seed rfl
      | _ => cases ha
  | signer m => exact .signed m
  | _ => exact .rest rfl rfl rfl nofun

/-! ## The openings -/

/-- The box with its session, and who has its opening. -/
def Hub.Opens (h : Hub) (n : Nat) (session : String) (o : Opening) : Prop :=
  ∃ b, h.boxes[n]? = some b ∧ b.session = session ∧ b.opening = o

theorem Hub.Opens.unique {h : Hub} {n : Nat} {session session' : String} {o o' : Opening} (hn : h.Opens n session o)
    (hn' : h.Opens n session' o') : session = session' ∧ o = o' := by
  obtain ⟨b, hb, rfl, rfl⟩ := hn
  obtain ⟨b', hb', rfl, rfl⟩ := hn'
  rw [hb] at hb'
  cases hb'
  exact ⟨rfl, rfl⟩

/-- **Who has which opening**, by the phases of the tasks. -/
structure Custody (h : Hub) (phases : Nat → AttachPhase) : Prop where
  /-- What an attach has found not attached is not attached yet. -/
  absent : ∀ i session, (phases i).session? = some session → h.isAttached session = false
  /-- An attach has the box that it has made, and no other. -/
  attaching : ∀ i session n, (phases i).box? = some (session, n) ↔ h.Opens n session (.attaching i)
  /-- The table has the boxes that are attached, each under its own session. -/
  attached : ∀ session n, h.attached.get? session = some n ↔ h.Opens n session .attached
  keys : h.attached.keys.Nodup
  sealed : ∀ (n : Nat) (b : SeedBox), h.boxes[n]? = some b → b.seed.isSome → b.opening = .gone

/-- A hub on which nothing has been done yet. -/
def Hub.IsFresh (h : Hub) : Prop := h.boxes = [] ∧ h.attached = {}

namespace Custody

variable {h h' : Hub} {phases phases' : Nat → AttachPhase}

theorem fresh (hfresh : h.IsFresh) : Custody h fun _ => .out := by
  obtain ⟨hboxes, hattached⟩ := hfresh
  have hnone (n : Nat) (session : String) (o : Opening) : ¬ h.Opens n session o := by
    rintro ⟨b, hb, -, -⟩
    rw [hboxes] at hb
    cases hb
  have hempty (session : String) : h.attached.get? session = none := by
    rw [hattached]
    rfl
  refine ⟨nofun, fun i session n => ⟨nofun, fun ho => (hnone _ _ _ ho).elim⟩,
    fun session n => ⟨fun hs => ?_, fun ho => (hnone _ _ _ ho).elim⟩, ?_, fun n b hb => ?_⟩
  · rw [hempty] at hs
    cases hs
  · rw [hattached]
    exact .nil
  · rw [hboxes] at hb
    cases hb

theorem isAttached_iff (custody : Custody h phases) (session : String) :
    h.isAttached session = true ↔ ∃ n, h.Opens n session .attached := by
  unfold Hub.isAttached Table.contains
  rw [Option.isSome_iff_exists]
  exact exists_congr fun n => custody.attached session n

/-- Boxes that are worn at most are in the same hands. -/
theorem worn (custody : Custody h phases) (hattached : h'.attached = h.attached)
    (hcount : h'.boxes.length = h.boxes.length)
    (hworn : ∀ (n : Nat) (b : SeedBox), h.boxes[n]? = some b → ∃ b', h'.boxes[n]? = some b' ∧ b.Worn b')
    (hbox : ∀ i, (phases' i).box? = (phases i).box?)
    (hsession : ∀ i session, (phases' i).session? = some session → h.isAttached session = false) :
    Custody h' phases' := by
  have hback (n : Nat) (b' : SeedBox) (hb' : h'.boxes[n]? = some b') : ∃ b, h.boxes[n]? = some b ∧ b.Worn b' := by
    have hn : n < h.boxes.length := hcount ▸ (List.getElem?_eq_some_iff.1 hb').1
    obtain ⟨b₁, hb₁, hw⟩ := hworn n _ (List.getElem?_eq_getElem hn)
    rw [hb'] at hb₁
    cases hb₁
    exact ⟨_, List.getElem?_eq_getElem hn, hw⟩
  have hopens (n : Nat) (session : String) (o : Opening) : h.Opens n session o ↔ h'.Opens n session o := by
    constructor
    · rintro ⟨b, hb, rfl, rfl⟩
      obtain ⟨b', hb', hw⟩ := hworn n b hb
      exact ⟨b', hb', hw.session, hw.opening⟩
    · rintro ⟨b', hb', rfl, rfl⟩
      obtain ⟨b, hb, hw⟩ := hback n b' hb'
      exact ⟨b, hb, hw.session.symm, hw.opening.symm⟩
  refine ⟨fun i session hi => ?_, fun i session n => ?_, fun session n => ?_, ?_, fun n b' hb' hseed => ?_⟩
  · unfold Hub.isAttached
    rw [hattached]
    exact hsession i session hi
  · rw [hbox, ← hopens]
    exact custody.attaching i session n
  · rw [hattached, ← hopens]
    exact custody.attached session n
  · rw [hattached]
    exact custody.keys
  · obtain ⟨b, hb, hw⟩ := hback n b' hb'
    rw [hw.opening]
    refine custody.sealed n b hb ?_
    rcases hw.seed with heq | ⟨heq, -⟩
    · exact heq ▸ hseed
    · rw [heq] at hseed
      cases hseed

/-- **One box changes hands**: the others, and what is attached of other sessions, are as they were. -/
theorem moved (custody : Custody h phases) {n : Nat} {session : String} {o o' : Opening} (hn : h.Opens n session o)
    (hmoved : ∀ m s p, h'.Opens m s p ↔ if m = n then s = session ∧ p = o' else h.Opens m s p)
    (ho' : ∀ i, o' ≠ .attaching i)
    (hbox : ∀ i, (phases' i).box? = if o = .attaching i then none else (phases i).box?)
    (honly : ∀ m, h.Opens m session .attached → m = n)
    (hattached : ∀ s, h'.attached.get? s =
      if s = session then (if o' = .attached then some n else none) else h.attached.get? s)
    (hkeys : h'.attached.keys.Nodup)
    (habsent : ∀ i s, (phases' i).session? = some s → h'.isAttached s = false)
    (hsealed : ∀ (m : Nat) (b : SeedBox), h'.boxes[m]? = some b → b.seed.isSome → b.opening = .gone) :
    Custody h' phases' := by
  refine ⟨habsent, fun i s m => ?_, fun s m => ?_, hkeys, hsealed⟩
  · rw [hmoved, hbox]
    by_cases hm : m = n
    · subst hm
      rw [if_pos rfl]
      refine ⟨fun hi => ?_, fun hi => absurd hi.2.symm (ho' i)⟩
      split at hi
      · cases hi
      · rename_i hne
        exact absurd (hn.unique ((custody.attaching i s m).1 hi)).2 hne
    · rw [if_neg hm, ← custody.attaching]
      split
      · rename_i ho
        subst ho
        refine ⟨fun hi => (by cases hi), fun hi => ?_⟩
        rw [(custody.attaching i session n).2 hn] at hi
        cases hi
        exact absurd rfl hm
      · exact Iff.rfl
  · rw [hattached, hmoved]
    by_cases hs : s = session
    · subst hs
      rw [if_pos rfl]
      by_cases hm : m = n
      · subst hm
        rw [if_pos rfl]
        split
        · rename_i ho
          exact ⟨fun _ => ⟨rfl, ho.symm⟩, fun _ => rfl⟩
        · rename_i ho
          exact ⟨fun h => (by cases h), fun h => absurd h.2.symm ho⟩
      · rw [if_neg hm]
        refine ⟨fun h => ?_, fun h => absurd (honly m h) hm⟩
        split at h
        · cases h
          exact absurd rfl hm
        · cases h
    · rw [if_neg hs, custody.attached]
      by_cases hm : m = n
      · subst hm
        rw [if_pos rfl]
        exact ⟨fun h => absurd (hn.unique h).1.symm hs, fun h => absurd h.1 hs⟩
      · rw [if_neg hm]

end Custody

/-- A box of the hub that is changed is handed on by the change. -/
theorem Hub.opens_changeBox {h h' : Hub} {n : Nat} {f : SeedBox → SeedBox} {session : String} {o o' : Opening}
    (hn : h.Opens n session o) (hboxes : h'.boxes = (h.changeBox n f).boxes)
    (hf : ∀ b, (f b).session = b.session ∧ (f b).opening = o') (m : Nat) (s : String) (p : Opening) :
    h'.Opens m s p ↔ if m = n then s = session ∧ p = o' else h.Opens m s p := by
  obtain ⟨b, hb, rfl, rfl⟩ := hn
  unfold Opens
  rw [hboxes, getElem?_changeBox]
  by_cases hm : m = n
  · subst hm
    rw [if_pos rfl, if_pos rfl, hb]
    constructor
    · rintro ⟨b', hb', rfl, rfl⟩
      cases hb'
      exact hf b
    · rintro ⟨rfl, rfl⟩
      exact ⟨f b, rfl, hf b⟩
  · rw [if_neg hm, if_neg hm]

theorem Hub.sealed_changeBox {h h' : Hub} {phases : Nat → AttachPhase} {n : Nat} {f : SeedBox → SeedBox}
    (custody : Custody h phases) (hboxes : h'.boxes = (h.changeBox n f).boxes)
    (hf : ∀ b, h.boxes[n]? = some b → (f b).seed.isSome → (f b).opening = .gone) (m : Nat) (b : SeedBox)
    (hb : h'.boxes[m]? = some b) (hseed : b.seed.isSome) : b.opening = .gone := by
  rw [hboxes, getElem?_changeBox] at hb
  split at hb
  · rename_i hm
    subst hm
    obtain ⟨b₀, hb₀, rfl⟩ := Option.map_eq_some_iff.1 hb
    exact hf b₀ hb₀ hseed
  · exact custody.sealed m b hb hseed

/-! ## Every shift keeps it -/

namespace AttachPhase

variable {s : AttachPhase} {e : Event} {i : Nat}

/-- What moves no box leaves a task with the box that it has. -/
theorem box?_after (hallowed : porter.allows s e) (he : (e.happening i).movesBoxes = false) :
    (porter.after s e).box? = s.box? := by
  cases e with
  | accessed a x =>
    cases a with
    | openBox | abandonBox | attach => cases he
    | isAttached session =>
      cases x with
      | true => rfl
      | false =>
        show (if s = entered then vacant session else s).box? = s.box?
        split
        · rename_i hs
          rw [hs]
          rfl
        · rfl
    | leaveWorker name =>
      obtain ⟨-, rfl⟩ := hallowed
      rfl
    | _ => rfl
  | waited w x =>
    cases w with
    | worker name =>
      obtain ⟨-, rfl⟩ := hallowed
      rfl
    | send envelope => rcases x with _ | ⟨⟩ <;> cases s <;> rfl
    | ack session due => cases x <;> cases s <;> rfl
    | _ => rfl
  | stopped => cases he
  | _ => rfl

/-- And with the session that it has found not attached, unless it has just found one. -/
theorem session?_after (hallowed : porter.allows s e) (he : (e.happening i).movesBoxes = false) {session : String}
    (h : (porter.after s e).session? = some session) :
    s.session? = some session ∨ e = .accessed (.isAttached session) false := by
  cases e with
  | accessed a x =>
    cases a with
    | openBox | abandonBox | attach => cases he
    | isAttached found =>
      cases x with
      | true => exact .inl h
      | false =>
        have hafter : porter.after s (.accessed (.isAttached found) false) =
            if s = entered then vacant found else s := rfl
        rw [hafter] at h
        split at h
        · cases h
          exact .inr rfl
        · exact .inl h
    | leaveWorker name => cases h
    | _ => exact .inl h
  | waited w x =>
    refine .inl ?_
    cases w with
    | worker name => cases h
    | send envelope => rcases x with _ | ⟨⟩ <;> cases s <;> exact h
    | ack session due => cases x <;> cases s <;> exact h
    | _ => exact h
  | stopped => cases he
  | _ => exact .inl h

/-- What is used otherwise leaves every task where it is. -/
theorem afterAll_of_use {phases : Nat → AttachPhase} {happening : Happening} {a : Access} {x : a.Answer}
    (hu : happening.use? = some ⟨a, x⟩) (ha : ∀ s, porter.after s (.accessed a x) = s) :
    porter.afterAll phases happening = phases := by
  funext i
  unfold afterAll
  cases he : happening.event? i with
  | none => rfl
  | some e =>
    rw [Happening.eq_of_event? he] at hu
    cases e with
    | accessed b y =>
      cases hu
      exact ha _
    | _ => cases hu

/-! An attach that is over by what has happened has no box and no session any more; the others have theirs. -/

theorem box?_of_over {phases : Nat → AttachPhase} {i : Nat} {e : Event} (hover : (porter.after (phases i) e).box? = none)
    (j : Nat) : (porter.afterAll phases (e.happening i) j).box? =
      if Opening.attaching i = .attaching j then none else (phases j).box? := by
  by_cases hij : i = j
  · subst hij
    rw [afterAll_self, if_pos rfl, hover]
  · rw [afterAll_of_ne _ _ hij, if_neg fun heq => hij (Opening.attaching.inj heq)]

theorem session?_of_over {phases : Nat → AttachPhase} {i j : Nat} {e : Event} {session : String}
    (hover : (porter.after (phases i) e).session? = none)
    (hj : (porter.afterAll phases (e.happening i) j).session? = some session) :
    i ≠ j ∧ (phases j).session? = some session := by
  by_cases hij : i = j
  · subst hij
    rw [afterAll_self, hover] at hj
    cases hj
  · rw [afterAll_of_ne _ _ hij] at hj
    exact ⟨hij, hj⟩

end AttachPhase

/-- A box that is made is in the hands of the attach that has made it. -/
theorem Hub.opens_openBox (h : Hub) (i : Nat) (session : String) (m : Nat) (s : String) (o : Opening) :
    (h.openBox i session).2.Opens m s o ↔
      if m = h.boxes.length then s = session ∧ o = .attaching i else h.Opens m s o := by
  unfold Hub.Opens
  rw [Hub.getElem?_openBox]
  split
  · refine ⟨?_, ?_⟩
    · rintro ⟨b, hb, rfl, rfl⟩
      cases hb
      exact ⟨rfl, rfl⟩
    · rintro ⟨rfl, rfl⟩
      exact ⟨_, rfl, rfl, rfl⟩
  · exact Iff.rfl

/-- Of the openings that are not gone, a task that is stopped drops its own. -/
theorem Hub.opens_abandon (h : Hub) (i m : Nat) (s : String) (o : Opening) (ho : o ≠ .gone) :
    (h.abandon i).Opens m s o ↔ o ≠ .attaching i ∧ h.Opens m s o := by
  unfold Hub.Opens
  rw [Hub.getElem?_abandon]
  constructor
  · rintro ⟨b', hb', rfl, rfl⟩
    obtain ⟨b, hb, rfl⟩ := Option.map_eq_some_iff.1 hb'
    by_cases hmine : b.opening = .attaching i
    · rw [if_pos hmine] at ho
      exact absurd rfl ho
    · rw [if_neg hmine]
      exact ⟨hmine, b, hb, rfl, rfl⟩
  · rintro ⟨hmine, b, hb, rfl, rfl⟩
    exact ⟨b, by rw [hb, Option.map_some, if_neg hmine], rfl, rfl⟩

namespace Custody

variable {h h' : Hub} {phases : Nat → AttachPhase} {q : WorkerQueue} {happening : Happening}

theorem opened (custody : Custody h phases) {i : Nat} {session : String} (hi : phases i = .vacant session) :
    Custody (h.openBox i session).2
      (porter.afterAll phases (.accessed i (.openBox session) h.boxes.length)) := by
  have hnone (s : String) (o : Opening) : ¬ h.Opens h.boxes.length s o := by
    rintro ⟨b, hb, -, -⟩
    rw [List.getElem?_eq_none (Nat.le_refl _)] at hb
    cases hb
  have hself := porter.afterAll_self phases i (.accessed (.openBox session) h.boxes.length)
  have hother {j : Nat} (hj : i ≠ j) := porter.afterAll_of_ne phases hj (.accessed (.openBox session) h.boxes.length)
  refine ⟨fun j s hj => ?_, fun j s m => ?_, fun s m => ?_, custody.keys, fun m b hb hseed => ?_⟩
  · by_cases hij : i = j
    · subst hij
      refine custody.absent i s ?_
      rw [hi]
      exact (congrArg AttachPhase.session? hself).symm.trans hj
    · exact custody.absent j s ((congrArg AttachPhase.session? (hother hij)).symm.trans hj)
  · rw [Hub.opens_openBox]
    by_cases hij : i = j
    · subst hij
      refine (congrArg (AttachPhase.box? · = some (s, m)) hself).to_iff.trans ?_
      show some (session, h.boxes.length) = some (s, m) ↔ _
      split
      · rename_i hm
        subst hm
        exact ⟨fun h => (by cases h; exact ⟨rfl, rfl⟩), fun h => (by rw [h.1])⟩
      · rename_i hm
        refine ⟨fun h => ?_, fun h => ?_⟩
        · cases h
          exact absurd rfl hm
        · rw [← custody.attaching, hi] at h
          cases h
    · refine (congrArg (AttachPhase.box? · = some (s, m)) (hother hij)).to_iff.trans ?_
      rw [custody.attaching]
      split
      · rename_i hm
        subst hm
        refine ⟨fun h => (hnone _ _ h).elim, fun h => ?_⟩
        cases h.2
        exact absurd rfl hij
      · exact Iff.rfl
  · rw [Hub.opens_openBox]
    refine (custody.attached s m).trans ?_
    split
    · rename_i hm
      subst hm
      exact ⟨fun h => (hnone _ _ h).elim, fun h => nomatch h.2⟩
    · exact Iff.rfl
  · rw [Hub.getElem?_openBox] at hb
    split at hb
    · cases hb
      cases hseed
    · exact custody.sealed m b hb hseed

/-- A session that an attach has found not attached has no attached box. -/
theorem not_attached (custody : Custody h phases) {i : Nat} {session : String}
    (hi : (phases i).session? = some session) (m : Nat) : ¬ h.Opens m session .attached := fun hm => by
  have hyes := (custody.isAttached_iff session).2 ⟨m, hm⟩
  rw [custody.absent i session hi] at hyes
  cases hyes

/-- An attach drops the opening of its box. -/
theorem abandoned (custody : Custody h phases) {i n : Nat} {session : String}
    (hi : (phases i).session? = some session) (hbox : (phases i).box? = some (session, n)) :
    Custody (h.abandonBox n) (porter.afterAll phases (.accessed i (.abandonBox n) ())) := by
  have hn := (custody.attaching i session n).1 hbox
  refine custody.moved hn (Hub.opens_changeBox hn rfl fun _ => ⟨rfl, rfl⟩) nofun
    (AttachPhase.box?_of_over (e := .accessed (.abandonBox n) ()) rfl)
    (fun m hm => (custody.not_attached hi m hm).elim) (fun s => ?_) custody.keys (fun j s hj => ?_)
    (Hub.sealed_changeBox custody rfl fun _ _ _ => rfl)
  · split
    · rename_i hs
      subst hs
      cases hget : h.attached.get? s with
      | none => exact hget
      | some m => exact (custody.not_attached hi m ((custody.attached s m).1 hget)).elim
    · rfl
  · exact custody.absent j s (AttachPhase.session?_of_over (e := .accessed (.abandonBox n) ()) rfl hj).2

/-- Or hands it over to the table; nobody else is in an attach. -/
theorem handed (custody : Custody h phases) (held : LaneHeld q phases) {i n : Nat} {session : String}
    (hi : phases i = .acked session n) :
    Custody (h.attach session n) (porter.afterAll phases (.accessed i (.attach session n) ())) := by
  have hsession : (phases i).session? = some session := by rw [hi]; rfl
  have hn := (custody.attaching i session n).1 (by rw [hi]; rfl)
  refine custody.moved hn (Hub.opens_changeBox hn rfl fun _ => ⟨rfl, rfl⟩) nofun
    (AttachPhase.box?_of_over (e := .accessed (.attach session n) ()) rfl)
    (fun m hm => (custody.not_attached hsession m hm).elim) (fun s => ?_) (Table.nodup_keys_put custody.keys session n)
    (fun j s hj => ?_) (Hub.sealed_changeBox custody rfl fun b hb hseed => ?_)
  · split
    · rename_i hs
      subst hs
      exact Table.get?_put_self _ _ _
    · rename_i hs
      exact Table.get?_put_of_ne _ hs _
  · obtain ⟨hij, hj'⟩ := AttachPhase.session?_of_over (e := .accessed (.attach session n) ()) rfl hj
    refine absurd (held.unique (i := i) (j := j) ?_ ?_) hij
    · rw [hi]
      nofun
    · intro hout
      rw [hout] at hj'
      cases hj'
  · obtain ⟨b', hb', -, hopening⟩ := hn
    rw [hb] at hb'
    cases hb'
    have := custody.sealed n b hb hseed
    rw [hopening] at this
    cases this

/-- An attached box whose opening is dropped, with a seed or without. -/
theorem withdrawn (custody : Custody h phases) {session : String} {n : Nat} {f : SeedBox → SeedBox}
    (hs : h.attached.get? session = some n) (hboxes : h'.boxes = (h.changeBox n f).boxes)
    (hattached : h'.attached = h.attached.erase session)
    (hf : ∀ b, (f b).session = b.session ∧ (f b).opening = .gone) : Custody h' phases := by
  have hn := (custody.attached session n).1 hs
  refine custody.moved hn (Hub.opens_changeBox hn hboxes hf) nofun (fun j => ?_) (fun m hm => ?_) (fun s => ?_) ?_
    (fun j s hj => ?_) (Hub.sealed_changeBox custody hboxes fun b _ _ => (hf b).2)
  · rw [if_neg nofun]
  · have hm' := (custody.attached session m).2 hm
    rw [hs] at hm'
    exact (Option.some.inj hm').symm
  · rw [hattached]
    split
    · rename_i heq
      subst heq
      exact Table.get?_erase_self _ _
    · rename_i hne
      exact Table.get?_erase_of_ne _ hne
  · rw [hattached]
    exact Table.nodup_keys_erase custody.keys session
  · unfold Hub.isAttached
    rw [hattached, Table.contains_erase]
    split
    · rfl
    · exact custody.absent j s hj

/-- A stopped attach drops the opening as well. -/
theorem stopped (custody : Custody h phases) (i : Nat) :
    Custody (h.abandon i) (porter.afterAll phases (.stopped i)) := by
  have hbox : ∀ j, (porter.afterAll phases (.stopped i) j).box? =
      if Opening.attaching i = .attaching j then none else (phases j).box? :=
    AttachPhase.box?_of_over (e := .stopped) rfl
  refine ⟨fun j s hj => ?_, fun j s m => ?_, fun s m => ?_, custody.keys, fun m b' hb' hseed => ?_⟩
  · exact custody.absent j s (AttachPhase.session?_of_over (e := .stopped) rfl hj).2
  · rw [Hub.opens_abandon h i m s (.attaching j) nofun, ← custody.attaching, hbox]
    split
    · rename_i hmine
      exact ⟨nofun, fun h => absurd hmine.symm h.1⟩
    · rename_i hnot
      exact ⟨fun h => ⟨Ne.symm hnot, h⟩, fun h => h.2⟩
  · rw [Hub.opens_abandon h i m s .attached nofun]
    refine (custody.attached s m).trans ?_
    exact ⟨fun h => ⟨nofun, h⟩, fun h => h.2⟩
  · rw [Hub.getElem?_abandon] at hb'
    obtain ⟨b, hb, rfl⟩ := Option.map_eq_some_iff.1 hb'
    split
    · rfl
    · rename_i hmine
      rw [if_neg hmine] at hseed
      exact custody.sealed m b hb hseed

/-- **Every shift keeps the custody** that the porter allows. -/
theorem shifts (custody : Custody h phases) (held : LaneHeld q phases) (hshift : h.Shifts happening h')
    (hallows : ∀ i e, happening.event? i = some e → porter.allows (phases i) e) :
    Custody h' (porter.afterAll phases happening) := by
  cases hshift with
  | rest hidle hboxes hattached habsent =>
    refine custody.worn hattached (by rw [hboxes]) (fun n b hb => ⟨b, hboxes ▸ hb, .refl b⟩) (fun j => ?_)
      fun j session hj => ?_
    · unfold afterAll
      cases he : happening.event? j with
      | none => rfl
      | some e => exact AttachPhase.box?_after (hallows j e he) (Happening.eq_of_event? he ▸ hidle)
    · unfold afterAll at hj
      cases he : happening.event? j with
      | none =>
        rw [he] at hj
        exact custody.absent j session hj
      | some e =>
        rw [he] at hj
        have heq := Happening.eq_of_event? he
        rcases AttachPhase.session?_after (hallows j e he) (heq ▸ hidle) hj with hj | rfl
        · exact custody.absent j session hj
        · exact habsent j session heq
  | opened i session =>
    exact custody.opened (hallows i _ (Event.event?_happening i (.accessed (.openBox session) _)))
  | abandoned i n =>
    obtain ⟨session, hi | hi⟩ := hallows i _ (Event.event?_happening i (.accessed (.abandonBox n) ())) <;>
    · refine custody.abandoned (?_ : _ = some session) ?_ <;>
      · rw [hi]
        rfl
  | attached i session n =>
    exact custody.handed held (hallows i _ (Event.event?_happening i (.accessed (.attach session n) ())))
  | detached session hu =>
    rw [AttachPhase.afterAll_of_use hu fun _ => rfl]
    cases hs : h.attached.get? session with
    | none =>
      rw [Hub.detach_of_not_attached h hs]
      exact custody
    | some n =>
      rw [Hub.detach_of_attached h hs]
      exact custody.withdrawn hs rfl rfl fun _ => ⟨rfl, rfl⟩
  | deposited session seed hu =>
    rw [AttachPhase.afterAll_of_use hu fun _ => rfl]
    rcases h.deposit_cases session seed with ⟨-, heq⟩ | ⟨n, b, hs, -, -, heq⟩ | ⟨n, e, hs, -, heq⟩ <;> rw [heq]
    · exact custody
    · exact custody.withdrawn hs rfl rfl fun _ => ⟨rfl, rfl⟩
    · exact custody.withdrawn hs rfl rfl fun _ => ⟨rfl, rfl⟩
  | stopped i => exact custody.stopped i
  | signed m =>
    rw [afterAll_none _ _ fun _ => rfl]
    exact custody.worn (h.attached_afterSigner m) (h.length_boxes_afterSigner m)
      (fun n b hb => h.worn_afterSigner m hb) (fun _ => rfl) custody.absent

end Custody

end PasskeyConsent

import PasskeyConsent.Proofs.Channel.Delivery
import PasskeyConsent.Proofs.Confirmation.Cancellation
import PasskeyConsent.Proofs.Confirmation.Supply
/-!
# The seed of a request that is not approved

A deposit puts the seed into its box and announces it afterwards; between the two the request can fail or be stopped,
and the rollback, which drops what is attached, finds the session attached no longer.  So a request that ends without a
confirmation leaves its seed with the worker just if it has put it into a box and not announced it, and otherwise every
take from its boxes fails (`unapproved_leaves_only_unannounced`).  `Handouts` ties the phases of all requests to the
boxes: nobody else fills the box that a request has attached, since nobody else has its id.
-/
namespace PasskeyConsent

open Observer Program Confirmation
open AttachPhase (porter)
open SeedPhase (dealer)

variable {α : Type} {done : List (Step α)} {h : Hub} {lanes : Nat → AttachPhase} {i j n : Nat} {session : String}

/-! ## Who has made a box -/

/-- The task has made the box, whose endpoint goes to the worker. -/
def MadeBy (ss : List (Step α)) (i n : Nat) : Prop :=
  ∃ st ∈ ss, ∃ session, st.happening = .accessed i (.openBox session) n

theorem Attaching.madeBy (h : Attaching done i session n) : MadeBy done i n := by
  obtain ⟨ss₁, opening, ss₂, rfl, hopening, -⟩ := h
  exact ⟨opening, List.mem_append_right _ List.mem_cons_self, session, hopening⟩

theorem AttachedBy.madeBy (h : AttachedBy done i session n) : MadeBy done i n := by
  obtain ⟨ss₁, handing, ss₂, rfl, -, hattaching⟩ := h
  obtain ⟨opening, hmem, hopening⟩ := hattaching.madeBy
  exact ⟨opening, List.mem_append_left _ hmem, hopening⟩

/-- Every box is made by one task. -/
theorem Chronicle.maker_unique (chronicle : Chronicle done h lanes) (hi : MadeBy done i n) (hj : MadeBy done j n) :
    i = j := by
  obtain ⟨opening, hopening, session, hi⟩ := hi
  obtain ⟨opening', hopening', session', hj⟩ := hj
  obtain ⟨ss₁, ss₂, rfl⟩ := List.append_of_mem hopening
  obtain ⟨ss₃, ss₄, heq⟩ := List.append_of_mem hopening'
  have hnodup := chronicle.opened ▸ List.nodup_range (n := h.boxes.length)
  have hn : opening.happening.opened? = some n := by rw [hi]; rfl
  have hn' : opening'.happening.opened? = some n := by rw [hj]; rfl
  obtain ⟨-, rfl, -⟩ :=
    eq_of_nodup_filterMap (f := fun st : Step α => st.happening.opened?) hn hn' heq hnodup
  cases hi.symm.trans hj
  rfl

/-! ## What the phases say of the boxes -/

theorem Happening.accessed_of_use? {happening : Happening} {a : Access} {x : a.Answer}
    (hu : happening.use? = some ⟨a, x⟩) (hown : happening ≠ .used a x) : ∃ i, happening = .accessed i a x := by
  cases happening with
  | accessed i b y =>
    cases hu
    exact ⟨i, rfl⟩
  | used b y =>
    cases hu
    exact absurd rfl hown
  | _ => cases hu

/-- **Who has put which seed where**, by the phases and the accounts of the requests. -/
structure Handouts (done : List (Step α)) (h : Hub) (phases : Nat → SeedPhase) (recs : Nat → Account) : Prop where
  attached : ∀ session n, h.attached.get? session = some n → ∃ i, phases i = .holding session n
  held : ∀ i session n, phases i = .holding session n → AttachedBy done i session n ∧ (recs i).Holds session
  given : ∀ i session n seed, (phases i).given? = some (session, n, seed) →
    AttachedBy done i session n ∧ (n, seed) ∈ fillingsOf done
  filled : ∀ n seed, (n, seed) ∈ fillingsOf done → ∃ i session, (phases i).given? = some (session, n, seed)
  recounts : ∀ i, (phases i).Recounts (historyOf i done)

/-- What becomes of the phase of one task. -/
theorem SeedPhase.afterAll_cases {phases : Nat → SeedPhase} {happening : Happening}
    (hdealt : ∀ i e, happening.event? i = some e → dealer.allows (phases i) e) (i : Nat) :
    happening.event? i = none ∧ dealer.afterAll phases happening i = phases i ∨
      ∃ e, happening.event? i = some e ∧ (phases i).Goes e (dealer.afterAll phases happening i) := by
  unfold afterAll
  cases he : happening.event? i with
  | none => exact .inl ⟨rfl, rfl⟩
  | some e => exact .inr ⟨e, rfl, SeedPhase.goes (hdealt i e he)⟩

namespace Handouts

variable {phases : Nat → SeedPhase} {recs : Nat → Account} {st : Step α} {host : Host}

theorem fresh (hfresh : h.IsFresh) : Handouts ([] : List (Step α)) h (fun _ => .idle) fun _ => {} where
  attached session n hn := by
    rw [hfresh.2] at hn
    cases hn
  held _ _ _ hi := nomatch hi
  given _ _ _ _ hi := nomatch hi
  filled _ _ hmem := absurd hmem List.not_mem_nil
  recounts _ := ⟨nofun, fun _ _ hmem => absurd hmem List.not_mem_nil, fun _ _ => List.not_mem_nil, nofun⟩

/-- A session is held for one box only. -/
theorem held_unique (handouts : Handouts done h phases recs) (tenure : Tenure host recs) {m : Nat}
    (hi : phases i = .holding session n) (hj : phases j = .holding session m) : n = m := by
  have hij : i = j := tenure.unique i j session (handouts.held i session n hi).2 (handouts.held j session m hj).2
  subst hij
  cases hi.symm.trans hj
  rfl

/-- **A deposit fills the box that its request has attached.** -/
theorem filling?_eq (handouts : Handouts done st.before.host.hub phases recs) (tenure : Tenure host recs)
    (hshift : st.before.host.hub.Shifts st.happening st.after.host.hub) {seed : SeedMaterial}
    (hi : phases i = .holding session n) (hnow : st.happening = .accessed i (.deposit session seed) (.ok ())) :
    st.filling? = some (n, seed) := by
  have hu : st.happening.use? = some ⟨.deposit session seed, .ok ()⟩ := by rw [hnow]; rfl
  have hdeposit := hshift.of_deposit hu
  obtain ⟨m, hm⟩ : ∃ m, st.before.host.hub.attached.get? session = some m := by
    rcases st.before.host.hub.deposit_cases session seed with ⟨-, heq⟩ | ⟨m, _, hm, -⟩ | ⟨m, _, hm, -⟩
    · cases hdeposit.symm.trans heq
    · exact ⟨m, hm⟩
    · exact ⟨m, hm⟩
  obtain ⟨j, hj⟩ := handouts.attached session m hm
  cases handouts.held_unique tenure hi hj
  unfold Step.filling?
  rw [hu]
  dsimp only
  rw [hm]
  rfl

section

variable (handouts : Handouts done st.before.host.hub phases recs)
  (hdealt : ∀ i e, st.happening.event? i = some e → dealer.allows (phases i) e)

include handouts hdealt

/-- What is attached is held, before a step and after it. -/
theorem attached_step {lanes' : Nat → AttachPhase} (custody : Custody st.before.host.hub lanes)
    (custody' : Custody st.after.host.hub lanes')
    (hshift : st.before.host.hub.Shifts st.happening st.after.host.hub)
    (hported : ∀ i e, st.happening.event? i = some e → porter.allows (lanes i) e)
    (hn : st.after.host.hub.attached.get? session = some n) :
    ∃ i, dealer.afterAll phases st.happening i = .holding session n := by
  rcases hshift.attached_from custody hported ((custody'.attached session n).1 hn) with hbefore | ⟨i, hnow⟩
  · obtain ⟨i, hi⟩ := handouts.attached session n ((custody.attached session n).2 hbefore)
    -- What is attached afterwards has not just been supplied.
    have hunsupplied (seed : SeedMaterial) (x : Except ChannelError Unit) :
        st.happening.event? i ≠ some (.accessed (.deposit session seed) x) := by
      intro he
      have hu : st.happening.use? = some ⟨.deposit session seed, x⟩ := by rw [Happening.eq_of_event? he]; rfl
      have hdeposit := hshift.of_deposit hu
      have hgone := st.before.host.hub.isAttached_deposit session session seed
      rw [hdeposit, if_pos rfl] at hgone
      exact absurd ((custody'.isAttached_iff session).2 ⟨n, (custody'.attached session n).1 hn⟩)
        (Bool.eq_false_iff.1 hgone)
    refine ⟨i, ?_⟩
    rcases SeedPhase.afterAll_cases hdealt i with ⟨-, heq⟩ | ⟨e, he, g⟩
    · exact heq.trans hi
    · generalize dealer.afterAll phases st.happening i = p' at g
      rw [hi] at g
      cases g with
      | fill => exact absurd he (hunsupplied _ _)
      | fail => exact absurd he (hunsupplied _ _)
      | rest => rfl
  · refine ⟨i, ?_⟩
    unfold afterAll
    rw [Happening.event?_of_eq (e := .accessed (.attach session n) ()) hnow]
    rfl

theorem held_step (chronicle : Chronicle done st.before.host.hub lanes)
    (hported : ∀ i e, st.happening.event? i = some e → porter.allows (lanes i) e)
    (hkept : ∀ i e, st.happening.event? i = some e → Account.keeper.allows (recs i) e)
    (hi : dealer.afterAll phases st.happening i = .holding session n) :
    AttachedBy (done ++ [st]) i session n ∧ (Account.keeper.afterAll recs st.happening i).Holds session := by
  rcases SeedPhase.afterAll_cases hdealt i with ⟨hnone, heq⟩ | ⟨e, he, g⟩
  · obtain ⟨hattached, hholds⟩ := handouts.held i session n (heq.symm.trans hi)
    refine ⟨hattached.append _, ?_⟩
    unfold afterAll
    rw [hnone]
    exact hholds
  · have hrecs : Account.keeper.afterAll recs st.happening i = Account.keeper.after (recs i) e := by
      unfold afterAll
      rw [he]
    rw [hrecs]
    rw [hi] at g
    generalize hp : phases i = p at g
    cases g with
    | attach =>
      have hhanding := Happening.eq_of_event? he
      have hacked : lanes i = .acked session n := hported i _ he
      have hholds : (recs i).Holds session := hkept i _ he
      exact ⟨⟨done, st, [], rfl, hhanding, chronicle.attaching i session n (by rw [hacked]; rfl)⟩,
        hholds.registered, hholds.unregistered⟩
    | rest _ _ _ _ _ hkeeps =>
      obtain ⟨hattached, hholds⟩ := handouts.held i session n hp
      exact ⟨hattached.append _, hholds.after (hkeeps session n rfl)⟩

theorem given_step {seed : SeedMaterial} (tenure : Tenure st.before.host recs)
    (hshift : st.before.host.hub.Shifts st.happening st.after.host.hub)
    (hi : (dealer.afterAll phases st.happening i).given? = some (session, n, seed)) :
    AttachedBy (done ++ [st]) i session n ∧ (n, seed) ∈ fillingsOf (done ++ [st]) := by
  have hbefore (hgiven : (phases i).given? = some (session, n, seed)) :
      AttachedBy (done ++ [st]) i session n ∧ (n, seed) ∈ fillingsOf (done ++ [st]) := by
    obtain ⟨hattached, hmem⟩ := handouts.given i session n seed hgiven
    refine ⟨hattached.append _, ?_⟩
    unfold fillingsOf
    rw [filterMap_snoc]
    exact List.mem_append_left _ hmem
  rcases SeedPhase.afterAll_cases hdealt i with ⟨-, heq⟩ | ⟨e, he, g⟩
  · exact hbefore (heq ▸ hi)
  · rcases g.given? with heq | ⟨session', n', seed', hholding, rfl, heq⟩
    · exact hbefore (heq ▸ hi)
    · cases heq.symm.trans hi
      refine ⟨(handouts.held i session n hholding).1.append _, ?_⟩
      unfold fillingsOf
      rw [filterMap_snoc, handouts.filling?_eq tenure hshift hholding (Happening.eq_of_event? he)]
      exact List.mem_append_right _ List.mem_cons_self

theorem filled_step {seed : SeedMaterial} (tenure : Tenure st.before.host recs)
    (hshift : st.before.host.hub.Shifts st.happening st.after.host.hub)
    (hown : ∀ session seed x, st.happening ≠ .used (.deposit session seed) x)
    (hmem : (n, seed) ∈ fillingsOf (done ++ [st])) :
    ∃ i session, (dealer.afterAll phases st.happening i).given? = some (session, n, seed) := by
  unfold fillingsOf at hmem
  rw [filterMap_snoc] at hmem
  rcases List.mem_append.1 hmem with hmem | hmem
  · obtain ⟨i, session, hi⟩ := handouts.filled n seed hmem
    refine ⟨i, session, ?_⟩
    rcases SeedPhase.afterAll_cases hdealt i with ⟨-, heq⟩ | ⟨e, he, g⟩
    · exact heq.symm ▸ hi
    · rcases g.given? with heq | ⟨session', n', seed', hholding, -, -⟩
      · exact heq.trans hi
      · rw [hholding] at hi
        cases hi
  · have hfilling := Option.mem_toList.1 hmem
    obtain ⟨session, hu, -⟩ := Step.filling?_eq_some hfilling
    obtain ⟨i, hnow⟩ := Happening.accessed_of_use? hu (hown session seed _)
    have he := Happening.event?_of_eq (e := .accessed (.deposit session seed) (.ok ())) hnow
    obtain ⟨m, hm⟩ := hdealt i _ he
    have hfilled := handouts.filling?_eq tenure hshift hm hnow
    cases hfilled.symm.trans hfilling
    refine ⟨i, session, ?_⟩
    unfold afterAll
    rw [he, hm]
    rfl

theorem recounts_step (i : Nat) : (dealer.afterAll phases st.happening i).Recounts (historyOf i (done ++ [st])) := by
  rcases SeedPhase.afterAll_cases hdealt i with ⟨hnone, heq⟩ | ⟨e, he, g⟩
  · rw [heq, historyOf_append, historyOf_cons_none hnone]
    exact (List.append_nil (historyOf i done)).symm ▸ handouts.recounts i
  · rw [historyOf_append, historyOf_cons_some he]
    exact (handouts.recounts i).step g

/-- **Every step of a run of requests goes on with their handouts.** -/
theorem step (tenure : Tenure st.before.host recs) {lanes' : Nat → AttachPhase} (custody : Custody st.before.host.hub lanes)
    (custody' : Custody st.after.host.hub lanes') (chronicle : Chronicle done st.before.host.hub lanes)
    (hshift : st.before.host.hub.Shifts st.happening st.after.host.hub)
    (hported : ∀ i e, st.happening.event? i = some e → porter.allows (lanes i) e)
    (hkept : ∀ i e, st.happening.event? i = some e → Account.keeper.allows (recs i) e)
    (hown : ∀ session seed x, st.happening ≠ .used (.deposit session seed) x) :
    Handouts (done ++ [st]) st.after.host.hub (dealer.afterAll phases st.happening)
      (Account.keeper.afterAll recs st.happening) where
  attached _ _ := handouts.attached_step hdealt custody custody' hshift hported
  held _ _ _ := handouts.held_step hdealt chronicle hported hkept
  given _ _ _ _ := handouts.given_step hdealt tenure hshift
  filled _ _ := handouts.filled_step hdealt tenure hshift hown
  recounts := handouts.recounts_step hdealt

end

end Handouts

theorem Wallet.Goes.outside_of_used {w w' : Wallet α} {m : Move α} {a : Access} {x : a.Answer}
    (g : w.Goes m (.used a x) w') : m = .outside a := by
  cases g with
  | outside => rfl

section

variable {w w' : Wallet (Except Error Unit)} {ss : List (Step (Except Error Unit))} {st : Step (Except Error Unit)}
  {setup : Setup} {raw : Json} {x : Except Error Unit}

/-- **In every run of requests** the phases tell who has put which seed where. -/
theorem Run.handouts (run : Run w ss w') (hempty : w.tasks = []) (hfresh : w.host.hub.IsFresh)
    (hordinary : ∀ st ∈ ss, st.move.IsOrdinary) (hspares : ∀ st ∈ ss, st.move.SparesHub) :
    Handouts ss w'.host.hub (fun i => dealer.seen .idle (historyOf i ss)) fun i => accountOf i ss := by
  refine run.along (I := fun done w => Handouts done w.host.hub (fun i => dealer.seen .idle (historyOf i done))
    fun i => accountOf i done) (.fresh hfresh) fun done st rest hss before g handouts => ?_
  have hst : st ∈ ss := hss ▸ List.mem_append_right _ List.mem_cons_self
  have hdone (st' : Step (Except Error Unit)) (hst' : st' ∈ done) : st' ∈ ss := hss ▸ List.mem_append_left _ hst'
  have huses (st' : Step (Except Error Unit)) (hst' : st' ∈ ss) : st'.move.UsesHub :=
    (hordinary st' hst').usesHub (hspares st' hst')
  have husesDone (st' : Step (Except Error Unit)) (hst' : st' ∈ done) : st'.move.UsesHub := huses st' (hdone st' hst')
  have hordinaryDone (st' : Step (Except Error Unit)) (hst' : st' ∈ done) : st'.move.IsOrdinary :=
    hordinary st' (hdone st' hst')
  obtain ⟨held, custody, chronicle⟩ := before.chronicle hempty hfresh husesDone
  have hshift := g.shifts (huses st hst)
  have hported (i : Nat) (e : Event) (he : st.happening.event? i = some e) :=
    (before.followsAll hempty (Run.starts_usesHub husesDone)).allows g he
  have hown (session : String) (seed : SeedMaterial) (x : Except ChannelError Unit) :
      st.happening ≠ .used (.deposit session seed) x := by
    intro hused
    rw [hused] at g
    have hmove := hspares st hst
    rw [g.outside_of_used] at hmove
    exact hmove rfl
  unfold accountOf
  rw [dealer.seen_snoc, Account.keeper.seen_snoc]
  exact handouts.step (fun i e he => (before.followsAll hempty (Run.starts_dealing hordinaryDone)).allows g he)
    (before.tenure hempty hordinaryDone) custody (custody.shifts held hshift hported) chronicle hshift hported
    (fun i e he => (before.followsAll hempty (Run.starts_ordinary hordinaryDone)).allows g he) hown

/-! ## What is left of a request -/

/-- The seed was put into a box, and no seed was announced. -/
def Unannounced (h : History) (seed : SeedMaterial) : Prop :=
  ∃ session, .accessed (.deposit session seed) (.ok ()) ∈ h ∧
    ∀ session, .waited (.send ⟨.seedReady session, none⟩) (.ok ()) ∉ h

/-- What the worker can get from the boxes that a request has made. -/
structure Leaves (i : Nat) (ss : List (Step α)) (h : Hub) : Prop where
  /-- A take yields only what was not announced. -/
  yields : ∀ n seed, MadeBy ss i n → (n, seed) ∈ yieldsOf ss → Unannounced (historyOf i ss) seed
  /-- Where there is nothing such, every take fails. -/
  fails : (∀ seed, ¬ Unannounced (historyOf i ss) seed) → ∀ n, MadeBy ss i n → ∃ e, (h.take n).1 = some (.error e)
  /-- What there is can be taken, unless the endpoint was used or dropped before. -/
  remains : ∀ seed, Unannounced (historyOf i ss) seed → ∃ n, MadeBy ss i n ∧
    ((∀ st ∈ ss, ¬ st.Takes n ∧ ¬ st.Drops n) → (h.take n).1 = some (.ok seed))

/-- **A request that is not approved leaves the seed that it has not announced, and no other**: in every run of requests
on one hub, wherever it fails or is stopped and whatever the worker does at its end, the worker gets a seed from its
boxes just if the request has put it into one and announced none. -/
theorem unapproved_leaves_only_unannounced (run : Run w ss w') (hempty : w.tasks = []) (hfresh : w.host.hub.IsFresh)
    (hordinary : ∀ st ∈ ss, st.move.IsOrdinary) (hspares : ∀ st ∈ ss, st.move.SparesHub) (hst : st ∈ ss)
    (hstart : st.move = .start (handle setup raw)) (hi : st.before.tasks.length = i) (hreturned : w'.result? i = some x)
    (hdeclined : ¬ (accountOf i ss).Confirmed) : Leaves i ss w'.host.hub := by
  have huses (st' : Step (Except Error Unit)) (hst' : st' ∈ ss) : st'.move.UsesHub :=
    (hordinary st' hst').usesHub (hspares st' hst')
  obtain ⟨-, custody, chronicle⟩ := run.chronicle hempty hfresh huses
  have handouts := run.handouts hempty hfresh hordinary hspares
  have hyields := (seeds_delivered run hempty hfresh huses).yields_filled
  obtain ⟨_, hout⟩ := run.result_since_start hst hstart hi ((handle_usesHub setup raw).meets {}) hreturned
  obtain ⟨_, hover⟩ := run.result_since_start hst hstart hi (SeedPhase.handle_meets setup raw) hreturned
  have recounts := handouts.recounts i
  -- It has not announced any seed.
  have hlapses : (dealer.seen .idle (historyOf i ss)).Lapses := by
    refine hover.resolve_right fun ⟨session, n, seed, hconfirmed⟩ => ?_
    obtain ⟨m, hmem, hm⟩ := recounts.confirmed session n seed hconfirmed
    exact hdeclined ⟨m, Account.mem_posted_of_called hmem {}, hm⟩
  have hsilent := recounts.silent hlapses.isSilent
  have hgiven {j n : Nat} {session : String} {seed : SeedMaterial}
      (hj : (dealer.seen .idle (historyOf j ss)).given? = some (session, n, seed)) : MadeBy ss j n :=
    (handouts.given j session n seed hj).1.madeBy
  have hunannounced {n : Nat} {seed : SeedMaterial} (hmade : MadeBy ss i n) (hmem : (n, seed) ∈ fillingsOf ss) :
      Unannounced (historyOf i ss) seed := by
    obtain ⟨j, session, hj⟩ := handouts.filled n seed hmem
    cases chronicle.maker_unique hmade (hgiven hj)
    exact ⟨session, recounts.given session n seed hj, hsilent⟩
  refine ⟨fun n seed hmade hyield => hunannounced hmade (hyields _ hyield), fun hnone n hmade => ?fails,
    fun seed ⟨session, hdeposit, _⟩ => ?remains⟩
  case fails =>
    obtain ⟨opening, hopening, session, hmaking⟩ := id hmade
    obtain ⟨o, b, hb, -, -⟩ := chronicle.made opening hopening i session n hmaking
    -- Nobody has the opening, and there is no seed.
    have hgone : b.opening = .gone := by
      cases hwho : b.opening with
      | gone => rfl
      | attaching j =>
        have hbox := (custody.attaching j b.session n).2 ⟨b, hb, rfl, hwho⟩
        cases chronicle.maker_unique hmade (chronicle.attaching j b.session n hbox).madeBy
        rw [hout] at hbox
        cases hbox
      | attached =>
        obtain ⟨j, hj⟩ := handouts.attached b.session n ((custody.attached b.session n).2 ⟨b, hb, rfl, hwho⟩)
        cases chronicle.maker_unique hmade (handouts.held j b.session n hj).1.madeBy
        exact absurd hj (hlapses.not_holding _ _)
    have hnoseed : b.seed = none := by
      cases hseed : b.seed with
      | none => rfl
      | some seed =>
        exact absurd (hunannounced hmade (chronicle.supplied n b seed hb hseed).filling) (hnone seed)
    by_cases hspent : b.IsSpent
    · exact ⟨_, congrArg Prod.fst (Hub.take_of_spent hb hspent)⟩
    · exact ⟨_, congrArg Prod.fst (Hub.take_of_gone hb hspent hnoseed hgone)⟩
  case remains =>
    obtain ⟨n, hn⟩ := recounts.deposited session seed hdeposit
    refine ⟨n, hgiven hn, fun huntouched => ?_⟩
    obtain ⟨b, hb, -, hseed⟩ := chronicle.filled (n, seed) (handouts.given i session n seed hn).2
    have hfree : ¬ b.IsSpent := fun hspent => by
      obtain ⟨st', hst', hspends⟩ := (chronicle.spent n).1 ⟨b, hb, hspent⟩
      exact hspends.elim (huntouched st' hst').1 (huntouched st' hst').2
    have hthere : b.seed = some seed := hseed.resolve_right hfree
    exact congrArg Prod.fst (Hub.take_of_seed hb hfree hthere)

end

/-! The worker acknowledges and closes its inbox, and the announcement of the seed fails. -/

/-- Nothing is started and nobody outside the tasks does anything. -/
def Move.isInner : Move α → Bool
  | .start _ | .outside _ => false
  | _ => true

theorem Move.ordinary_of_isInner {m : Move (Except Error Unit)} (h : m.isInner = true) :
    m.IsOrdinary ∧ m.SparesHub := by
  cases m with
  | start | outside => cases h
  | _ => exact ⟨trivial, trivial⟩

def supplySetup : Setup := { quietSetup with signer := some (.ofMillis 20) }

def unsentMessage : Json := (Response.declined "r" .signerUnavailable (redact Hub.unsent.message)).message

def failToAnnounce : List (Move (Except Error Unit)) :=
  let options : AssertionOptions := ⟨"", Digest.localChallenge "r" "a", ["c"], PrfSalts.forAccount "a"⟩
  List.replicate 3 (Move.advance 0) ++ [Move.answer 0 .preferences { uiMode := .skip }] ++
  List.replicate 4 (Move.advance 0) ++ [Move.answer 0 (.authenticators "a") (.ok [])] ++
  [Move.advance 0, Move.answer 0 (.currentPasskey "a" []) (.ok ⟨[⟨"c", 0, []⟩], none⟩)] ++
  [Move.advance 0, Move.answer 0 (.assertion options) (.ok secretCredential)] ++ List.replicate 6 (Move.advance 0) ++
  [Move.signer .receive, Move.signer (.acknowledge (.attachOk "r")), Move.signer .closeInbox] ++
  List.replicate 9 (Move.advance 0) ++ [Move.answer 0 (.post unsentMessage) (.ok ()), Move.advance 0]

/-- Whoever wants to follow the run can: the request ends with its decline posted, the one box on the hub is its own,
and the endpoint yields the seed. -/
theorem failToAnnounce_run : ∃ ss w', Run ⟨quietHost, []⟩ ss w' ∧
    movesOf ss = .start (handle supplySetup showEnvelope) :: failToAnnounce ∧ w'.result? 0 = some (.ok ()) ∧
    (accountOf 0 ss).posted = [unsentMessage] ∧ w'.host.hub.boxes.map (·.session) = ["r"] ∧
    (w'.host.hub.take 0).1 = some (.ok ⟨"AQ", some "Ag"⟩) := by
  have hended : ((Wallet.mk quietHost []).trace? (.start (handle supplySetup showEnvelope) :: failToAnnounce)).map
      (fun r => (r.2.result? 0, (accountOf 0 r.1).posted)) = some (some (.ok ()), [unsentMessage]) := by decide +kernel
  have hleft : ((Wallet.mk quietHost []).trace? (.start (handle supplySetup showEnvelope) :: failToAnnounce)).map
      (fun r => (r.2.host.hub.boxes.map (·.session), (r.2.host.hub.take 0).1)) =
      some (["r"], some (.ok ⟨"AQ", some "Ag"⟩)) := by decide +kernel
  obtain ⟨⟨ss, w'⟩, htrace, hended⟩ := Option.map_eq_some_iff.1 hended
  rw [htrace] at hleft
  simp only [Option.map_some, Option.some.injEq, Prod.mk.injEq] at hended hleft
  exact ⟨ss, w', .of_trace? htrace, Wallet.moves_of_trace? htrace, hended.1, hended.2, hleft⟩

theorem not_confirmed_of_unsent {s : Account} (h : s.posted = [unsentMessage]) : ¬ s.Confirmed := by
  rintro ⟨m, hm, hconfirmed⟩
  rw [h] at hm
  rw [List.mem_singleton.1 hm, unsentMessage, Response.message_confirmed] at hconfirmed
  cases hconfirmed

theorem unapproved_leaves_only_unannounced_failToAnnounce :
    ∃ ss w', Run ⟨quietHost, []⟩ ss w' ∧ movesOf ss = .start (handle supplySetup showEnvelope) :: failToAnnounce ∧
      w'.result? 0 = some (.ok ()) ∧ ¬ (accountOf 0 ss).Confirmed ∧ Leaves 0 ss w'.host.hub := by
  obtain ⟨ss, w', run, hmoves, hreturned, hposted, -⟩ := failToAnnounce_run
  have hinner : ∀ m ∈ failToAnnounce, m.IsOrdinary ∧ m.SparesHub := fun m hm =>
    Move.ordinary_of_isInner (List.all_eq_true.1 (rfl : failToAnnounce.all Move.isInner = true) m hm)
  have hall : ∀ st ∈ ss, st.move.IsOrdinary ∧ st.move.SparesHub :=
    forall_move hmoves (List.forall_mem_cons.2 ⟨⟨.inl ⟨supplySetup, showEnvelope, rfl⟩, trivial⟩, hinner⟩)
  obtain ⟨st, rest, rfl, hstart, -⟩ := List.map_eq_cons_iff.1 hmoves
  have hcount : st.before.tasks.length = 0 := by
    cases run with
    | cons => rfl
  have hdeclined := not_confirmed_of_unsent hposted
  exact ⟨_, w', run, hmoves, hreturned, hdeclined,
    unapproved_leaves_only_unannounced run rfl ⟨rfl, rfl⟩ (fun st hst => (hall st hst).1)
      (fun st hst => (hall st hst).2)
      List.mem_cons_self hstart hcount hreturned hdeclined⟩

/-- The endpoint of a request that was declined yields its seed. -/
theorem declined_yields_seed :
    ∃ ss w', Run ⟨quietHost, []⟩ ss w' ∧ movesOf ss = .start (handle supplySetup showEnvelope) :: failToAnnounce ∧
      w'.result? 0 = some (.ok ()) ∧ ¬ (accountOf 0 ss).Confirmed ∧ w'.host.hub.boxes.map (·.session) = ["r"] ∧
      (w'.host.hub.take 0).1 = some (.ok ⟨"AQ", some "Ag"⟩) := by
  obtain ⟨ss, w', run, hmoves, hreturned, hposted, hboxes, htake⟩ := failToAnnounce_run
  exact ⟨ss, w', run, hmoves, hreturned, not_confirmed_of_unsent hposted, hboxes, htake⟩

end PasskeyConsent

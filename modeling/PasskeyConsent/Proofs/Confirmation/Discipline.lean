import PasskeyConsent.Proofs.Concurrency.Composition
import PasskeyConsent.Proofs.Confirmation.Answer
import PasskeyConsent.Proofs.Confirmation.Onward
import PasskeyConsent.Proofs.Nonce.Ownership
/-!
# Requests release what they hold

A request releases numbers in its rollback only: those that it was given, each once.  So requests are disciplined
clients of a sequencer, as long as nobody else releases anything (`Run.disciplined`).
-/
namespace PasskeyConsent

open Observer Program Confirmation

variable {α : Type}

/-- The effects that release numbers. -/
def Effect.releases : Effect → Bool
  | .access (.release _) | .access (.releaseText _) | .access .releaseAll => true
  | _ => false

theorem Effect.not_releases_of_topic {e : Effect} (h : e.topic ≠ .release) : e.releases = false := by
  cases e with
  | access a => cases a <;> first | rfl | exact absurd rfl h
  | _ => rfl

theorem Effect.not_releases_of_isOnward {e : Effect} (h : e.isOnward = true) : e.releases = false := by
  cases e with
  | access a => cases a <;> first | rfl | cases h
  | _ => rfl

/-- A program that releases nothing. -/
abbrev Program.KeepsNumbers (p : Program α) : Prop := p.Only (fun e => e.releases = false) anyResult

theorem Program.KeepsTo.keepsNumbers {topics : List Topic} {R : α → Prop} {p : Program α} (h : p.KeepsTo topics R)
    (ht : Topic.release ∉ topics) : p.KeepsNumbers :=
  Only.mono h (fun _ he => Effect.not_releases_of_topic fun heq => ht (heq ▸ List.contains_iff_mem.1 he))
    fun _ _ => trivial

namespace Account

/-- The one who sees to it that only numbers are released that were reserved and are not released yet. -/
def steward : Observer Account where
  after := after
  allows
    | s, .accessed (.release n) _ => n ∈ s.reserved ∧ n ∉ s.released
    | _, .accessed (.releaseText _) _ | _, .accessed .releaseAll _ => False
    | _, _ => True

theorem steward_allows {e : Effect} {event : Event} (he : e.releases = false) (hevent : e.Yields event) (s : Account) :
    steward.allows s event := by
  cases hevent with
  | access a x => cases a <;> first | exact absurd he Bool.true_ne_false | trivial
  | watched hu => cases hu <;> trivial
  | _ => trivial

variable {setup : Setup} {id : String} {own : Holdings} {s : Account}

theorem steward_meets {p : Program α} (hp : p.KeepsNumbers) (own : Holdings) (s : Account) :
    steward.Meets anywhere p (fun _ _ _ => True) own s :=
  meets_of_allowed (hp.mono (fun _ he _ hevent s => steward_allows he hevent s) fun _ hr => hr) own s

/-- Different numbers that are held can all be released. -/
theorem releaseAll_steward : ∀ (ns : List Nat) {s : Account}, ns.Nodup → (∀ n ∈ ns, n ∈ s.reserved ∧ n ∉ s.released) →
    steward.Meets anywhere (releaseAll ns) (fun _ _ _ => True) own s
  | [], _, _, _ => trivial
  | n :: ns, s, hnodup, hheld => by
    obtain ⟨hnot, hrest⟩ := List.nodup_cons.1 hnodup
    refine meets_access fun _ _ => ⟨hheld n List.mem_cons_self, releaseAll_steward ns hrest fun m hm => ?_⟩
    obtain ⟨hreserved, hreleased⟩ := hheld m (List.mem_cons_of_mem n hm)
    refine ⟨hreserved, fun hmem => ?_⟩
    rcases List.mem_append.1 hmem with hmem | hmem
    · exact hreleased hmem
    · exact hnot (List.mem_singleton.1 hmem ▸ hm)

theorem rollBack_steward (hnodup : own.nonces.Nodup) (hheld : ∀ n ∈ own.nonces, n ∈ s.reserved ∧ n ∉ s.released) :
    steward.Meets anywhere (rollBack setup own) (fun _ _ _ => True) own s := by
  have hclose : (closeSurface own.surface).KeepsNumbers := (keepsTo_closeSurface own.surface).keepsNumbers (by decide)
  refine meets_bind ((releaseAll_steward own.nonces hnodup hheld).imp fun _ _ _ _ => steward_meets ?_ _ _)
  dsimp only
  split
  · split
    · exact Only.access rfl fun _ => hclose
    · exact hclose
  · refine Only.call rfl fun _ => Only.access rfl fun _ => ?_
    split
    · exact Only.access rfl fun _ => hclose
    · exact hclose

/-- A request that has taken numbers and has released none yet releases them when it is rolled back. -/
theorem conclude_steward {outcome : Except Stop Response} (h : Ends (Approves id) (Ended id) outcome own s) :
    steward.Meets anywhere (conclude setup id outcome) (fun _ _ _ => True) own s := by
  have hback {missed : Bool} (tallies : Tallies id missed own s) {f : Unit → Program (Except Error Unit)}
      (hf : (f ()).KeepsNumbers) : steward.Meets anywhere (rollBack setup own >>= f) (fun _ _ _ => True) own s := by
    have hnumbers : ∀ n ∈ own.nonces, n ∈ s.reserved ∧ n ∉ s.released := fun n hn =>
      ⟨tallies.reserved ▸ hn, tallies.released ▸ List.not_mem_nil⟩
    exact meets_bind ((rollBack_steward tallies.nodup hnumbers).imp fun _ _ _ _ => steward_meets hf _ _)
  have hpost (r : Response) : (post r).KeepsNumbers := (keepsTo_post r).keepsNumbers (by decide)
  refine meets_conclude_of_parts (fun _ _ _ => ⟨trivial, rfl⟩) (fun _ _ => ⟨trivial, rfl⟩) ?approved ?declined ?fatal
  case approved =>
    rintro r rfl
    exact steward_meets (Only.bind ((keepsTo_closeSurface own.surface).keepsNumbers (by decide)) fun _ _ => hpost r) own s
  case declined =>
    rintro code message rfl
    exact hback h (hpost _)
  case fatal =>
    rintro e rfl
    exact hback h.1 (f := fun _ => return .error e) trivial

theorem handleRequest_steward (r : Request) :
    steward.Meets anywhere (handleRequest setup r) (fun _ _ _ => True) {} {} := by
  have hrun (policy : ConfirmationPolicy) : steward.Meets (Tallies r.id false) (run setup r policy).run
      (Ends (Approves r.id) (Ended r.id)) {} { registered := [(r.id, true)] } := by
    have hafter : steward.after = keeper.after := rfl
    have hgrants : (run setup r policy).run.Only
        (fun e => ∀ event, e.Yields event → ∀ s, keeper.allows s event → steward.allows s event) anyResult :=
      Only.mono (run_goesOn setup r policy) (fun _ he _ hevent s _ =>
        steward_allows (Effect.not_releases_of_isOnward he) hevent s) fun _ _ => trivial
    exact (run_keeps (.start r.id) policy).transfer hafter hgrants
  refine meets_handleRequest (fun _ _ _ _ => ⟨trivial, rfl⟩) (fun _ => ⟨⟨trivial, rfl⟩, fun _ => ⟨trivial, rfl⟩⟩)
    (fun _ _ => ⟨trivial, rfl⟩) (fun _ => trivial) trivial hrun (fun _ _ h => ⟨trivial, h⟩) (.start r.id)
    fun outcome own s h => ?_
  exact (conclude_steward h).imp fun _ _ _ _ => ⟨trivial, trivial⟩

/-- **A request releases what it has reserved and has not released yet**, and nothing else, wherever it is stopped. -/
theorem handle_steward (setup : Setup) (raw : Json) :
    steward.Meets anywhere (handle setup raw) (fun _ _ _ => True) {} {} := by
  unfold handle
  split
  · exact steward_meets ((keepsTo_post _).keepsNumbers (by decide)) _ _
  · exact handleRequest_steward _

theorem mem_reserved_after {s : Account} {e : Event} {n : Nat} (h : n ∈ (s.after e).reserved) :
    n ∈ s.reserved ∨ ∃ count picked, e = .accessed (.reserve count) (.ok picked) ∧ n ∈ picked := by
  unfold after at h
  split at h
  case h_3 =>
    rcases List.mem_append.1 h with h | h
    · exact .inl h
    · exact .inr ⟨_, _, rfl, h⟩
  all_goals first | exact .inl h | (split at h <;> exact .inl h)

theorem mem_released_of_mem (e : Event) {n : Nat} (h : n ∈ s.released) : n ∈ (s.after e).released := by
  unfold after
  split
  case h_4 => exact List.mem_append_left _ h
  all_goals first | exact h | (split <;> exact h)

/-- What a request has released stands in its account. -/
theorem mem_released_of_event {h : History} {n : Nat} (hevent : .accessed (.release n) () ∈ h) :
    n ∈ (steward.seen s h).released := by
  obtain ⟨h₁, h₂, rfl⟩ := List.append_of_mem hevent
  have hkept : ∀ s e, n ∈ s.released → n ∈ (steward.after s e).released := fun _ e hn => mem_released_of_mem e hn
  have hnow : n ∈ (steward.after (steward.seen s h₁) (.accessed (.release n) ())).released :=
    List.mem_append_right _ (List.mem_singleton_self n)
  rw [seen_append, seen_cons]
  exact seen_keeps hkept hnow h₂

end Account

/-! ## Along a run -/

/-- What can happen beside requests: nobody else releases numbers. -/
def Move.IsThrifty : Move (Except Error Unit) → Prop
  | .start p => (∃ setup raw, p = handle setup raw) ∨ p.KeepsNumbers
  | .outside a => Effect.releases (.access a) = false
  | _ => True

variable {w w' : Wallet (Except Error Unit)} {ss ss₁ ss₂ : List (Step (Except Error Unit))}
  {st : Step (Except Error Unit)} {i n : Nat}

theorem Happening.eq_of_dealing? {h : Happening} {a : Access} {x : a.Answer} (hd : h.dealing? = some ⟨some i, a, x⟩) :
    h = .accessed i a x := by
  cases h <;> cases hd
  rfl

theorem Run.stewarded (run : Run w ss w') (hempty : w.tasks = []) (hthrifty : ∀ st ∈ ss, st.move.IsThrifty)
    (hss : ss = ss₁ ++ st :: ss₂) {e : Event} (he : st.happening.event? i = some e) :
    Account.steward.allows (accountOf i ss₁) e := by
  subst hss
  have hstart : Run.Starts Account.steward (fun _ _ _ => True) {} (ss₁ ++ st :: ss₂) := by
    intro st' hst' p hp
    have hmove := hthrifty st' hst'
    rw [hp] at hmove
    rcases hmove with ⟨setup, raw, rfl⟩ | hkeeps
    · exact Account.handle_steward setup raw
    · exact Account.steward_meets hkeeps {} {}
  exact run.allowedAll hempty hstart he

/-- **A number that is in a task's account is held by the task.** -/
theorem Run.heldBy (run : Run w ss w') (hempty : w.tasks = []) (hthrifty : ∀ st ∈ ss, st.move.IsThrifty)
    (hreserved : n ∈ (accountOf i ss).reserved) (hreleased : n ∉ (accountOf i ss).released) :
    HeldBy (dealings ss) (some i) n := by
  obtain ⟨_, hmem, count, picked, rfl, hn⟩ :=
    (mem_seen (fun _ _ _ => Account.mem_reserved_after) hreserved).resolve_left List.not_mem_nil
  obtain ⟨h₁, h₂, hhistory⟩ := List.append_of_mem hmem
  obtain ⟨before, reserving, after, rfl, -, hevent, -⟩ := Run.step_of_event hhistory
  have hreserving := Happening.eq_of_event? hevent
  have hdealing : reserving.happening.dealing? = some ⟨some i, .reserve count, .ok picked⟩ := by rw [hreserving]; rfl
  refine ⟨dealings before, _, dealings after, dealings_append_cons _ _ hdealing, hn, fun d hd hclient hreleases => ?_⟩
  obtain ⟨client, a, x⟩ := d
  obtain rfl : client = some i := hclient
  obtain ⟨st, hst, hdealt⟩ := List.mem_filterMap.1 hd
  obtain ⟨between, later, rfl⟩ := List.append_of_mem hst
  have hss : before ++ reserving :: (between ++ st :: later) = (before ++ reserving :: between) ++ st :: later := by simp
  have he : st.happening.event? i = some (.accessed a x) := Happening.event?_of_eq (Happening.eq_of_dealing? hdealt)
  have hallowed := run.stewarded hempty hthrifty hss he
  cases a with
  | release m =>
    cases hreleases
    refine hreleased (Account.mem_released_of_event (s := {}) (List.mem_filterMap.2 ⟨st, by simp, he⟩))
  | releaseText text => exact hallowed
  | releaseAll => exact hallowed
  | _ => exact hreleases

/-- **Requests are disciplined clients**: in every run in which nobody else releases numbers, whoever binds the sequencer
and whatever is marked, each is released only by the one who holds it. -/
theorem Run.disciplined (run : Run w ss w') (hempty : w.tasks = []) (hthrifty : ∀ st ∈ ss, st.move.IsThrifty) :
    Disciplined (dealings ss) := by
  intro ds₁ d ds₂ hdealings n hn
  obtain ⟨before, st, after, rfl, rfl, hd, -⟩ := exists_of_filterMap_eq hdealings
  have hgoes := run.goes (List.mem_append_right before List.mem_cons_self)
  have hmove := hthrifty st (List.mem_append_right before List.mem_cons_self)
  obtain ⟨first, -, -⟩ := run.cut
  have hbefore : ∀ st ∈ before, st.move.IsThrifty := fun st hst => hthrifty st (List.mem_append_left _ hst)
  have hallows {i : Nat} {e : Event} (he : st.happening.event? i = some e) :=
    run.stewarded hempty hthrifty rfl he
  generalize st.move = m, st.happening = happening, st.after = w₂ at hgoes hmove hd hallows
  cases hgoes with
  | @access i t a next ht hp =>
    cases hd
    have hallowed := hallows (Happening.event?_of_eq (e := .accessed a _) rfl)
    cases a with
    | release m =>
      cases hn
      exact first.heldBy hempty hbefore hallowed.1 hallowed.2
    | releaseText text => exact hallowed.elim
    | releaseAll => exact hallowed.elim
    | _ => exact hn.elim
  | outside a =>
    cases hd
    cases a <;> first | exact hn.elim | cases hmove
  | _ => cases hd

end PasskeyConsent

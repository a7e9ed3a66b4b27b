import PasskeyConsent.Proofs.Confirmation.Settlement
/-!
# Requests give back the use that they took

A request gives back the use of a warm session in its rollback only: the one that it took, once, and not if it is
approved (`handle_bursar`).  So in every run a task that has handed a confirmation to the sink has given nothing back,
and any other has given back one use at most (`Run.frugal`).
-/
namespace PasskeyConsent

open Observer Program Confirmation

variable {α : Type}

/-- The effects by which the use of a session can be settled: it is given back, or the request is answered. -/
def Effect.settles : Effect → Bool
  | .access (.restore _) | .suspend (.call (.post _)) | .watched .. => true
  | _ => false

theorem Effect.not_settles_of_isOnward {e : Effect} (h : e.isOnward = true) : e.settles = false := by
  cases e with
  | access a => cases a <;> first | rfl | cases h
  | suspend u =>
    cases u with
    | call c => cases c <;> first | rfl | cases h
    | wait w => rfl
  | watched => cases h

theorem Effect.not_settles_of_topic {e : Effect} (h : e.topic ≠ .session ∧ e.topic ≠ .answer ∧ e.topic ≠ .watched) :
    e.settles = false := by
  cases e with
  | access a => cases a <;> first | rfl | exact absurd rfl h.1
  | suspend u =>
    cases u with
    | call c => cases c <;> first | rfl | exact absurd rfl h.2.1
    | wait w => rfl
  | watched => exact absurd rfl h.2.2

/-- A program that neither gives a use back nor answers. -/
abbrev Program.KeepsUses (p : Program α) : Prop := p.Only (fun e => e.settles = false) anyResult

theorem Program.KeepsTo.keepsUses {topics : List Topic} {R : α → Prop} {p : Program α} (h : p.KeepsTo topics R)
    (ht : Topic.session ∉ topics ∧ Topic.answer ∉ topics ∧ Topic.watched ∉ topics) : p.KeepsUses := by
  refine Only.mono h (fun e he => Effect.not_settles_of_topic ?_) fun _ _ => trivial
  have hmem := List.contains_iff_mem.1 he
  exact ⟨fun heq => ht.1 (heq ▸ hmem), fun heq => ht.2.1 (heq ▸ hmem), fun heq => ht.2.2 (heq ▸ hmem)⟩

namespace Account

/-- The one who sees to it that a use is given back by the one who took it, once, and not if it was approved. -/
def bursar : Observer Account where
  after := after
  allows
    | s, .accessed (.restore session) _ =>
      s.restored = [] ∧ ¬ s.Confirmed ∧ s.consumed.map (·.1.sessionId) = [session]
    | s, .called (.post m) => m.get? "confirmed" = some (.bool true) → s.restored = []
    | _, _ => True

theorem bursar_allows {e : Effect} {event : Event} (he : e.settles = false) (hevent : e.Yields event) (s : Account) :
    bursar.allows s event := by
  cases hevent with
  | access a x => cases a <;> first | exact absurd he Bool.true_ne_false | trivial
  | call c => cases c <;> first | exact absurd he Bool.true_ne_false | trivial
  | watched => cases he
  | _ => trivial

variable {setup : Setup} {id : String} {own : Holdings} {s : Account}

theorem bursar_meets {p : Program α} (hp : p.KeepsUses) (own : Holdings) (s : Account) :
    bursar.Meets anywhere p (fun _ _ _ => True) own s :=
  meets_of_allowed (hp.mono (fun _ he _ hevent s => bursar_allows he hevent s) fun _ hr => hr) own s

/-- What the keeper says of a program that keeps its uses, the bursar says too. -/
theorem bursar_of_keeper {stop : Holdings → Account → Prop} {post : α → Holdings → Account → Prop} {p : Program α}
    (hp : p.KeepsUses) (h : keeper.Meets stop p post own s) : bursar.Meets stop p post own s := by
  have hafter : bursar.after = keeper.after := rfl
  exact h.transfer hafter (Only.mono hp (fun _ he _ hevent s _ => bursar_allows he hevent s) fun _ hr => hr)

theorem post_bursar {r : Response} (h : r.confirmed = true → s.restored = []) :
    bursar.Meets anywhere (post r) (fun _ _ _ => True) own s := by
  refine meets_call ⟨trivial, fun hm => h ?_, trivial, fun x => ⟨trivial, ?_⟩⟩
  · change r.message.get? "confirmed" = _ at hm
    rw [Response.message_confirmed] at hm
    cases hconfirmed : r.confirmed with
    | true => rfl
    | false => rw [hconfirmed] at hm; cases hm
  · cases x <;> trivial

/-- The rollback gives back the one use that was taken. -/
theorem rollBack_bursar {missed : Bool} (h : Tallies id missed own s) :
    bursar.Meets anywhere (rollBack setup own) (fun _ _ _ => True) own s := by
  have hrelease : (releaseAll own.nonces).KeepsUses := (keepsTo_releaseAll own.nonces).keepsUses (by decide)
  have hclose : (closeSurface own.surface).KeepsUses := (keepsTo_closeSurface own.surface).keepsUses (by decide)
  refine meets_bind ((bursar_of_keeper hrelease (releaseAll_meets own.nonces)).imp ?_)
  rintro _ own _ ⟨rfl, rfl⟩
  dsimp only
  split
  · refine bursar_meets ?_ _ _
    split
    · exact Only.access rfl fun _ => hclose
    · exact hclose
  · rename_i g account hwarm
    have hone : s.consumed.map (·.1.sessionId) = [g.sessionId] := by rw [h.consumed, hwarm]; rfl
    refine meets_call ⟨trivial, trivial, trivial, fun _ => ⟨trivial, ?_⟩⟩
    refine meets_access fun _ _ => ⟨⟨h.restored, not_confirmed_of_posted_nil h.posted, hone⟩, bursar_meets ?_ _ _⟩
    split
    · exact Only.access rfl fun _ => hclose
    · exact hclose

theorem conclude_bursar {outcome : Except Stop Response}
    (h : Ends (fun r own s => Approves id r own s ∧ s.Withheld) (Ended id) outcome own s) :
    bursar.Meets anywhere (conclude setup id outcome) (fun _ _ _ => True) own s := by
  refine meets_conclude_of_parts (fun _ _ _ => ⟨trivial, rfl⟩) (fun _ _ => ⟨trivial, rfl⟩) ?approved ?declined ?fatal
  case approved =>
    rintro r rfl
    obtain ⟨⟨hrunning, -, -⟩, hwithheld⟩ := h
    have hclose : (closeSurface own.surface).KeepsUses := (keepsTo_closeSurface own.surface).keepsUses (by decide)
    refine meets_bind ((bursar_of_keeper hclose (closeSurface_meets hrunning.returning own.surface)).imp ?_)
    rintro _ _ _ ⟨rfl, rfl⟩
    exact post_bursar fun _ => hwithheld.restored
  case declined =>
    rintro code message rfl
    exact meets_bind ((rollBack_bursar h).imp fun _ _ _ _ => post_bursar fun hconfirmed => nomatch hconfirmed)
  case fatal =>
    rintro e rfl
    exact meets_bind ((rollBack_bursar h.1).imp fun _ _ _ _ => trivial)

theorem handleRequest_bursar (r : Request) :
    bursar.Meets anywhere (handleRequest setup r) (fun _ _ _ => True) {} {} := by
  have hrun (policy : ConfirmationPolicy) : bursar.Meets (Tallies r.id false) (run setup r policy).run
      (Ends (fun r' own s => Approves r.id r' own s ∧ s.Withheld) (Ended r.id)) {}
      { registered := [(r.id, true)] } :=
    bursar_of_keeper (Only.mono (run_goesOn setup r policy) (fun _ he => Effect.not_settles_of_isOnward he)
      fun _ _ => trivial) (run_withholds r policy)
  refine meets_handleRequest (fun _ _ _ _ => ⟨trivial, rfl⟩) (fun _ => ⟨⟨trivial, rfl⟩, fun _ => ⟨trivial, rfl⟩⟩)
    (fun _ _ => ⟨trivial, rfl⟩) (fun _ => trivial) trivial hrun (fun _ _ h => ⟨trivial, h⟩) (.start r.id)
    fun outcome own s h => ?_
  exact (conclude_bursar h).imp fun _ _ _ _ => ⟨trivial, trivial⟩

/-- **A request gives back the use that it took**, once and not if it is approved, wherever it is stopped. -/
theorem handle_bursar (setup : Setup) (raw : Json) :
    bursar.Meets anywhere (handle setup raw) (fun _ _ _ => True) {} {} := by
  unfold handle
  split
  · exact post_bursar fun hconfirmed => nomatch hconfirmed
  · exact handleRequest_bursar _

/-- One who has given back at most one use, and none after handing a confirmation to the sink. -/
structure Frugal (s : Account) : Prop where
  once : s.restored.length ≤ 1
  withheld : s.Confirmed → s.restored = []

theorem Frugal.after {e : Event} (h : s.Frugal) (he : bursar.allows s e) : (s.after e).Frugal := by
  unfold Account.after
  split
  case h_6 =>
    obtain ⟨hnone, hnot, -⟩ := he
    refine ⟨?_, fun hconfirmed => absurd hconfirmed hnot⟩
    show (s.restored ++ [_]).length ≤ 1
    rw [hnone]
    exact Nat.le_refl 1
  case h_15 =>
    refine ⟨h.once, ?_⟩
    rintro ⟨m, hm, hconfirmed⟩
    rcases List.mem_append.1 hm with hm | hm
    · exact h.withheld ⟨m, hm, hconfirmed⟩
    · rw [List.mem_singleton.1 hm] at hconfirmed
      exact he hconfirmed
  all_goals first | exact ⟨h.once, h.withheld⟩ | (split <;> exact ⟨h.once, h.withheld⟩)

end Account

/-! ## What a task takes and gives back -/

/-- The use of a session that the event takes. -/
def Event.taken? : Event → Option (WarmSessionGrant × String)
  | .accessed (.consume _ account) (.ok g) => some (g, account)
  | _ => none

/-- The session whose use the event gives back. -/
def Event.returned? : Event → Option String
  | .accessed (.restore session) _ => some session
  | _ => none

theorem Account.after_consumed (s : Account) (e : Event) : (s.after e).consumed = s.consumed ++ e.taken?.toList := by
  cases e with
  | accessed a x =>
    cases a with
    | reserve count | consume session account => cases x <;> simp [after, Event.taken?, Event.missesPrf]
    | _ => simp [after, Event.taken?, attach, detach, Event.missesPrf]
  | _ =>
    show _ = s.consumed ++ []
    rw [List.append_nil]
    unfold after
    split
    all_goals first | rfl | contradiction | (split <;> rfl)

theorem Account.after_restored (s : Account) (e : Event) : (s.after e).restored = s.restored ++ e.returned?.toList := by
  cases e with
  | accessed a x =>
    cases a with
    | reserve count | consume session account => cases x <;> simp [after, Event.returned?, Event.missesPrf]
    | _ => simp [after, Event.returned?, attach, detach, Event.missesPrf]
  | _ =>
    show _ = s.restored ++ []
    rw [List.append_nil]
    unfold after
    split
    all_goals first | rfl | contradiction | (split <;> rfl)

/-- What an observer only adds to is picked out of the history. -/
theorem Observer.seen_collects {σ β : Type} {o : Observer σ} {f : σ → List β} {g : Event → Option β}
    (h : ∀ s e, f (o.after s e) = f s ++ (g e).toList) (s : σ) (es : History) :
    f (o.seen s es) = f s ++ es.filterMap g := by
  induction es generalizing s with
  | nil => exact (List.append_nil _).symm
  | cons e es ih =>
    rw [seen_cons, ih, h, List.append_assoc]
    cases hg : g e with
    | none => rw [List.filterMap_cons_none hg]; rfl
    | some b => rw [List.filterMap_cons_some hg]; rfl

theorem accountOf_consumed (i : Nat) (ss : List (Step α)) :
    (accountOf i ss).consumed = (historyOf i ss).filterMap Event.taken? :=
  Observer.seen_collects (o := Account.keeper) (f := Account.consumed) Account.after_consumed {} _

theorem accountOf_restored (i : Nat) (ss : List (Step α)) :
    (accountOf i ss).restored = (historyOf i ss).filterMap Event.returned? :=
  Observer.seen_collects (o := Account.keeper) (f := Account.restored) Account.after_restored {} _

/-! ## Along a run -/

variable {w w' : Wallet (Except Error Unit)} {ss ss₁ ss₂ : List (Step (Except Error Unit))}
  {st : Step (Except Error Unit)} {i : Nat}

theorem Program.IsOrdinary.bursar {p : Program (Except Error Unit)} (h : p.IsOrdinary) :
    Account.bursar.Meets anywhere p (fun _ _ _ => True) {} {} := by
  rcases h with ⟨setup, raw, rfl⟩ | h
  · exact Account.handle_bursar setup raw
  · exact Account.bursar_meets (h.keepsUses (by decide)) {} {}

/-- All that is started in a run is ordinary: requests, and work that has nothing to do with sessions. -/
abbrev StartsOrdinary (ss : List (Step (Except Error Unit))) : Prop := ∀ st ∈ ss, ∀ p, st.move = .start p → p.IsOrdinary

theorem Run.bursar_allows (run : Run w ss w') (hempty : w.tasks = []) (hstarts : StartsOrdinary ss)
    (hss : ss = ss₁ ++ st :: ss₂) {e : Event} (he : st.happening.event? i = some e) :
    Account.bursar.allows (accountOf i ss₁) e := by
  subst hss
  exact run.allowedAll hempty (fun st hst p hp => (hstarts st hst p hp).bursar) he

/-- **Every task gives back one use at most**, and none if it has handed a confirmation to the sink. -/
theorem Run.frugal (run : Run w ss w') (hempty : w.tasks = []) (hstarts : StartsOrdinary ss) (i : Nat) :
    (accountOf i ss).Frugal := by
  have hinit : ∀ _ : Nat, Account.Frugal {} := fun _ => ⟨Nat.zero_le 1, fun _ => rfl⟩
  refine run.invariant (o := Account.bursar) (I := fun _ _ recs => ∀ i, (recs i).Frugal) hempty
    (fun st hst p hp => (hstarts st hst p hp).bursar) hinit (fun _ st _ recs _ hallows hall i => ?_) i
  unfold Observer.afterAll
  split
  · rename_i e he
    exact (hall i).after (hallows i e he)
  · exact hall i

end PasskeyConsent

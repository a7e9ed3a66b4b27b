import PasskeyConsent.Proofs.Channel.Hub
import PasskeyConsent.Proofs.Confirmation.Conclusion
/-!
# Who has an id, and who has a session

Of all the requests that run in a wallet at most one has an id (`Tenure.unique`), and a session that it has attached is
attached no longer once it has supplied or detached it (`Tenure.attached`), whatever the others do.
-/
namespace PasskeyConsent

open Observer

variable {α : Type}

/-! ## What the host keeps of ids and sessions -/

/-- Two hosts agree on which ids run and which sessions are attached. -/
structure Host.SameTenure (h h' : Host) : Prop where
  pending : ∀ id, h'.pending.contains id = h.pending.contains id
  attached : ∀ session, h'.hub.isAttached session = h.hub.isAttached session

theorem Host.SameTenure.of_eq {h h' : Host} (hpending : h'.pending = h.pending)
    (hattached : h'.hub.attached = h.hub.attached) : h.SameTenure h' where
  pending id := by rw [hpending]
  attached session := by unfold Hub.isAttached; rw [hattached]

/-- The accesses that change which ids run or which sessions are attached. -/
def Access.movesTenure : Access → Bool
  | .register _ | .unregister _ | .attach .. | .detach _ | .deposit .. => true
  | _ => false

theorem Host.access_sameTenure (h : Host) (task : Nat) (own : Holdings) {a : Access} (ha : a.movesTenure = false) :
    h.SameTenure (h.access task own a).2.1 := by
  have change := h.access_changes task own a
  generalize (h.access task own a).2.1 = h' at change ⊢
  cases change with
  | register | unregister | attach | detach | deposit => cases ha
  | cancel id hruns =>
    refine ⟨fun id' => ?_, fun _ => rfl⟩
    rw [Table.contains_put]
    by_cases hid : id' = id
    · rw [if_pos hid, hid, hruns]
    · rw [if_neg hid]
  | _ => exact .of_eq rfl rfl

theorem Host.look_sameTenure (h : Host) (task : Nat) (w : Wait) : h.SameTenure (h.look task w).2 := by
  cases w with
  | send e =>
    obtain ⟨sending, inbox, heq⟩ := h.hub.send_changes task e
    refine .of_eq rfl ?_
    show (h.hub.send task e).2.attached = h.hub.attached
    rw [heq]
  | _ => exact .of_eq rfl rfl

theorem Host.abandon_sameTenure (h : Host) (task : Nat) : h.SameTenure (h.abandon task) := .of_eq rfl rfl

/-! ## What the accounts say of ids and sessions -/

namespace Account

/-- Two accounts agree on the ids and the sessions of the request. -/
structure SameTenure (s s' : Account) : Prop where
  registered : s'.registered = s.registered
  unregistered : s'.unregistered = s.unregistered
  attachments : s'.attachments = s.attachments
  attached : s'.attached = s.attached

theorem SameTenure.refl (s : Account) : s.SameTenure s := ⟨rfl, rfl, rfl, rfl⟩

theorem SameTenure.holds {s s' : Account} (h : s.SameTenure s') (id : String) : s'.Holds id ↔ s.Holds id := by
  constructor
  · intro hs
    exact ⟨h.registered ▸ hs.registered, h.unregistered ▸ hs.unregistered⟩
  · intro hs
    exact ⟨h.registered.symm ▸ hs.registered, h.unregistered.symm ▸ hs.unregistered⟩

/-- Whether an event changes the ids or the sessions of a request. -/
def movesTenure : Event → Bool
  | .accessed a _ => a.movesTenure
  | _ => false

theorem after_sameTenure (s : Account) {e : Event} (he : movesTenure e = false) : s.SameTenure (s.after e) := by
  unfold after
  split
  all_goals first
    | cases he
      done
    | exact ⟨rfl, rfl, rfl, rfl⟩
    | split <;> exact ⟨rfl, rfl, rfl, rfl⟩

end Account

/-! ## The invariant -/

/-- **Who has what**: an id that a request holds runs, no two requests hold one id, and a session that a request has
attached under its id is attached only as long as the account says so. -/
structure Tenure (h : Host) (recs : Nat → Account) : Prop where
  pending : ∀ i id, (recs i).Holds id → h.pending.contains id = true
  unique : ∀ i j id, (recs i).Holds id → (recs j).Holds id → i = j
  attached : ∀ i session, (recs i).Holds session → session ∈ (recs i).attachments → h.hub.isAttached session = true →
    session ∈ (recs i).attached
  earned : ∀ i, ∀ session ∈ (recs i).attachments, (session, true) ∈ (recs i).registered

namespace Tenure

variable {h h' : Host} {recs recs' : Nat → Account}

theorem of_same (tenure : Tenure h recs) (hhost : h.SameTenure h') (hrecs : ∀ i, (recs i).SameTenure (recs' i)) :
    Tenure h' recs' where
  pending i id hid := by
    rw [hhost.pending]
    exact tenure.pending i id (((hrecs i).holds id).1 hid)
  unique i j id hi hj := tenure.unique i j id (((hrecs i).holds id).1 hi) (((hrecs j).holds id).1 hj)
  attached i session hid hmem hatt := by
    rw [hhost.attached] at hatt
    rw [(hrecs i).attachments] at hmem
    rw [(hrecs i).attached]
    exact tenure.attached i session (((hrecs i).holds session).1 hid) hmem hatt
  earned i session hmem := by
    rw [(hrecs i).attachments] at hmem
    rw [(hrecs i).registered]
    exact tenure.earned i session hmem

variable {i : Nat}

/-- An event that changes no id and no session of its task. -/
theorem of_event {e : Event} (he : Account.movesTenure e = false) (tenure : Tenure h recs) (hhost : h.SameTenure h') :
    Tenure h' (Account.keeper.afterAll recs (e.happening i)) := by
  refine tenure.of_same hhost fun j => ?_
  by_cases hij : i = j
  · subst hij
    rw [afterAll_self]
    exact (recs i).after_sameTenure he
  · rw [afterAll_of_ne _ _ hij]
    exact .refl _

/-! ## Ids -/

section

variable {id : String}

/-- Nothing about ids changes which sessions a request has attached. -/
theorem sessions_of_registry {a : Access} {x : a.Answer} (ha : a.topic = .registry) (j : Nat) :
    (Account.keeper.afterAll recs (Event.happening i (.accessed a x)) j).attachments = (recs j).attachments ∧
    (Account.keeper.afterAll recs (Event.happening i (.accessed a x)) j).attached = (recs j).attached := by
  by_cases hij : i = j
  · subst hij
    rw [afterAll_self]
    cases a <;> first | exact ⟨rfl, rfl⟩ | cases ha
  · rw [afterAll_of_ne _ _ hij]
    exact ⟨rfl, rfl⟩

theorem holds_of_register {id' : String} {allowed : Bool} {j : Nat}
    (hj : (Account.keeper.afterAll recs (Event.happening i (.accessed (.register id) allowed)) j).Holds id') :
    (recs j).Holds id' ∨ j = i ∧ id' = id ∧ allowed = true ∧ id ∉ (recs j).unregistered := by
  by_cases hij : i = j
  · subst hij
    rw [afterAll_self] at hj
    rcases List.mem_append.1 hj.registered with hmem | hmem
    · exact .inl ⟨hmem, hj.unregistered⟩
    · cases List.mem_singleton.1 hmem
      exact .inr ⟨rfl, rfl, rfl, hj.unregistered⟩
  · rw [afterAll_of_ne _ _ hij] at hj
    exact .inl hj

/-- An id is given to one request, and only while no other has it. -/
theorem register (tenure : Tenure h recs) {allowed : Bool} (hallowed : allowed = !h.pending.contains id)
    (hpending : ∀ id', h'.pending.contains id' = if id' = id then true else h.pending.contains id')
    (hattached : ∀ session, h'.hub.isAttached session = h.hub.isAttached session) :
    Tenure h' (Account.keeper.afterAll recs (Event.happening i (.accessed (.register id) allowed))) := by
  have hfree (htrue : allowed = true) (j : Nat) : ¬ (recs j).Holds id := fun hj => by
    rw [hallowed, tenure.pending j id hj] at htrue
    cases htrue
  refine ⟨fun j id' hj => ?_, fun j k id' hj hk => ?_, fun j session hj hmem hatt => ?_, fun j session hmem => ?_⟩
  · rw [hpending]
    split
    · rfl
    · rename_i hne
      rcases holds_of_register hj with hj' | ⟨-, hid, -⟩
      · exact tenure.pending j id' hj'
      · exact absurd hid hne
  · rcases holds_of_register hj with hj' | ⟨rfl, rfl, htrue, -⟩ <;>
      rcases holds_of_register hk with hk' | ⟨rfl, hid, htrue', -⟩
    · exact tenure.unique j k id' hj' hk'
    · exact absurd (hid ▸ hj') (hfree htrue' j)
    · exact absurd hk' (hfree htrue k)
    · rfl
  · rw [(sessions_of_registry rfl j).1] at hmem
    rw [(sessions_of_registry rfl j).2]
    rw [hattached] at hatt
    rcases holds_of_register hj with hj' | ⟨rfl, rfl, htrue, hnot⟩
    · exact tenure.attached j session hj' hmem hatt
    · -- A session that it attached before it was under this same id, which it would still hold.
      exact absurd ⟨tenure.earned j session hmem, hnot⟩ (hfree htrue j)
  · rw [(sessions_of_registry rfl j).1] at hmem
    have hearned := tenure.earned j session hmem
    by_cases hij : i = j
    · subst hij
      rw [afterAll_self]
      exact List.mem_append_left _ hearned
    · rw [afterAll_of_ne _ _ hij]
      exact hearned

theorem holds_of_unregister {id' : String} {j : Nat}
    (hj : (Account.keeper.afterAll recs (Event.happening i (.accessed (.unregister id) ())) j).Holds id') :
    (recs j).Holds id' ∧ (j = i → id' ≠ id) := by
  by_cases hij : i = j
  · subst hij
    rw [afterAll_self] at hj
    have hnot : id' ∉ (recs i).unregistered ++ [id] := hj.unregistered
    rw [List.mem_append, List.mem_singleton, not_or] at hnot
    exact ⟨⟨hj.registered, hnot.1⟩, fun _ => hnot.2⟩
  · rw [afterAll_of_ne _ _ hij] at hj
    exact ⟨hj, fun h => absurd h.symm hij⟩

/-- An id is given up by the one who has it. -/
theorem unregister (tenure : Tenure h recs) (hheld : (recs i).Holds id)
    (hpending : ∀ id', h'.pending.contains id' = if id' = id then false else h.pending.contains id')
    (hattached : ∀ session, h'.hub.isAttached session = h.hub.isAttached session) :
    Tenure h' (Account.keeper.afterAll recs (Event.happening i (.accessed (.unregister id) ()))) := by
  refine ⟨fun j id' hj => ?_, fun j k id' hj hk => ?_, fun j session hj hmem hatt => ?_, fun j session hmem => ?_⟩
  · obtain ⟨hj', hne⟩ := holds_of_unregister hj
    rw [hpending, if_neg]
    · exact tenure.pending j id' hj'
    · rintro rfl
      exact hne (tenure.unique j i id' hj' hheld) rfl
  · exact tenure.unique j k id' (holds_of_unregister hj).1 (holds_of_unregister hk).1
  · rw [(sessions_of_registry rfl j).1] at hmem
    rw [(sessions_of_registry rfl j).2]
    rw [hattached] at hatt
    exact tenure.attached j session (holds_of_unregister hj).1 hmem hatt
  · rw [(sessions_of_registry rfl j).1] at hmem
    have hearned := tenure.earned j session hmem
    by_cases hij : i = j
    · subst hij
      rw [afterAll_self]
      exact hearned
    · rw [afterAll_of_ne _ _ hij]
      exact hearned

end

/-! ## Sessions -/

section

variable {session : String}

/-- A session is attached by the one who has it as its id. -/
theorem attach (tenure : Tenure h recs) (hheld : (recs i).Holds session) (box : Nat)
    (hpending : ∀ id, h'.pending.contains id = h.pending.contains id)
    (hattached : ∀ other, h'.hub.isAttached other = if other = session then true else h.hub.isAttached other) :
    Tenure h' (Account.keeper.afterAll recs (Event.happening i (.accessed (.attach session box) ()))) := by
  have hholds {id : String} {j : Nat}
      (hj : (Account.keeper.afterAll recs (Event.happening i (.accessed (.attach session box) ())) j).Holds id) :
      (recs j).Holds id := by
    by_cases hij : i = j
    · subst hij
      rw [afterAll_self] at hj
      exact ⟨hj.registered, hj.unregistered⟩
    · rw [afterAll_of_ne _ _ hij] at hj
      exact hj
  refine ⟨fun j id hj => ?_, fun j k id hj hk => ?_, fun j other hj hmem hatt => ?_, fun j other hmem => ?_⟩
  · rw [hpending]
    exact tenure.pending j id (hholds hj)
  · exact tenure.unique j k id (hholds hj) (hholds hk)
  · have hj' := hholds hj
    rw [hattached] at hatt
    by_cases hij : i = j
    · subst hij
      rw [afterAll_self] at hmem ⊢
      by_cases hother : other = session
      · exact List.mem_append_right _ (List.mem_singleton.2 hother)
      · rw [if_neg hother] at hatt
        have hmem' : other ∈ (recs i).attachments :=
          (List.mem_append.1 hmem).resolve_right fun h => hother (List.mem_singleton.1 h)
        exact List.mem_append_left _ (tenure.attached i other hj' hmem' hatt)
    · have hother : other ≠ session := by
        rintro rfl
        exact hij (tenure.unique i j other hheld hj')
      rw [if_neg hother] at hatt
      rw [afterAll_of_ne _ _ hij] at hmem ⊢
      exact tenure.attached j other hj' hmem hatt
  · by_cases hij : i = j
    · subst hij
      rw [afterAll_self] at hmem ⊢
      rcases List.mem_append.1 hmem with hmem | hmem
      · exact tenure.earned i other hmem
      · rw [List.mem_singleton.1 hmem]
        exact hheld.registered
    · rw [afterAll_of_ne _ _ hij] at hmem ⊢
      exact tenure.earned j other hmem

/-- A session that is attached no longer may be crossed out of the accounts, by whomever it was detached. -/
theorem detach (tenure : Tenure h recs) (hpending : ∀ id, h'.pending.contains id = h.pending.contains id)
    (hattached : ∀ other, h'.hub.isAttached other = if other = session then false else h.hub.isAttached other)
    (hrecs : ∀ j, recs' j = recs j ∨ recs' j = (recs j).detach session) : Tenure h' recs' := by
  have hholds {id : String} {j : Nat} (hj : (recs' j).Holds id) : (recs j).Holds id := by
    rcases hrecs j with heq | heq <;> rw [heq] at hj
    · exact hj
    · exact ⟨hj.registered, hj.unregistered⟩
  refine ⟨fun j id hj => ?_, fun j k id hj hk => ?_, fun j other hj hmem hatt => ?_, fun j other hmem => ?_⟩
  · rw [hpending]
    exact tenure.pending j id (hholds hj)
  · exact tenure.unique j k id (hholds hj) (hholds hk)
  · have hj' := hholds hj
    rw [hattached] at hatt
    split at hatt
    · cases hatt
    · rename_i hother
      rcases hrecs j with heq | heq <;> rw [heq] at hmem ⊢
      · exact tenure.attached j other hj' hmem hatt
      · exact List.mem_filter.2 ⟨tenure.attached j other hj' hmem hatt, bne_iff_ne.2 hother⟩
  · rcases hrecs j with heq | heq <;> rw [heq] at hmem ⊢
    · exact tenure.earned j other hmem
    · exact tenure.earned j other hmem

end

/-! ## Moves -/

/-- An access by a request keeps the invariant, if its contract allows it. -/
theorem access (tenure : Tenure h recs) (own : Holdings) (a : Access)
    (hallows : Account.keeper.allows (recs i) (.accessed a (h.access i own a).1)) :
    Tenure (h.access i own a).2.1
      (Account.keeper.afterAll recs (Event.happening i (.accessed a (h.access i own a).1))) := by
  cases hmoves : a.movesTenure with
  | false => exact tenure.of_event hmoves (h.access_sameTenure i own hmoves)
  | true =>
    have hdetached (session : String) (e : Event) (he : (recs i).after e = (recs i).detach session) (j : Nat) :
        Account.keeper.afterAll recs (e.happening i) j = recs j ∨
          Account.keeper.afterAll recs (e.happening i) j = (recs j).detach session := by
      by_cases hij : i = j
      · subst hij
        rw [afterAll_self]
        exact .inr he
      · rw [afterAll_of_ne _ _ hij]
        exact .inl rfl
    cases a with
    | register id =>
      simp only [Host.access]
      cases hpending : h.pending.contains id with
      | true =>
        refine tenure.register (by rw [hpending]; rfl) (fun id' => ?_) fun _ => rfl
        show h.pending.contains id' = _
        split
        · rename_i hid
          rw [hid]
          exact hpending
        · rfl
      | false => exact tenure.register (by rw [hpending]; rfl) (fun id' => Table.contains_put _ _ _ _) fun _ => rfl
    | unregister id =>
      exact tenure.unregister hallows.1 (fun id' => Table.contains_erase _ _ _) fun _ => rfl
    | attach session box =>
      exact tenure.attach hallows box (fun _ => rfl) fun other => Table.contains_put _ _ _ _
    | detach session =>
      exact tenure.detach (fun _ => rfl) (h.hub.isAttached_detach session) (hdetached session _ rfl)
    | deposit session seed =>
      exact tenure.detach (fun _ => rfl) (fun other => h.hub.isAttached_deposit session other seed)
        (hdetached session _ rfl)
    | _ => cases hmoves

end Tenure

/-- What those outside the tasks may do: anything but give out ids, take them back or attach sessions. -/
def Access.isOffered : Access → Bool
  | .register _ | .unregister _ | .attach .. => false
  | _ => true

/-- **Every move keeps who has what.** -/
theorem Wallet.Goes.tenure {w w' : Wallet α} {m : Move α} {happening : Happening} (g : w.Goes m happening w')
    {recs : Nat → Account} (hallows : ∀ i e, happening.event? i = some e → Account.keeper.allows (recs i) e)
    (hout : ∀ a, m = .outside a → a.isOffered = true) (tenure : Tenure w.host recs) :
    Tenure w'.host (Account.keeper.afterAll recs happening) := by
  cases g with
  | start p =>
    rw [afterAll_none _ _ fun _ => rfl]
    exact tenure
  | @access i t a next ht hp =>
    exact tenure.access t.own a (hallows i _ (Event.event?_happening i (.accessed a _)))
  | @call i t c ht hs hc => exact tenure.of_event (e := .called c) rfl (.of_eq rfl rfl)
  | look ht hs hl =>
    rw [afterAll_none _ _ fun _ => rfl]
    exact tenure.of_same (w.host.look_sameTenure _ _) fun _ => .refl _
  | @wait i t t' u x ht hl hr => exact tenure.of_event (e := .waited u x) rfl (w.host.look_sameTenure _ _)
  | @answer i t t' c x ht hc hr => exact tenure.of_event (e := .answered c x) rfl (.of_eq rfl rfl)
  | @stop i t t' ht hs => exact tenure.of_event (e := .stopped) rfl (w.host.abandon_sameTenure i)
  | outside a =>
    rw [afterAll_none _ _ fun _ => rfl]
    cases hmoves : a.movesTenure with
    | false => exact tenure.of_same (w.host.access_sameTenure _ _ hmoves) fun _ => .refl _
    | true =>
      cases a with
      | detach session =>
        exact tenure.detach (fun _ => rfl) (w.host.hub.isAttached_detach session) fun _ => .inl rfl
      | deposit session seed =>
        exact tenure.detach (fun _ => rfl) (fun other => w.host.hub.isAttached_deposit session other seed)
          fun _ => .inl rfl
      | register | unregister | attach => cases hout _ rfl
      | _ => cases hmoves
  | pass ms =>
    rw [afterAll_none _ _ fun _ => rfl]
    exact tenure.of_same (.of_eq rfl rfl) fun _ => .refl _
  | setClock t =>
    rw [afterAll_none _ _ fun _ => rfl]
    exact tenure.of_same (.of_eq rfl rfl) fun _ => .refl _
  | signer m =>
    rw [afterAll_none _ _ fun _ => rfl]
    exact tenure.of_same (.of_eq rfl (w.host.hub.attached_afterSigner m)) fun _ => .refl _

end PasskeyConsent

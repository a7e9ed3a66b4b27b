import PasskeyConsent.Concurrency.Wallet
/-!
# What becomes of the boxes

Every operation of the hub changes one box, adds one or leaves the boxes as they are, and every look-up of a session
sees the change of that session only; the lemmas say so operation by operation.  Of what the worker does at its end a
box knows only that its endpoint is used up and its seed gone (`SeedBox.Worn`).
-/
namespace PasskeyConsent

/-- The endpoint yields nothing any more. -/
def SeedBox.IsSpent (b : SeedBox) : Prop := b.endpoint = .used ∨ b.endpoint = .dropped

instance (b : SeedBox) : Decidable b.IsSpent := inferInstanceAs (Decidable (_ ∨ _))

namespace SeedBox

variable (session : String) (opening : Opening) (seed : Option SeedMaterial)

@[simp]
theorem isSpent_used : (mk session opening .used seed).IsSpent := .inl rfl

@[simp]
theorem isSpent_dropped : (mk session opening .dropped seed).IsSpent := .inr rfl

@[simp]
theorem not_isSpent_fresh : ¬ (mk session opening .fresh seed).IsSpent := by
  simp [IsSpent]

@[simp]
theorem not_isSpent_taking : ¬ (mk session opening .taking seed).IsSpent := by
  simp [IsSpent]

end SeedBox

/-- What the worker can do to a box: use up its end, with the seed. -/
structure SeedBox.Worn (b b' : SeedBox) : Prop where
  session : b'.session = b.session
  opening : b'.opening = b.opening
  seed : b'.seed = b.seed ∨ b'.seed = none ∧ b'.IsSpent
  spent : b.IsSpent → b'.IsSpent

theorem SeedBox.Worn.refl (b : SeedBox) : b.Worn b := ⟨rfl, rfl, .inl rfl, id⟩

namespace Hub

variable (h : Hub)

/-! ## One box -/

theorem getElem?_changeBox (n : Nat) (f : SeedBox → SeedBox) (m : Nat) :
    (h.changeBox n f).boxes[m]? = if m = n then (h.boxes[m]?).map f else h.boxes[m]? := by
  unfold changeBox
  rw [List.getElem?_modify]
  by_cases hm : m = n
  · subst hm
    rw [if_pos rfl]
    simp
  · rw [if_neg hm]
    simp [Ne.symm hm]

theorem getElem?_openBox (task : Nat) (session : String) (m : Nat) :
    (h.openBox task session).2.boxes[m]? =
      if m = h.boxes.length then some ⟨session, .attaching task, .fresh, none⟩ else h.boxes[m]? := by
  unfold openBox
  dsimp only
  split
  · rename_i hm
    rw [hm]
    exact List.getElem?_concat_length
  · rename_i hm
    rcases Nat.lt_or_gt_of_ne hm with hlt | hgt
    · exact List.getElem?_append_left hlt
    · have hlength : (h.boxes ++ [(⟨session, .attaching task, .fresh, none⟩ : SeedBox)]).length ≤ m := by
        rw [List.length_append]
        exact hgt
      rw [List.getElem?_eq_none hlength, List.getElem?_eq_none (Nat.le_of_lt hgt)]

theorem getElem?_abandon (task m : Nat) :
    (h.abandon task).boxes[m]? =
      (h.boxes[m]?).map fun b => if b.opening = .attaching task then { b with opening := .gone } else b :=
  List.getElem?_map

/-! ## Depositing and detaching -/

theorem detach_of_attached {session : String} {n : Nat} (hs : h.attached.get? session = some n) :
    h.detach session = (true, { h.abandonBox n with attached := h.attached.erase session }) := by
  unfold detach
  rw [hs]

theorem detach_of_not_attached {session : String} (hs : h.attached.get? session = none) :
    h.detach session = (false, h) := by
  unfold detach
  rw [hs]

/-- **A deposit** finds no session; or puts the seed into its box, which nobody else can; or finds the endpoint spent
and drops the opening all the same. -/
theorem deposit_cases (session : String) (seed : SeedMaterial) :
    (h.attached.get? session = none ∧ h.deposit session seed = (.error (.notAttached session), h)) ∨
    (∃ n b, h.attached.get? session = some n ∧ h.boxes[n]? = some b ∧ ¬ b.IsSpent ∧
      h.deposit session seed = (.ok (), { h.changeBox n (fun b => { b with opening := .gone, seed := some seed }) with
        attached := h.attached.erase session })) ∨
    ∃ n e, h.attached.get? session = some n ∧ (∀ b, h.boxes[n]? = some b → b.IsSpent) ∧
      h.deposit session seed = (.error e, { h.abandonBox n with attached := h.attached.erase session }) := by
  cases hs : h.attached.get? session with
  | none =>
    refine .inl ⟨rfl, ?_⟩
    unfold deposit
    rw [hs]
  | some n =>
    cases hb : h.boxes[n]? with
    | none =>
      have hgone : (h.abandonBox n).boxes[n]? = none := by
        unfold abandonBox
        rw [getElem?_changeBox, if_pos rfl, hb]
        rfl
      refine .inr (.inr ⟨n, .notAttached session, rfl, fun b hb' => ?_, ?_⟩)
      · rw [hb] at hb'
        cases hb'
      · simp only [deposit, hs, hgone]
    | some b =>
      have hgone : (h.abandonBox n).boxes[n]? = some { b with opening := .gone } := by
        unfold abandonBox
        rw [getElem?_changeBox, if_pos rfl, hb]
        rfl
      by_cases hspent : b.IsSpent
      · have hno : ¬ (b.endpoint = .fresh ∨ b.endpoint = .taking) := by
          rcases hspent with h | h <;> rw [h] <;> decide
        refine .inr (.inr ⟨n, .sendFailed signerName ("endpoint for " ++ session ++ " dropped"), rfl, ?_, ?_⟩)
        · intro b' hb'
          rw [hb] at hb'
          cases hb'
          exact hspent
        · simp only [deposit, hs, hgone, if_neg hno]
      · have hyes : b.endpoint = .fresh ∨ b.endpoint = .taking := by
          unfold SeedBox.IsSpent at hspent
          cases he : b.endpoint <;> simp [he] at hspent ⊢
        refine .inr (.inl ⟨n, b, rfl, hb, hspent, ?_⟩)
        simp only [deposit, hs, hgone, if_pos hyes]
        simp only [abandonBox, changeBox, List.modify_modify_eq]
        rfl

/-- Of the hub, a detach changes the boxes and the attached sessions. -/
theorem detach_changes (session : String) :
    ∃ boxes attached, (h.detach session).2 = { h with boxes := boxes, attached := attached } := by
  cases hs : h.attached.get? session with
  | none => exact ⟨h.boxes, h.attached, by rw [h.detach_of_not_attached hs]⟩
  | some n => exact ⟨(h.abandonBox n).boxes, h.attached.erase session, by rw [h.detach_of_attached hs]; rfl⟩

/-- Of the hub, a deposit changes the boxes and the attached sessions. -/
theorem deposit_changes (session : String) (seed : SeedMaterial) :
    ∃ boxes attached, (h.deposit session seed).2 = { h with boxes := boxes, attached := attached } := by
  rcases h.deposit_cases session seed with ⟨-, heq⟩ | ⟨n, b, -, -, -, heq⟩ | ⟨n, e, -, -, heq⟩ <;> rw [heq]
  · exact ⟨_, _, rfl⟩
  · exact ⟨_, _, rfl⟩
  · exact ⟨_, _, rfl⟩

/-! ## Sending -/

/-- Of the hub, a look for room in the inbox changes who waits for it and what is in it. -/
theorem send_changes (task : Nat) (e : Envelope) :
    ∃ sending inbox, (h.send task e).2 = { h with sending := sending, inbox := inbox } := by
  unfold send
  dsimp only
  split
  · exact ⟨_, _, rfl⟩
  · split
    · exact ⟨_, _, rfl⟩
    · split
      · exact ⟨_, _, rfl⟩
      · exact ⟨_, _, rfl⟩

/-! ## Attached sessions -/

theorem isAttached_of_get?_none {session : String} (hnone : h.attached.get? session = none)
    (other : String) : h.isAttached other = if other = session then false else h.isAttached other := by
  split
  · rename_i ho
    subst ho
    unfold Hub.isAttached Table.contains
    rw [hnone]
    rfl
  · rfl

/-- A session that is detached is not attached, and the others are as they were. -/
theorem isAttached_detach (session other : String) :
    (h.detach session).2.isAttached other = if other = session then false else h.isAttached other := by
  unfold Hub.detach
  split
  · rename_i hnone
    exact h.isAttached_of_get?_none hnone other
  · exact Table.contains_erase h.attached session other

/-- The same for one that is supplied, also when the seed does not arrive. -/
theorem isAttached_deposit (session other : String) (seed : SeedMaterial) :
    (h.deposit session seed).2.isAttached other = if other = session then false else h.isAttached other := by
  unfold Hub.deposit
  split
  · rename_i hnone
    exact h.isAttached_of_get?_none hnone other
  · dsimp only
    split
    · split <;> exact Table.contains_erase h.attached session other
    · exact Table.contains_erase h.attached session other


/-! ## The worker's end -/

section Take

variable {h : Hub} {n : Nat} {b : SeedBox}

theorem take_of_none (hb : h.boxes[n]? = none) : h.take n = (none, h) := by
  unfold take
  rw [hb]

theorem take_of_spent (hb : h.boxes[n]? = some b) (hspent : b.IsSpent) :
    h.take n = (some (.error (.seedConsumed b.session)), h) := by
  unfold take
  rw [hb]
  exact if_pos hspent

theorem take_of_seed {seed : SeedMaterial} (hb : h.boxes[n]? = some b) (hfree : ¬ b.IsSpent)
    (hseed : b.seed = some seed) :
    h.take n = (some (.ok seed), h.changeBox n fun b => { b with endpoint := .used, seed := none }) := by
  unfold take
  rw [hb]
  dsimp only
  rw [hseed]
  exact if_neg hfree

theorem take_of_gone (hb : h.boxes[n]? = some b) (hfree : ¬ b.IsSpent) (hseed : b.seed = none)
    (hgone : b.opening = .gone) :
    h.take n = (some (.error (.notAttached b.session)), h.changeBox n fun b => { b with endpoint := .used }) := by
  unfold take
  rw [hb]
  dsimp only
  rw [hseed, hgone]
  exact if_neg hfree

theorem take_of_open (hb : h.boxes[n]? = some b) (hfree : ¬ b.IsSpent) (hseed : b.seed = none)
    (hopen : b.opening ≠ .gone) : h.take n = (none, h.changeBox n fun b => { b with endpoint := .taking }) := by
  unfold take
  rw [hb]
  dsimp only
  rw [hseed]
  dsimp only
  rw [if_neg hopen]
  exact if_neg hfree

/-- A take that is answered with a seed has found it there. -/
theorem of_take_ok {seed : SeedMaterial} (htake : (h.take n).1 = some (.ok seed)) :
    ∃ b, h.boxes[n]? = some b ∧ ¬ b.IsSpent ∧ b.seed = some seed := by
  cases hb : h.boxes[n]? with
  | none =>
    rw [take_of_none hb] at htake
    cases htake
  | some b =>
    by_cases hspent : b.IsSpent
    · rw [take_of_spent hb hspent] at htake
      cases htake
    · cases hseed : b.seed with
      | some seed' =>
        rw [take_of_seed hb hspent hseed] at htake
        cases htake
        exact ⟨b, rfl, hspent, hseed⟩
      | none =>
        by_cases hgone : b.opening = .gone
        · rw [take_of_gone hb hspent hseed hgone] at htake
          cases htake
        · rw [take_of_open hb hspent hseed hgone] at htake
          cases htake

end Take

/-- A take changes boxes only. -/
theorem take_eq (n : Nat) : ∃ boxes, (h.take n).2 = { h with boxes } := by
  unfold take
  split
  · exact ⟨h.boxes, rfl⟩
  · split
    · exact ⟨h.boxes, rfl⟩
    · split
      · exact ⟨_, rfl⟩
      · split <;> exact ⟨_, rfl⟩

/-- A take leaves the other boxes as they are. -/
theorem getElem?_take_of_ne {n k : Nat} (hk : n ≠ k) : (h.take k).2.boxes[n]? = h.boxes[n]? := by
  have hchange (f : SeedBox → SeedBox) : (h.changeBox k f).boxes[n]? = h.boxes[n]? := by
    rw [getElem?_changeBox, if_neg hk]
  unfold take
  split
  · rfl
  · split
    · rfl
    · split
      · exact hchange _
      · split <;> exact hchange _

/-- What the worker's move makes of a box of the hub. -/
def worked (m : SignerMove) (n : Nat) (b : SeedBox) : SeedBox :=
  match m with
  | .take k =>
    if n = k ∧ ¬ b.IsSpent then
      if b.seed.isSome then { b with endpoint := .used, seed := none }
      else if b.opening = .gone then { b with endpoint := .used } else { b with endpoint := .taking }
    else b
  | .giveUp k => if n = k then { b with endpoint := .used } else b
  | .dropEndpoint k => if n = k then { b with endpoint := .dropped } else b
  | .closeInbox => if (h.inbox.filterMap (·.box)).contains n then { b with endpoint := .dropped } else b
  | _ => b

/-- **Whatever the worker does**, it does to each box by itself. -/
theorem getElem?_afterSigner (m : SignerMove) (n : Nat) :
    (h.afterSigner m).boxes[n]? = (h.boxes[n]?).map (h.worked m n) := by
  have hsame : h.boxes[n]? = (h.boxes[n]?).map fun b => b := Option.map_id'.symm
  have hchange (k : Nat) (f : SeedBox → SeedBox) :
      (h.changeBox k f).boxes[n]? = (h.boxes[n]?).map fun b => if n = k then f b else b := by
    rw [getElem?_changeBox]
    split
    · rfl
    · exact hsame
  cases m with
  | receive =>
    simp only [afterSigner, receive]
    split <;> exact hsame
  | closeInbox => exact List.getElem?_mapIdx
  | take k =>
    show (h.take k).2.boxes[n]? = _
    by_cases hk : n = k
    · subst hk
      cases hb : h.boxes[n]? with
      | none => rw [take_of_none hb, hb]; rfl
      | some b =>
        by_cases hspent : b.IsSpent
        · rw [take_of_spent hb hspent, hb]
          simp [worked, hspent]
        · cases hseed : b.seed with
          | some seed =>
            rw [take_of_seed hb hspent hseed, hchange, hb]
            simp [worked, hspent, hseed]
          | none =>
            by_cases hgone : b.opening = .gone
            · rw [take_of_gone hb hspent hseed hgone, hchange, hb]
              simp [worked, hspent, hseed, hgone]
            · rw [take_of_open hb hspent hseed hgone, hchange, hb]
              simp [worked, hspent, hseed, hgone]
    · rw [h.getElem?_take_of_ne hk]
      exact hsame.trans (Option.map_congr fun b _ => (if_neg fun h => hk h.1).symm)
  | giveUp k => exact hchange k _
  | dropEndpoint k => exact hchange k _
  | _ => exact hsame

/-- A box that the worker has been at is worn at most. -/
theorem worn_worked (m : SignerMove) (n : Nat) (b : SeedBox) : b.Worn (h.worked m n b) := by
  have hite {p : Prop} [Decidable p] {b' : SeedBox} (hb' : p → b.Worn b') : b.Worn (if p then b' else b) := by
    split
    · exact hb' ‹p›
    · exact .refl b
  cases m with
  | take k =>
    refine hite fun hfree => ?_
    split
    · exact ⟨rfl, rfl, .inr ⟨rfl, .inl rfl⟩, fun _ => .inl rfl⟩
    · split
      · exact ⟨rfl, rfl, .inl rfl, fun _ => .inl rfl⟩
      · exact ⟨rfl, rfl, .inl rfl, fun hspent => absurd hspent hfree.2⟩
  | giveUp k => exact hite fun _ => ⟨rfl, rfl, .inl rfl, fun _ => .inl rfl⟩
  | dropEndpoint k => exact hite fun _ => ⟨rfl, rfl, .inl rfl, fun _ => .inr rfl⟩
  | closeInbox => exact hite fun _ => ⟨rfl, rfl, .inl rfl, fun _ => .inr rfl⟩
  | _ => exact .refl b

theorem worn_afterSigner (m : SignerMove) {n : Nat} {b : SeedBox} (hb : h.boxes[n]? = some b) :
    ∃ b', (h.afterSigner m).boxes[n]? = some b' ∧ b.Worn b' :=
  ⟨_, by rw [getElem?_afterSigner, hb]; rfl, h.worn_worked m n b⟩

theorem length_boxes_afterSigner (m : SignerMove) : (h.afterSigner m).boxes.length = h.boxes.length := by
  refine Nat.le_antisymm (Nat.le_of_not_lt fun hlt => ?_) (Nat.le_of_not_lt fun hlt => ?_)
  · have := h.getElem?_afterSigner m h.boxes.length
    rw [List.getElem?_eq_getElem hlt, List.getElem?_eq_none (Nat.le_refl _)] at this
    cases this
  · have := h.getElem?_afterSigner m (h.afterSigner m).boxes.length
    rw [List.getElem?_eq_none (Nat.le_refl _), List.getElem?_eq_getElem hlt] at this
    cases this

/-- The worker has nothing to do with the sessions that are attached or with who waits to use it. -/
theorem afterSigner_frame (m : SignerMove) :
    (h.afterSigner m).attached = h.attached ∧ (h.afterSigner m).queue = h.queue := by
  cases m with
  | receive =>
    simp only [afterSigner, receive]
    split <;> exact ⟨rfl, rfl⟩
  | take n =>
    obtain ⟨boxes, heq⟩ := h.take_eq n
    simp only [afterSigner, heq, and_self]
  | _ => exact ⟨rfl, rfl⟩

theorem attached_afterSigner (m : SignerMove) : (h.afterSigner m).attached = h.attached := (h.afterSigner_frame m).1

theorem queue_afterSigner (m : SignerMove) : (h.afterSigner m).queue = h.queue := (h.afterSigner_frame m).2

/-- What uses an endpoint up: a take that is answered or given up, a drop, or the end of the inbox that it is still in. -/
def UsesUp (m : SignerMove) (n : Nat) : Prop :=
  m = .take n ∧ (h.take n).1.isSome ∨ m = .giveUp n ∨ m = .dropEndpoint n ∨
    m = .closeInbox ∧ n ∈ h.inbox.filterMap (·.box)

/-- **The worker spends** the endpoints that it uses up, and no other. -/
theorem isSpent_worked (m : SignerMove) {n : Nat} {b : SeedBox} (hb : h.boxes[n]? = some b) :
    (h.worked m n b).IsSpent ↔ b.IsSpent ∨ h.UsesUp m n := by
  unfold UsesUp
  cases m with
  | take k =>
    by_cases hk : k = n
    · subst hk
      by_cases hspent : b.IsSpent
      · simp [worked, hspent]
      · cases hseed : b.seed with
        | some seed => simp [worked, hspent, hseed, take_of_seed hb hspent hseed]
        | none =>
          by_cases hgone : b.opening = .gone
          · simp [worked, hspent, hseed, hgone, take_of_gone hb hspent hseed hgone]
          · simp [worked, hspent, hseed, hgone, take_of_open hb hspent hseed hgone]
    · simp [worked, hk, Ne.symm hk]
  | giveUp k =>
    by_cases hk : k = n
    · simp [worked, hk]
    · simp [worked, hk, Ne.symm hk]
  | dropEndpoint k =>
    by_cases hk : k = n
    · simp [worked, hk]
    · simp [worked, hk, Ne.symm hk]
  | closeInbox =>
    show (if (h.inbox.filterMap (·.box)).contains n then { b with endpoint := .dropped } else b).IsSpent ↔ _
    generalize h.inbox.filterMap (·.box) = unread
    by_cases hmem : n ∈ unread <;> simp [hmem]
  | _ => simp [worked]

end Hub
end PasskeyConsent

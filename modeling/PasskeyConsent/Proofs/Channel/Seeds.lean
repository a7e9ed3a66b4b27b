import PasskeyConsent.Concurrency.Wallet
/-!
# What nobody sees of a seed

Nothing that the host answers depends on what the seeds in the boxes are, only on which boxes hold one.  `Hub.blind`
hides the seeds; every operation answers a blind hub as it does the hub itself and leaves it blind, a deposit whatever
is deposited.
-/
namespace PasskeyConsent

/-- What is seen of every seed. -/
def SeedMaterial.blank : SeedMaterial := ⟨"", none⟩

/-- The box with its seed hidden; whether there is one is still seen. -/
def SeedBox.blind (b : SeedBox) : SeedBox := { b with seed := b.seed.map fun _ => .blank }

theorem map_modify {α β : Type} {g : α → β} {f : α → α} {f' : β → β} (h : ∀ a, g (f a) = f' (g a)) :
    ∀ (l : List α) (n : Nat), (l.modify n f).map g = (l.map g).modify n f'
  | [], n => by cases n <;> rfl
  | a :: l, 0 => by rw [List.modify_zero_cons, List.map_cons, List.map_cons, List.modify_zero_cons, h]
  | a :: l, n + 1 => by
    rw [List.modify_succ_cons, List.map_cons, List.map_cons, List.modify_succ_cons, map_modify h l n]

namespace Hub

def blind (h : Hub) : Hub := { h with boxes := h.boxes.map SeedBox.blind }

@[simp] theorem blind_attached (h : Hub) : h.blind.attached = h.attached := rfl

theorem getElem?_blind (h : Hub) (n : Nat) : h.blind.boxes[n]? = (h.boxes[n]?).map SeedBox.blind :=
  List.getElem?_map

theorem blind_changeBox (h : Hub) (n : Nat) {f f' : SeedBox → SeedBox} (hf : ∀ b, (f b).blind = f' b.blind) :
    h.blind.changeBox n f' = (h.changeBox n f).blind := by
  unfold changeBox blind
  rw [map_modify hf]

theorem blind_openBox (h : Hub) (task : Nat) (session : String) :
    h.blind.openBox task session = ((h.openBox task session).1, (h.openBox task session).2.blind) := by
  unfold openBox blind
  rw [List.length_map, List.map_append]
  rfl

theorem blind_abandonBox (h : Hub) (n : Nat) : h.blind.abandonBox n = (h.abandonBox n).blind :=
  h.blind_changeBox n fun _ => rfl

theorem blind_attach (h : Hub) (session : String) (n : Nat) :
    h.blind.attach session n = (h.attach session n).blind := by
  have hchange : h.blind.changeBox n (fun b => { b with opening := .attached }) =
      (h.changeBox n fun b => { b with opening := .attached }).blind := h.blind_changeBox n fun _ => rfl
  unfold attach
  rw [hchange]
  rfl

theorem blind_detach (h : Hub) (session : String) :
    h.blind.detach session = ((h.detach session).1, (h.detach session).2.blind) := by
  cases hs : h.attached.get? session with
  | none => simp only [detach, blind_attached, hs]
  | some n =>
    simp only [detach, blind_attached, hs]
    rw [h.blind_abandonBox n]
    rfl

/-- Depositing looks only at the box's endpoint, whatever the seed. -/
theorem blind_deposit (h : Hub) (session : String) (seed : SeedMaterial) :
    h.blind.deposit session .blank = ((h.deposit session seed).1, (h.deposit session seed).2.blind) := by
  cases hs : h.attached.get? session with
  | none => simp only [deposit, blind_attached, hs]
  | some n =>
    simp only [deposit, blind_attached, hs]
    -- The hub without the entry.
    have hleft : { h.blind.abandonBox n with attached := h.attached.erase session } =
        Hub.blind { h.abandonBox n with attached := h.attached.erase session } := by
      rw [h.blind_abandonBox n]
      rfl
    rw [hleft, h.blind_abandonBox n]
    generalize ({ h.abandonBox n with attached := h.attached.erase session } : Hub) = left
    cases hb : (h.abandonBox n).boxes[n]? with
    | none => simp only [getElem?_blind, hb, Option.map_none]
    | some b =>
      have hendpoint : b.blind.endpoint = b.endpoint := rfl
      simp only [getElem?_blind, hb, Option.map_some, hendpoint]
      split
      · rw [left.blind_changeBox n (f := fun b => { b with seed := some seed }) fun _ => rfl]
      · rfl

theorem blind_abandon (h : Hub) (task : Nat) : h.blind.abandon task = (h.abandon task).blind := by
  unfold abandon blind
  dsimp only
  rw [List.map_map, List.map_map]
  congr 1
  refine List.map_congr_left fun b _ => ?_
  by_cases hb : b.opening = .attaching task
  · have hb' : b.blind.opening = .attaching task := hb
    rw [Function.comp, Function.comp, if_pos hb, if_pos hb']
    rfl
  · have hb' : ¬ b.blind.opening = .attaching task := hb
    rw [Function.comp, Function.comp, if_neg hb, if_neg hb']

theorem blind_closeInbox (h : Hub) : h.blind.closeInbox = h.closeInbox.blind := by
  unfold closeInbox blind
  dsimp only
  congr 1
  refine List.ext_getElem? fun i => ?_
  rw [List.getElem?_mapIdx, List.getElem?_map, List.getElem?_map, List.getElem?_mapIdx]
  cases h.boxes[i]? with
  | none => rfl
  | some b =>
    dsimp only [Option.map_some]
    split <;> rfl

theorem blind_take (h : Hub) (n : Nat) : (h.blind.take n).2 = (h.take n).2.blind := by
  cases hb : h.boxes[n]? with
  | none => simp only [take, getElem?_blind, hb, Option.map_none]
  | some b =>
    have hendpoint : b.blind.endpoint = b.endpoint := rfl
    have hopening : b.blind.opening = b.opening := rfl
    have hseed : b.blind.seed = b.seed.map fun _ => .blank := rfl
    simp only [take, getElem?_blind, hb, Option.map_some, hendpoint, hopening, hseed]
    split
    · rfl
    · cases b.seed with
      | some seed => exact h.blind_changeBox n fun _ => rfl
      | none =>
        dsimp only [Option.map_none]
        split
        · exact h.blind_changeBox n fun _ => rfl
        · exact h.blind_changeBox n fun _ => rfl

/-- What the worker does to a hub does not depend on the seeds that it takes. -/
theorem blind_afterSigner (h : Hub) (m : SignerMove) : h.blind.afterSigner m = (h.afterSigner m).blind := by
  cases m with
  | receive =>
    have hinbox : h.blind.inbox = h.inbox := rfl
    simp only [afterSigner, receive, hinbox]
    cases h.inbox <;> rfl
  | acknowledge m => rfl
  | closeInbox => exact h.blind_closeInbox
  | closeAcks => rfl
  | take n => exact h.blind_take n
  | giveUp n => exact h.blind_changeBox n fun _ => rfl
  | dropEndpoint n => exact h.blind_changeBox n fun _ => rfl

end Hub

namespace Host

def blind (h : Host) : Host := { h with hub := h.hub.blind }

@[simp] theorem blind_hub (h : Host) : h.blind.hub = h.hub.blind := rfl

/-- **What the host answers to a deposit** does not depend on the seed, nor on other seeds. -/
theorem blind_deposit (h : Host) (task : Nat) (own : Holdings) (session : String) (seed : SeedMaterial) :
    h.blind.access task own (.deposit session .blank) =
      ((h.access task own (.deposit session seed)).1, (h.access task own (.deposit session seed)).2.1.blind, own) := by
  simp only [access, blind_hub, h.hub.blind_deposit session seed]
  rfl

/-- The same for every other access. -/
theorem blind_access (h : Host) (task : Nat) (own : Holdings) {a : Access}
    (ha : ∀ session seed, a ≠ .deposit session seed) :
    h.blind.access task own a =
      ((h.access task own a).1, (h.access task own a).2.1.blind, (h.access task own a).2.2) := by
  cases a with
  | deposit session seed => exact absurd rfl (ha session seed)
  | reserve count =>
    have hsequencer : h.blind.sequencer = h.sequencer := rfl
    simp only [access, hsequencer]
    cases h.sequencer.reserve count <;> rfl
  | markBroadcast text =>
    have hsequencer : h.blind.sequencer = h.sequencer := rfl
    simp only [access, hsequencer]
    cases h.sequencer.markBroadcast text <;> rfl
  | grant session account =>
    have hledger : h.blind.ledger.grant h.blind.wallClock = h.ledger.grant h.wallClock := rfl
    simp only [access, hledger]
    cases h.ledger.grant h.wallClock session account <;> rfl
  | consume session account =>
    have hledger : h.blind.ledger.consume h.blind.wallClock = h.ledger.consume h.wallClock := rfl
    simp only [access, hledger]
    rcases h.ledger.consume h.wallClock session account with ⟨_ | _, l⟩ <;> rfl
  | register id =>
    have hpending : h.blind.pending = h.pending := rfl
    simp only [access, hpending]
    cases h.pending.contains id <;> rfl
  | cancel id =>
    have hpending : h.blind.pending = h.pending := rfl
    simp only [access, cancel, hpending]
    cases h.pending.contains id <;> rfl
  | openBox session =>
    simp only [access, blind_hub, h.hub.blind_openBox task session]
    rfl
  | abandonBox n =>
    simp only [access, blind_hub, h.hub.blind_abandonBox n]
    rfl
  | attach session n =>
    simp only [access, blind_hub, h.hub.blind_attach session n]
    rfl
  | detach session =>
    simp only [access, blind_hub, h.hub.blind_detach session]
    rfl
  | _ => rfl

theorem blind_look (h : Host) (task : Nat) (w : Wait) :
    h.blind.look task w = ((h.look task w).1, (h.look task w).2.blind) := by
  cases w with
  | send e =>
    have hsend : h.hub.blind.send task e = ((h.hub.send task e).1, (h.hub.send task e).2.blind) := by
      have hinbox : h.hub.blind.inbox = h.hub.inbox := rfl
      have hclosed : h.hub.blind.inboxClosed = h.hub.inboxClosed := rfl
      have hsending : h.hub.blind.sending = h.hub.sending := rfl
      simp only [Hub.send, hinbox, hclosed, hsending]
      split
      · rfl
      · split
        · rfl
        · split <;> rfl
    simp only [look, blind_hub, hsend]
    rfl
  | _ => rfl

theorem blind_abandon (h : Host) (task : Nat) : h.blind.abandon task = (h.abandon task).blind := by
  unfold abandon
  rw [blind_hub, h.hub.blind_abandon task]
  rfl

end Host
end PasskeyConsent

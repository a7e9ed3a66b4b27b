import PasskeyConsent.Proofs.Json.Canonical
import PasskeyConsent.Proofs.Bytes.Text
/-!
# What the digest of a batch is bound to

The digest of a batch of transactions is over the compact text of the batch in key order.  A compact text tells its
value, and key order leaves nothing out but the order of members, so two batches are hashed alike just when they agree
in everything else (`intent_digest_bound`); one digest for other batches is a collision of the hash.
-/
namespace PasskeyConsent

/-- Whether two transactions are to one receiver and have the same actions, up to the order of members. -/
def Transaction.Alike (t u : Transaction) : Prop :=
  t.receiverId = u.receiverId ∧ Json.Reordered (.arr t.actions) (.arr u.actions)

/-- Whether two byte strings are different ones with one hash. -/
def Sha256.Collide (x y : Bytes) : Prop := x ≠ y ∧ Sha256.hash x = Sha256.hash y

namespace Digest

variable {ts us : List Transaction}

/-- A transaction as it is hashed. -/
def hashed (t : Transaction) : Json :=
  Json.canonical (.object [("receiverId", .str t.receiverId), ("actions", .arr t.actions)])

theorem intentPreimage_eq (ts : List Transaction) :
    intentPreimage ts = Bytes.ofText (Json.compact (.arr (ts.map hashed))) := rfl

theorem hashed_eq (t : Transaction) :
    hashed t = .obj [("actions", Json.canonical (.arr t.actions)), ("receiverId", .str t.receiverId)] := by
  have hlt : "actions" < "receiverId" := by decide
  have hge : ¬ "receiverId" < "actions" := by decide
  have hsort (a r : Json) : Json.sortMembers [("receiverId", r), ("actions", a)] = [("actions", a), ("receiverId", r)] := by
    simp [Json.sortMembers, Json.insertMember, hlt]
  have hkeep (a r : Json) : Json.sortMembers [("actions", a), ("receiverId", r)] = [("actions", a), ("receiverId", r)] := by
    simp [Json.sortMembers, Json.insertMember, hge]
  rw [hashed, Json.object, hsort, Json.canonical_obj, List.map_cons, List.map_cons, List.map_nil, hkeep]
  rfl

theorem hashed_wellFormed {t : Transaction} (h : (Json.arr t.actions).wellFormed = true) :
    (hashed t).wellFormed = true := by
  rw [hashed_eq, Json.wellFormed_obj]
  refine ⟨by simp, ?_⟩
  simp [Json.wellFormed_canonical h, Json.wellFormed]

/-- **Transactions are hashed alike just when they are alike.** -/
theorem hashed_eq_iff {t u : Transaction} (ht : (Json.arr t.actions).wellFormed = true)
    (hu : (Json.arr u.actions).wellFormed = true) : hashed t = hashed u ↔ t.Alike u := by
  rw [hashed_eq, hashed_eq, Transaction.Alike, ← Json.canonical_eq_iff ht hu]
  simp [and_comm]

theorem map_hashed_eq_iff (hts : ∀ t ∈ ts, (Json.arr t.actions).wellFormed = true)
    (hus : ∀ u ∈ us, (Json.arr u.actions).wellFormed = true) :
    ts.map hashed = us.map hashed ↔ List.Forall₂ Transaction.Alike ts us := by
  induction ts generalizing us with
  | nil => cases us <;> simp
  | cons t ts ih =>
    cases us with
    | nil => simp
    | cons u us =>
      obtain ⟨ht, hts⟩ := List.forall_mem_cons.1 hts
      obtain ⟨hu, hus⟩ := List.forall_mem_cons.1 hus
      rw [List.map_cons, List.map_cons, List.cons.injEq, hashed_eq_iff ht hu, ih hts hus, List.forall₂_cons]

/-- **Which batches are hashed alike.** -/
theorem intentPreimage_eq_iff (hts : ∀ t ∈ ts, (Json.arr t.actions).wellFormed = true)
    (hus : ∀ u ∈ us, (Json.arr u.actions).wellFormed = true) :
    intentPreimage ts = intentPreimage us ↔ List.Forall₂ Transaction.Alike ts us := by
  have hwellFormed : ∀ {ts : List Transaction}, (∀ t ∈ ts, (Json.arr t.actions).wellFormed = true) →
      (Json.arr (ts.map hashed)).wellFormed = true := by
    intro ts h
    rw [Json.wellFormed_arr, List.forall_mem_map]
    exact fun t ht => hashed_wellFormed (h t ht)
  rw [intentPreimage_eq, intentPreimage_eq, Bytes.ofText_inj, ← map_hashed_eq_iff hts hus]
  constructor
  · intro h
    exact Json.arr.inj (Json.compact_injective (hwellFormed hts) (hwellFormed hus) h)
  · intro h
    rw [h]

theorem hash_eq_of_intent {x y : Bytes} (h : Base64url.encode x = Base64url.encode y) : x = y := by
  have hread := congrArg Base64url.decode? h
  rwa [Base64url.decode?_encode, Base64url.decode?_encode, Option.some_inj] at hread

/-- **What the digest of a batch is bound to**: the receivers of its transactions and their actions, in order, and not
the order of members in the actions.  Batches that differ in anything else are hashed from other bytes, so they share
their digest only if the hash collides on these. -/
theorem intent_digest_bound (hts : ∀ t ∈ ts, (Json.arr t.actions).wellFormed = true)
    (hus : ∀ u ∈ us, (Json.arr u.actions).wellFormed = true) :
    (intentPreimage ts = intentPreimage us ↔ List.Forall₂ Transaction.Alike ts us) ∧
    (List.Forall₂ Transaction.Alike ts us → intent ts = intent us) ∧
    (¬ List.Forall₂ Transaction.Alike ts us → intent ts = intent us →
      Sha256.Collide (intentPreimage ts) (intentPreimage us)) := by
  have hiff := intentPreimage_eq_iff hts hus
  refine ⟨hiff, fun h => ?_, fun hother h => ⟨fun heq => hother (hiff.1 heq), hash_eq_of_intent h⟩⟩
  rw [intent, intent, hiff.2 h]

/-- A transfer with its members in one order. -/
def transfer : Transaction :=
  ⟨"bob.testnet", [.obj [("type", .str "Transfer"), ("amount", .float ⟨false, 6755399441055744, 1022⟩)]]⟩

/-- The same with its members in the other order. -/
def turnedTransfer : Transaction :=
  ⟨"bob.testnet", [.obj [("amount", .float ⟨false, 6755399441055744, 1022⟩), ("type", .str "Transfer")]]⟩

theorem intent_digest_bound_transfer :
    (∀ t ∈ [transfer], (Json.arr t.actions).wellFormed = true) ∧
    (∀ u ∈ [turnedTransfer], (Json.arr u.actions).wellFormed = true) ∧ transfer ≠ turnedTransfer ∧
    intentPreimage [transfer] = intentPreimage [turnedTransfer] ∧ intent [transfer] = intent [turnedTransfer] := by
  have ht : ∀ t ∈ [transfer], (Json.arr t.actions).wellFormed = true := by decide
  have hu : ∀ u ∈ [turnedTransfer], (Json.arr u.actions).wellFormed = true := by decide
  have halike : List.Forall₂ Transaction.Alike [transfer] [turnedTransfer] :=
    .cons ⟨rfl, .items (.cons (.members (.swap _ _ _)) .nil)⟩ .nil
  have hbound := intent_digest_bound ht hu
  exact ⟨ht, hu, by decide, hbound.1.2 halike, hbound.2.1 halike⟩

end Digest
end PasskeyConsent

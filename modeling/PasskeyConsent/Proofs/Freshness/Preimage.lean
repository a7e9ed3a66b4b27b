import PasskeyConsent.Freshness.Challenge
import PasskeyConsent.Proofs.Bytes.Text
/-!
# What the input of a challenge is bound to

The bytes that are hashed for a challenge are those of its fields, one after another, and only the block's number has
a length of its own.  So they do not tell where the user ends and the relying party begins, where the block's hash ends
and the digest begins, or whether there is a digest at all; and a longer name can stand for a shorter one with the
first bytes of the block behind it.  That is all that they leave open, and they leave it open for every input
(`preimage_shared`).
-/
namespace PasskeyConsent.FreshnessInput

open Bytes

/-- The user and the relying party, as they are hashed. -/
def names (i : FreshnessInput) : String := i.userId ++ i.rpId

/-- The block's hash and the digest, as they are hashed. -/
def ending (i : FreshnessInput) : String := i.blockHash ++ i.intentDigest.getD ""

/-- What is hashed behind the names. -/
def remainder (i : FreshnessInput) : Bytes := littleEndian64 i.blockHeight.toNat ++ ofText i.ending

theorem preimage_eq (i : FreshnessInput) : i.preimage = domain ++ (ofText i.names ++ i.remainder) := by
  have hdigest : (i.intentDigest.map ofText).getD [] = ofText (i.intentDigest.getD "") := by
    cases i.intentDigest with
    | none => rfl
    | some d => rfl
  simp [preimage, names, remainder, ending, ofText_append, hdigest]

/-- Two inputs with the same names, the same number and the same text behind it, in whatever way these are cut. -/
structure SameButCuts (a b : FreshnessInput) : Prop where
  names : a.names = b.names
  blockHeight : a.blockHeight = b.blockHeight
  ending : a.ending = b.ending

/-- The names of the second input go on where those of the first end, into what stands there for the block. -/
def Overruns (a b : FreshnessInput) : Prop :=
  ∃ t, t ≠ "" ∧ b.names = a.names ++ t ∧ a.remainder = ofText t ++ b.remainder

variable {a b : FreshnessInput}

theorem remainder_inj : a.remainder = b.remainder ↔ a.blockHeight = b.blockHeight ∧ a.ending = b.ending := by
  constructor
  · intro h
    obtain ⟨hheight, hending⟩ := List.append_inj h (by simp)
    exact ⟨littleEndian64_injective hheight, ofText_inj.1 hending⟩
  · rintro ⟨hheight, hending⟩
    rw [remainder, remainder, hheight, hending]

/-- What goes on with nothing does not go on. -/
theorem sameButCuts_or_overruns {t : String} (hnames : b.names = a.names ++ t)
    (hremainder : a.remainder = ofText t ++ b.remainder) : a.SameButCuts b ∨ a.Overruns b := by
  by_cases ht : t = ""
  · subst ht
    obtain ⟨hheight, hending⟩ := remainder_inj.1 hremainder
    exact .inl ⟨by simp [hnames], hheight, hending⟩
  · exact .inr ⟨t, ht, hnames, hremainder⟩

theorem SameButCuts.symm (h : a.SameButCuts b) : b.SameButCuts a :=
  ⟨h.names.symm, h.blockHeight.symm, h.ending.symm⟩

/-- **Which inputs are hashed alike.** -/
theorem preimage_eq_iff : a.preimage = b.preimage ↔ a.SameButCuts b ∨ a.Overruns b ∨ b.Overruns a := by
  rw [preimage_eq, preimage_eq, List.append_cancel_left_eq, append_eq_append_cases]
  constructor
  · rintro (⟨t, hnames, hremainder⟩ | ⟨t, hnames, hremainder⟩)
    · exact (sameButCuts_or_overruns hnames hremainder).imp_right .inl
    · exact (sameButCuts_or_overruns hnames hremainder).imp SameButCuts.symm .inr
  · rintro (⟨hnames, hheight, hending⟩ | ⟨t, -, h⟩ | ⟨t, -, h⟩)
    · refine .inl ⟨"", ?_, remainder_inj.2 ⟨hheight, hending⟩⟩
      simp [hnames]
    · exact .inl ⟨t, h⟩
    · exact .inr ⟨t, h⟩

/-- A digest can be taken for the end of the block's hash, and no digest for an empty one. -/
theorem exists_sameButCuts (a : FreshnessInput) : ∃ b, b.intentDigest.isSome ≠ a.intentDigest.isSome ∧ a.SameButCuts b := by
  cases hdigest : a.intentDigest with
  | none =>
    refine ⟨{ a with intentDigest := some "" }, by simp, rfl, rfl, ?_⟩
    simp [ending, hdigest]
  | some d =>
    refine ⟨{ a with blockHash := a.blockHash ++ d, intentDigest := none }, by simp, rfl, rfl, ?_⟩
    simp [ending, hdigest]

/-- **What the hashed bytes of an input leave open**: they are shared by the inputs that differ from it in where a name
or the hash is cut, by those whose names overrun its own, by those whose names its own overrun, and by no others.
There is always one, and one with a digest for every one without. -/
theorem preimage_shared (a : FreshnessInput) :
    (∀ b : FreshnessInput, b.preimage = a.preimage ↔ b.SameButCuts a ∨ b.Overruns a ∨ a.Overruns b) ∧
      ∃ b : FreshnessInput, b.preimage = a.preimage ∧ b.intentDigest.isSome ≠ a.intentDigest.isSome := by
  obtain ⟨b, hdigest, hcuts⟩ := exists_sameButCuts a
  exact ⟨fun b => preimage_eq_iff, b, preimage_eq_iff.2 (.inl hcuts.symm), hdigest⟩

/-- Another user of another relying party has the bytes of this one. -/
theorem preimage_of_other_user :
    let own : FreshnessInput := ⟨"alice.testnet", "example.com", 1000, "hash-1000", none⟩
    let other : FreshnessInput := ⟨"alice.testnete", "xample.com", 1000, "hash-1000", none⟩
    own.preimage = other.preimage ∧ own ≠ other := by
  decide

/-- The names of the second input overrun the first byte of the first one's block, which is taken for a letter. -/
example :
    let own : FreshnessInput := ⟨"alice", "example.com", 97, "hash-97", none⟩
    let other : FreshnessInput := ⟨"alice", "example.coma", 7493989779944505344, "ash-97", none⟩
    own.preimage = other.preimage ∧ own.blockHeight ≠ other.blockHeight := by
  decide

end PasskeyConsent.FreshnessInput

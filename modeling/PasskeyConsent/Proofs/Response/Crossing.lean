import PasskeyConsent.Proofs.Calendar.Reading
import PasskeyConsent.Proofs.Response.Message
/-!
# Responses on the other side

Of all the parts of a response only the expiry of a warm session can be one that does not cross whole, and an expiry
that has been read is not.  So a response is the same on the other side exactly when its expiry can be read back
(`Response.ofJson_message_iff`).
-/
namespace PasskeyConsent

/-! ## The parts of a response -/

theorem Instant.ofJson_str_eq_ok_iff {s : String} {t : Instant} : codec.ofJson (.str s) = .ok t ↔ Instant.read s = .ok t := by
  have hread : codec.ofJson (.str s) = (Instant.read s).mapError fun e => ⟨.other e.message, none⟩ := by
    unfold Codec.ofJson codec Document.ofJson
    dsimp only
    cases Instant.read s <;> rfl
  rw [hread]
  cases Instant.read s with
  | error e => exact ⟨nofun, nofun⟩
  | ok t' => exact ⟨fun h => congrArg Except.ok (Except.ok.inj h), fun h => congrArg Except.ok (Except.ok.inj h)⟩

theorem Instant.carries {t : Instant} (h : t.Proper) : codec.Carries t :=
  ⟨nofun, rfl, ofJson_str_eq_ok_iff.2 (read_text h)⟩

theorem Instant.proper_of_decode {d : Document} {t : Instant} (h : codec.decode d = .ok t) : t.Proper := by
  cases d with
  | str span s =>
    unfold codec at h
    dsimp only at h
    split at h
    · rename_i t' hread
      cases h
      exact proper_of_read hread
    · cases h
  | _ => cases h

theorem ErrorCode.carries (code : ErrorCode) : codec.Carries code := by
  cases code <;> exact ⟨nofun, rfl, rfl⟩

open Codec PasskeyConsent.Field

theorem CredentialResponse.carries (c : CredentialResponse) : codec.Carries c := by
  refine carries_record ?_ ?_ ⟨carries_text _, carries_omitted fun _ _ => carries_string _,
    carries_omitted fun _ _ => carries_string _, carries_omitted fun _ _ => carries_string _,
    carries_omitted fun _ _ => carries_string _, carries_omittedList fun _ _ => carries_string _, trivial⟩ rfl
  · simp [Shape.Distinct, Shape.names, required, omitted, omittedList]
  · simp [Shape.External, Shape.keys, internalKeys, required, omitted, omittedList]

theorem CredentialRecord.carries (c : CredentialRecord) : codec.Carries c := by
  refine carries_record ?_ ?_ ⟨carries_text _, carries_text _, carries_text _, carries_omitted fun _ _ => carries_string _,
    carries_required c.response.carries, trivial⟩ rfl
  · simp [Shape.Distinct, Shape.names, required, omitted]
  · simp [Shape.External, Shape.keys, internalKeys, required, omitted]

/-! The records that an expiry stands in, from both sides. -/

theorem WarmSessionGrant.carries {g : WarmSessionGrant} (h : g.expiresAt.Proper) : codec.Carries g := by
  refine carries_record ?_ ?_ ⟨carries_text _, carries_required (carries_u32 _), carries_required (Instant.carries h),
    trivial⟩ rfl
  · simp [Shape.Distinct, Shape.names, required]
  · simp [Shape.External, Shape.keys, internalKeys, required]

theorem WarmSessionGrant.proper_of_decode {d : Document} {g : WarmSessionGrant} (h : codec.decode d = .ok g) :
    g.expiresAt.Proper := by
  obtain ⟨-, -, hexpiry, -⟩ := reads_of_record (by simp [Shape.Distinct, Shape.names, required]) (fun _ => rfl) h
  obtain ⟨e, he⟩ := exists_of_reads_required hexpiry
  exact Instant.proper_of_decode he

theorem Response.carries {r : Response} (h : ∀ g ∈ r.warmSession, g.expiresAt.Proper) : codec.Carries r := by
  refine carries_record ?_ ?_ ⟨carries_text _, carries_required (carries_boolean _),
    carries_omitted fun _ _ => carries_string _, carries_omitted fun code _ => code.carries,
    carries_omitted fun c _ => c.carries, carries_omitted fun c _ => c.carries, carries_omitted fun c _ => c.carries,
    carries_omitted fun _ _ => carries_string _, carries_omitted fun g hg => WarmSessionGrant.carries (h g hg),
    trivial⟩ rfl
  · simp [Shape.Distinct, Shape.names, required, omitted]
  · simp [Shape.External, Shape.keys, internalKeys, required, omitted]

theorem Response.proper_of_decode {d : Document} {r : Response} (h : codec.decode d = .ok r) :
    ∀ g ∈ r.warmSession, g.expiresAt.Proper := by
  intro g hg
  obtain ⟨-, -, -, -, -, -, -, -, hwarm, -⟩ :=
    reads_of_record (by simp [Shape.Distinct, Shape.names, required, omitted]) (fun _ => rfl) h
  dsimp only at hwarm
  rw [Option.mem_def.1 hg] at hwarm
  obtain ⟨e, he⟩ := exists_of_reads_omitted hwarm
  exact WarmSessionGrant.proper_of_decode he

/-! ## The response -/

/-- **A response is the same on the other side** exactly when the expiry that it may carry can be read back. -/
theorem Response.ofJson_message_iff (r : Response) :
    codec.ofJson r.message = .ok r ↔ ∀ g ∈ r.warmSession, Instant.read g.expiresAt.text = .ok g.expiresAt := by
  constructor
  · exact fun h g hg => Instant.read_text (proper_of_decode h g hg)
  · intro h
    obtain ⟨-, hcrosses, hback⟩ := carries fun g hg => Instant.proper_of_read (h g hg)
    unfold message
    rw [hcrosses]
    exact hback

/-- **A response survives the boundary**: it is read on the other side as it was, and what any value has been read as
does not change when it is written and read again, with or without a crossing in between. -/
theorem Response.same_on_other_side :
    (∀ r : Response, (∀ g ∈ r.warmSession, Instant.read g.expiresAt.text = .ok g.expiresAt) →
      codec.ofJson (Transferable.ofJson (codec.encode r)).sanitize = .ok r) ∧
    ∀ (j : Json) (r : Response), codec.ofJson j = .ok r →
      codec.ofJson (codec.encode r) = .ok r ∧ codec.ofJson (Transferable.ofJson (codec.encode r)).sanitize = .ok r := by
  refine ⟨fun r h => r.ofJson_message_iff.2 h, fun j r h => ⟨?_, r.ofJson_message_iff.2 fun g hg => ?_⟩⟩
  · exact (carries (proper_of_decode h)).readsBack
  · exact Instant.read_text (proper_of_decode h g hg)

/-- A response with something in every part, some of it empty, and an expiry within a leap second. -/
def Response.sample : Response where
  requestId := "r"
  confirmed := true
  error := some ""
  errorCode := some .userCancelled
  credential := some ⟨"c", "cg", "public-key", none, ⟨"e30", some "", none, some "dQ", none, ["usb", ""]⟩⟩
  vrfChallenge := some ⟨"i", "o", "p", "k", "u", "rp", "7", "h", none⟩
  transactionContext := some ⟨"ed25519:k", "1", "2", "7", "h", []⟩
  prfOutput := some "cA"
  warmSession := some ⟨"s", 2, ⟨1483228799, 1500000000⟩⟩

/-- The sample crosses; and a value with a member too many, a null and an expiry in another zone is read once and for
all. -/
theorem Response.same_on_other_side_sample :
    Instant.read (Instant.text ⟨1483228799, 1500000000⟩) = .ok ⟨1483228799, 1500000000⟩ ∧
    codec.ofJson (Transferable.ofJson (codec.encode sample)).sanitize = .ok sample ∧
    let j : Json := .obj [("confirmed", .bool true), ("requestId", .str "r"), ("more", .null), ("error", .null),
      ("warmSession", .obj [("expiresAt", .str "2017-01-01 00:59:60.5+01:00"), ("remainingUses", .int 2),
        ("sessionId", .str "s")])]
    let r : Response :=
      { requestId := "r", confirmed := true, warmSession := some ⟨"s", 2, ⟨1483228799, 1500000000⟩⟩ }
    codec.ofJson j = .ok r ∧ codec.ofJson (codec.encode r) = .ok r ∧
      codec.ofJson (Transferable.ofJson (codec.encode r)).sanitize = .ok r := by
  have hread : Instant.read (Instant.text ⟨1483228799, 1500000000⟩) = .ok ⟨1483228799, 1500000000⟩ := rfl
  refine ⟨hread, same_on_other_side.1 sample ?_, ?_⟩
  · rintro g ⟨⟩
    exact hread
  · intro j r
    have hj : codec.ofJson j = .ok r := by decide +kernel
    exact ⟨hj, same_on_other_side.2 j r hj⟩

end PasskeyConsent

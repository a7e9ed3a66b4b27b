import PasskeyConsent.Proofs.Concurrency.Simulation
import PasskeyConsent.Proofs.Confirmation.Coherence
import PasskeyConsent.Proofs.Confirmation.Restraint
import PasskeyConsent.Proofs.Nonce.Ownership
/-!
# The form of answers

A decline tells four things.  What a confirmation tells besides its id follows from the payload of its request: whether
there is a credential, a challenge, a context of transactions and a warm session; and the numbers in the context are
those that were reserved for the request, one for each transaction and at least one (`handle_answers_in_form`).
-/
namespace PasskeyConsent

open Observer Confirmation

variable {α : Type}

/-- The transactions that a request is about. -/
def Payload.transactions : Payload → List Transaction
  | .signTransaction p => p.transactions
  | .linkDevice p => p.transactions
  | .registerAccount _ | .decryptPrivateKey _ | .signMessage _ | .showPrivateKey _ => []

theorem Payload.nonceCount_eq {p : Payload} (h : p.sendsTransactions = true) :
    p.nonceCount = max p.transactions.length 1 := by
  cases p with
  | signTransaction | linkDevice => rfl
  | registerAccount | decryptPrivateKey | signMessage | showPrivateKey => cases h

/-- A decline tells its id, its text and its code, and that it is no confirmation. -/
structure TellsDecline (m : Json) : Prop where
  confirmed : m.get? "confirmed" = some (.bool false)
  members : ∀ key, (m.get? key).isSome = ["requestId", "confirmed", "error", "errorCode"].contains key

/-- The numbers of a context are those that a task has reserved in a step: as many as are needed, each greater than the
one before, and kept as reserved by the sequencer from then on. -/
structure ReservedIn (task : Nat) (needed : Nat) (t : TransactionContext) (reserving : Step α) (picked : List Nat) :
    Prop where
  happening : reserving.happening = .accessed task (.reserve needed) (.ok picked)
  count : picked.length = needed
  increasing : picked.Pairwise (· < ·)
  kept : ∀ n ∈ picked, n ∈ reserving.after.host.sequencer.reserved
  told : t.reservedNonces = picked.map toString
  next : some t.nextNonce = t.reservedNonces.head?

/-- What a confirmation tells, by the payload of its request. -/
structure TellsApproval (p : Payload) (task : Nat) (ss : List (Step α)) (m : Json) : Prop where
  confirmed : m.get? "confirmed" = some (.bool true)
  credential : (m.get? "credential").isSome = !p.usesSession
  vrfChallenge : (m.get? "vrfChallenge").isSome = p.bindsChallenge
  warmSession : (m.get? "warmSession").isSome = p.tellsSession
  transactionContext : (m.get? "transactionContext").isSome = p.sendsTransactions
  reserved : ∀ v, m.get? "transactionContext" = some v → ∃ t, v = TransactionContext.codec.encode t ∧
    ∃ reserving ∈ ss, ∃ picked, ReservedIn task (max p.transactions.length 1) t reserving picked
  /-- The key of the session has been dispensed, if the request signs on one. -/
  dispensed : p.usesSession = true → (dispensesOf task ss).length = 1

/-- A request has left alone what it has nothing to do with. -/
structure Abstains (p : Payload) (task : Nat) (ss : List (Step α)) : Prop where
  spared : ∀ e ∈ historyOf task ss, e.topic ∉ p.spares
  dispensed : p.usesSession = true → (dispensesOf task ss).length ≤ 1

/-! ## Declines -/

theorem TellsDecline.of_declined (id : String) (code : ErrorCode) (text : String) :
    TellsDecline (Response.declined id code text).message := by
  refine ⟨Response.message_confirmed _, fun key => ?_⟩
  rw [Response.get?_message_declined, Json.lookup_isSome]
  rfl

/-! ## The numbers of a context -/

/-- What a task reserves are as many numbers as it asks for, in increasing order, and they are kept as reserved. -/
theorem Wallet.Goes.reserved {w w' : Wallet α} {move : Move α} {i count : Nat} {picked : List Nat}
    (g : w.Goes move (.accessed i (.reserve count) (.ok picked)) w') :
    picked.length = count ∧ picked.Pairwise (· < ·) ∧ ∀ n ∈ picked, n ∈ w'.host.sequencer.reserved := by
  obtain ⟨s, hreserve⟩ := g.reserve_ok rfl
  obtain ⟨-, -, hcount, hincreasing, -, -⟩ := Sequencer.reserve_eq_ok hreserve
  exact ⟨hcount, hincreasing, fun n hn => (g.takes rfl).mem_reserved hn⟩

theorem BaseContext.nextNonce_of_ne_nil (c : BaseContext) {nonces : List String} (h : nonces ≠ []) :
    some (c.toTransactionContext nonces).nextNonce = nonces.head? := by
  cases nonces with
  | nil => exact absurd rfl h
  | cons n rest => rfl

/-- The numbers of a context that was booked are those that were reserved for it. -/
theorem Booking.Books.reservedIn {w w' : Wallet α} {ss : List (Step α)} (run : Run w ss w') {p : Payload} {i : Nat}
    {t : TransactionContext} (h : Books p (some t) (bookingsOf i ss)) :
    ∃ reserving ∈ ss, ∃ picked, ReservedIn i (max p.transactions.length 1) t reserving picked := by
  generalize hbookings : bookingsOf i ss = booked at h
  cases h with
  | @numbers c _ hp _ picked =>
    obtain ⟨before, reserving, after, rfl, -, hreserving, -⟩ := step_of_booking _ hbookings
    have hmem : reserving ∈ before ++ reserving :: after := List.mem_append_right _ List.mem_cons_self
    have hgoes := run.goes hmem
    rw [hreserving] at hgoes
    obtain ⟨hcount, hincreasing, hkept⟩ := hgoes.reserved
    rw [Payload.nonceCount_eq hp] at hreserving hcount
    have hsome : picked.map toString ≠ [] := by
      rw [Ne, List.map_eq_nil_iff, ← List.length_eq_zero_iff, hcount]
      omega
    exact ⟨reserving, hmem, picked, hreserving, hcount, hincreasing, hkept, rfl, c.nextNonce_of_ne_nil hsome⟩

/-! ## Runs -/

section

variable {setup : Setup} {raw m : Json} {q : Request} {w w' : Wallet (Except Error Unit)}
  {ss ss₁ ss₂ : List (Step (Except Error Unit))} {st posting : Step (Except Error Unit)}

/-- A confirmation tells what was booked for the request. -/
theorem Run.books (run : Run w ss w') (hst : st ∈ ss) (hstart : st.move = .start (handle setup raw))
    (hread : Request.read raw = .ok q) (hss : ss = ss₁ ++ posting :: ss₂)
    (hposting : posting.happening = .called st.before.tasks.length (.post m))
    (hconfirmed : m.get? "confirmed" = some (.bool true)) :
    ∃ t, m.get? "transactionContext" = Option.map TransactionContext.codec.encode t ∧
      Booking.Books q.payload t (bookingsOf st.before.tasks.length ss₁) := by
  have hpayload : ∀ q', Request.read raw = .ok q' → q'.payload = q.payload := by
    intro q' hq'
    rw [hread] at hq'
    cases hq'
    rfl
  have hevent : posting.happening.event? st.before.tasks.length = some (.called (.post m)) :=
    Happening.event?_of_eq hposting
  have hallowed := run.allowed_since_start hst hstart rfl (Booking.handle_books setup raw q.payload hpayload) hss hevent
    hconfirmed
  rwa [Booking.booker_seen] at hallowed

/-- An approval that fits a payload tells what the payload asks for. -/
theorem Response.Fits.tellsApproval {r : Response} (h : r.Fits q.id q.payload) (run : Run w ss w') (hst : st ∈ ss)
    (hstart : st.move = .start (handle setup raw)) (hread : Request.read raw = .ok q) (hss : ss = ss₁ ++ posting :: ss₂)
    (hposting : posting.happening = .called st.before.tasks.length (.post r.message)) :
    TellsApproval q.payload st.before.tasks.length ss₁ r.message := by
  have hconfirmed : r.message.get? "confirmed" = some (.bool true) := by rw [message_confirmed, h.confirmed]
  refine
    { confirmed := hconfirmed
      credential := (message_credential_isSome r).trans h.credential
      vrfChallenge := ?_
      warmSession := (message_warmSession_isSome r).trans h.warmSession
      transactionContext := ?_
      reserved := fun v hv => ?_
      dispensed := fun huses => run.dispenses_eq_one hst hstart hread huses hss hposting hconfirmed }
  · rw [message_vrfChallenge, Option.isSome_map, h.vrfChallenge]
  · rw [message_transactionContext, Option.isSome_map, h.transactionContext]
  · obtain ⟨t, ht, hbooks⟩ := run.books hst hstart hread hss hposting hconfirmed
    rw [ht] at hv
    obtain ⟨t, rfl, rfl⟩ := Option.map_eq_some_iff.1 hv
    obtain ⟨before, -, -⟩ := (hss ▸ run : Run w (ss₁ ++ posting :: ss₂) w').cut
    exact ⟨t, rfl, hbooks.reservedIn before⟩

/-- **What is posted for an envelope has the form that its payload asks for**, in every run of a wallet, beside any
number of other tasks and whatever the outside answers: it is a decline with its four members, or the confirmation of a
request that was read.  And the request leaves alone what it has nothing to do with, from its start to its end. -/
theorem handle_answers_in_form (run : Run w ss w') (hst : st ∈ ss) (hstart : st.move = .start (handle setup raw)) :
    (∀ q, Request.read raw = .ok q → Abstains q.payload st.before.tasks.length ss) ∧
      ∀ ss₁ posting ss₂ m, ss = ss₁ ++ posting :: ss₂ →
        posting.happening = .called st.before.tasks.length (.post m) →
        TellsDecline m ∨ ∃ q, Request.read raw = .ok q ∧ TellsApproval q.payload st.before.tasks.length ss₁ m := by
  refine ⟨fun q hread => ?_, fun ss₁ posting ss₂ m hss hposting => ?_⟩
  · exact ⟨fun e he => run.spares hst hstart hread he, run.dispenses_le_one hst hstart hread⟩
  · obtain ⟨r, hanswers, rfl⟩ := run.posts_answer hst hstart hss hposting
    generalize hread : Request.read raw = read at hanswers
    cases hanswers with
    | rejection e => exact .inl (.of_declined _ _ _)
    | decline q code hredacted => exact .inl (.of_declined _ _ _)
    | approval q hfits => exact .inr ⟨q, rfl, hfits.tellsApproval run hst hstart hread hss hposting⟩

theorem handle_answers_in_form_refuseApproval :
    ∃ ss w' ss₁ posting ss₂ q, Run ⟨warmHost, []⟩ ss w' ∧
      movesOf ss = .start (handle quietSetup warmEnvelope) :: refuseApproval ∧ ss = ss₁ ++ posting :: ss₂ ∧
      posting.happening = .called 0 (.post warmApproval.message) ∧ Request.read warmEnvelope = .ok q ∧
      Abstains q.payload 0 ss ∧ TellsApproval q.payload 0 ss₁ warmApproval.message := by
  obtain ⟨ss, w', st, ss₁, posting, ss₂, run, hmoves, hst, hstart, hfirst, hss, hposting⟩ :=
    exists_run_posting (h := warmHost) (handle quietSetup warmEnvelope) refuseApproval (m := warmApproval.message)
      (by decide +kernel)
  obtain ⟨habstains, htells⟩ := handle_answers_in_form run hst hstart
  rw [hfirst] at habstains htells
  rcases htells ss₁ posting ss₂ _ hss hposting with hdecline | ⟨q, hread, happroval⟩
  · have hconfirmed := hdecline.confirmed
    rw [Response.message_confirmed] at hconfirmed
    cases hconfirmed
  · exact ⟨ss, w', ss₁, posting, ss₂, q, run, hmoves, hss, hposting, hread, habstains q hread, happroval⟩

end

end PasskeyConsent

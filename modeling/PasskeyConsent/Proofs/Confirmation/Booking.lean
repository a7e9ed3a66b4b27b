import PasskeyConsent.Proofs.Concurrency.Composition
import PasskeyConsent.Proofs.Confirmation.Topics
import PasskeyConsent.Proofs.Response.Message
/-!
# What a request books

A request that sends transactions looks first whether the sequencer is bound to a key of its account, takes the context
of the turn, which may be one that others have kept, and reserves its numbers much later.  What a confirmation tells is
the context together with these numbers (`handle_books`).  The record of a request keeps only what it does with the key,
the turn and the numbers; before an approval that is one look at the key, one context and one reservation.
-/
namespace PasskeyConsent

variable {α β ε : Type}

/-- Whether the approval of a request tells a context for transactions. -/
def Payload.sendsTransactions : Payload → Bool
  | .signTransaction _ | .linkDevice _ => true
  | .registerAccount _ | .decryptPrivateKey _ | .signMessage _ | .showPrivateKey _ => false

/-- The events of a booking. -/
def Event.isBooking : Event → Bool
  | .accessed .boundKey _ | .accessed .youngTurn _ | .accessed (.keepTurn _) _ | .accessed (.reserve _) _ => true
  | _ => false

namespace Booking

open Observer Program Confirmation

/-- How a request comes by a context for an account: the key that is bound is one of the account, and the context is the
one that is kept or else is fetched for the key that is bound then. -/
inductive Obtains (account : String) (c : BaseContext) : History → Prop
  | kept {k : AccessKey} (hk : k.account = account) :
    Obtains account c [.accessed .boundKey (some k), .accessed .youngTurn (some c)]
  | fetched {k k' : AccessKey} (hk : k.account = account) (hk' : k'.publicKey = c.publicKey) :
    Obtains account c [.accessed .boundKey (some k), .accessed .youngTurn none, .accessed .boundKey (some k'),
      .accessed (.keepTurn c) ()]

/-- What a request has done for the context that its approval tells. -/
inductive Books (p : Payload) : Option TransactionContext → History → Prop
  | nothing (hp : p.sendsTransactions = false) : Books p none []
  | numbers {c : BaseContext} {h : History} (hp : p.sendsTransactions = true) (hc : Obtains p.account c h)
    (picked : List Nat) : Books p (some (c.toTransactionContext (picked.map toString)))
      (h ++ [.accessed (.reserve p.nonceCount) (.ok picked)])

/-- A context is told just when the operation sends transactions. -/
theorem Books.isSome_eq {p : Payload} {t : Option TransactionContext} {h : History} (hbooks : Books p t h) :
    t.isSome = p.sendsTransactions := by
  cases hbooks with
  | nothing hp => exact hp.symm
  | numbers hp => exact hp.symm

/-- The one who sees to it that a confirmation tells what was booked. -/
def booker (p : Payload) : Observer History where
  after h e := if e.isBooking then h ++ [e] else h
  allows
    | h, .called (.post m) => m.get? "confirmed" = some (.bool true) →
      ∃ t, m.get? "transactionContext" = Option.map TransactionContext.codec.encode t ∧ Books p t h
    | _, _ => True

theorem booker_seen (p : Payload) (h₁ h₂ : History) :
    (booker p).seen h₁ h₂ = h₁ ++ h₂.filter Event.isBooking := seen_filter (fun _ _ => rfl) h₁ h₂

/-! ## Steps -/

/-- A step goes on as `P` says. -/
abbrev Brings (payload : Payload) (p : ExceptT ε Program α) (P : α → History → Prop) (h : History) : Prop :=
  (booker payload).Brings (fun _ => True) p P h

variable {payload : Payload} {h : History} {setup : Setup} {id : String}

/-- The topics that have nothing to do with bookings. -/
abbrev otherTopics : List Topic :=
  [.clock, .binding, .chain, .release, .session, .freshness, .ceremony, .handover, .registry, .cancellation, .state, .surface,
   .holdings, .preferences, .breakdown]

theorem booker_overlooks : (booker payload).OverlooksTopics otherTopics := by
  refine .of_events rfl fun e he s => ?_
  cases e with
  | accessed a x => cases a <;> first | exact absurd he Bool.false_ne_true | exact ⟨trivial, rfl⟩
  | called c => cases c <;> first | exact absurd he Bool.false_ne_true | exact ⟨trivial, rfl⟩
  | answered c x => cases c <;> first | exact absurd he Bool.false_ne_true | exact ⟨trivial, rfl⟩
  | waited w x => exact ⟨trivial, rfl⟩
  | stopped => exact absurd he Bool.false_ne_true

/-- A step about other things leaves everything as it was. -/
theorem after_topics {topics : List Topic} {F : ε → Prop} {p : ExceptT ε Program α}
    {f : α → ExceptT ε Program β} {Q : β → History → Prop} (hp : p.run.KeepsTo topics (Ends anyResult F))
    (ht : topics ⊆ otherTopics) (hf : ∀ a, Brings payload (f a) Q h) : Brings payload (p >>= f) Q h :=
  Observer.Brings.after_topics (booker_overlooks.mono ht) hp trivial hf

/-- The context that is fetched is that of the key that was read. -/
theorem fetch_brings (h : History) :
    Brings payload Turn.fetch (fun c h' => ∃ k, k.publicKey = c.publicKey ∧
      h' = h ++ [.accessed .boundKey (some k), .accessed (.keepTurn c) ()]) h := by
  refine fun own => meets_liftAccess fun k _ => ⟨trivial, ?_⟩
  cases k with
  | none => trivial
  | some k =>
    refine meets_call ⟨trivial, trivial, trivial, fun answer => ⟨trivial, ?_⟩⟩
    cases answer with
    | error e => trivial
    | ok info =>
      refine meets_call ⟨trivial, trivial, trivial, fun block => ⟨trivial, ?_⟩⟩
      cases block with
      | error e => trivial
      | ok block =>
        refine meets_liftAccess fun next _ => ⟨trivial, meets_liftAccess fun _ _ => ⟨trivial, k, rfl, ?_⟩⟩
        exact List.append_assoc h _ _

theorem context_brings {account : String} {k : AccessKey} (hk : k.account = account) :
    Brings payload (Turn.context false) (fun c h' => Obtains account c h') [.accessed .boundKey (some k)] := by
  refine fun own => meets_context (Ends (fun c _ h' => Obtains account c h') fun _ _ _ => True) trivial trivial
    (fun _ => trivial) (fun c _ => .kept hk) (fun kept hforce => ?_) fun r _ _ hr => ⟨trivial, ?_⟩
  · cases kept with
    | some c => exact absurd (hforce rfl) Bool.false_ne_true
    | none =>
      refine (fetch_brings _ own).imp fun r own h' hr => ?_
      cases r with
      | error e => trivial
      | ok c =>
        obtain ⟨k', hk', rfl⟩ := hr
        exact .fetched hk hk'
  · cases r with
    | ok c => exact hr
    | error e => trivial

theorem turnContext_brings (account : String) :
    Brings payload (Stage.turnContext account) (fun c h' => Obtains account c h') [] := by
  refine fun own => meets_liftAccess fun k _ => ⟨trivial, ?_⟩
  by_cases hbound : k.map (·.account) = some account
  · obtain ⟨k, rfl, hk⟩ := Option.map_eq_some_iff.1 hbound
    rw [if_neg (not_not_intro hbound)]
    exact Observer.Brings.orStop (context_brings hk) own
  · rw [if_pos hbound]
    trivial

theorem reserveNonces_brings (h : History) (count : Nat) :
    Brings payload (Stage.reserveNonces id count) (fun nonces h' => ∃ picked, nonces = picked.map toString ∧
      h' = h ++ [.accessed (.reserve count) (.ok picked)]) h := by
  refine fun own => meets_liftAccess fun _ _ => ⟨trivial, ?_⟩
  have hreserve : Brings payload (attempt (access (.reserve count)))
      (fun picked h' => h' = h ++ [.accessed (.reserve count) (.ok picked)]) h := by
    intro own r _
    cases r with
    | ok picked => exact ⟨trivial, rfl⟩
    | error e => exact ⟨trivial, trivial⟩
  exact (hreserve.orStop.bind fun picked h' hh => Observer.Brings.done ⟨picked, rfl, hh⟩) own

/-! ## Flows -/

/-- What an approval tells was booked. -/
def Approves (payload : Payload) (r : Response) (h : History) : Prop := Books payload r.transactionContext h

theorem signWithCeremony_brings (p : SignTransactionPayload) :
    Brings (.signTransaction p) (signWithCeremony setup id p (Payload.signTransaction p).nonceCount)
      (Approves (.signTransaction p)) [] := by
  refine (turnContext_brings p.account).bind fun base h hbase => ?_
  refine after_topics (keepsTo_bootstrap _ _ _) (by decide) fun _ => ?_
  refine after_topics (keepsTo_bindFreshness _ _ _ _) (by decide) fun challenge => ?_
  refine after_topics (keepsTo_collectAssertion _ _ _ _) (by decide) fun collected => ?_
  refine (reserveNonces_brings h _).bind fun nonces h' hh => ?_
  obtain ⟨picked, rfl, rfl⟩ := hh
  have hbooks := Books.numbers (p := .signTransaction p) rfl hbase picked
  refine after_topics (keepsTo_deliverSeed _ _ _) (by decide) fun _ => ?_
  dsimp only
  split
  · exact Observer.Brings.done hbooks
  · exact after_topics (only_map some (keepsTo_grantSession _ _ _)) (by decide) fun _ => Observer.Brings.done hbooks

theorem signOnSession_brings (p : SignTransactionPayload) :
    Brings (.signTransaction p) (signOnSession id p (Payload.signTransaction p).nonceCount)
      (Approves (.signTransaction p)) [] := by
  refine (turnContext_brings p.account).bind fun base h hbase => ?_
  refine after_topics (keepsTo_consume _ _) (by decide) fun grant => ?_
  refine after_topics (keepsTo_dispense grant _) (by decide) fun _ => ?_
  refine (reserveNonces_brings h _).bind fun nonces h' hh => ?_
  obtain ⟨picked, rfl, rfl⟩ := hh
  exact fun own => meets_liftAccess fun _ _ =>
    ⟨trivial, Books.numbers (p := .signTransaction p) rfl hbase picked⟩

theorem linkDevice_brings (p : LinkDevicePayload) :
    Brings (.linkDevice p) (linkDevice setup id p (Payload.linkDevice p).nonceCount) (Approves (.linkDevice p)) [] := by
  refine (turnContext_brings p.account).bind fun base h hbase => ?_
  refine after_topics (keepsTo_bootstrap _ _ _) (by decide) fun _ => ?_
  refine after_topics (keepsTo_bindFreshness _ _ _ _) (by decide) fun challenge => ?_
  refine after_topics (keepsTo_collectAssertion _ _ _ _) (by decide) fun collected => ?_
  refine (reserveNonces_brings h _).bind fun nonces h' hh => ?_
  obtain ⟨picked, rfl, rfl⟩ := hh
  have hbooks := Books.numbers (p := .linkDevice p) rfl hbase picked
  exact after_topics (keepsTo_deliverSeed _ _ _) (by decide) fun _ => Observer.Brings.done hbooks

theorem register_brings (p : RegisterAccountPayload) :
    Brings (.registerAccount p) (register setup id p) (Approves (.registerAccount p)) [] := by
  refine after_topics keepsTo_latestBlock (by decide) fun block => ?_
  refine fun own => meets_liftAccess fun _ _ => ⟨trivial, ?_⟩
  refine after_topics (keepsTo_bootstrap _ _ _) (by decide) (fun _ => ?_) own
  refine after_topics (keepsTo_bindFreshness _ _ _ _) (by decide) fun challenge => ?_
  refine after_topics (keepsTo_collectAttestation _ _ _ _) (by decide) fun collected => ?_
  exact after_topics (keepsTo_deliverSeed _ _ _) (by decide) fun _ => Observer.Brings.done (.nothing rfl)

theorem decryptKey_brings (p : DecryptPrivateKeyPayload) :
    Brings (.decryptPrivateKey p) (decryptKey setup id p) (Approves (.decryptPrivateKey p)) [] := by
  refine after_topics (keepsTo_collectAssertion _ _ _ _) (by decide) fun collected => ?_
  dsimp only
  split
  · exact Observer.Brings.done (.nothing rfl)
  · exact after_topics (keepsTo_deliverSeed _ _ _) (by decide) fun _ => Observer.Brings.done (.nothing rfl)

theorem signMessage_brings (p : SignMessagePayload) :
    Brings (.signMessage p) (signMessage setup id p) (Approves (.signMessage p)) [] := by
  refine after_topics keepsTo_latestBlock (by decide) fun block => ?_
  refine after_topics (keepsTo_bootstrap _ _ _) (by decide) fun _ => ?_
  refine after_topics (keepsTo_bindFreshness _ _ _ _) (by decide) fun challenge => ?_
  refine after_topics (keepsTo_collectAssertion _ _ _ _) (by decide) fun collected => ?_
  exact after_topics (keepsTo_deliverSeed _ _ _) (by decide) fun _ => Observer.Brings.done (.nothing rfl)

theorem showKey_brings (p : ShowPrivateKeyPayload) :
    Brings (.showPrivateKey p) (showKey setup id p) (Approves (.showPrivateKey p)) [] := by
  refine after_topics (keepsTo_collectAssertion _ _ _ _) (by decide) fun collected => ?_
  exact after_topics (keepsTo_deliverSeed _ _ _) (by decide) fun _ => Observer.Brings.done (.nothing rfl)

theorem perform_brings (r : Request) : Brings r.payload (perform setup r) (Approves r.payload) [] := by
  unfold perform
  cases r.payload with
  | signTransaction p =>
    cases hmode : p.authMode with
    | webAuthn =>
      simp only [hmode]
      exact signWithCeremony_brings p
    | warmSession =>
      simp only [hmode]
      exact signOnSession_brings p
  | registerAccount p => exact register_brings p
  | decryptPrivateKey p => exact decryptKey_brings p
  | signMessage p => exact signMessage_brings p
  | linkDevice p => exact linkDevice_brings p
  | showPrivateKey p => exact showKey_brings p

theorem run_brings (r : Request) (policy : ConfirmationPolicy) :
    Brings r.payload (run setup r policy) (Approves r.payload) [] := by
  unfold run
  split
  · exact after_topics (keepsTo_awaitUser r policy) (by decide) fun _ => perform_brings r
  · exact perform_brings r

/-! ## Answers -/

/-- What is posted is a decline, or an approval that tells what was booked. -/
theorem post_books {r : Response} {own : Holdings} (hr : r.confirmed = false ∨ Approves payload r h) :
    (booker payload).Meets anywhere (post r) (fun _ _ _ => True) own h := by
  have hbooks : r.message.get? "confirmed" = some (.bool true) → ∃ t,
      r.message.get? "transactionContext" = Option.map TransactionContext.codec.encode t ∧ Books payload t h := by
    intro hconfirmed
    rcases hr with hr | hr
    · rw [Response.message_confirmed, hr] at hconfirmed
      cases hconfirmed
    · exact ⟨r.transactionContext, Response.message_transactionContext r, hr⟩
  refine meets_call ⟨trivial, hbooks, trivial, fun x => ⟨trivial, ?_⟩⟩
  cases x with
  | ok => exact trivial
  | error e => exact trivial

theorem conclude_books {outcome : Except Stop Response} {own : Holdings}
    (hends : ∀ r, outcome = .ok r → Approves payload r h) :
    (booker payload).Meets anywhere (conclude setup id outcome) (fun _ _ _ => True) own h :=
  meets_conclude (booker_overlooks.mono (by decide)) (fun r hr _ => post_books (.inr (hends r hr)))
    (fun _ _ _ => post_books (.inl rfl)) fun _ _ => trivial

theorem handleRequest_books (r : Request) :
    (booker r.payload).Meets anywhere (handleRequest setup r) (fun _ _ _ => True) {} [] := by
  refine meets_handleRequest (fun _ _ _ _ => ⟨trivial, rfl⟩) (fun _ => ⟨⟨trivial, rfl⟩, fun _ => ⟨trivial, rfl⟩⟩)
    (fun _ _ => ⟨trivial, rfl⟩) (fun _ => trivial) trivial (fun policy => run_brings r policy {})
    (fun _ _ _ => ⟨trivial, trivial⟩) trivial fun outcome own h hends => ?_
  have happroves : ∀ r', outcome = .ok r' → Approves r.payload r' h := by
    rintro r' rfl
    exact hends
  exact (conclude_books happroves).imp fun _ _ _ _ => ⟨trivial, trivial⟩

/-- **A request confirms what it has booked.**  An envelope that cannot be read is not confirmed. -/
theorem handle_books (setup : Setup) (raw : Json) (payload : Payload)
    (hread : ∀ q, Request.read raw = .ok q → q.payload = payload) :
    (booker payload).Meets anywhere (handle setup raw) (fun _ _ _ => True) {} [] := by
  unfold handle
  cases hq : Request.read raw with
  | error e => exact post_books (.inl rfl)
  | ok q =>
    rw [← hread q hq]
    exact handleRequest_books q

end Booking
end PasskeyConsent

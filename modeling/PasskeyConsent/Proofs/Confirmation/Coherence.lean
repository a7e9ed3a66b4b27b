import PasskeyConsent.Proofs.Confirmation.Booking
import PasskeyConsent.Proofs.Confirmation.Flows
import PasskeyConsent.Proofs.Confirmation.Settlement
import PasskeyConsent.Proofs.Nonce.Rebinding
/-!
# Under which key numbers are reserved

A request looks at the key once, before it does anything else, and reserves its numbers last, under the key that is
bound by then.  In between, and before it for a context that is kept, others may bind the sequencer anew.  So two keys
that were read say under which key the numbers of a confirmation were reserved: the one that the request has checked and
the one that its context was fetched for, each as far as the sequencer was not bound anew since
(`handle_tells_reserved`).
-/
namespace PasskeyConsent

open Observer Program Confirmation

variable {α : Type}

/-! ## The turn of the host -/

/-- An access leaves the turn as it is or drops it, unless it keeps another context. -/
theorem Host.access_turn (h : Host) (task : Nat) (own : Holdings) (a : Access) {t : CachedTurn}
    (ht : (h.access task own a).2.1.turn = some t) : h.turn = some t ∨ a = .keepTurn t.context := by
  have change := h.access_changes task own a
  generalize (h.access task own a).2.1 = h' at change ht
  cases change with
  | keepTurn c =>
    cases ht
    exact .inr rfl
  | dropTurn => cases ht
  | _ => exact .inl ht

namespace Wallet.Goes

variable {w w' : Wallet α} {m : Move α} {h : Happening}

/-- Another context is kept by a task, or from outside. -/
theorem turn {t : CachedTurn} (g : w.Goes m h w') (ht : w'.host.turn = some t) :
    w.host.turn = some t ∨ (∃ i, h = .accessed i (.keepTurn t.context) ()) ∨ m = .outside (.keepTurn t.context) := by
  cases g with
  | @access i u a next hu hp =>
    rcases w.host.access_turn i u.own a ht with ht | rfl
    · exact .inl ht
    · exact .inr (.inl ⟨i, rfl⟩)
  | outside a =>
    rcases w.host.access_turn _ _ a ht with ht | rfl
    · exact .inl ht
    · exact .inr (.inr rfl)
  | look hu hs hl =>
    rename_i i u v
    cases v <;> exact .inl ht
  | wait hu hl hr =>
    rename_i i u u' v x
    cases v <;> exact .inl ht
  | _ => exact .inl ht

/-- A young context is the one that is kept. -/
theorem youngTurn {i : Nat} {c : BaseContext} (g : w.Goes m (.accessed i .youngTurn (some c)) w') :
    ∃ t, w.host.turn = some t ∧ t.context = c := by
  obtain ⟨_, _, hyoung, -⟩ := g.exists_access rfl
  change w.host.youngTurn = some c at hyoung
  unfold Host.youngTurn at hyoung
  split at hyoung
  · split at hyoung
    · exact ⟨_, ‹_›, Option.some.inj hyoung⟩
    · cases hyoung
  · cases hyoung

end Wallet.Goes

/-! ## What was read -/

/-- The task has read that the sequencer was bound to a key; `since` is what was done after that. -/
def ReadBy (ss : List (Step α)) (task : Nat) (k : AccessKey) (since : List (Step α)) : Prop :=
  ∃ before read, ss = before ++ read :: since ∧ read.happening = .accessed task .boundKey (some k)

variable {w w' : Wallet α} {ss ss₁ ss₂ : List (Step α)} {st : Step α} {i : Nat} {k : AccessKey} {c : BaseContext}

theorem ReadBy.append {since : List (Step α)} (h : ReadBy ss i k since) (ss' : List (Step α)) :
    ReadBy (ss ++ ss') i k (since ++ ss') := by
  obtain ⟨before, read, rfl, hread⟩ := h
  exact ⟨before, read, by simp, hread⟩

namespace Run

/-- **A context that is kept was kept by a task**, if it was not there from the beginning. -/
theorem kept_of_turn (run : Run w ss w') (hturn : w.host.turn = none) (huses : ∀ st ∈ ss, st.move.UsesSequencer)
    {t : CachedTurn} (ht : w'.host.turn = some t) :
    ∃ ss₁ keeping ss₂ i, ss = ss₁ ++ keeping :: ss₂ ∧ keeping.happening = .accessed i (.keepTurn t.context) () := by
  let I (done : List (Step α)) (w : Wallet α) : Prop := (∀ st ∈ done, st.move.UsesSequencer) → ∀ t,
    w.host.turn = some t → ∃ st ∈ done, ∃ i, st.happening = .accessed i (.keepTurn t.context) ()
  have hkept : I ss w' := by
    refine run.along (fun _ t ht => ?_) fun done st rest _ _ hgoes ih hdone t ht => ?_
    · rw [hturn] at ht
      cases ht
    · obtain ⟨hbefore, hlast⟩ := List.forall_mem_append.1 hdone
      rcases hgoes.turn ht with ht | ⟨i, hi⟩ | hm
      · obtain ⟨st', hst', hkeeping⟩ := ih hbefore t ht
        exact ⟨st', List.mem_append_left _ hst', hkeeping⟩
      · exact ⟨st, List.mem_append_right _ (List.mem_singleton_self st), i, hi⟩
      · have hmove := hlast st (List.mem_singleton_self st)
        rw [hm] at hmove
        cases hmove
  obtain ⟨keeping, hmem, i, hi⟩ := hkept huses t ht
  obtain ⟨ss₁, ss₂, rfl⟩ := List.append_of_mem hmem
  exact ⟨ss₁, keeping, ss₂, i, rfl, hi⟩

/-- **A context is kept for a key that was read before.** -/
theorem read_of_kept (run : Run w ss w') (hempty : w.tasks = []) (huses : ∀ st ∈ ss, st.move.UsesSequencer)
    (hss : ss = ss₁ ++ st :: ss₂) (hkeeping : st.happening = .accessed i (.keepTurn c) ()) :
    ∃ account since, ReadBy ss i ⟨account, c.publicKey⟩ since := by
  have hevent : st.happening.event? i = some (.accessed (.keepTurn c) ()) := Happening.event?_of_eq hkeeping
  obtain ⟨⟨account, publicKey⟩, hmem, hk⟩ := run.allowed_query hempty huses hss hevent
  obtain ⟨h₁, h₂, hhistory⟩ := List.append_of_mem hmem
  obtain ⟨before, read, between, rfl, -, hread, -⟩ := step_of_event hhistory
  cases hk
  refine ⟨account, between ++ st :: ss₂, before, read, ?_, Happening.eq_of_event? hread⟩
  rw [hss]
  simp

end Run

/-! ## Bookings along a run -/

/-- What a task has booked, in order. -/
def bookingsOf (task : Nat) (ss : List (Step α)) : History := (historyOf task ss).filter Event.isBooking

theorem step_of_booking (h₁ : History) {h₂ : History} {e : Event} (h : bookingsOf i ss = h₁ ++ e :: h₂) :
    ∃ ss₁ st ss₂, ss = ss₁ ++ st :: ss₂ ∧ bookingsOf i ss₁ = h₁ ∧ st.happening = e.happening i ∧
      bookingsOf i ss₂ = h₂ := Run.step_of_filter h₁ h

/-- **Who has come by a context has read two keys**: one of its account, and that of the context, unless it was read by
another that has kept the context. -/
theorem Run.read_of_obtains (run : Run w ss w') (hempty : w.tasks = []) (hturn : w.host.turn = none)
    (huses : ∀ st ∈ ss, st.move.UsesSequencer) {account : String}
    (hobtains : Booking.Obtains account c (bookingsOf i ss)) :
    (∃ publicKey since, ReadBy ss i ⟨account, publicKey⟩ since) ∧
      ∃ task account' since, ReadBy ss task ⟨account', c.publicKey⟩ since := by
  generalize hbookings : bookingsOf i ss = h at hobtains
  cases hobtains with
  | @kept k hk =>
    obtain ⟨before, check, rest, rfl, -, hcheck, hrest⟩ := step_of_booking [] hbookings
    obtain ⟨between, take, later, rfl, -, htake, -⟩ := step_of_booking [] hrest
    obtain ⟨_, publicKey⟩ := k
    cases hk
    refine ⟨⟨publicKey, _, before, check, rfl, hcheck⟩, ?_⟩
    rw [← List.cons_append, ← List.append_assoc] at run huses ⊢
    obtain ⟨first, now, -⟩ := run.cut
    have hgoes := Wallet.Goes.of_step? now
    rw [htake] at hgoes
    obtain ⟨t, ht, rfl⟩ := hgoes.youngTurn
    have hthere : ∀ st ∈ before ++ check :: between, st.move.UsesSequencer :=
      fun st hst => huses st (List.mem_append_left _ hst)
    obtain ⟨ss₁, keeping, ss₂, task, heq, hkeeping⟩ := first.kept_of_turn hturn hthere ht
    obtain ⟨account', since, hread⟩ := first.read_of_kept hempty hthere heq hkeeping
    exact ⟨task, account', _, hread.append _⟩
  | @fetched k k' hk hk' =>
    obtain ⟨before, check, rest, rfl, -, hcheck, hrest⟩ := step_of_booking [] hbookings
    obtain ⟨between, read, later, rfl, -, hread, -⟩ := step_of_booking [_] hrest
    obtain ⟨_, publicKey⟩ := k
    obtain ⟨account', _⟩ := k'
    cases hk
    cases hk'
    exact ⟨⟨publicKey, _, before, check, rfl, hcheck⟩, i, account', later, before ++ check :: between, read, by simp,
      hread⟩

/-! ## The confirmation -/

/-- Under which key the numbers were reserved that are told together with a context: what has become of the key of the
account that the request has checked, and of the key that the context was fetched for. -/
structure ReservedUnder (p : Payload) (task : Nat) (c : BaseContext) (before : List (Step α)) (key : Option AccessKey)
    (checked fetched : List (Step α)) : Prop where
  account : ∃ publicKey, ReadBy before task ⟨p.account, publicKey⟩ checked ∧
    key = boundAfter (some ⟨p.account, publicKey⟩) (usesOf checked)
  publicKey : ∃ reader account, ReadBy before reader ⟨account, c.publicKey⟩ fetched ∧
    key = boundAfter (some ⟨account, c.publicKey⟩) (usesOf fetched)
  /-- It is the key of the account and of the context if the sequencer was not bound anew in the meantime. -/
  coherent : (∀ u ∈ usesOf checked ++ usesOf fetched, ¬ u.Resets) → key = some ⟨p.account, c.publicKey⟩

theorem Run.reservedUnder (run : Run w ss w') (hempty : w.tasks = []) (hturn : w.host.turn = none)
    (huses : ∀ st ∈ ss, st.move.UsesSequencer) {p : Payload}
    (hobtains : Booking.Obtains p.account c (bookingsOf i ss)) :
    ∃ checked fetched, ReservedUnder p i c ss w'.host.sequencer.key checked fetched := by
  have hkey {j : Nat} {k : AccessKey} {since : List (Step α)} (hread : ReadBy ss j k since) :
      w'.host.sequencer.key = boundAfter (some k) (usesOf since) := by
    obtain ⟨before, read, rfl, hread⟩ := hread
    exact run.key_of_read hread
  obtain ⟨⟨publicKey, checked, hcheck⟩, reader, account, fetched, hfetch⟩ :=
    run.read_of_obtains hempty hturn huses hobtains
  refine ⟨checked, fetched, ⟨publicKey, hcheck, hkey hcheck⟩, ⟨reader, account, hfetch, hkey hfetch⟩, fun hkept => ?_⟩
  obtain ⟨hsince, hsince'⟩ := List.forall_mem_append.1 hkept
  have hchecked : w'.host.sequencer.key = some ⟨p.account, publicKey⟩ :=
    (hkey hcheck).trans (boundAfter_of_not_resets hsince _)
  have hfetched : w'.host.sequencer.key = some ⟨account, c.publicKey⟩ :=
    (hkey hfetch).trans (boundAfter_of_not_resets hsince' _)
  have hsame : publicKey = c.publicKey := by
    rw [hchecked] at hfetched
    cases hfetched
    rfl
  rw [hchecked, hsame]

/-- A message tells a context with numbers just when the operation of its request sends transactions.  As many numbers as
the request needs were reserved before, under a key that is as `ReservedUnder` says. -/
structure TellsReserved (q : Request) (task : Nat) (ss : List (Step α)) (m : Json) : Prop where
  context : (m.get? "transactionContext").isSome = q.payload.sendsTransactions
  reserved : ∀ v, m.get? "transactionContext" = some v → ∃ c picked before reserving after checked fetched,
    v = TransactionContext.codec.encode (c.toTransactionContext (picked.map toString)) ∧
    ss = before ++ reserving :: after ∧
    reserving.happening = .accessed task (.reserve q.payload.nonceCount) (.ok picked) ∧
    ReservedUnder q.payload task c before reserving.before.host.sequencer.key checked fetched

theorem Booking.Books.tells (run : Run w ss w') (hempty : w.tasks = []) (hturn : w.host.turn = none)
    (huses : ∀ st ∈ ss, st.move.UsesSequencer) {q : Request} {t : Option TransactionContext} {m : Json}
    (hm : m.get? "transactionContext" = t.map TransactionContext.codec.encode)
    (h : Books q.payload t (bookingsOf i ss)) : TellsReserved q i ss m := by
  refine ⟨by rw [hm, Option.isSome_map, h.isSome_eq], fun v hv => ?_⟩
  rw [hm] at hv
  generalize hbookings : bookingsOf i ss = h at h
  cases h with
  | nothing hp => cases hv
  | @numbers c h hp hc picked =>
    obtain ⟨before, reserving, after, rfl, hbefore, hreserving, -⟩ := step_of_booking _ hbookings
    obtain ⟨first, -, -⟩ := run.cut
    rw [← hbefore] at hc
    obtain ⟨checked, fetched, hunder⟩ :=
      first.reservedUnder hempty hturn (fun st hst => huses st (List.mem_append_left _ hst)) hc
    exact ⟨c, picked, before, reserving, after, checked, fetched, (Option.some.inj hv).symm, rfl, hreserving, hunder⟩

section

variable {setup : Setup} {raw : Json} {w w' : Wallet (Except Error Unit)}
  {ss ss₁ ss₂ : List (Step (Except Error Unit))} {st posting : Step (Except Error Unit)} {m : Json}

/-- **Under which key the numbers of a confirmation were reserved**, in every run of a wallet in which the sequencer is
used by any number of requests and bound by others, at any time. -/
theorem handle_tells_reserved (run : Run w ss w') (hempty : w.tasks = []) (hturn : w.host.turn = none)
    (huses : ∀ st ∈ ss, st.move.UsesSequencer) (hst : st ∈ ss) (hstart : st.move = .start (handle setup raw))
    (hss : ss = ss₁ ++ posting :: ss₂) (hposting : posting.happening = .called st.before.tasks.length (.post m))
    (hconfirmed : m.get? "confirmed" = some (.bool true)) :
    ∃ q, Request.read raw = .ok q ∧ TellsReserved q st.before.tasks.length ss₁ m := by
  have hbooks (p : Payload) (hp : ∀ q, Request.read raw = .ok q → q.payload = p) :
      ∃ t, m.get? "transactionContext" = Option.map TransactionContext.codec.encode t ∧
        Booking.Books p t (bookingsOf st.before.tasks.length ss₁) := by
    have hevent : posting.happening.event? st.before.tasks.length = some (.called (.post m)) :=
      Happening.event?_of_eq hposting
    have hallowed := run.allowed_since_start hst hstart rfl (Booking.handle_books setup raw p hp) hss hevent hconfirmed
    rwa [Booking.booker_seen] at hallowed
  cases hread : Request.read raw with
  | error e =>
    -- A rejection is no confirmation.
    have hany (p : Payload) : (m.get? "transactionContext").isSome = p.sendsTransactions := by
      obtain ⟨t, ht, htells⟩ := hbooks p fun _ hq => by rw [hread] at hq; cases hq
      rw [ht, Option.isSome_map, htells.isSome_eq]
    have htrue := hany (.linkDevice ⟨"", 0, []⟩)
    rw [hany (.showPrivateKey ⟨""⟩)] at htrue
    cases htrue
  | ok q =>
    obtain ⟨t, ht, htells⟩ := hbooks q.payload fun q' hq' => by rw [hread] at hq'; cases hq'; rfl
    obtain ⟨before, -, -⟩ := (hss ▸ run : Run w (ss₁ ++ posting :: ss₂) w').cut
    have hthere : ∀ st ∈ ss₁, st.move.UsesSequencer := fun st h => huses st (hss ▸ List.mem_append_left _ h)
    exact ⟨q, rfl, htells.tells before hempty hturn hthere ht⟩

end

/-! While the key of a warm session is dispensed, the sequencer is bound to another key and a context is fetched for
it. -/

/-- The wallet's host, bound to a key for which nothing was fetched yet. -/
def unturnedHost : Host := { warmHost with sequencer := { key := some ⟨"a", "k"⟩ }, turn := none }

/-- The numbers are those of the other key, and all else is of the first. -/
def misbooked : Response :=
  { Response.approved "r" with
    transactionContext := some ⟨"k", "6", "12", "7", "b", ["12"]⟩
    warmSession := some warmGrant }

def rebindWhileDispensing : List (Move (Except Error Unit)) :=
  Move.start (handle quietSetup warmEnvelope) :: Move.start (rebind ⟨"b", "l"⟩) :: Move.start lookUp ::
  (List.replicate 3 (Move.advance 0) ++ [Move.answer 0 .preferences { uiMode := .skip }] ++
  List.replicate 3 (Move.advance 0) ++ fetching 0 ⟨"a", "k"⟩ 6 ++ List.replicate 5 (Move.advance 0) ++
  List.replicate 4 (Move.advance 1) ++ fetching 2 ⟨"b", "l"⟩ 11 ++ List.replicate 3 (Move.advance 2) ++
  [Move.answer 0 (.dispense warmGrant "a") (.ok ())] ++ List.replicate 6 (Move.advance 0))

theorem rebindWhileDispensing_usesSequencer : ∀ m ∈ rebindWhileDispensing, m.UsesSequencer := by
  refine List.forall_mem_cons.2 ⟨.turns (handle_takesTurns _ _), List.forall_mem_cons.2 ⟨rebind_usesSequencer _,
    List.forall_mem_cons.2 ⟨.turns lookUp_takesTurns, fun m hm => .of_isOfTask ?_⟩⟩⟩
  exact List.all_eq_true.1 (by decide +kernel : (rebindWhileDispensing.drop 3).all Move.isOfTask = true) m hm

/-- The numbers that a task is given in a step, and the key that is bound then. -/
def Step.given? (task : Nat) (st : Step α) : Option (List Nat × Option AccessKey) :=
  match st.happening with
  | .accessed i (.reserve _) (.ok picked) => if i = task then some (picked, st.before.host.sequencer.key) else none
  | _ => none

theorem rebindWhileDispensing_run :
    ∃ ss w', Run ⟨unturnedHost, []⟩ ss w' ∧ movesOf ss = rebindWhileDispensing ∧
      (∀ st ∈ ss, st.move.UsesSequencer) ∧ messagesOf 0 ss = [misbooked.message] ∧
      ss.filterMap (·.given? 0) = [([12], some ⟨"b", "l"⟩)] := by
  have htold : ((Wallet.mk unturnedHost []).trace? rebindWhileDispensing).map (fun r =>
      (messagesOf 0 r.1, r.1.filterMap (·.given? 0))) = some ([misbooked.message], [([12], some ⟨"b", "l"⟩)]) := by
    decide +kernel
  obtain ⟨⟨ss, w'⟩, htrace, htold⟩ := Option.map_eq_some_iff.1 htold
  obtain ⟨hmessages, hgiven⟩ := Prod.mk.inj htold
  have hmoves : movesOf ss = rebindWhileDispensing := Wallet.moves_of_trace? htrace
  exact ⟨ss, w', .of_trace? htrace, hmoves, forall_move hmoves rebindWhileDispensing_usesSequencer, hmessages, hgiven⟩

theorem handle_tells_reserved_rebindWhileDispensing :
    ∃ ss w' ss₁ posting ss₂, Run ⟨unturnedHost, []⟩ ss w' ∧ movesOf ss = rebindWhileDispensing ∧
      (∀ st ∈ ss, st.move.UsesSequencer) ∧ ss = ss₁ ++ posting :: ss₂ ∧
      posting.happening = .called 0 (.post misbooked.message) ∧
      ∃ q, Request.read warmEnvelope = .ok q ∧ TellsReserved q 0 ss₁ misbooked.message := by
  obtain ⟨ss, w', run, hmoves, huses, hmessages, -⟩ := rebindWhileDispensing_run
  have hmessage : misbooked.message ∈ messagesOf 0 ss := by
    rw [hmessages]
    exact List.mem_singleton_self _
  obtain ⟨ss₁, posting, ss₂, hss, hposting⟩ := exists_posting hmessage
  have hconfirmed : misbooked.message.get? "confirmed" = some (.bool true) := Response.message_confirmed _
  cases run with
  | nil => cases hmoves
  | cons first rest =>
    have hstarted := (List.cons.inj hmoves).1
    have tells := handle_tells_reserved (.cons first rest) rfl rfl huses List.mem_cons_self hstarted hss hposting
      hconfirmed
    exact ⟨_, w', ss₁, posting, ss₂, .cons first rest, hmoves, huses, hss, hposting, tells⟩

/-- A request for one account is confirmed with the context of its key, and with numbers that were reserved while the
sequencer was bound to a key of another account. -/
theorem reserved_under_other_key :
    ∃ ss w' st, Run ⟨unturnedHost, []⟩ ss w' ∧ movesOf ss = rebindWhileDispensing ∧
      (∀ st ∈ ss, st.move.UsesSequencer) ∧ (Request.read warmEnvelope).toOption.map (·.payload.account) = some "a" ∧
      messagesOf 0 ss = [misbooked.message] ∧ misbooked.message.get? "confirmed" = some (.bool true) ∧
      misbooked.message.get? "transactionContext" =
        some (TransactionContext.codec.encode ⟨"k", "6", "12", "7", "b", ["12"]⟩) ∧
      st ∈ ss ∧ st.given? 0 = some ([12], some ⟨"b", "l"⟩) := by
  obtain ⟨ss, w', run, hmoves, huses, hmessages, hgiven⟩ := rebindWhileDispensing_run
  have hthere : ([12], some ⟨"b", "l"⟩) ∈ ss.filterMap (·.given? 0) := hgiven ▸ List.mem_singleton_self _
  obtain ⟨st, hst, hnumbers⟩ := List.mem_filterMap.1 hthere
  exact ⟨ss, w', st, run, hmoves, huses, by decide +kernel, hmessages, Response.message_confirmed _,
    Response.message_transactionContext _, hst, hnumbers⟩

end PasskeyConsent

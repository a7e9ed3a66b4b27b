import PasskeyConsent.Proofs.Confirmation.Answer
import PasskeyConsent.Proofs.Confirmation.Tenure
/-!
# All is made good

A request that is not approved leaves nothing behind (`handle_makes_good`): before its decline is posted, or its error
returned, every number that it reserved is released, the use of its warm session is given back, its surface is closed
and its session is attached no longer; and when it returns its id does not run any more.  This holds in every run of a
wallet, beside any number of other requests.
-/
namespace PasskeyConsent

open Observer Program Confirmation

/-! ## Requests beside each other -/

/-- A task of a wallet: a request, or work that has nothing to do with ids, holdings and sessions, such as a turn. -/
def Program.IsOrdinary (p : Program (Except Error Unit)) : Prop :=
  (∃ setup raw, p = handle setup raw) ∨
    p.KeepsTo [.clock, .key, .binding, .turn, .chain, .freshness, .state, .preferences, .holdings, .breakdown] anyResult

/-- A move that can happen beside a request. -/
def Move.IsOrdinary : Move (Except Error Unit) → Prop
  | .start p => p.IsOrdinary
  | .outside a => a.isOffered = true
  | _ => True

/-- Whether a move is one of a task that is there. -/
def Move.isOfTask {α : Type} : Move α → Bool
  | .advance _ | .answer .. | .stop _ => true
  | _ => false

theorem Move.IsOrdinary.of_isOfTask {m : Move (Except Error Unit)} (h : m.isOfTask = true) : m.IsOrdinary := by
  cases m with
  | advance | answer | stop => trivial
  | _ => cases h

theorem Move.IsOrdinary.of_all {ms : List (Move (Except Error Unit))} (h : ms.all Move.isOfTask = true) :
    ∀ m ∈ ms, m.IsOrdinary :=
  fun m hm => .of_isOfTask (List.all_eq_true.1 h m hm)

/-- A rejection is posted and nothing else is done. -/
theorem rejection_posts (raw : Json) (e : ValidationError) :
    Account.keeper.Meets anywhere (post (rejection raw e))
      (fun _ _ s => s = { posted := [(rejection raw e).message] }) {} {} := by
  have hmay : Account.MayPost {} (rejection raw e).message :=
    { first := rfl, closed := rfl, once := Nat.zero_le 1, returning := rfl
      tenure := fun _ h => by cases h
      givenBack := .inr ⟨Response.message_confirmed _,
        { released := rfl, nodup := .nil, reclaimed := rfl, restored := rfl, once := Nat.zero_le 1, attached := rfl
          returning := rfl }⟩ }
  refine meets_call ⟨trivial, hmay, trivial, fun y => ⟨trivial, ?_⟩⟩
  cases y with
  | ok => rfl
  | error e => rfl

theorem handle_keeps (setup : Setup) (raw : Json) :
    Account.keeper.Meets anywhere (handle setup raw) (fun _ _ _ => True) {} {} := by
  unfold handle
  split
  · exact (rejection_posts raw _).imp fun _ _ _ _ => trivial
  · exact (Account.handleRequest_meets _).imp fun _ _ _ _ => trivial

theorem Program.IsOrdinary.keeps {p : Program (Except Error Unit)} (h : p.IsOrdinary) :
    Account.keeper.Meets anywhere p (fun _ _ _ => True) {} {} := by
  rcases h with ⟨setup, raw, rfl⟩ | h
  · exact handle_keeps setup raw
  · exact meets_of_topics Account.keeper_ignores h trivial fun _ _ => trivial

variable {α : Type} {w w' : Wallet (Except Error Unit)} {ss ss₁ ss₂ : List (Step (Except Error Unit))}

theorem Run.starts_ordinary (hordinary : ∀ st ∈ ss, st.move.IsOrdinary) :
    Run.Starts Account.keeper (fun _ _ _ => True) {} ss := by
  intro st hst p hp
  have := hordinary st hst
  rw [hp] at this
  exact this.keeps

/-- **In every run of a wallet**, who has what is as the accounts of its tasks say. -/
theorem Run.tenure (run : Run w ss w') (hempty : w.tasks = []) (hordinary : ∀ st ∈ ss, st.move.IsOrdinary) :
    Tenure w'.host fun i => accountOf i ss := by
  have hinit : Tenure w.host fun _ => {} :=
    { pending := fun i id h => by cases h.registered
      unique := fun i j id h => by cases h.registered
      attached := fun i session _ h => by cases h
      earned := fun i session h => by cases h }
  refine run.invariant (I := fun _ w recs => Tenure w.host recs) hempty (Run.starts_ordinary hordinary) hinit
    fun _ st hst recs g hallows htenure => g.tenure hallows (fun a ha => ?_) htenure
  have := hordinary st hst
  rw [ha] at this
  exact this

/-! ## The last thing that a request does -/

theorem handleRequest_ends (setup : Setup) (r : Request) :
    recorder.Meets anywhere (handleRequest setup r)
      (fun _ _ h => ∃ h', h = h' ++ [.accessed (.unregister r.id) ()] ∨ h = h' ++ [.accessed (.register r.id) false])
      {} [] := by
  have hconclude (outcome : Except Stop Response) (own : Holdings) (h : History) :
      recorder.Meets anywhere (conclude setup r.id outcome >>= fun result => do
        access (.unregister r.id)
        return result)
      (fun _ _ h => ∃ h', h = h' ++ [.accessed (.unregister r.id) ()] ∨ h = h' ++ [.accessed (.register r.id) false])
      own h :=
    meets_bind ((meets_of_allows (fun _ _ => trivial) _ _ _).imp fun _ _ h _ =>
      meets_access fun _ _ => ⟨trivial, h, .inl rfl⟩)
  refine meets_access fun _ _ => ⟨trivial, meets_access fun allowed _ => ⟨trivial, ?_⟩⟩
  cases allowed with
  | false => exact ⟨_, .inr rfl⟩
  | true =>
    refine meets_call ⟨trivial, trivial, trivial, fun stored => ⟨trivial, ?_⟩⟩
    refine meets_access fun _ _ => ⟨trivial, ?_⟩
    exact meets_bind ((meets_of_allows (fun _ _ => trivial) _ _ _).imp fun outcome own h _ => hconclude outcome own h)

/-! ## What is made good -/

/-- Nothing of what a request took is left: each number that it reserved is released once and no other, the use of a
warm session is reclaimed and restored once if one was taken, the surface is closed once if one was mounted, and no
session that it attached is attached. -/
structure MadeGood (i : Nat) (ss : List (Step (Except Error Unit))) (h : Host) : Prop where
  givenBack : (accountOf i ss).GivenBack
  closed : (accountOf i ss).unmounted = (accountOf i ss).mounted
  surfaces : (accountOf i ss).mounted.length ≤ 1
  detached : ∀ session ∈ (accountOf i ss).attachments, h.hub.isAttached session = false

theorem Tenure.detached {h : Host} {recs : Nat → Account} (tenure : Tenure h recs) {i : Nat}
    (hgone : (recs i).attached = []) {session : String} (hheld : (recs i).Holds session)
    (hmem : session ∈ (recs i).attachments) : h.hub.isAttached session = false := by
  cases hatt : h.hub.isAttached session with
  | false => rfl
  | true =>
    have := tenure.attached i session hheld hmem hatt
    rw [hgone] at this
    cases this

/-- What was given back by a request that holds its sessions is made good. -/
theorem MadeGood.of_givenBack (run : Run w ss w') (hempty : w.tasks = []) (hordinary : ∀ st ∈ ss, st.move.IsOrdinary)
    {i : Nat} (hback : (accountOf i ss).GivenBack) (hclosed : (accountOf i ss).unmounted = (accountOf i ss).mounted)
    (honce : (accountOf i ss).mounted.length ≤ 1)
    (hheld : ∀ session ∈ (accountOf i ss).attachments, (accountOf i ss).Holds session) : MadeGood i ss w'.host where
  givenBack := hback
  closed := hclosed
  surfaces := honce
  detached session hmem := (run.tenure hempty hordinary).detached hback.attached (hheld session hmem) hmem

/-- **Before a decline is posted all is made good.** -/
theorem made_good_of_decline (run : Run w ss w') (hempty : w.tasks = []) (hordinary : ∀ st ∈ ss, st.move.IsOrdinary)
    {i : Nat} {st : Step (Except Error Unit)} {m : Json} (hss : ss = ss₁ ++ st :: ss₂)
    (hst : st.happening = .called i (.post m)) (hm : m.get? "confirmed" = some (.bool false)) :
    MadeGood i ss₁ st.before.host := by
  subst hss
  have hmay : (accountOf i ss₁).MayPost m :=
    run.allowedAll hempty (Run.starts_ordinary hordinary) (e := .called (.post m)) (by rw [hst]; exact if_pos rfl)
  have hback : (accountOf i ss₁).GivenBack := by
    rcases hmay.givenBack with hconfirmed | hdeclined
    · rw [hm] at hconfirmed
      cases hconfirmed
    · exact hdeclined.2
  exact .of_givenBack run.cut.1 hempty (fun st hst => hordinary st (List.mem_append_left _ hst)) hback hmay.closed
    hmay.once hmay.tenure

theorem Wallet.Goes.unregister {w w' : Wallet α} {m : Move α} {i : Nat} {id : String}
    (g : w.Goes m (.accessed i (.unregister id) ()) w') : w'.host.pending.contains id = false := by
  obtain ⟨task, own, -, hhost⟩ := g.exists_access rfl
  rw [← hhost]
  exact (Table.contains_erase _ _ _).trans (if_pos rfl)

/-- A request that ends without its PRF result has given all back before it gives up its id. -/
theorem Account.Outcome.givenBack {id id' : String} {s : Account}
    (outcome : Outcome id (.error (.credential .missingPrfResult)) (s.after (.accessed (.unregister id') ()))) :
    s.GivenBack ∧ s.unmounted = s.mounted ∧ s.mounted.length ≤ 1 := by
  generalize hx : (.error (.credential .missingPrfResult) : Except Error Unit) = x at outcome
  generalize hs : s.after (.accessed (.unregister id') ()) = s' at outcome
  cases outcome with
  | refused => cases hx
  | answered registered missesPrf r posted requestId y => cases y <;> cases hx
  | broken registered missesPrf posted closed once givenBack =>
    subst hs
    exact ⟨{ givenBack with }, closed, once⟩

/-- What a request that was let run notices last is that it gives up its id. -/
theorem gives_up_last {setup : Setup} {q : Request} {x : Except Error Unit} {i : Nat} (run : Run w ss w')
    (started : w.tasks[i]? = some { program := handleRequest setup q }) (hreturned : w'.result? i = some x)
    (hran : (accountOf i ss).registered = [(q.id, true)]) :
    ∃ h, historyOf i ss = h ++ [.accessed (.unregister q.id) ()] := by
  obtain ⟨_, h, hseen⟩ := run.result started (.of_meets (handleRequest_ends setup q)) hreturned
  rw [recorder_seen, List.nil_append] at hseen
  rcases hseen with hseen | hseen
  · exact ⟨h, hseen⟩
  · have hmem : (q.id, false) ∈ (accountOf i ss).registered := by
      unfold accountOf
      rw [hseen, seen_append]
      exact List.mem_append_right _ (List.mem_singleton_self _)
    rw [hran, List.mem_singleton] at hmem
    cases hmem

/-- **When a request returns its id is given up**, and if it returns because its PRF result was missing all is made good
before. -/
theorem made_good_of_return {setup : Setup} {q : Request} {st : Step (Except Error Unit)} {x : Except Error Unit}
    (run : Run w ss w') (hempty : w.tasks = []) (hordinary : ∀ st ∈ ss, st.move.IsOrdinary)
    (hss : ss = ss₁ ++ st :: ss₂) (hst : st.move = .start (handleRequest setup q))
    (hreturned : w'.result? st.before.tasks.length = some x)
    (hran : (accountOf st.before.tasks.length ss).registered = [(q.id, true)]) :
    ∃ ss₁ last ss₂, ss = ss₁ ++ last :: ss₂ ∧
      last.happening = .accessed st.before.tasks.length (.unregister q.id) () ∧
      last.after.result? st.before.tasks.length = some x ∧ last.after.host.pending.contains q.id = false ∧
      (x = .error (.credential .missingPrfResult) → MadeGood st.before.tasks.length ss₁ last.before.host) := by
  generalize hi : st.before.tasks.length = i at hreturned hran ⊢
  subst hss
  obtain ⟨after, hthere, hhistory⟩ := run.since_start hst
  rw [hi] at hthere hhistory
  have haccount : accountOf i (ss₁ ++ st :: ss₂) = accountOf i ss₂ := congrArg (Account.keeper.seen {}) hhistory
  obtain ⟨h, hlast⟩ := gives_up_last after hthere hreturned (haccount ▸ hran)
  rw [← hhistory] at hlast
  obtain ⟨ss₁', last, ss₂', hss, hbefore, hevent, hafter⟩ := Run.step_of_event hlast
  have houtcome : ∃ _ : Holdings, Account.Outcome q.id x (accountOf i ss₂) :=
    after.result hthere (.of_meets (Account.handleRequest_meets q)) hreturned
  have hgivesUp : accountOf i (ss₁ ++ st :: ss₂) = (accountOf i ss₁').after (.accessed (.unregister q.id) ()) := by
    unfold accountOf
    rw [hlast, seen_append, hbefore]
    rfl
  rw [hss] at run hordinary
  have hallowed : (accountOf i ss₁').Holds q.id ∧ ∀ session ∈ (accountOf i ss₁').attachments, session = q.id :=
    run.allowedAll hempty (Run.starts_ordinary hordinary) hevent
  have hhappening := Happening.eq_of_event? hevent
  have hgoes := Wallet.Goes.of_step? run.cut.2.1
  rw [hhappening] at hgoes
  refine ⟨ss₁', last, ss₂', hss, hhappening, (run.result_of_last hevent hafter).trans hreturned, hgoes.unregister,
    fun hbroken => ?_⟩
  obtain ⟨_, outcome⟩ := houtcome
  rw [← haccount, hgivesUp, hbroken] at outcome
  obtain ⟨hback, hclosed, honce⟩ := outcome.givenBack
  exact .of_givenBack run.cut.1 hempty (fun st hst => hordinary st (List.mem_append_left _ hst)) hback hclosed honce
    fun session hmem => hallowed.2 session hmem ▸ hallowed.1

/-- **A request that is not approved leaves nothing behind**, in any run of a wallet, beside any number of other requests
and turns, wherever it fails or is cancelled: when a decline of it is posted, and when it returns without its PRF
result, all is made good; and when it returns its id is given up. -/
theorem handle_makes_good {setup : Setup} {raw : Json} {q : Request} {st : Step (Except Error Unit)}
    (run : Run w ss w') (hempty : w.tasks = []) (hordinary : ∀ st ∈ ss, st.move.IsOrdinary)
    (hss : ss = ss₁ ++ st :: ss₂) (hst : st.move = .start (handle setup raw)) (hread : Request.read raw = .ok q) :
    (∀ ss₁ posting ss₂ m, ss = ss₁ ++ posting :: ss₂ →
      posting.happening = .called st.before.tasks.length (.post m) → m.get? "confirmed" = some (.bool false) →
      MadeGood st.before.tasks.length ss₁ posting.before.host) ∧
    ∀ x, w'.result? st.before.tasks.length = some x →
      (accountOf st.before.tasks.length ss).registered = [(q.id, true)] →
      ∃ ss₁ last ss₂, ss = ss₁ ++ last :: ss₂ ∧
        last.happening = .accessed st.before.tasks.length (.unregister q.id) () ∧
        last.after.result? st.before.tasks.length = some x ∧ last.after.host.pending.contains q.id = false ∧
        (x = .error (.credential .missingPrfResult) → MadeGood st.before.tasks.length ss₁ last.before.host) := by
  have hst' : st.move = .start (handleRequest setup q) := by
    rw [hst]
    unfold handle
    rw [hread]
  exact ⟨fun ss₁ posting ss₂ m hss hposting hm => made_good_of_decline run hempty hordinary hss hposting hm,
    fun x hreturned hran => made_good_of_return run hempty hordinary hss hst' hreturned hran⟩

theorem handle_makes_good_showEnvelope :
    ∃ ss w', Run ⟨quietHost, []⟩ ss w' ∧ w'.result? 0 = some (.ok ()) ∧
      ∀ ss₁ posting ss₂ m, ss = ss₁ ++ posting :: ss₂ → posting.happening = .called 0 (.post m) →
        m.get? "confirmed" = some (.bool false) → MadeGood 0 ss₁ posting.before.host := by
  have hmoves : ((Wallet.mk quietHost []).trace? (.start (handle quietSetup showEnvelope) :: turnDown)).bind
      (·.2.result? 0) = some (.ok ()) := by decide +kernel
  obtain ⟨ss, w', run, hms, returned⟩ := Run.of_moves hmoves
  obtain ⟨st, ss₂, rfl, hst, hrest⟩ := List.map_eq_cons_iff.1 hms
  have hordinary : ∀ s ∈ st :: ss₂, s.move.IsOrdinary := by
    intro s hs
    have hmem : s.move ∈ .start (handle quietSetup showEnvelope) :: turnDown := hms ▸ List.mem_map_of_mem hs
    rcases List.mem_cons.1 hmem with heq | hmem
    · rw [heq]
      exact .inl ⟨quietSetup, showEnvelope, rfl⟩
    · exact .of_isOfTask (List.all_eq_true.1 (rfl : turnDown.all Move.isOfTask = true) _ hmem)
  have hss : st :: ss₂ = [] ++ st :: ss₂ := rfl
  have good := handle_makes_good run rfl hordinary hss hst read_showEnvelope
  cases run with
  | cons first rest => exact ⟨_, w', .cons first rest, returned, good.1⟩

end PasskeyConsent

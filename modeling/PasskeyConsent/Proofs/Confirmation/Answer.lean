import PasskeyConsent.Proofs.Confirmation.Conclusion
/-!
# One answer to every envelope

What a caller can rely on, whatever the collaborators answer, whenever a cancel comes and whatever else runs in the
wallet: an envelope that cannot be read is rejected at once and touches nothing (`post_alone`), and a request that was
read is answered once (`Account.handleRequest_meets`), except when its id was running or its PRF result was missing.
-/
namespace PasskeyConsent

open Observer Program Confirmation

variable {α : Type}

/-- The account that a task has come to along a run. -/
def accountOf (task : Nat) (ss : List (Step α)) : Account := Account.keeper.seen {} (historyOf task ss)

/-- Posting calls the sink and nobody else. -/
theorem post_alone (r : Response) :
    recorder.Meets anywhere (post r)
      (fun x _ h => ∃ y, h = [.called (.post r.message), .answered (.post r.message) y] ∧ x = y.mapError .channel)
      {} [] := by
  refine meets_call ⟨trivial, trivial, trivial, fun y => ⟨trivial, ?_⟩⟩
  cases y with
  | ok => exact ⟨.ok (), rfl, rfl⟩
  | error e => exact ⟨.error e, rfl, rfl⟩

theorem Account.mem_registered_after {s : Account} {e : Event} {id : String} {allowed : Bool}
    (h : (id, allowed) ∈ (s.after e).registered) :
    (id, allowed) ∈ s.registered ∨ e = .accessed (.register id) allowed := by
  unfold after at h
  split at h
  case h_1 =>
    rcases List.mem_append.1 h with h | h
    · exact .inl h
    · cases List.mem_singleton.1 h
      exact .inr rfl
  all_goals first | exact .inl h | (split at h <;> exact .inl h)

/-- What a task was told when it asked to run under an id stands in its history. -/
theorem Account.mem_registered {id : String} {allowed : Bool} {h : History} {s : Account}
    (hmem : (id, allowed) ∈ (keeper.seen s h).registered) :
    (id, allowed) ∈ s.registered ∨ Event.accessed (.register id) allowed ∈ h := by
  refine (mem_seen (fun _ _ _ => mem_registered_after) hmem).imp_right ?_
  rintro ⟨_, he, rfl⟩
  exact he

theorem Wallet.Goes.register {w w' : Wallet α} {m : Move α} {i : Nat} {id : String} {allowed : Bool}
    (g : w.Goes m (.accessed i (.register id) allowed) w') : allowed = !w.host.pending.contains id := by
  cases g with
  | @access i t a next ht hp =>
    simp only [Host.access]
    cases w.host.pending.contains id <;> rfl

/-! ## The answer -/

/-- What an envelope that cannot be read is answered with. -/
def rejection (raw : Json) (e : ValidationError) : Response :=
  .declined (Request.peekId raw) .validationFailed e.message

/-- An envelope that could not be read: the sink was called once and nobody else, nothing of the host was changed. -/
structure Rejected (raw : Json) (e : ValidationError) (i : Nat) (ss : List (Step α)) (x : Except Error Unit) :
    Prop where
  history : ∃ y, historyOf i ss =
    [.called (.post (rejection raw e).message), .answered (.post (rejection raw e).message) y] ∧ x = y.mapError .channel
  requestId : (rejection raw e).message.get? "requestId" = some (.str (Request.peekId raw))
  confirmed : (rejection raw e).message.get? "confirmed" = some (.bool false)
  errorCode : (rejection raw e).message.get? "errorCode" = some (.str "validation_failed")
  host : ∀ st ∈ ss, st.happening.event? i ≠ none → st.after.host = st.before.host

/-- A request that was read: it was answered once, or not at all when its id was running (`duplicate`) or its PRF result
was missing. -/
structure Answered (q : Request) (duplicate : Bool) (i : Nat) (ss : List (Step α)) (x : Except Error Unit) : Prop where
  asked : ∃ st ∈ ss, st.happening = .accessed i (.register q.id) (!duplicate) ∧
    st.before.host.pending.contains q.id = duplicate
  registered : (accountOf i ss).registered = [(q.id, !duplicate)]
  posts : (accountOf i ss).posted.length = if duplicate || (accountOf i ss).missesPrf then 0 else 1
  refused : duplicate = true → x = .error (.validation (.duplicateRequestId q.id))
  broken : (accountOf i ss).missesPrf = true → x = .error (.credential .missingPrfResult)
  requestId : ∀ m ∈ (accountOf i ss).posted, m.get? "requestId" = some (.str q.id)
  /-- Every message is posted when it may be: first, with the surface closed, and as a confirmation or with all given
  back. -/
  mayPost : ∀ ss₁ st ss₂ m, ss = ss₁ ++ st :: ss₂ → st.happening = .called i (.post m) → (accountOf i ss₁).MayPost m

variable {w w' : Wallet (Except Error Unit)} {ss : List (Step (Except Error Unit))} {i : Nat} {setup : Setup}
  {x : Except Error Unit}

theorem post_rejects {raw : Json} {e : ValidationError} (run : Run w ss w')
    (started : w.tasks[i]? = some { program := post (rejection raw e) }) (returned : w'.result? i = some x) :
    Rejected raw e i ss x := by
  obtain ⟨_, y, hhistory, hx⟩ := run.result started (.of_meets (post_alone (rejection raw e))) returned
  rw [recorder_seen, List.nil_append] at hhistory
  refine ⟨⟨y, hhistory, hx⟩, Response.message_requestId _, Response.message_confirmed _, Response.message_errorCode _,
    fun st hst hne => ?_⟩
  obtain ⟨event, hevent⟩ := Option.ne_none_iff_exists'.1 hne
  have hmem : event ∈ historyOf i ss := List.mem_filterMap.2 ⟨st, hst, hevent⟩
  have hgoes := run.goes hst
  rw [Happening.eq_of_event? hevent] at hgoes
  rw [hhistory, List.mem_cons, List.mem_singleton] at hmem
  rcases hmem with rfl | rfl
  · exact hgoes.host_of_called
  · exact hgoes.host_of_answered

/-- A request that was told whether it may run asked a host that had its id, or had it not. -/
theorem Run.asked {id : String} {allowed : Bool} (run : Run w ss w')
    (registered : (accountOf i ss).registered = [(id, allowed)]) :
    ∃ st ∈ ss, st.happening = .accessed i (.register id) allowed ∧
      st.before.host.pending.contains id = !allowed := by
  have hmem : (id, allowed) ∈ (accountOf i ss).registered := by
    rw [registered]
    exact List.mem_singleton_self _
  have hevent := (Account.mem_registered hmem).resolve_left List.not_mem_nil
  obtain ⟨st, hst, he⟩ := List.mem_filterMap.1 hevent
  have hhappening := Happening.eq_of_event? he
  have hgoes := run.goes hst
  rw [hhappening] at hgoes
  exact ⟨st, hst, hhappening, by rw [hgoes.register, Bool.not_not]⟩

theorem handleRequest_answers {q : Request} (run : Run w ss w')
    (started : w.tasks[i]? = some { program := handleRequest setup q }) (returned : w'.result? i = some x) :
    ∃ duplicate, Answered q duplicate i ss x := by
  have follows : Account.keeper.Follows (fun x _ s => Account.Outcome q.id x s)
      { program := handleRequest setup q } {} := .of_meets (Account.handleRequest_meets q)
  obtain ⟨_, outcome⟩ : ∃ _ : Holdings, Account.Outcome q.id x (accountOf i ss) :=
    run.result started follows returned
  have hmay (ss₁ st ss₂ m) (hss : ss = ss₁ ++ st :: ss₂) (hst : st.happening = .called i (.post m)) :
      (accountOf i ss₁).MayPost m := by
    subst hss
    exact run.allowed started follows (e := .called (.post m)) (by rw [hst]; exact if_pos rfl)
  cases outcome with
  | refused registered missesPrf posted =>
    exact ⟨true, {
      asked := run.asked registered
      registered := by rw [registered]; rfl
      posts := by rw [posted]; rfl
      refused := fun _ => rfl
      broken := fun h => by rw [missesPrf] at h; cases h
      requestId := fun m hm => by rw [posted] at hm; cases hm
      mayPost := hmay }⟩
  | broken registered missesPrf posted closed once givenBack =>
    exact ⟨false, {
      asked := run.asked registered
      registered := by rw [registered]; rfl
      posts := by rw [posted, missesPrf]; rfl
      refused := fun h => by cases h
      broken := fun _ => rfl
      requestId := fun m hm => by rw [posted] at hm; cases hm
      mayPost := hmay }⟩
  | answered registered missesPrf r posted requestId y =>
    exact ⟨false, {
      asked := run.asked registered
      registered := by rw [registered]; rfl
      posts := by rw [posted, missesPrf]; rfl
      refused := fun h => by cases h
      broken := fun h => by rw [missesPrf] at h; cases h
      requestId := fun m hm => by
        rw [posted, List.mem_singleton] at hm
        rw [hm, Response.message_requestId, requestId]
      mayPost := hmay }⟩

/-- **Every envelope is answered once**, by every run of any wallet in which its task comes to an end: rejected when it
cannot be read, and otherwise posted exactly one message under its id, after all is given back and closed; except that
nothing is posted for an id that was running, nor when the PRF result was missing, and then an error is returned. -/
theorem handle_answers_once {raw : Json} (run : Run w ss w')
    (started : w.tasks[i]? = some { program := handle setup raw }) (returned : w'.result? i = some x) :
    match Request.read raw with
    | .error e => Rejected raw e i ss x
    | .ok q => ∃ duplicate, Answered q duplicate i ss x := by
  unfold handle at started
  cases hread : Request.read raw with
  | error e =>
    rw [hread] at started
    exact post_rejects run started returned
  | ok q =>
    rw [hread] at started
    exact handleRequest_answers run started returned

/-! A request to show a key, turned down by its user. -/

def quietHost : Host := { maxAge := 0, ledger := { limits := ⟨0, ⟨0⟩⟩ } }

def quietSetup : Setup := ⟨"", .topLevel, none⟩

def showEnvelope : Json :=
  .obj [("payload", .obj [("nearAccountId", .str "a")]), ("requestId", .str "r"), ("schemaVersion", .int 2),
    ("type", .str "showPrivateKey")]

def showRequest : Request := ⟨"r", .obj [], .showPrivateKey ⟨"a"⟩, none⟩

theorem read_showEnvelope : Request.read showEnvelope = .ok showRequest := by decide +kernel

def turnDown : List (Move (Except Error Unit)) :=
  let message := (Response.declined "r" .userCancelled "User rejected the confirmation").message
  List.replicate 3 (Move.advance 0) ++ [Move.answer 0 .preferences {}] ++
  List.replicate 4 (Move.advance 0) ++ [Move.answer 0 (.mount showRequest {}) ⟨7⟩] ++
  List.replicate 2 (Move.advance 0) ++ [Move.answer 0 (.decision ⟨7⟩ none) (some .cancel)] ++
  List.replicate 3 (Move.advance 0) ++ [Move.answer 0 (.unmount ⟨7⟩) ()] ++
  [Move.advance 0, Move.answer 0 (.post message) (.ok ()), Move.advance 0]

theorem handle_answers_once_showEnvelope :
    ∃ ss w', Run ⟨quietHost, [{ program := handle quietSetup showEnvelope }]⟩ ss w' ∧ w'.result? 0 = some (.ok ()) ∧
      ∃ duplicate, Answered showRequest duplicate 0 ss (.ok ()) := by
  have hmoves : ((Wallet.mk quietHost [{ program := handle quietSetup showEnvelope }]).trace? turnDown).bind
      (·.2.result? 0) = some (.ok ()) := by decide +kernel
  obtain ⟨ss, w', run, -, returned⟩ := Run.of_moves hmoves
  have answered := handle_answers_once run rfl returned
  rw [read_showEnvelope] at answered
  exact ⟨ss, w', run, returned, answered⟩

end PasskeyConsent

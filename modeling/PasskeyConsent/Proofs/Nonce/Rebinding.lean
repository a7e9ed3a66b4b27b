import PasskeyConsent.Proofs.Concurrency.Composition
import PasskeyConsent.Proofs.Confirmation.Rollback
import PasskeyConsent.Proofs.Nonce.Ownership
/-!
# Rebinding a sequencer

Fetching a context reads the key, asks the chain for it and takes in the answer, and others run in between.  Nothing
looks at the key again, so an answer for one key is taken in under another where the sequencer was bound anew after the
reading.  What a number is derived from is therefore the query of a key that was bound when the query began; the key
that is bound when the number is given out is what became of it in the meantime (`reserve_derives_from_query`).
-/
namespace PasskeyConsent

open Observer

variable {α : Type}

/-- **The users of the sequencer**: those that take turns, and those that bind it to a key or to none. -/
inductive Program.UsesSequencer : {α : Type} → Program α → Prop
  | turns {α : Type} {p : Program α} (h : p.TakesTurns) : UsesSequencer p
  | bindTo (k : AccessKey) : UsesSequencer (Turn.bindTo k)
  | clear : UsesSequencer Turn.clear
  | bind {α β : Type} {p : Program α} {f : α → Program β} (h : UsesSequencer p) (hf : ∀ a, UsesSequencer (f a)) :
    UsesSequencer (p >>= f)
  | watch {α : Type} {p : Program α} (id : String) (stopped : α) (h : UsesSequencer p) :
    UsesSequencer (p.watch id stopped)

/-- What can happen beside those that use the sequencer: outside of them nobody touches the turn or the binding. -/
def Move.UsesSequencer : Move α → Prop
  | .start p => p.UsesSequencer
  | .outside a => Program.otherTopics.contains a.topic = true
  | _ => True

theorem Move.UsesSequencer.of_isOfTask {m : Move α} (h : m.isOfTask = true) : m.UsesSequencer := by
  cases m with
  | advance | answer | stop => trivial
  | _ => cases h

/-! ## What a task has asked before it takes in an answer -/

/-- The history of a query: the key was read, the chain was asked for it and for its latest block, and has answered. -/
def Query (h : History) (k : AccessKey) (info : AccessKeyInfo) : Prop :=
  ∃ before block, h = before ++ [.accessed .boundKey (some k), .called (.accessKey k),
    .answered (.accessKey k) (.ok info), .called .latestBlock, .answered .latestBlock (.ok block)]

/-- The one who looks at what is taken in: it is the answer of the query just made, and the context that is kept is that
of a key that was read. -/
def querier : Observer History where
  after h e := h ++ [e]
  allows
    | h, .accessed (.absorb n) _ => ∃ k info, Query h k info ∧ info.nonce.toNat = n
    | h, .accessed (.keepTurn c) _ => ∃ k, .accessed .boundKey (some k) ∈ h ∧ k.publicKey = c.publicKey
    | _, _ => True

theorem querier_seen (h : History) : querier.seen [] h = h := recorder_seen [] h

/-- Whether the effect neither takes in an answer nor keeps a context. -/
def Effect.isPlain : Effect → Bool
  | .access (.absorb _) | .access (.keepTurn _) => false
  | _ => true

theorem querier_allows_of_isPlain {e : Effect} {event : Event} (he : e.isPlain = true) (hevent : e.Yields event)
    (h : History) : querier.allows h event := by
  cases hevent with
  | access a x => cases a <;> first | exact absurd he Bool.false_ne_true | trivial
  | watched hu => cases hu <;> trivial
  | _ => trivial

theorem querier_meets {p : Program α} (hp : p.Only (fun e => e.isPlain = true) Program.anyResult) (own : Holdings)
    (h : History) : querier.Meets anywhere p (fun _ _ _ => True) own h :=
  meets_of_allowed (hp.mono (fun _ he _ hevent s => querier_allows_of_isPlain he hevent s) fun _ hr => hr) own h

theorem querier_fetch (own : Holdings) (h : History) :
    querier.Meets anywhere Turn.fetch.run (fun _ _ _ => True) own h := by
  refine meets_liftAccess fun k _ => ⟨trivial, ?_⟩
  cases k with
  | none => trivial
  | some k =>
    refine meets_call ⟨trivial, trivial, trivial, fun answer => ⟨trivial, ?_⟩⟩
    cases answer with
    | error e => trivial
    | ok info =>
      refine meets_call ⟨trivial, trivial, trivial, fun block => ⟨trivial, ?_⟩⟩
      cases block with
      | error e => trivial
      | ok block =>
        refine meets_liftAccess fun next _ => ⟨⟨k, info, ⟨h, block, by simp [querier]⟩, rfl⟩, ?_⟩
        exact meets_liftAccess fun _ _ => ⟨⟨k, by simp [querier], rfl⟩, trivial⟩

theorem querier_context (force : Bool) (own : Holdings) (h : History) :
    querier.Meets anywhere (Turn.context force).run (fun _ _ _ => True) own h := by
  exact Observer.meets_context (fun _ _ _ => True) trivial trivial (fun _ => trivial) (fun _ _ => trivial)
    (fun _ _ => querier_fetch own _) fun _ _ _ _ => ⟨trivial, trivial⟩

theorem isPlain_drop : Turn.drop.Only (fun e => e.isPlain = true) Program.anyResult := by
  refine .wait rfl fun _ => .access rfl fun _ => ?_
  exact ⟨rfl, fun _ => trivial⟩

theorem isPlain_of_otherTopics {e : Effect} (he : Program.otherTopics.contains e.topic = true) : e.isPlain = true := by
  cases e with
  | access a => cases a <;> first | exact absurd he Bool.false_ne_true | rfl
  | _ => rfl

theorem Program.TakesTurns.queries {p : Program α} (h : p.TakesTurns) (own : Holdings) (s : History) :
    querier.Meets anywhere p (fun _ _ _ => True) own s := by
  induction h generalizing own s with
  | done a => trivial
  | context force => exact querier_context force own s
  | drop => exact querier_meets isPlain_drop own s
  | effect e he =>
    have honly : Program.Only (fun e => e.isPlain = true) Program.anyResult (Flow.perform e : Program e.Answer) :=
      ⟨isPlain_of_otherTopics he, fun _ => trivial⟩
    exact querier_meets honly own s
  | bind _ _ ih ihf => exact meets_bind ((ih own s).imp fun a own s _ => ihf a own s)
  | watch id stopped _ ih => exact meets_watch (ih own s) fun _ _ _ => ⟨trivial, trivial⟩

/-- **Who uses the sequencer takes in only what it has just asked for.** -/
theorem Program.UsesSequencer.queries {p : Program α} (h : p.UsesSequencer) (own : Holdings) (s : History) :
    querier.Meets anywhere p (fun _ _ _ => True) own s := by
  induction h generalizing own s with
  | turns h => exact h.queries own s
  | bindTo k =>
    refine querier_meets (.access rfl fun changed => ?_) own s
    cases changed with
    | true => exact isPlain_drop
    | false => trivial
  | clear => exact querier_meets (.access rfl fun _ => isPlain_drop) own s
  | bind _ _ ih ihf => exact meets_bind ((ih own s).imp fun a own s _ => ihf a own s)
  | watch id stopped _ ih => exact meets_watch (ih own s) fun _ _ _ => ⟨trivial, trivial⟩

/-! ## Along a run -/

variable {w w' : Wallet α} {ss ss₁ ss₂ : List (Step α)} {st : Step α}

/-- Whatever a task takes in, it has asked for. -/
theorem Run.allowed_query (run : Run w ss w') (hempty : w.tasks = []) (huses : ∀ st ∈ ss, st.move.UsesSequencer)
    (hss : ss = ss₁ ++ st :: ss₂) {i : Nat} {e : Event} (he : st.happening.event? i = some e) :
    querier.allows (historyOf i ss₁) e := by
  subst hss
  have hstart : Run.Starts querier (fun _ _ _ => True) [] (ss₁ ++ st :: ss₂) := by
    intro st' hst' p hp
    have hmove := huses st' hst'
    rw [hp] at hmove
    exact Program.UsesSequencer.queries hmove {} []
  have hallowed := run.allowedAll hempty hstart he
  rwa [querier_seen] at hallowed

/-- The sequencer goes by an answer to a query for `k`: the key was read, the chain answered for it and the answer was
taken in, with `during` between the reading and the taking in; since then there was no other answer, and no reset. -/
def GoesByQuery (ss : List (Step α)) (k : AccessKey) (accessNonce : Nat) (during : List (Step α)) : Prop :=
  ∃ before read absorbing since i x info, ss = before ++ read :: during ++ absorbing :: since ∧
    read.happening = .accessed i .boundKey (some k) ∧ absorbing.happening = .accessed i (.absorb accessNonce) x ∧
    (∃ asked ∈ during, asked.happening = .answered i (.accessKey k) (.ok info)) ∧ info.nonce.toNat = accessNonce ∧
    ∀ u ∈ usesOf since, ¬ u.Resets ∧ u.absorbed? = none

/-- **The answer that the sequencer goes by is that of a query.** -/
theorem Run.goesByQuery (run : Run w ss w') (hempty : w.tasks = []) (huses : ∀ st ∈ ss, st.move.UsesSequencer)
    {accessNonce : Nat} (hgoes : GoesBy (usesOf ss) accessNonce) : ∃ k during, GoesByQuery ss k accessNonce during := by
  obtain ⟨us₁, x, us₂, heq, hsince⟩ := hgoes
  obtain ⟨front, absorbing, since, rfl, -, huse, rfl⟩ := step_of_use heq
  have hgoes := run.goes (List.mem_append_right front List.mem_cons_self)
  have hmove := huses absorbing (List.mem_append_right front List.mem_cons_self)
  obtain ⟨i, habsorbing⟩ : ∃ i, absorbing.happening = .accessed i (.absorb accessNonce) x := by
    generalize absorbing.move = m, absorbing.happening = happening, absorbing.after = after at hgoes hmove huse
    cases hgoes with
    | @access i t a next ht hp =>
      cases huse
      exact ⟨i, rfl⟩
    | outside a =>
      cases huse
      exact absurd hmove Bool.false_ne_true
    | _ => cases huse
  have hevent : absorbing.happening.event? i = some (.accessed (.absorb accessNonce) x) :=
    Happening.event?_of_eq habsorbing
  obtain ⟨k, info, ⟨before, block, hhistory⟩, hnonce⟩ := run.allowed_query hempty huses rfl hevent
  obtain ⟨earlier, read, during, rfl, -, hread, hduring⟩ := Run.step_of_event hhistory
  have hanswer : historyOf i during = [.called (.accessKey k)] ++ .answered (.accessKey k) (.ok info) ::
      [.called .latestBlock, .answered .latestBlock (.ok block)] := hduring
  obtain ⟨part, asked, rest, rfl, -, hasked, -⟩ := Run.step_of_event hanswer
  exact ⟨k, _, earlier, read, absorbing, since, i, x, info, rfl, Happening.eq_of_event? hread, habsorbing,
    ⟨asked, by simp, Happening.eq_of_event? hasked⟩, hnonce, hsince⟩

/-- The key that is bound now is what has become of the key of the query while it was made. -/
theorem Run.key_of_goesByQuery (run : Run w ss w') {k : AccessKey} {accessNonce : Nat} {during : List (Step α)}
    (h : GoesByQuery ss k accessNonce during) : w'.host.sequencer.key = boundAfter (some k) (usesOf during) := by
  obtain ⟨before, read, absorbing, since, i, x, info, rfl, hread, habsorbing, -, -, hsince⟩ := h
  rw [List.append_assoc, List.cons_append] at run
  have habsorbing' : absorbing.happening.use? = some ⟨.absorb accessNonce, x⟩ := by rw [habsorbing]; rfl
  have hkept : ∀ u ∈ usesOf (absorbing :: since), ¬ u.Resets := by
    rw [usesOf_cons_some habsorbing']
    exact List.forall_mem_cons.2 ⟨id, fun u hu => (hsince u hu).1⟩
  rw [run.key_of_read hread, usesOf_append, boundAfter_append, boundAfter_of_not_resets hkept]

/-- **What a reservation is derived from.**  It fails for want of a context just when no answer was taken in since the
sequencer was last bound anew; otherwise its numbers are beyond the answer to a query, and the key that is bound is
what has become of the key of that query while the query was made. -/
theorem reserve_derives_from_query (run : Run w ss w') (hempty : w.tasks = []) (hnext : w.host.sequencer.next = none)
    (huses : ∀ st ∈ ss, st.move.UsesSequencer) (hss : ss = ss₁ ++ st :: ss₂) {count : Nat}
    {r : Except ChainError (List Nat)} (hreserve : st.happening.use? = some ⟨.reserve count, r⟩) :
    (r = .error .notInitialized ↔ ∀ a, ¬ GoesBy (usesOf ss₁) a) ∧
    ∀ picked, r = .ok picked → ∃ k accessNonce during, GoesByQuery ss₁ k accessNonce during ∧
      (∀ n ∈ picked, accessNonce < n) ∧ st.before.host.sequencer.key = boundAfter (some k) (usesOf during) := by
  subst hss
  obtain ⟨before, -, -⟩ := run.cut
  have hanswer := (run.goes (List.mem_append_right ss₁ List.mem_cons_self)).reserve hreserve
  have hthere : ∀ st' ∈ ss₁, st'.move.UsesSequencer := fun st' h => huses st' (List.mem_append_left _ h)
  rcases before.lives.goesBy hnext with ⟨hnone, hnot⟩ | ⟨hsome, a, hgoes, hpassed⟩
  · have hr : r = .error .notInitialized := hanswer.symm.trans (Sequencer.reserve_notInitialized_iff.2 hnone)
    refine ⟨⟨fun _ => hnot, fun _ => hr⟩, fun picked hpicked => ?_⟩
    rw [hr] at hpicked
    cases hpicked
  · constructor
    · constructor
      · intro hr
        rw [Sequencer.reserve_notInitialized_iff.1 (hanswer.trans hr)] at hsome
        cases hsome
      · intro hnot
        exact absurd hgoes (hnot a)
    · rintro picked rfl
      obtain ⟨s, hs⟩ := (run.goes (List.mem_append_right ss₁ List.mem_cons_self)).reserve_ok hreserve
      obtain ⟨k, during, hquery⟩ := before.goesByQuery hempty hthere hgoes
      refine ⟨k, a, during, hquery, fun n hn => ?_, before.key_of_goesByQuery hquery⟩
      by_cases hle : n ≤ a
      · exact absurd hn ((hpassed.of_le hle).not_mem_picked hs)
      · exact Nat.lt_of_not_le hle

/-! The answer for one key is taken in under another. -/

/-- A task begins to fetch, the sequencer is bound to another key, and the answer comes; the binding is complete. -/
def rebindWhileFetching : List (Move (Except Error Unit)) :=
  [Move.start reserveOne, Move.start (rebind ⟨"b", "l"⟩)] ++ List.replicate 4 (Move.advance 0) ++
  [Move.advance 1, Move.answer 0 (.accessKey ⟨"a", "k"⟩) (.ok ⟨4, 7, "b"⟩), Move.advance 0,
    Move.answer 0 .latestBlock (.ok ⟨7, "b"⟩)] ++
  List.replicate 3 (Move.advance 0) ++ List.replicate 3 (Move.advance 1)

theorem rebind_usesSequencer (k : AccessKey) : (rebind k).UsesSequencer := .bind (.bindTo k) fun _ => .turns (.done _)

/-- The key that the chain has answered for. -/
def Happening.answeredKey? : Happening → Option AccessKey
  | .answered _ (.accessKey k) (.ok _) => some k
  | _ => none

theorem rebindWhileFetching_run :
    ∃ ss st, ∃ w' : Wallet (Except Error Unit), Run ⟨boundHost, []⟩ (ss ++ [st]) w' ∧
      ss.map (·.move) = rebindWhileFetching ∧ (∀ st' ∈ ss ++ [st], st'.move.UsesSequencer) ∧
      st.before.result? 1 = some (.ok ()) ∧ st.happening = .accessed 0 (.reserve 1) (.ok [5]) ∧
      st.before.host.sequencer.key = some ⟨"b", "l"⟩ ∧ ss.filterMap (·.happening.answeredKey?) = [⟨"a", "k"⟩] := by
  obtain ⟨ss, w, w', htrace, hstep, hbound, hkey, hanswered⟩ : ∃ ss w w',
      (Wallet.mk boundHost []).trace? rebindWhileFetching = some (ss, w) ∧
      w.step? (.advance 0) = some (.accessed 0 (.reserve 1) (.ok [5]), w') ∧
      w.result? 1 = some (.ok ()) ∧ w.host.sequencer.key = some ⟨"b", "l"⟩ ∧
      ss.filterMap (·.happening.answeredKey?) = [⟨"a", "k"⟩] := ⟨_, _, _, rfl, rfl, rfl, rfl, rfl⟩
  have hmoves := Wallet.moves_of_trace? htrace
  have huses : ∀ m ∈ rebindWhileFetching, m.UsesSequencer := by
    intro m hm
    simp only [rebindWhileFetching, List.mem_append, List.mem_cons, List.mem_replicate, List.not_mem_nil, or_false] at hm
    rcases hm with ((((h | h) | ⟨-, h⟩) | h | h | h | h) | ⟨-, h⟩) | ⟨-, h⟩ <;> subst h
    · exact .turns reserveOne_takesTurns
    · exact rebind_usesSequencer _
    all_goals trivial
  rw [← hmoves] at huses
  refine ⟨ss, ⟨w, .advance 0, _, w'⟩, w', (Run.of_trace? htrace).snoc hstep, hmoves, ?_, hbound, rfl, hkey, hanswered⟩
  refine List.forall_mem_append.2 ⟨List.forall_mem_map.1 huses, fun st' hst' => ?_⟩
  rw [List.mem_singleton.1 hst']
  trivial

theorem reserve_derives_from_query_rebindWhileFetching :
    ∃ ss st, ∃ w' : Wallet (Except Error Unit), Run ⟨boundHost, []⟩ (ss ++ [st]) w' ∧
      (∀ st' ∈ ss ++ [st], st'.move.UsesSequencer) ∧ st.happening = .accessed 0 (.reserve 1) (.ok [5]) ∧
      ∃ k accessNonce during, GoesByQuery ss k accessNonce during ∧ accessNonce < 5 ∧
        st.before.host.sequencer.key = boundAfter (some k) (usesOf during) := by
  obtain ⟨ss, st, w', run, -, huses, -, hreserve, -, -⟩ := rebindWhileFetching_run
  obtain ⟨-, hderives⟩ := reserve_derives_from_query run rfl rfl huses rfl (by rw [hreserve]; rfl)
  obtain ⟨k, accessNonce, during, hquery, hbeyond, hkey⟩ := hderives [5] rfl
  exact ⟨ss, st, w', run, huses, hreserve, k, accessNonce, during, hquery, hbeyond 5 (List.mem_singleton_self 5), hkey⟩

/-- The binding has returned and the chain was never asked for the new key, and yet a number is given out under it. -/
theorem reserve_under_unqueried_key :
    ∃ ss st, ∃ w' : Wallet (Except Error Unit), Run ⟨boundHost, []⟩ (ss ++ [st]) w' ∧
      ss.map (·.move) = rebindWhileFetching ∧ (∀ st' ∈ ss ++ [st], st'.move.UsesSequencer) ∧
      st.before.result? 1 = some (.ok ()) ∧ st.happening = .accessed 0 (.reserve 1) (.ok [5]) ∧
      ∃ k, st.before.host.sequencer.key = some k ∧ k ∉ ss.filterMap (·.happening.answeredKey?) := by
  obtain ⟨ss, st, w', run, hmoves, huses, hbound, hreserve, hkey, hanswered⟩ := rebindWhileFetching_run
  refine ⟨ss, st, w', run, hmoves, huses, hbound, hreserve, _, hkey, ?_⟩
  rw [hanswered]
  decide

end PasskeyConsent

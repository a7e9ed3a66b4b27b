import PasskeyConsent.Proofs.Channel.Serialization
import PasskeyConsent.Proofs.Nonce.Turn
/-!
# Calls for the context of a turn

A call waits for its turn, looks for a young context, returns what it finds or asks the chain, and leaves.  Where it
stands says what it can do next (`CallPhase.Steps`): a call that is not forced asks only where it has found nothing, and
a call whose query is refused has nothing left to do but to leave and to return the refusal.
-/
namespace PasskeyConsent

open Observer

/-- What a call comes to. -/
abbrev Fetched := Except ChainError BaseContext

/-- The calls for the context of a turn, forced or not, each under a watch or under none. -/
inductive Program.Asks (force : Bool) : Program Fetched → Prop
  | alone : Asks force (Turn.context force).run
  | watched (id : String) (e : ChainError) : Asks force ((Turn.context force).run.watch id (.error e))

/-- Where a call stands.  `kept` is the young context that it has found, if there was one. -/
inductive CallPhase where
  /-- Its turn has not come. -/
  | out
  | entered
  | looked (kept : Option BaseContext)
  | bound (kept : Option BaseContext) (k : AccessKey)
  /-- It asks the chain, first for the key and then for the latest block. -/
  | asking (kept : Option BaseContext)
  | told (kept : Option BaseContext)
  | absorbed (kept : Option BaseContext)
  /-- It knows what it returns and is still in its turn. -/
  | ends (r : Fetched)
  | left (r : Fetched)
  | stopped

namespace CallPhase

def after : CallPhase → Event → CallPhase
  | .out, .waited .turn _ => .entered
  | .entered, .accessed .youngTurn kept => .looked kept
  | .looked kept, .accessed .leaveTurn _ => kept.elim (.looked none) fun c => .left (.ok c)
  | .looked _, .accessed .boundKey none => .ends (.error .notInitialized)
  | .looked kept, .accessed .boundKey (some k) => .bound kept k
  | .bound kept _, .called _ => .asking kept
  | .asking _, .answered (.accessKey _) (.error e) => .ends (.error e)
  | .asking _, .answered .latestBlock (.error e) => .ends (.error e)
  | .asking kept, .answered .latestBlock (.ok _) => .told kept
  | .told kept, .accessed (.absorb _) _ => .absorbed kept
  | .absorbed _, .accessed (.keepTurn c) _ => .ends (.ok c)
  | .ends r, .accessed .leaveTurn _ => .left r
  | _, .stopped => .stopped
  | s, _ => s

/-- The call has its turn. -/
def isInside : CallPhase → Bool
  | .out | .left _ | .stopped => false
  | _ => true

/-- What a call can do where it stands.  One that is not forced does not ask after it has found a context. -/
inductive Steps (force : Bool) : CallPhase → Event → CallPhase → Prop
  | enter : Steps force .out (.waited .turn ()) .entered
  | look (kept : Option BaseContext) : Steps force .entered (.accessed .youngTurn kept) (.looked kept)
  | reuse (c : BaseContext) : Steps force (.looked (some c)) (.accessed .leaveTurn ()) (.left (.ok c))
  | unbound {kept : Option BaseContext} (h : kept.isSome = true → force = true) :
    Steps force (.looked kept) (.accessed .boundKey none) (.ends (.error .notInitialized))
  | bind {kept : Option BaseContext} (k : AccessKey) (h : kept.isSome = true → force = true) :
    Steps force (.looked kept) (.accessed .boundKey (some k)) (.bound kept k)
  | ask (kept : Option BaseContext) (k : AccessKey) : Steps force (.bound kept k) (.called (.accessKey k)) (.asking kept)
  | answer (kept : Option BaseContext) (k : AccessKey) (info : AccessKeyInfo) :
    Steps force (.asking kept) (.answered (.accessKey k) (.ok info)) (.asking kept)
  | askBlock (kept : Option BaseContext) : Steps force (.asking kept) (.called .latestBlock) (.asking kept)
  | tell {kept : Option BaseContext} (b : Block) (h : kept.isSome = true → force = true) :
    Steps force (.asking kept) (.answered .latestBlock (.ok b)) (.told kept)
  | refuse (kept : Option BaseContext) (k : AccessKey) (e : ChainError) :
    Steps force (.asking kept) (.answered (.accessKey k) (.error e)) (.ends (.error e))
  | refuseBlock (kept : Option BaseContext) (e : ChainError) :
    Steps force (.asking kept) (.answered .latestBlock (.error e)) (.ends (.error e))
  | absorb (kept : Option BaseContext) (n x : Nat) :
    Steps force (.told kept) (.accessed (.absorb n) x) (.absorbed kept)
  | keep (kept : Option BaseContext) (c : BaseContext) :
    Steps force (.absorbed kept) (.accessed (.keepTurn c) ()) (.ends (.ok c))
  | leave (r : Fetched) : Steps force (.ends r) (.accessed .leaveTurn ()) (.left r)
  | stopOut : Steps force .out .stopped .stopped
  | stopBound (kept : Option BaseContext) (k : AccessKey) : Steps force (.bound kept k) .stopped .stopped
  | stopAsking (kept : Option BaseContext) : Steps force (.asking kept) .stopped .stopped

/-- The one who watches a call. -/
def caller (force : Bool) : Observer CallPhase where
  after := after
  allows s e := s.Steps force e (s.after e)

/-- A call can be stopped while it waits for its turn, or for the chain. -/
def CanStop (s : CallPhase) : Prop := s.Steps false .stopped .stopped

/-- Where a call has come to an end: it has left with what it returns, or was stopped. -/
def Returns (r : Fetched) (_ : Holdings) (s : CallPhase) : Prop := s = .left r ∨ s = .stopped ∧ ∃ e, r = .error e

theorem meets_fetch {force bound : Bool} {kept : Option BaseContext} (hforce : kept.isSome = true → force = true)
    (hbound : force = true → bound = true) (own : Holdings) :
    (caller bound).Meets (fun _ => CanStop) Turn.fetch.run (fun r _ s => s = .ends r) own (.looked kept) := by
  have hasks (h : kept.isSome = true) : bound = true := hbound (hforce h)
  refine meets_liftAccess fun k _ => ?_
  cases k with
  | none => exact ⟨.unbound hasks, rfl⟩
  | some k =>
    refine ⟨.bind k hasks, meets_call ⟨.stopBound kept k, .ask kept k, .stopAsking kept, fun info => ?_⟩⟩
    cases info with
    | error e => exact ⟨.refuse kept k e, rfl⟩
    | ok info =>
      refine ⟨.answer kept k info, meets_call ⟨.stopAsking kept, .askBlock kept, .stopAsking kept, fun block => ?_⟩⟩
      cases block with
      | error e => exact ⟨.refuseBlock kept e, rfl⟩
      | ok block =>
        refine ⟨.tell block hasks, ?_⟩
        refine meets_liftAccess fun next _ => ⟨.absorb kept _ next, ?_⟩
        exact meets_liftAccess fun _ _ => ⟨.keep kept _, rfl⟩

theorem meets_context {force bound : Bool} (hbound : force = true → bound = true) (own : Holdings) :
    (caller bound).Meets (fun _ => CanStop) (Turn.context force).run (fun r _ s => s = .left r) own .out := by
  refine Observer.meets_context (fun r _ s => s = .ends r ∨ ∃ c, r = .ok c ∧ s = .looked (some c)) .stopOut .enter .look
    (fun c _ => .inr ⟨c, rfl, rfl⟩) (fun kept hforce => (meets_fetch hforce hbound own).imp fun _ _ _ => .inl) ?_
  rintro r own s (rfl | ⟨c, rfl, rfl⟩)
  · exact ⟨.leave r, rfl⟩
  · exact ⟨.reuse c, rfl⟩

/-- **What a call does**, wherever it is stopped: one that is not forced keeps to the stricter rule. -/
theorem meets {force bound : Bool} {p : Program Fetched} (h : p.Asks force) (hbound : force = true → bound = true)
    (own : Holdings) : (caller bound).Meets anywhere p Returns own .out := by
  have hreturns : (caller bound).Meets (fun _ => CanStop) (Turn.context force).run Returns own .out :=
    (meets_context hbound own).imp fun _ _ _ => .inl
  cases h with
  | alone => exact hreturns.mono (fun _ _ _ => trivial) fun _ _ _ => id
  | watched id e =>
    refine meets_watch hreturns fun own s hstop => ?_
    cases hstop with
    | stopOut => exact ⟨.stopOut, .inr ⟨rfl, e, rfl⟩⟩
    | stopBound kept k => exact ⟨.stopBound kept k, .inr ⟨rfl, e, rfl⟩⟩
    | stopAsking kept => exact ⟨.stopAsking kept, .inr ⟨rfl, e, rfl⟩⟩

end CallPhase

/-! ## What a call does next -/

/-- A call is suspended only for its turn and for the chain. -/
def Suspension.isOfCall : Suspension → Bool
  | .wait .turn | .call (.accessKey _) | .call .latestBlock => true
  | _ => false

def Effect.isOfCall : Effect → Bool
  | .access _ => true
  | .suspend u | .watched _ u => u.isOfCall

theorem Effect.isOfCall_of_topic {e : Effect} (h : [Topic.key, .turn, .chain].contains e.topic = true) :
    e.isOfCall = true := by
  cases e with
  | access a => rfl
  | suspend u =>
    cases u with
    | call c => cases c <;> first | rfl | cases h
    | wait w => cases w <;> first | rfl | cases h
  | watched => cases h

namespace Program

theorem Asks.only {force : Bool} {p : Program Fetched} (h : p.Asks force) :
    p.Only (·.isOfCall = true) fun _ => True := by
  have hcontext : (Turn.context force).run.Only (·.isOfCall = true) fun _ => True :=
    Only.mono (keepsTo_context force) (fun _ => Effect.isOfCall_of_topic) fun _ _ => trivial
  cases h with
  | alone => exact hcontext
  | watched id e => exact hcontext.watch trivial fun _ hu => hu

end Program

namespace CallPhase

/-- What the task of a call has come to. -/
inductive Next (force : Bool) (t : Task Fetched) (s : CallPhase) : Prop
  | done (r : Fetched) (hp : t.program = .done r) (hs : Returns r t.own s)
  | access (a : Access) (next : a.Answer → Program Fetched) (hp : t.program = .step (.access a) next)
    (hs : ∀ x, a.CanAnswer t.own x → s.Steps force (.accessed a x) (s.after (.accessed a x)))
  | call (c : Call) (hp : t.suspension? = some (.call c)) (hcalling : t.calling = false)
    (hs : s.Steps force (.called c) (s.after (.called c)))
  | answer (kept : Option BaseContext) (hs : s = .asking kept)
  | wait (hp : t.suspension? = some (.wait .turn)) (hs : s = .out)

/-- Only one who asks the chain can be answered. -/
theorem of_answered {force : Bool} {s : CallPhase} {c : Call} (hc : (Suspension.call c).isOfCall = true)
    (h : ∀ x, s.Steps force (.answered c x) (s.after (.answered c x))) : ∃ kept, s = .asking kept := by
  cases c with
  | accessKey k =>
    have hrefused := h (.error .notInitialized)
    generalize s.after _ = s' at hrefused
    cases hrefused
    exact ⟨_, rfl⟩
  | latestBlock =>
    have hrefused := h (.error .notInitialized)
    generalize s.after _ = s' at hrefused
    cases hrefused
    exact ⟨_, rfl⟩
  | _ => cases hc

theorem next_of_suspended {force : Bool} {t : Task Fetched} {s : CallPhase} {u : Suspension}
    {stop : CallPhase → Prop} {k : u.Answer → CallPhase → Prop} (hu : u.isOfCall = true)
    (hp : t.suspension? = some u) (hcalling : t.calling = false) (h : (caller force).Suspended stop u k s) :
    Next force t s := by
  cases u with
  | call c => exact .call c hp hcalling h.2.1
  | wait w =>
    cases w with
    | turn =>
      have hallowed := (h.2 ()).1
      refine .wait hp ?_
      change s.Steps force (.waited .turn ()) (s.after (.waited .turn ())) at hallowed
      generalize s.after _ = s' at hallowed
      cases hallowed
      rfl
    | _ => cases hu

/-- **What a call does next** is what its phase allows. -/
theorem next {force : Bool} {t : Task Fetched} {s : CallPhase} (follows : (caller force).Follows Returns t s)
    (honly : t.program.Only (·.isOfCall = true) fun _ => True) : Next force t s := by
  obtain ⟨program, calling, own⟩ := t
  cases program with
  | done r =>
    cases calling with
    | true => exact follows.elim
    | false => exact .done r rfl follows
  | step e k =>
    obtain ⟨he, -⟩ := honly
    cases e with
    | access a =>
      cases calling with
      | true => exact follows.elim
      | false => exact .access a k rfl fun x hx => (follows x hx).1
    | suspend u =>
      cases calling with
      | false => exact next_of_suspended he rfl rfl follows
      | true =>
        cases u with
        | wait w => exact follows.elim
        | call c =>
          obtain ⟨kept, hs⟩ := of_answered he fun x => (follows x).1
          exact .answer kept hs
    | watched id u =>
      cases calling with
      | false => exact next_of_suspended he rfl rfl follows.2
      | true =>
        cases u with
        | wait w => exact follows.elim
        | call c =>
          obtain ⟨kept, hs⟩ := of_answered he fun x => (follows.2 x).1
          exact .answer kept hs

end CallPhase

namespace CallPhase.Next

variable {force : Bool} {t : Task Fetched} {s : CallPhase}

/-- A call that can go on only by one access makes it. -/
theorem access_of_inside (h : Next force t s) (hs : s.isInside = true) {a : Access}
    (honly : ∀ event s', s.Steps force event s' → ∃ x, event = .accessed a x) :
    ∃ next, t.program = .step (.access a) next := by
  cases h with
  | done r hp hreturns =>
    rcases hreturns with rfl | ⟨rfl, -⟩ <;> cases hs
  | access b next hp hallowed =>
    obtain ⟨x, heq⟩ := honly _ _ (hallowed _ (idleHost.canAnswer 0 t.own b))
    cases heq
    exact ⟨next, hp⟩
  | call c hp hcalling hallowed =>
    obtain ⟨x, heq⟩ := honly _ _ hallowed
    cases heq
  | answer kept hs' =>
    subst hs'
    obtain ⟨x, heq⟩ := honly _ _ (.askBlock kept)
    cases heq
  | wait hp hs' =>
    subst hs'
    cases hs

theorem wait_of_out (h : Next force t .out) : t.suspension? = some (.wait .turn) := by
  cases h with
  | done r hp hreturns => rcases hreturns with hs | ⟨hs, -⟩ <;> cases hs
  | access a next hp hallowed =>
    have hstep := hallowed _ (idleHost.canAnswer 0 t.own a)
    generalize after .out _ = s' at hstep
    cases hstep
  | call c hp hcalling hallowed =>
    generalize after .out _ = s' at hallowed
    cases hallowed
  | answer kept hs => cases hs
  | wait hp hs => exact hp

theorem call_of_bound {kept : Option BaseContext} {k : AccessKey} (h : Next force t (.bound kept k)) :
    t.suspension? = some (.call (.accessKey k)) ∧ t.calling = false := by
  cases h with
  | done r hp hreturns => rcases hreturns with hs | ⟨hs, -⟩ <;> cases hs
  | access a next hp hallowed =>
    have hstep := hallowed _ (idleHost.canAnswer 0 t.own a)
    generalize after (.bound kept k) _ = s' at hstep
    cases hstep
  | call c hp hcalling hallowed =>
    generalize after (.bound kept k) _ = s' at hallowed
    cases hallowed
    exact ⟨hp, hcalling⟩
  | answer kept hs => cases hs
  | wait hp hs => cases hs

theorem done_of_left {r : Fetched} (h : Next force t (.left r)) : t.program = .done r := by
  cases h with
  | done r' hp hreturns =>
    rcases hreturns with hs | ⟨hs, -⟩ <;> cases hs
    exact hp
  | access a next hp hallowed =>
    have hstep := hallowed _ (idleHost.canAnswer 0 t.own a)
    generalize after (.left r) _ = s' at hstep
    cases hstep
  | call c hp hcalling hallowed =>
    generalize after (.left r) _ = s' at hallowed
    cases hallowed
  | answer kept hs => cases hs
  | wait hp hs => cases hs

end CallPhase.Next

/-! ## What a call has done -/

/-- The chain refuses a call, or no key is bound for which it could be asked. -/
def Event.Refuses (e : ChainError) : Event → Prop
  | .accessed .boundKey none => e = .notInitialized
  | .answered (.accessKey _) (.error e') => e = e'
  | .answered .latestBlock (.error e') => e = e'
  | _ => False

/-- The call takes in an answer or keeps a context. -/
def Event.stores : Event → Bool
  | .accessed (.absorb _) _ | .accessed (.keepTurn _) _ => true
  | _ => false

namespace CallPhase

/-- The history of a call that has got to a phase. -/
inductive Walks : History → CallPhase → Prop
  | nil : Walks [] .out
  | snoc {h : History} {s s' : CallPhase} {event : Event} (before : Walks h s) (last : s.Steps true event s') :
    Walks (h ++ [event]) s'

variable {h : History} {s s' : CallPhase} {event : Event} {e : ChainError}

theorem Steps.of_refuses {force : Bool} (h : Steps force s event s') (hrefuses : event.Refuses e) :
    s' = .ends (.error e) := by
  cases h with
  | unbound | refuse | refuseBlock =>
    cases hrefuses
    rfl
  | _ => exact hrefuses.elim

/-- A refusal is what the call returns. -/
theorem Walks.refused (walks : Walks h s) (hmem : event ∈ h) (hrefuses : event.Refuses e) :
    s = .ends (.error e) ∨ s = .left (.error e) := by
  induction walks with
  | nil => cases hmem
  | snoc _ last ih =>
    rcases List.mem_append.1 hmem with hmem | hmem
    · rcases ih hmem with rfl | rfl
      · cases last
        exact .inr rfl
      · cases last
    · cases List.mem_singleton.1 hmem
      exact .inl (last.of_refuses hrefuses)

/-- Only a refusal makes a call return an error. -/
theorem Walks.refuses (walks : Walks h s) (hs : s = .ends (.error e) ∨ s = .left (.error e)) :
    ∃ event ∈ h, event.Refuses e := by
  induction walks with
  | nil => rcases hs with hs | hs <;> cases hs
  | @snoc h s s' event _ last ih =>
    rcases hs with rfl | rfl
    · refine ⟨event, List.mem_append_right _ (List.mem_singleton_self event), ?_⟩
      cases last <;> rfl
    · cases last with
      | leave =>
        obtain ⟨event, hmem, hrefuses⟩ := ih (.inl rfl)
        exact ⟨event, List.mem_append_left _ hmem, hrefuses⟩

/-- A call that has stored something returns a context, if it gets so far. -/
theorem Walks.stored (walks : Walks h s) (hmem : event ∈ h) (hstores : event.stores = true) :
    (∃ kept, s = .absorbed kept) ∨ ∃ c, s = .ends (.ok c) ∨ s = .left (.ok c) := by
  induction walks with
  | nil => cases hmem
  | snoc _ last ih =>
    rcases List.mem_append.1 hmem with hmem | hmem
    · rcases ih hmem with ⟨kept, rfl⟩ | ⟨c, rfl | rfl⟩
      · cases last with
        | keep kept c => exact .inr ⟨c, .inl rfl⟩
      · cases last
        exact .inr ⟨c, .inr rfl⟩
      · cases last
    · cases List.mem_singleton.1 hmem
      cases last with
      | absorb kept => exact .inl ⟨kept, rfl⟩
      | keep kept c => exact .inr ⟨c, .inl rfl⟩
      | _ => cases hstores

end CallPhase

/-! ## Along a run -/

/-- Where the call of a task stands. -/
def phaseOf (ss : List (Step Fetched)) (i : Nat) : CallPhase := (CallPhase.caller true).seen .out (historyOf i ss)

theorem phaseOf_snoc_some {ss : List (Step Fetched)} {st : Step Fetched} {i : Nat} {event : Event}
    (h : st.happening.event? i = some event) : phaseOf (ss ++ [st]) i = (phaseOf ss i).after event :=
  (CallPhase.caller true).seen_snoc_some .out ss h

theorem phaseOf_snoc_of {ss : List (Step Fetched)} {st : Step Fetched} {i : Nat} {s : CallPhase} (event : Event)
    (h : st.happening = event.happening i) (hs : phaseOf ss i = s) : phaseOf (ss ++ [st]) i = s.after event :=
  hs ▸ phaseOf_snoc_some (Happening.event?_of_eq h)

theorem phaseOf_snoc_none {ss : List (Step Fetched)} {st : Step Fetched} {i : Nat}
    (h : st.happening.event? i = none) : phaseOf (ss ++ [st]) i = phaseOf ss i :=
  (CallPhase.caller true).seen_snoc_none .out ss h

namespace Run

open CallPhase (caller Walks Next Returns)

/-- Every task of a run was started in it. -/
theorem exists_start {α : Type} {w w' : Wallet α} {ss : List (Step α)} (run : Run w ss w') (hempty : w.tasks = [])
    {i : Nat} {t : Task α} (ht : w'.tasks[i]? = some t) :
    ∃ st ∈ ss, ∃ p, st.move = .start p ∧ st.before.tasks.length = i := by
  refine run.along (I := fun done w => ∀ t, w.tasks[i]? = some t →
    ∃ st ∈ done, ∃ p, st.move = .start p ∧ st.before.tasks.length = i) (fun t₀ ht₀ => ?_)
    (fun done st rest hss _ g hthere t' ht' => ?_) t ht
  · rw [hempty] at ht₀
    cases ht₀
  · cases ht : st.before.tasks[i]? with
    | none =>
      obtain ⟨p, hp, -⟩ := (g.newTask ht).2 t' ht'
      have hlow : st.before.tasks.length ≤ i := List.getElem?_eq_none_iff.1 ht
      have hhigh : i < st.before.tasks.length + 1 := by
        obtain ⟨hlt, -⟩ := List.getElem?_eq_some_iff.1 ht'
        rw [hp] at g
        generalize st.happening = happening, st.after = after at g hlt
        cases g
        rwa [List.length_append] at hlt
      exact ⟨st, List.mem_append_right _ (List.mem_singleton_self st), p, hp,
        Nat.le_antisymm hlow (Nat.le_of_lt_succ hhigh)⟩
    | some t =>
      obtain ⟨st', hst', hstart⟩ := hthere t ht
      exact ⟨st', List.mem_append_left _ hst', hstart⟩

variable {w w' : Wallet Fetched} {ss ss₁ ss₂ : List (Step Fetched)} {st : Step Fetched} {i : Nat}

theorem starts_caller (hasks : ∀ st ∈ ss, ∀ p, st.move = .start p → ∃ force, p.Asks force) :
    Run.Starts (caller true) Returns .out ss := by
  intro st hst p hp
  obtain ⟨force, hforce⟩ := hasks st hst p hp
  exact CallPhase.meets hforce (fun _ => rfl) {}

theorem asks_snoc (hasks : ∀ st ∈ ss, ∀ p, st.move = .start p → ∃ force, p.Asks force)
    (hmove : ∀ p, st.move ≠ .start p) : ∀ st' ∈ ss ++ [st], ∀ p, st'.move = .start p → ∃ force, p.Asks force :=
  List.forall_mem_append.2 ⟨hasks, List.forall_mem_singleton.2 fun p hp => absurd hp (hmove p)⟩

/-- Every event of a call is one that its phase allows. -/
theorem steps (run : Run w ss w') (hempty : w.tasks = [])
    (hasks : ∀ st ∈ ss, ∀ p, st.move = .start p → ∃ force, p.Asks force) (hss : ss = ss₁ ++ st :: ss₂) {event : Event}
    (hevent : st.happening.event? i = some event) :
    (phaseOf ss₁ i).Steps true event (phaseOf (ss₁ ++ [st]) i) := by
  subst hss
  have hallowed := run.allowedAll hempty (starts_caller hasks) hevent
  rw [phaseOf_snoc_some hevent]
  exact hallowed

theorem walks (run : Run w ss w') (hempty : w.tasks = [])
    (hasks : ∀ st ∈ ss, ∀ p, st.move = .start p → ∃ force, p.Asks force) (i : Nat) :
    Walks (historyOf i ss) (phaseOf ss i) := by
  refine run.along (I := fun done _ => Walks (historyOf i done) (phaseOf done i)) .nil
    fun done st rest hss _ _ hthere => ?_
  cases hevent : st.happening.event? i with
  | none =>
    rw [phaseOf_snoc_none hevent, historyOf_append, historyOf_cons_none hevent]
    exact (List.append_nil (historyOf i done)).symm ▸ hthere
  | some event =>
    have hstep := run.steps hempty hasks hss hevent
    rw [historyOf_append, historyOf_cons_some hevent]
    exact .snoc hthere hstep

/-- **What the task of a call does next.** -/
theorem next (run : Run w ss w') (hempty : w.tasks = [])
    (hasks : ∀ st ∈ ss, ∀ p, st.move = .start p → ∃ force, p.Asks force) {t : Task Fetched}
    (ht : w'.tasks[i]? = some t) : Next true t (phaseOf ss i) := by
  have follows := ((run.followsAll hempty (starts_caller hasks)) i).1 t ht
  refine CallPhase.next follows (run.onlyAll hempty (fun st hst p hp => ?_) i t ht)
  obtain ⟨force, hforce⟩ := hasks st hst p hp
  exact hforce.only

/-- Who has its turn is there. -/
theorem exists_of_inside (run : Run w ss w') (hinside : (phaseOf ss i).isInside = true) :
    ∃ t, w'.tasks[i]? = some t := by
  cases ht : w'.tasks[i]? with
  | none =>
    obtain ⟨hsilent, -⟩ := run.silent_of_none ht
    unfold phaseOf at hinside
    rw [hsilent] at hinside
    cases hinside
  | some t => exact ⟨t, rfl⟩

/-- A call that is not forced keeps to the stricter rule. -/
theorem next_unforced (run : Run w ss w') {p : Program Fetched} (hst : st ∈ ss) (hstart : st.move = .start p)
    (hp : p.Asks false) (hi : st.before.tasks.length = i) {t : Task Fetched} (ht : w'.tasks[i]? = some t) :
    Next false t (phaseOf ss i) := by
  subst hi
  obtain ⟨pre, rest, rfl⟩ := List.append_of_mem hst
  obtain ⟨after, hthere, hhistory⟩ := run.since_start hstart
  obtain ⟨t', ht', follows⟩ := after.follows hthere (.of_meets (CallPhase.meets hp nofun {}))
  obtain ⟨t'', ht'', honly⟩ := after.only hthere hp.only
  cases ht'.symm.trans ht
  cases ht''.symm.trans ht
  unfold phaseOf
  rw [hhistory]
  exact CallPhase.next follows honly

/-- A call that has nothing left to do but to leave, leaves and returns. -/
theorem leaves (run : Run w ss w') (hempty : w.tasks = [])
    (hasks : ∀ st ∈ ss, ∀ p, st.move = .start p → ∃ force, p.Asks force) {force : Bool} {t : Task Fetched}
    (ht : w'.tasks[i]? = some t) (hnext : Next force t (phaseOf ss i)) {r : Fetched}
    (hs : phaseOf ss i = .ends r ∨ ∃ c, force = false ∧ phaseOf ss i = .looked (some c) ∧ r = .ok c) :
    ∃ v, w'.step? (.advance i) = some (.accessed i .leaveTurn (), v) ∧ v.result? i = some r := by
  obtain ⟨⟨next, hp⟩, hleft⟩ : (∃ next, t.program = .step (.access .leaveTurn) next) ∧
      (phaseOf ss i).after (.accessed .leaveTurn ()) = .left r := by
    rcases hs with hs | ⟨c, rfl, hs, rfl⟩
    · rw [hs] at hnext ⊢
      refine ⟨hnext.access_of_inside rfl fun event s' hstep => ?_, rfl⟩
      cases hstep
      exact ⟨(), rfl⟩
    · rw [hs] at hnext ⊢
      refine ⟨hnext.access_of_inside rfl fun event s' hstep => ?_, rfl⟩
      cases hstep with
      | reuse => exact ⟨(), rfl⟩
      | unbound hforced | bind k hforced => cases hforced rfl
  have g := Wallet.Goes.access ht hp
  have hafter (h : Host) (t' : Task Fetched) : ({ w' with host := h }.setTask i t').tasks[i]? = some t' :=
    Wallet.setTask_self ht
  have hthen := (run.snoc g.step?).next hempty (asks_snoc hasks nofun) (hafter _ _)
  rw [phaseOf_snoc_of (.accessed .leaveTurn ()) rfl rfl, hleft] at hthen
  have hdone := hthen.done_of_left
  refine ⟨_, g.step?, ?_⟩
  unfold Wallet.result?
  rw [hafter]
  show Task.result? _ = _
  unfold Task.result?
  rw [hdone]

/-- Who has left does nothing more. -/
theorem silent_of_left (run : Run w (ss₁ ++ ss₂) w') (hempty : w.tasks = [])
    (hasks : ∀ st ∈ ss₁ ++ ss₂, ∀ p, st.move = .start p → ∃ force, p.Asks force) {r : Fetched}
    (hleft : phaseOf ss₁ i = .left r) : historyOf i ss₂ = [] := by
  cases hhistory : historyOf i ss₂ with
  | nil => rfl
  | cons event h =>
    obtain ⟨skipped, st, rest, rfl, hsilent, hevent, -⟩ := List.filterMap_eq_cons_iff.1 hhistory
    have hsame : phaseOf (ss₁ ++ skipped) i = .left r := by
      have hskipped : historyOf i skipped = [] := List.filterMap_eq_nil_iff.2 hsilent
      rw [phaseOf, historyOf_append, hskipped, List.append_nil]
      exact hleft
    have hcut : ss₁ ++ (skipped ++ st :: rest) = (ss₁ ++ skipped) ++ st :: rest := (List.append_assoc ..).symm
    have hstep := run.steps hempty hasks hcut hevent
    rw [hsame] at hstep
    generalize phaseOf (ss₁ ++ skipped ++ [st]) i = s at hstep
    cases hstep

end Run
end PasskeyConsent

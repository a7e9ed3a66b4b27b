import PasskeyConsent.Proofs.Channel.Messages
import PasskeyConsent.Rehearsal.Waiting
/-!
# How a wait ends

A wait for one message is a race of its abort, its deadline, the messages that come and the end of the channel.  One
look takes the first of these that is there, in this order (`Mailbox.looks`), and a wait that goes on has emptied its
mailbox; so it ends at the first instant at which there is anything to end it (`WaitPlan.playAt_ends`), and what it
leaves in the mailbox is all that has come since (`WaitPlan.play_awaited`).
-/
namespace PasskeyConsent

variable {α : Type}

/-! ## One look -/

namespace Mailbox

/-- **Everything that one look can come to**, with the mailbox that it leaves. -/
inductive Looks (b : Mailbox α) (answers : α → Bool) (signs : WaitSigns) : Option (WaitOutcome α) → Mailbox α → Prop
  | aborted (h : signs.aborted = true) : Looks b answers signs (some .aborted) b
  | timedOut (h : signs.aborted = false) (hover : signs.overdue = true) : Looks b answers signs (some .timedOut) b
  | received (h : signs.aborted = false) (hover : signs.overdue = false) {dropped rest : List α} {m : α}
      (hmessages : b.messages = dropped ++ m :: rest) (hdropped : ∀ x ∈ dropped, answers x = false)
      (hm : answers m = true) : Looks b answers signs (some (.received m)) { b with messages := rest }
  | closed (h : signs.aborted = false) (hover : signs.overdue = false) (hnone : ∀ x ∈ b.messages, answers x = false)
      (hclosed : b.closed = true) : Looks b answers signs (some .closed) { b with messages := [] }
  | goesOn (h : signs.aborted = false) (hover : signs.overdue = false) (hnone : ∀ x ∈ b.messages, answers x = false)
      (hopen : b.closed = false) : Looks b answers signs none {}

theorem firstAnswer_eq_none {answers : α → Bool} {l : List α} (h : firstAnswer answers l = none) :
    ∀ x ∈ l, answers x = false := by
  induction l with
  | nil => exact fun x hx => absurd hx List.not_mem_nil
  | cons m l ih =>
    unfold firstAnswer at h
    split at h
    · cases h
    · rename_i hm
      exact List.forall_mem_cons.2 ⟨Bool.eq_false_iff.2 hm, ih h⟩

theorem looks (b : Mailbox α) (answers : α → Bool) (signs : WaitSigns) :
    b.Looks answers signs (b.look answers signs).1 (b.look answers signs).2 := by
  obtain ⟨aborted, overdue⟩ := signs
  cases aborted with
  | true => exact .aborted rfl
  | false =>
    cases overdue with
    | true => exact .timedOut rfl rfl
    | false =>
      unfold look
      rw [if_neg Bool.false_ne_true, if_neg Bool.false_ne_true]
      cases hfirst : firstAnswer answers b.messages with
      | some found =>
        obtain ⟨m, rest⟩ := found
        obtain ⟨dropped, hmessages, hdropped, hm⟩ := firstAnswer_eq_some hfirst
        refine .received rfl rfl hmessages (fun x hx => ?_) hm
        exact Bool.eq_false_iff.2 (List.filter_eq_nil_iff.1 hdropped x hx)
      | none =>
        obtain ⟨messages, closed⟩ := b
        cases closed with
        | true => exact .closed rfl rfl (firstAnswer_eq_none hfirst) rfl
        | false => exact .goesOn rfl rfl (firstAnswer_eq_none hfirst) rfl

end Mailbox

namespace Rehearsal.WaitPlan

/-! ## What has come by an instant -/

/-- The messages that come at an instant, in their order. -/
def comingAt (p : WaitPlan α) (t : Nat) : List α := (p.messages.filter (·.1 == t)).map (·.2)

/-- The messages that have come by an instant, in the order in which they come. -/
def comeBy (p : WaitPlan α) (t : Nat) : List α := (List.range (t + 1)).flatMap p.comingAt

/-- By an instant there is something other than an abort to end the wait. -/
def Ends (p : WaitPlan α) (answers : α → Bool) (t : Nat) : Prop :=
  p.timeout ≤ t ∨ (∃ m ∈ p.comeBy t, answers m = true) ∨ ∃ c ≤ t, p.closesAt = some c

/-- By an instant there is something to end the wait. -/
def Settles (p : WaitPlan α) (answers : α → Bool) (t : Nat) : Prop := p.abortedBy t = true ∨ p.Ends answers t

variable {p : WaitPlan α} {answers : α → Bool} {t : Nat}

theorem mem_comingAt {m : α} : m ∈ p.comingAt t ↔ (t, m) ∈ p.messages := by
  unfold comingAt
  rw [List.mem_map]
  constructor
  · rintro ⟨⟨s, m'⟩, hmem, rfl⟩
    obtain ⟨hmem, hs⟩ := List.mem_filter.1 hmem
    exact eq_of_beq hs ▸ hmem
  · intro hmem
    exact ⟨(t, m), List.mem_filter.2 ⟨hmem, beq_self_eq_true t⟩, rfl⟩

theorem mem_comeBy {m : α} : m ∈ p.comeBy t ↔ ∃ s ≤ t, m ∈ p.comingAt s := by
  unfold comeBy
  rw [List.mem_flatMap]
  exact exists_congr fun s => and_congr_left fun _ => List.mem_range.trans Nat.lt_succ_iff

/-- What comes at an instant is behind all that has come before. -/
theorem comeBy_eq (p : WaitPlan α) (t : Nat) :
    ∃ before, p.comeBy t = before ++ p.comingAt t ∧ ∀ x ∈ before, ∃ s < t, x ∈ p.comeBy s := by
  refine ⟨(List.range t).flatMap p.comingAt, ?_, fun x hx => ?_⟩
  · rw [comeBy, List.range_succ, List.flatMap_append, List.flatMap_singleton]
  · obtain ⟨s, hs, hx⟩ := List.mem_flatMap.1 hx
    exact ⟨s, List.mem_range.1 hs, mem_comeBy.2 ⟨s, Nat.le_refl s, hx⟩⟩

theorem deliverAll (l : List (Nat × α)) (b : Mailbox α) :
    l.foldl (fun b m => b.deliver m.2) b = { b with messages := b.messages ++ l.map (·.2) } := by
  induction l generalizing b with
  | nil => rw [List.foldl_nil, List.map_nil, List.append_nil]
  | cons m l ih =>
    rw [List.foldl_cons, ih, List.map_cons]
    unfold Mailbox.deliver
    rw [List.append_assoc]
    rfl

theorem arrive_empty (p : WaitPlan α) (t : Nat) : p.arrive t {} = ⟨p.comingAt t, p.closesAt == some t⟩ := by
  unfold arrive
  rw [deliverAll]
  rfl

/-! ## The instants at which something happens -/

theorem mem_times (p : WaitPlan α) : t ∈ p.times ↔
    t = 0 ∨ t = p.timeout ∨ (∃ m, (t, m) ∈ p.messages) ∨ p.closesAt = some t ∨ p.abort = .at t := by
  unfold times
  rw [List.mem_eraseDups, List.mem_mergeSort]
  cases p.abort <;> simp [eq_comm]

theorem eraseDups_sublist : (l : List Nat) → l.eraseDups.Sublist l
  | [] => .slnil
  | n :: l => by
    rw [List.eraseDups_cons]
    exact ((eraseDups_sublist _).trans List.filter_sublist).cons_cons n
termination_by l => l.length
decreasing_by exact Nat.lt_succ_of_le (List.length_filter_le _ l)

/-- Whatever ends the wait happens at one of the times. -/
theorem exists_time_of_settles (h : p.Settles answers t) : ∃ e ∈ p.times, e ≤ t ∧ p.Settles answers e := by
  rcases h with habort | hover | ⟨m, hm, hanswers⟩ | ⟨c, hc, hcloses⟩
  · unfold abortedBy at habort
    split at habort
    · rename_i hbefore
      exact ⟨0, p.mem_times.2 (.inl rfl), Nat.zero_le t, .inl (by unfold abortedBy; rw [hbefore])⟩
    · rename_i a hat
      refine ⟨a, p.mem_times.2 (.inr (.inr (.inr (.inr hat)))), of_decide_eq_true habort, .inl ?_⟩
      unfold abortedBy
      rw [hat]
      exact decide_eq_true (Nat.le_refl a)
    · cases habort
  · exact ⟨p.timeout, p.mem_times.2 (.inr (.inl rfl)), hover, .inr (.inl (Nat.le_refl _))⟩
  · obtain ⟨s, hs, hcoming⟩ := mem_comeBy.1 hm
    have hmem : s ∈ p.times := p.mem_times.2 (.inr (.inr (.inl ⟨m, mem_comingAt.1 hcoming⟩)))
    exact ⟨s, hmem, hs, .inr (.inr (.inl ⟨m, mem_comeBy.2 ⟨s, Nat.le_refl s, hcoming⟩, hanswers⟩))⟩
  · have hmem : c ∈ p.times := p.mem_times.2 (.inr (.inr (.inr (.inl hcloses))))
    exact ⟨c, hmem, hc, .inr (.inr (.inr ⟨c, Nat.le_refl c, hcloses⟩))⟩

theorem pairwise_times (p : WaitPlan α) : p.times.Pairwise (· ≤ ·) := by
  refine List.Pairwise.sublist (eraseDups_sublist _) ?_
  refine (List.pairwise_mergeSort (fun a b c => ?_) (fun a b => ?_) _).imp fun h => of_decide_eq_true h
  · simp only [decide_eq_true_eq]
    exact Nat.le_trans
  · simp only [Bool.or_eq_true, decide_eq_true_eq]
    exact Nat.le_total a b

/-! ## The end of a wait -/

/-- **How a wait can end at an instant**, and what it leaves in the mailbox. -/
inductive EndsWith (p : WaitPlan α) (answers : α → Bool) (t : Nat) : WaitOutcome α → List α → Prop
  | aborted (h : p.abortedBy t = true) : EndsWith p answers t .aborted (p.comingAt t)
  | timedOut (h : p.abortedBy t = false) (hover : p.timeout ≤ t) : EndsWith p answers t .timedOut (p.comingAt t)
  | received (h : p.abortedBy t = false) (hover : t < p.timeout) {dropped rest : List α} {m : α}
      (hcome : p.comeBy t = dropped ++ m :: rest) (hdropped : ∀ x ∈ dropped, answers x = false)
      (hm : answers m = true) : EndsWith p answers t (.received m) rest
  | closed (h : p.abortedBy t = false) (hover : t < p.timeout) (hnone : ∀ x ∈ p.comeBy t, answers x = false)
      (hcloses : p.closesAt = some t) : EndsWith p answers t .closed []

/-- The mailbox when the wait is over. -/
def leaveAt (p : WaitPlan α) (answers : α → Bool) : List Nat → Mailbox α → Mailbox α
  | [], b => b
  | t :: rest, b =>
    match (p.arrive t b).look answers ⟨p.abortedBy t, p.timeout ≤ t⟩ with
    | (some _, b) => b
    | (none, b) => p.leaveAt answers rest b

/-- The messages that the wait leaves in the mailbox, of those that have come until it ends. -/
def left (p : WaitPlan α) (answers : α → Bool) : List α := (p.leaveAt answers p.times {}).messages

/-- The wait ends with a report at the first instant at which there is anything to end it. -/
structure Reports (p : WaitPlan α) (answers : α → Bool) (r : WaitReport α) (left : List α) : Prop where
  settled : p.Settles answers r.elapsed
  first : ∀ t < r.elapsed, ¬ p.Settles answers t
  ends : p.EndsWith answers r.elapsed r.outcome left
  unread : r.unread = left.length
  signal : r.aborted = p.abortedBy r.elapsed

/-- Before an instant up to which nothing has ended the wait, no message that answers has come. -/
theorem dropped_of_unsettled (hbefore : ∀ s < t, ¬ p.Settles answers s) :
    ∃ before, p.comeBy t = before ++ p.comingAt t ∧ ∀ x ∈ before, answers x = false := by
  obtain ⟨before, hcome, hearlier⟩ := p.comeBy_eq t
  refine ⟨before, hcome, fun x hx => Bool.eq_false_iff.2 fun hanswers => ?_⟩
  obtain ⟨s, hs, hx⟩ := hearlier x hx
  exact hbefore s hs (.inr (.inr (.inl ⟨x, hx, hanswers⟩)))

/-- **One look of a wait** that has not ended before: it ends now, or there is nothing yet to end it. -/
theorem look_ends (hbefore : ∀ s < t, ¬ p.Settles answers s) {o : Option (WaitOutcome α)} {b : Mailbox α}
    (looks : (p.arrive t {}).Looks answers ⟨p.abortedBy t, p.timeout ≤ t⟩ o b) :
    (∃ outcome, o = some outcome ∧ p.Settles answers t ∧ p.EndsWith answers t outcome b.messages) ∨
      o = none ∧ b = {} ∧ ¬ p.Settles answers t := by
  obtain ⟨before, hcome, hdropped⟩ := dropped_of_unsettled hbefore
  rw [arrive_empty] at looks
  cases looks with
  | aborted h => exact .inl ⟨_, rfl, .inl h, .aborted h⟩
  | timedOut h hover =>
    have hover : p.timeout ≤ t := of_decide_eq_true hover
    exact .inl ⟨_, rfl, .inr (.inl hover), .timedOut h hover⟩
  | @received h hover dropped rest m hmessages hskipped hm =>
    have hall : p.comeBy t = (before ++ dropped) ++ m :: rest := by
      rw [hcome, show p.comingAt t = dropped ++ m :: rest from hmessages, List.append_assoc]
    have hmem : m ∈ p.comeBy t := hall ▸ List.mem_append_right _ List.mem_cons_self
    exact .inl ⟨_, rfl, .inr (.inr (.inl ⟨m, hmem, hm⟩)), .received h (Nat.lt_of_not_le (of_decide_eq_false hover)) hall
      (List.forall_mem_append.2 ⟨hdropped, hskipped⟩) hm⟩
  | closed h hover hnone hclosed =>
    have hcloses : p.closesAt = some t := eq_of_beq hclosed
    exact .inl ⟨_, rfl, .inr (.inr (.inr ⟨t, Nat.le_refl t, hcloses⟩)),
      .closed h (Nat.lt_of_not_le (of_decide_eq_false hover)) (hcome ▸ List.forall_mem_append.2 ⟨hdropped, hnone⟩)
        hcloses⟩
  | goesOn h hover hnone hopen =>
    refine .inr ⟨rfl, rfl, ?_⟩
    rintro (habort | hpast | ⟨m, hm, hanswers⟩ | ⟨c, hc, hcloses⟩)
    · cases h.symm.trans habort
    · exact of_decide_eq_false hover hpast
    · have hnot := (hcome ▸ List.forall_mem_append.2 ⟨hdropped, hnone⟩ : ∀ x ∈ p.comeBy t, answers x = false) m hm
      cases hnot.symm.trans hanswers
    · rcases Nat.lt_or_eq_of_le hc with hlt | rfl
      · exact hbefore c hlt (.inr (.inr (.inr ⟨c, Nat.le_refl c, hcloses⟩)))
      · rw [hcloses] at hopen
        exact absurd hopen (by simp)

/-- **A wait that has not ended before ends with a report.** -/
theorem playAt_reports {done todo : List Nat} (htimes : p.times = done ++ todo)
    (hdone : ∀ e ∈ done, ¬ p.Settles answers e) :
    ∃ r, p.playAt answers todo {} = some r ∧ p.Reports answers r (p.leaveAt answers todo {}).messages := by
  induction todo generalizing done with
  | nil =>
    have hmem : p.timeout ∈ p.times := p.mem_times.2 (.inr (.inl rfl))
    rw [htimes, List.append_nil] at hmem
    exact absurd (.inr (.inl (Nat.le_refl _))) (hdone _ hmem)
  | cons t rest ih =>
    have hbefore : ∀ s < t, ¬ p.Settles answers s := by
      intro s hs hsettles
      obtain ⟨e, he, hle, hsettles⟩ := exists_time_of_settles hsettles
      have hsorted := htimes ▸ p.pairwise_times
      rw [htimes] at he
      rcases List.mem_append.1 he with he | he
      · exact hdone e he hsettles
      · rcases List.mem_cons.1 he with rfl | he
        · omega
        · have := List.rel_of_pairwise_cons (List.pairwise_append.1 hsorted).2.1 he
          omega
    have hends := look_ends hbefore ((p.arrive t {}).looks answers ⟨p.abortedBy t, p.timeout ≤ t⟩)
    cases hlook : (p.arrive t {}).look answers ⟨p.abortedBy t, p.timeout ≤ t⟩ with
    | mk o b =>
      rw [hlook] at hends
      simp only [playAt, leaveAt, hlook]
      rcases hends with ⟨outcome, rfl, hsettles, hends⟩ | ⟨rfl, rfl, hunsettled⟩
      · exact ⟨_, rfl, hsettles, hbefore, hends, rfl, rfl⟩
      · rw [List.append_cons] at htimes
        exact ih htimes (List.forall_mem_append.2 ⟨hdone, List.forall_mem_singleton.2 hunsettled⟩)

theorem play_reports (p : WaitPlan α) (answers : α → Bool) : p.Reports answers (p.play answers) (p.left answers) := by
  obtain ⟨r, hr, reports⟩ := playAt_reports (List.nil_append p.times).symm fun e he => absurd he List.not_mem_nil
  have hplay : p.play answers = r := by rw [play, hr]; rfl
  rw [hplay]
  exact reports

namespace EndsWith

variable {outcome : WaitOutcome α} {left : List α}

/-- An abort that is there wins, and nothing that comes with it is taken. -/
theorem of_aborted (h : p.EndsWith answers t outcome left) (habort : p.abortedBy t = true) :
    outcome = .aborted ∧ left = p.comingAt t := by
  cases h with
  | aborted => exact ⟨rfl, rfl⟩
  | timedOut h | received h | closed h => cases h.symm.trans habort

/-- Any other outcome is had without an abort. -/
theorem of_ne_aborted (h : p.EndsWith answers t outcome left) (hne : outcome ≠ .aborted) :
    p.abortedBy t = false ∧ p.Ends answers t := by
  cases h with
  | aborted => exact absurd rfl hne
  | timedOut h hover => exact ⟨h, .inl hover⟩
  | @received h _ dropped rest m hcome _ hm =>
    exact ⟨h, .inr (.inl ⟨m, hcome ▸ List.mem_append_right _ List.mem_cons_self, hm⟩)⟩
  | closed h _ _ hcloses => exact ⟨h, .inr (.inr ⟨t, Nat.le_refl t, hcloses⟩)⟩

end EndsWith

/-- **What the end of a wait says** of what has come until then. -/
structure Awaited (p : WaitPlan α) (key : α → String) (r : WaitReport α) (left : List α) : Prop where
  /-- What is received is the first message for the wait; all before it are dropped, and all behind it are left. -/
  received : ∀ m, r.outcome = .received m → key m = p.id ∧
    ∃ dropped, p.comeBy r.elapsed = dropped ++ m :: left ∧ ∀ x ∈ dropped, key x ≠ p.id
  /-- An abort wins against all that comes no earlier, and only then. -/
  aborted : r.outcome = .aborted ↔ ∃ t, p.abortedBy t = true ∧ ∀ s < t, ¬ p.Ends (key · == p.id) s
  timedOut : r.outcome = .timedOut → r.elapsed = p.timeout ∧ p.abortedBy p.timeout = false ∧
    ∀ s < p.timeout, ∀ m ∈ p.comeBy s, key m ≠ p.id
  closed : r.outcome = .closed → p.closesAt = some r.elapsed ∧ left = [] ∧ ∀ m ∈ p.comeBy r.elapsed, key m ≠ p.id
  /-- An abort and a deadline take nothing of what comes with them. -/
  untouched : r.outcome = .aborted ∨ r.outcome = .timedOut → left = p.comingAt r.elapsed
  abortedBefore : p.abort = .before → r.outcome = .aborted ∧ r.elapsed = 0 ∧ left = p.comingAt 0
  /-- Without a signal, or with one that nobody fires, nothing is aborted. -/
  unfired : p.abort = .absent ∨ p.abort = .dropped ∨ p.abort = .held → r.outcome ≠ .aborted
  /-- The wait ends as soon as there is anything to end it. -/
  prompt : p.Settles (key · == p.id) r.elapsed ∧ ∀ t < r.elapsed, ¬ p.Settles (key · == p.id) t
  unread : r.unread = left.length
  signal : r.aborted = p.abortedBy r.elapsed

/-- **A wait for one message**, whatever comes and whenever: it takes the first message for it and nothing behind that,
unless it is aborted or its time is over no later. -/
theorem play_awaited (p : WaitPlan α) (key : α → String) :
    p.Awaited key (p.play (key · == p.id)) (p.left (key · == p.id)) := by
  obtain ⟨settled, first, ends, unread, signal⟩ := p.play_reports (key · == p.id)
  generalize p.play (key · == p.id) = r, p.left (key · == p.id) = left at settled first ends unread signal
  have hother {x : α} (hx : (key x == p.id) = false) : key x ≠ p.id := ne_of_beq_false hx
  refine ⟨?received, ?aborted, ?timedOut, ?closed, ?untouched, ?abortedBefore, ?unfired, ⟨settled, first⟩, unread, signal⟩
  case received =>
    rintro m hm
    rw [hm] at ends
    cases ends with
    | received h hover hcome hdropped hanswers =>
      exact ⟨eq_of_beq hanswers, _, hcome, fun x hx => hother (hdropped x hx)⟩
  case aborted =>
    constructor
    · intro h
      rw [h] at ends
      cases ends with
      | aborted habort => exact ⟨r.elapsed, habort, fun s hs hends => first s hs (.inr hends)⟩
    · rintro ⟨t, habort, hnone⟩
      have hle : r.elapsed ≤ t := Nat.le_of_not_lt fun hlt => first t hlt (.inl habort)
      by_contra hne
      obtain ⟨hunaborted, hends⟩ := ends.of_ne_aborted hne
      rcases Nat.lt_or_eq_of_le hle with hlt | heq
      · exact hnone _ hlt hends
      · rw [heq, habort] at hunaborted
        cases hunaborted
  case timedOut =>
    intro h
    rw [h] at ends
    cases ends with
    | timedOut habort hover =>
      have helapsed : r.elapsed = p.timeout :=
        Nat.le_antisymm (Nat.le_of_not_lt fun hlt => first _ hlt (.inr (.inl (Nat.le_refl _)))) hover
      rw [helapsed] at habort first
      refine ⟨helapsed, habort, fun s hs m hm hkey => first s hs (.inr (.inr (.inl ⟨m, hm, ?_⟩)))⟩
      exact beq_iff_eq.2 hkey
  case closed =>
    intro h
    rw [h] at ends
    cases ends with
    | closed habort hover hnone hcloses => exact ⟨hcloses, rfl, fun m hm => hother (hnone m hm)⟩
  case untouched =>
    rintro (h | h) <;>
    · rw [h] at ends
      cases ends
      rfl
  case abortedBefore =>
    intro h
    have habort (t : Nat) : p.abortedBy t = true := by
      unfold abortedBy
      rw [h]
    have helapsed : r.elapsed = 0 := Nat.eq_zero_of_not_pos fun hlt => first 0 hlt (.inl (habort 0))
    rw [helapsed] at ends
    obtain ⟨houtcome, hleft⟩ := ends.of_aborted (habort 0)
    exact ⟨houtcome, helapsed, hleft⟩
  case unfired =>
    intro h houtcome
    rw [houtcome] at ends
    cases ends with
    | aborted habort =>
      unfold abortedBy at habort
      rcases h with h | h | h <;>
      · rw [h] at habort
        cases habort

/-- The abort, the deadline, the message and the end of the channel come all at once. -/
example : (play ⟨"r", 50, [(0, "other"), (50, "r")], some 50, .at 50⟩ (· == "r")).outcome = .aborted := by cbv

end Rehearsal.WaitPlan
end PasskeyConsent

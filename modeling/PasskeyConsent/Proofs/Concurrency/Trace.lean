import PasskeyConsent.Proofs.Concurrency.Composition
/-!
# Traces

A program whose branches are few is described by all the histories that it can have from its beginning to its end, each
with what it comes to.  Such a description is a contract of one who writes the history down (`Program.Traces`), so in
every run what a task has done so far goes on to one of its traces, and what it has done when it ends is one
(`Run.exists_trace`, `Run.trace_of_result`).
-/
namespace PasskeyConsent

variable {α : Type}

/-- A call, and its answer. -/
def Call.asks (c : Call) (x : c.Answer) : History := [.called c, .answered c x]

@[simp] theorem Call.mem_asks {c : Call} {x : c.Answer} {e : Event} :
    e ∈ c.asks x ↔ e = .called c ∨ e = .answered c x := by simp [asks]

/-- One who writes down what a task does, which has to go on to one of the traces. -/
def tracer (T : α → History → Prop) : Observer History where
  after h e := h ++ [e]
  allows h e := ∃ a rest, T a (h ++ e :: rest)

/-- All that a program can do, from its beginning to its end, and what it comes to. -/
def Program.Traces (p : Program α) (T : α → History → Prop) : Prop :=
  (tracer T).Meets Observer.anywhere p (fun a _ h => T a h) {} []

namespace Observer

variable {T : α → History → Prop} {own : Holdings} {h : History}

theorem tracer_seen (T : α → History → Prop) (h₁ h₂ : History) : (tracer T).seen h₁ h₂ = h₁ ++ h₂ := recorder_seen h₁ h₂

/-- A call goes on to a trace if there is one for every answer. -/
theorem meets_ask {β : Type} {c : Call} {k : c.Answer → Program β} {post : β → Holdings → History → Prop} (x : c.Answer)
    (goes : ∀ x, ∃ a rest, T a (h ++ c.asks x ++ rest))
    (next : ∀ x, (tracer T).Meets anywhere (k x) post own (h ++ c.asks x)) :
    (tracer T).Meets anywhere (Program.call c >>= k) post own h := by
  have split : ∀ x rest, h ++ c.asks x ++ rest = h ++ .called c :: .answered c x :: rest := by
    intro x rest
    simp [Call.asks]
  have called : (tracer T).allows h (.called c) := by
    obtain ⟨a, rest, trace⟩ := goes x
    exact ⟨a, _, split x rest ▸ trace⟩
  refine meets_call ⟨trivial, called, trivial, fun x => ?_⟩
  obtain ⟨a, rest, trace⟩ := goes x
  have seen : (tracer T).after ((tracer T).after h (.called c)) (.answered c x) = h ++ c.asks x := by
    simp [tracer, Call.asks]
  refine ⟨⟨a, rest, ?_⟩, seen ▸ next x⟩
  rw [split] at trace
  simpa [tracer] using trace

end Observer

namespace Run

variable {w w' : Wallet α} {ss : List (Step α)} {st : Step α} {p : Program α} {T : α → History → Prop}

/-- **What a task has done so far** goes on to one of its traces. -/
theorem exists_trace (run : Run w ss w') (hst : st ∈ ss) (hstart : st.move = .start p) (traces : p.Traces T)
    (hne : ∃ a h, T a h) : ∃ a rest, T a (historyOf st.before.tasks.length ss ++ rest) := by
  rcases List.eq_nil_or_concat (historyOf st.before.tasks.length ss) with nil | ⟨h, e, eq⟩
  · rw [nil]
    exact hne
  · rw [List.concat_eq_append] at eq
    have last : ss.filterMap (·.happening.event? st.before.tasks.length) = h ++ e :: [] := eq
    obtain ⟨before, now, after, split, rfl, he, -⟩ := exists_of_filterMap_eq last
    obtain ⟨a, rest, trace⟩ := run.allowed_since_start hst hstart rfl traces split he
    rw [Observer.tracer_seen, List.nil_append] at trace
    refine ⟨a, rest, ?_⟩
    rw [eq, List.append_assoc]
    exact trace

/-- What a task has done when it has come to its end is one. -/
theorem trace_of_result (run : Run w ss w') (hst : st ∈ ss) (hstart : st.move = .start p) (traces : p.Traces T) {a : α}
    (ha : w'.result? st.before.tasks.length = some a) : T a (historyOf st.before.tasks.length ss) := by
  obtain ⟨-, trace⟩ := run.result_since_start hst hstart rfl traces ha
  rwa [Observer.tracer_seen, List.nil_append] at trace

end Run

/-- What a task has noticed are happenings of the steps. -/
theorem mem_historyOf_iff {ss : List (Step α)} {i : Nat} {e : Event} :
    e ∈ historyOf i ss ↔ ∃ st ∈ ss, st.happening = e.happening i := by
  unfold historyOf
  rw [List.mem_filterMap]
  constructor
  · rintro ⟨st, hst, he⟩
    exact ⟨st, hst, Happening.eq_of_event? he⟩
  · rintro ⟨st, hst, hnow⟩
    exact ⟨st, hst, Happening.event?_of_eq hnow⟩

end PasskeyConsent

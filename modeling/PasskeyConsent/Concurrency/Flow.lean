/-!
# Flows

A flow is what is left to do: nothing more, or an effect and, for every answer to it, the flow that follows.  All that
a flow can do is in its effects, so a run of many flows is a sequence of answered effects and nothing else.  Every
branch of a flow ends.
-/
namespace PasskeyConsent

inductive Flow (ε : Type) (ρ : ε → Type) (α : Type) where
  | done (a : α)
  | step (e : ε) (next : ρ e → Flow ε ρ α)

namespace Flow

variable {ε : Type} {ρ : ε → Type} {α β γ : Type}

def andThen : Flow ε ρ α → (α → Flow ε ρ β) → Flow ε ρ β
  | .done a, f => f a
  | .step e next, f => .step e fun x => (next x).andThen f

instance : Monad (Flow ε ρ) where
  pure := .done
  bind := andThen

/-- The flow of one effect. -/
def perform (e : ε) : Flow ε ρ (ρ e) := .step e .done

@[simp] theorem done_andThen (a : α) (f : α → Flow ε ρ β) : (Flow.done a).andThen f = f a := rfl

@[simp] theorem step_andThen (e : ε) (next : ρ e → Flow ε ρ α) (f : α → Flow ε ρ β) :
    (Flow.step e next).andThen f = .step e fun x => (next x).andThen f := rfl

@[simp] theorem andThen_done (p : Flow ε ρ α) : p.andThen .done = p := by
  induction p with
  | done a => rfl
  | step e next ih => simp [ih]

theorem andThen_assoc (p : Flow ε ρ α) (f : α → Flow ε ρ β) (g : β → Flow ε ρ γ) :
    (p.andThen f).andThen g = p.andThen fun a => (f a).andThen g := by
  induction p with
  | done a => rfl
  | step e next ih => simp [ih]

end Flow
end PasskeyConsent

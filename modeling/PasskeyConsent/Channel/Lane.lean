/-!
# Lanes

A lane has one user at a time, and those who wait for it get it in the order in which they asked.  Users are numbers.
Leaving gives the lane to the first who waits; one who leaves while waiting loses the place.
-/
namespace PasskeyConsent

structure Lane where
  holder : Option Nat := none
  waiting : List Nat := []
deriving DecidableEq, Repr

namespace Lane

/-- Whether the lane is `user`'s now, and the lane after asking. -/
def ask (l : Lane) (user : Nat) : Bool × Lane :=
  match l.holder with
  | none => (true, { l with holder := some user })
  | some h =>
    if h = user then (true, l)
    else if l.waiting.contains user then (false, l)
    else (false, { l with waiting := l.waiting ++ [user] })

def leave (l : Lane) (user : Nat) : Lane :=
  if l.holder = some user then
    match l.waiting with
    | [] => { holder := none }
    | next :: rest => ⟨some next, rest⟩
  else { l with waiting := l.waiting.filter (· != user) }

/-! ## Who holds a lane -/

variable {l : Lane} {u j : Nat}

theorem holder_of_ask (h : (l.ask u).1 = true) : (l.ask u).2.holder = some u := by
  unfold ask at h ⊢
  split
  · rfl
  · rename_i held hheld
    rw [hheld] at h
    dsimp only at h
    split at h
    · rename_i heq
      rw [if_pos heq, hheld, heq]
    · split at h <;> cases h

theorem holder_ask (h : l.holder = some j) : (l.ask u).2.holder = some j := by
  unfold ask
  rw [h]
  dsimp only
  split
  · exact h
  · split
    · exact h
    · rfl

theorem holder_leave (h : l.holder = some j) (hne : u ≠ j) : (l.leave u).holder = some j := by
  unfold leave
  rw [if_neg]
  · exact h
  · rw [h]
    exact fun heq => hne (Option.some.inj heq).symm

end Lane
end PasskeyConsent

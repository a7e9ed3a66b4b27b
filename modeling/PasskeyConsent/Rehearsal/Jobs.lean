import PasskeyConsent.Rehearsal.Run
/-!
# Rehearsing worker queues

Jobs for workers, each with the time at which it is dispatched and how long it takes.  The timetable is when each job
begins and ends.
-/
namespace PasskeyConsent.Rehearsal

structure Job where
  worker : String
  dispatchedAt : Nat
  duration : Nat

/-- A job's beginning or end. -/
structure JobEvent where
  time : Nat
  begins : Bool
  job : Nat

namespace Job

open Program

/-- The times between which a job has its worker. -/
def program (j : Job) : Program (Nat × Nat) := do
  wait (.until j.dispatchedAt)
  dispatch j.worker do
    let start ← access .now
    wait (.until (start + j.duration))
    return (start, ← access .now)

/-- A place to run flows in that need nobody. -/
def emptyHost : Host := { maxAge := 0, ledger := { limits := ⟨0, ⟨0⟩⟩ } }

def before (a b : Nat × Job × Nat × Nat) : Bool :=
  let key := fun (i, j, start, stop) => [start, stop, (j : Job).dispatchedAt, i]
  !List.lex (key b) (key a) (· < ·)

/-- Every beginning and end in order of time; at one time a worker's events stand in the order of its jobs. -/
def timetable (jobs : List Job) : List JobEvent :=
  let r : Run (Nat × Nat) := { wallet := { host := emptyHost }, cast := {} }
  let times := (r.performAll (jobs.map program)).1.map (·.getD (0, 0))
  let served := ((List.range jobs.length).zip (jobs.zip times)).mergeSort before
  let events := served.flatMap fun (i, _, start, stop) => [⟨start, true, i⟩, ⟨stop, false, i⟩]
  events.mergeSort (·.time ≤ ·.time)

end Job
end PasskeyConsent.Rehearsal

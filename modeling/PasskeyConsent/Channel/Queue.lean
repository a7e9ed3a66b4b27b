import PasskeyConsent.Channel.Lane
import PasskeyConsent.Collections.Table
/-!
# Worker queues

One lane per worker, made when the worker is first asked for.  Dispatches to one worker never overlap and run in the
order in which they were asked for; dispatches to different workers do not see each other.
-/
namespace PasskeyConsent

structure WorkerQueue where
  lanes : Table Lane := {}
deriving DecidableEq, Repr

namespace WorkerQueue

def lane (q : WorkerQueue) (worker : String) : Lane := (q.lanes.get? worker).getD {}

def ask (q : WorkerQueue) (worker : String) (task : Nat) : Bool × WorkerQueue :=
  let (mine, lane) := (q.lane worker).ask task
  (mine, ⟨q.lanes.put worker lane⟩)

def leave (q : WorkerQueue) (worker : String) (task : Nat) : WorkerQueue :=
  ⟨q.lanes.put worker ((q.lane worker).leave task)⟩

/-- Gives up every lane and every place that a task has. -/
def abandon (q : WorkerQueue) (task : Nat) : WorkerQueue :=
  ⟨⟨q.lanes.entries.map fun (worker, lane) => (worker, lane.leave task)⟩⟩

end WorkerQueue
end PasskeyConsent

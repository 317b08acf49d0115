/-
  Request ids, one for each thread.

  Whoever serves a request sets its id on the thread that serves it; every event that the thread logs
  then carries the id. A thread sees only its own id, and a new thread has none.
-/
import WebhookRegistry.Entries

namespace WebhookRegistry

/-- The request ids of the threads that have one. -/
abbrev RequestContext := Entries Nat String

namespace RequestContext

/-- The request id of a thread. -/
def current (thread : Nat) (context : RequestContext) : Option String := context.get? thread

/-- The context after a thread has set its request id. -/
def set (thread : Nat) (id : String) (context : RequestContext) : RequestContext :=
  context.put thread id

/-- The context after a thread has forgotten its request id. -/
def clear (thread : Nat) (context : RequestContext) : RequestContext := context.erase thread

/-- **A thread sees the id that it has set**, and no other thread does. -/
theorem current_set (thread other : Nat) (id : String) (context : RequestContext) :
    (context.set thread id).current other =
      if thread = other then some id else context.current other :=
  Entries.get?_put thread other id context

theorem current_clear (thread other : Nat) (context : RequestContext) :
    (context.clear thread).current other =
      if thread = other then none else context.current other :=
  Entries.get?_erase thread other context

end RequestContext

end WebhookRegistry

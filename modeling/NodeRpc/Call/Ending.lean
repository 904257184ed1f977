import NodeRpc.Call.Coalescer
import NodeRpc.Shape.Decode

/-!
# How a call ends for its caller

A caller ends with the outcome it waited for or with a reason of its own. What the outcome is worth
to it depends on its type alone: each caller decodes the shared outcome for itself, so one caller's
decoding error is no one else's.

The outcome that is shared is the value that was answered, before anyone has decoded it. Two callers
with one key may want it as different types, one as a record and the other as it is, and one of them
may succeed where the other does not. What they share is the request.

Giving up is the caller's own. Cancelled and out of time are told to the caller with the name of its
method, and a caller that runs out of time is told how long it had.
-/

namespace NodeRpc

/-- How a caller's wait ends. -/
inductive Ending where
  | outcome (outcome : Outcome)
  | cancelled
  | timedOut (limit : Duration)

/-- The outcome as a value of a shape. -/
def Outcome.decode {α : Type} (outcome : Outcome) (method : String) (shape : Shape α) :
    Except CallError α :=
  match outcome with
  | .ok value => (shape.decode value).mapError (.decode method)
  | .error error => .error (.trip error)

/-- The outcome for a caller who only wants to know that there is one. -/
def Outcome.acknowledge (outcome : Outcome) : Except CallError Unit :=
  match outcome with
  | .ok _ => .ok ()
  | .error error => .error (.trip error)

/-- The result of a call from its ending, given how its caller reads an outcome. -/
def Ending.result {α : Type} (ending : Ending) (method : String)
    (read : Outcome → Except CallError α) : Except CallError α :=
  match ending with
  | .outcome shared => read shared
  | .cancelled => .error (.cancelled method)
  | .timedOut limit => .error (.timedOut method limit)

end NodeRpc

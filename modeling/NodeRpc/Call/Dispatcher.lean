import NodeRpc.Call.Coalescer
import NodeRpc.Call.Log

/-!
# The dispatcher

Identical calls that overlap share one round trip. The dispatcher is a machine that takes one event
at a time and answers with the effects of it: callers come and leave, round trips complete or die. A
round trip belongs to no caller: it is started for the first one and goes on when that one leaves.

A run of the machine is any list of events, so what holds for all runs holds for all interleavings.
Events need not make sense. A round trip may be said to complete that was never started, or twice,
and a caller may leave who never came; such an event changes nothing. So no statement about runs has
to ask for well-formed lists, and one that did would have to be trusted in what it calls
well-formed.

When things happen and how long a caller is willing to wait is not known here; see `Timeline`. A
caller that is cancelled, one that runs out of time and one that is dropped all leave in the same
way, and what becomes of them is decided elsewhere.

Callers get their outcome in the step in which the round trip ends. In the program they are woken up
and come to it one after the other, in no particular order, and some may have left in between. They
leave before the outcome here, or they have it; what they would have found in between is the same
outcome.
-/

namespace NodeRpc

abbrev CallerId := Nat

/-- A round trip on the wire: who publishes what comes of it, and the request. -/
structure Trip where
  publisher : Publisher
  method : String
  params : List Json

/-- A caller and the round it waits for. -/
structure Waiting where
  caller : CallerId
  pending : Pending
  deriving DecidableEq

/-- The rounds, the round trips on the wire and the callers that wait, each in the order in which
they came. -/
structure Dispatcher where
  coalescer : Coalescer := .empty
  trips : List Trip := []
  waiting : List Waiting := []

/-- What happens to a dispatcher. -/
inductive DispatchEvent where
  /-- A caller comes. -/
  | call (caller : CallerId) (method : String) (params : List Json)
  /-- A caller stops waiting: it was cancelled, ran out of time or was dropped. -/
  | leave (caller : CallerId)
  /-- The round trip of a slot completes. -/
  | complete (slot : Nat) (outcome : Outcome)
  /-- The round trip of a slot ends without an outcome. -/
  | die (slot : Nat)

/-- What a dispatcher does. -/
inductive Effect where
  | log (event : LogEvent)
  /-- A request goes to the transport; its round trip is known by its slot. -/
  | send (slot : Nat) (method : String) (params : List Json)
  /-- A caller gets the outcome it waited for. -/
  | finish (caller : CallerId) (outcome : Outcome)

namespace Dispatcher

def empty : Dispatcher := {}

/-- How many round trips are on the wire. -/
def inFlight (d : Dispatcher) : Nat := d.coalescer.inFlight

/-- A caller comes: it starts a round trip for its key or joins the one there is. -/
def call (d : Dispatcher) (caller : CallerId) (method : String) (params : List Json) :
    Dispatcher × List Effect :=
  match d.coalescer.acquire (.ofCall method params) with
  | (.owner pending publisher, coalescer) =>
    ({ coalescer
       trips := d.trips ++ [⟨publisher, method, params⟩]
       waiting := d.waiting ++ [⟨caller, pending⟩] },
      [.log (.dispatched method params.length), .send publisher.slot method params])
  | (.waiter pending, coalescer) =>
    ({ d with coalescer, waiting := d.waiting ++ [⟨caller, pending⟩] },
      [.log (.joined method)])

/-- A caller leaves; nothing else changes. -/
def leave (d : Dispatcher) (caller : CallerId) : Dispatcher :=
  { d with waiting := d.waiting.filter (·.caller ≠ caller) }

/-- What a waiting caller gets now, if anything. -/
def outcome? (d : Dispatcher) (w : Waiting) : Option Outcome :=
  (d.coalescer.wait w.pending).outcome?

/-- Every caller whose round has an outcome gets it and is done. -/
def settle (d : Dispatcher) : Dispatcher × List Effect :=
  ({ d with waiting := d.waiting.filter fun w => (d.outcome? w).isNone },
    d.waiting.filterMap fun w => (d.outcome? w).map (.finish w.caller))

/-- The publisher of an outstanding round trip. -/
def publisher? (d : Dispatcher) (slot : Nat) : Option Publisher :=
  (d.trips.find? (·.publisher.slot = slot)).map (·.publisher)

/-- A round trip ends: what it came to is published, if it came to anything, and then
the publisher is dropped. -/
def finishTrip (d : Dispatcher) (slot : Nat) (outcome : Option Outcome) :
    Dispatcher × List Effect :=
  match d.publisher? slot with
  -- no such trip is out
  | none => (d, [])
  | some publisher =>
    let published :=
      match outcome with
      | some outcome => d.coalescer.publish publisher outcome
      | none => d.coalescer
    -- a caller may wait for a round that was given up, so callers are looked at in either case
    settle
      { d with
        coalescer := published.dropPublisher publisher
        trips := d.trips.filter (·.publisher.slot ≠ slot) }

def step (d : Dispatcher) : DispatchEvent → Dispatcher × List Effect
  | .call caller method params => d.call caller method params
  | .leave caller => (d.leave caller, [])
  | .complete slot outcome => d.finishTrip slot (some outcome)
  | .die slot => d.finishTrip slot none

/-- A run of the machine, with the effects of each event. -/
def run (d : Dispatcher) : List DispatchEvent → Dispatcher × List (List Effect)
  | [] => (d, [])
  | event :: rest =>
    let (next, effects) := d.step event
    let (last, more) := next.run rest
    (last, effects :: more)

end Dispatcher
end NodeRpc

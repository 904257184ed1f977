import NodeRpc.Call.Dispatcher
import NodeRpc.Call.Ending
import NodeRpc.Call.Transport

/-!
# Calls in time

Dispatchers over one transport, in milliseconds. Time passes only when it is told to. What is to
come stands on an agenda: replies of the transport, and deadlines and cancellations of callers. Of
things due at the same time replies come first, and otherwise what was arranged first comes first.

The order at one time is a choice, and the statements about endings leave it open where the program
does. A deadline is looked at after the answer by whoever waits for both, so a reply that is there
just in time counts; but a deadline of no time at all is over before anything can come, and ends its
caller after it asked. Between two deadlines there is nothing to choose, as each ends its own caller
only.

A caller that is cancelled before it begins does not ask. One that is cancelled later has asked, and
its round trip goes on.

Spans of time come with the number of milliseconds after which they are found to be over, which is
not the same: a clock that ticks in milliseconds finds that half of one is over when the next tick
comes. The span itself is kept only to be shown.

Several dispatchers may be on one timeline. They have the transport in common and nothing else.
-/

namespace NodeRpc

/-- How long a caller is willing to wait. -/
inductive Patience where
  | unlimited
  /-- Until it is cancelled, so many milliseconds after it came. -/
  | cancelledAfter (delay : Nat)
  /-- For a span of time, which is found to be over after so many milliseconds. -/
  | within (limit : Duration) (ticks : Nat)

/-- Something that will happen. -/
inductive Coming where
  /-- The round trip of a dispatcher's slot ends. -/
  | reply (dispatcher : String) (slot : Nat) (ending : TripEnd)
  /-- A caller of a dispatcher has waited long enough. -/
  | alarm (dispatcher : String) (caller : CallerId) (ending : Ending)

/-- An entry of the agenda. -/
structure Appointment where
  time : Nat
  coming : Coming

/-- A caller that ended, when it did and how. -/
structure Ended where
  caller : CallerId
  time : Nat
  ending : Ending

/-- Dispatchers, a transport, and what is known and to come. -/
structure Timeline (σ : Type) where
  transport : Transport σ
  memory : σ
  now : Nat := 0
  dispatchers : List (String × Dispatcher) := []
  agenda : List Appointment := []
  /-- The number of callers so far, which is the name of the next. -/
  callers : Nat := 0
  /-- The callers that ended, the last one first. -/
  ended : List Ended := []
  /-- The requests that were sent, the last one first. -/
  requests : List (String × List Json) := []
  /-- The events that were logged, the last one first. -/
  log : List LogEvent := []

namespace Coming

/-- Comes after the replies of the same time. -/
def isAlarm : Coming → Bool
  | .reply _ _ _ => false
  | .alarm _ _ _ => true

end Coming

/-- Puts an appointment behind those that come before it or with it. -/
def schedule (new : Appointment) : List Appointment → List Appointment
  | [] => [new]
  | other :: rest =>
    if new.time < other.time ∨
        new.time = other.time ∧ other.coming.isAlarm ∧ !new.coming.isAlarm then
      new :: other :: rest
    else other :: schedule new rest

namespace Timeline

variable {σ : Type}

/-- Nothing has happened yet and nothing is to come. -/
def start (transport : Transport σ) (memory : σ) : Timeline σ := { transport, memory }

/-- The dispatcher of a name; one that was not used yet has no callers. -/
def dispatcher (t : Timeline σ) (name : String) : Dispatcher :=
  (t.dispatchers.lookup name).getD .empty

/-- Replaces the dispatcher of a name, or adds it as the last. -/
def setDispatcher (t : Timeline σ) (name : String) (d : Dispatcher) : Timeline σ :=
  if t.dispatchers.any (·.1 == name) then
    { t with dispatchers := t.dispatchers.map fun e => if e.1 = name then (name, d) else e }
  else { t with dispatchers := t.dispatchers ++ [(name, d)] }

/-- A caller ends now. -/
def conclude (t : Timeline σ) (caller : CallerId) (ending : Ending) : Timeline σ :=
  { t with ended := ⟨caller, t.now, ending⟩ :: t.ended }

/-- An effect of a dispatcher is carried out. A request is answered by the transport at once, and
the answer is put on the agenda for when it will be there. -/
def perform (name : String) (t : Timeline σ) : Effect → Timeline σ
  | .log event => { t with log := event :: t.log }
  | .send slot method params =>
    let (reply, memory) := t.transport.send t.memory method params
    { t with
      memory
      requests := (method, params) :: t.requests
      agenda := schedule ⟨t.now + reply.delay, .reply name slot reply.ending⟩ t.agenda }
  | .finish caller outcome => t.conclude caller (.outcome outcome)

/-- An event happens to a dispatcher, and its effects are carried out in their order. -/
def happen (t : Timeline σ) (name : String) (event : DispatchEvent) : Timeline σ :=
  let (d, effects) := (t.dispatcher name).step event
  effects.foldl (perform name) (t.setDispatcher name d)

/-- Whether a caller of a dispatcher is waiting. -/
def isWaiting (t : Timeline σ) (name : String) (caller : CallerId) : Bool :=
  (t.dispatcher name).waiting.any (·.caller = caller)

/-- A caller that is waiting leaves and ends in the given way. -/
def dismiss (t : Timeline σ) (name : String) (caller : CallerId) (ending : Ending) :
    Timeline σ :=
  if t.isWaiting name caller then (t.happen name (.leave caller)).conclude caller ending
  else t

/-- A caller is dropped: it leaves without an ending. -/
def drop (t : Timeline σ) (name : String) (caller : CallerId) : Timeline σ :=
  t.happen name (.leave caller)

/-- Arranges that a caller gives up. -/
def arrange (t : Timeline σ) (name : String) (caller : CallerId) (delay : Nat)
    (ending : Ending) : Timeline σ :=
  if delay = 0 then t.dismiss name caller ending
  else { t with agenda := schedule ⟨t.now + delay, .alarm name caller ending⟩ t.agenda }

/-- A caller comes. If it is cancelled already it does not even ask; a deadline that
has passed already ends it only after it asked. -/
def call (t : Timeline σ) (name method : String) (params : List Json) (patience : Patience) :
    CallerId × Timeline σ :=
  let caller := t.callers
  let t := { t with callers := caller + 1 }
  (caller,
    match patience with
    | .unlimited => t.happen name (.call caller method params)
    -- the dispatcher comes to be, as with any caller, but it is not asked
    | .cancelledAfter 0 =>
      (t.setDispatcher name (t.dispatcher name)).conclude caller .cancelled
    | .cancelledAfter delay =>
      (t.happen name (.call caller method params)).arrange name caller delay .cancelled
    | .within limit ticks =>
      (t.happen name (.call caller method params)).arrange name caller ticks (.timedOut limit))

/-- What was arranged comes about. -/
def comeAbout (t : Timeline σ) (appointment : Appointment) : Timeline σ :=
  let t := { t with now := appointment.time }
  match appointment.coming with
  | .reply name slot (.answers outcome) => t.happen name (.complete slot outcome)
  | .reply name slot .dies => t.happen name (.die slot)
  | .alarm name caller ending => t.dismiss name caller ending

/-- Time passes until `time`, and all that is due until then comes about. -/
def passUntil (t : Timeline σ) (time : Nat) : Timeline σ :=
  let due := t.agenda.takeWhile (·.time ≤ time)
  let later := t.agenda.dropWhile (·.time ≤ time)
  -- nothing that comes about sends a request, so all that is due is known beforehand
  { due.foldl comeAbout { t with agenda := later } with now := time }

/-- Time passes for a while. -/
def pass (t : Timeline σ) (span : Nat) : Timeline σ := t.passUntil (t.now + span)

/-- All that is due now comes about. -/
def settle (t : Timeline σ) : Timeline σ := t.passUntil t.now

/-- The end of a caller's wait, if it has come. -/
def ending? (t : Timeline σ) (caller : CallerId) : Option Ending :=
  (t.ended.find? (·.caller = caller)).map (·.ending)

end Timeline
end NodeRpc

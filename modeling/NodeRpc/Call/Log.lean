/-!
# Log events

What the library reports about its own work: a level, a message and named fields. Parameters may
hold passphrases and keys, so only their number is ever reported.

A dispatcher reports two things. Starting a round trip is told to those who look for what goes over
the wire, and joining one only to those who want everything. What an endpoint reports of an exchange
is with the exchange (`NodeRpc.Endpoint.Http`): answers are shown there to those who want
everything, so it is what was asked that is kept back and not what was answered.
-/

namespace NodeRpc

/-- How much somebody has to want to know to be told. -/
inductive Level where
  | trace
  | debug
  | info
  deriving DecidableEq

/-- One report: a message that is the same for every event of its kind, and what tells it from the
others as fields. -/
structure LogEvent where
  level : Level
  message : String
  fields : List (String × String)
  deriving DecidableEq

namespace LogEvent

/-- A caller started a round trip. -/
def dispatched (method : String) (params : Nat) : LogEvent :=
  ⟨.debug, "rpc dispatch", [("rpc.method", method), ("rpc.params", toString params)]⟩

/-- A caller joined a round trip that was outstanding. -/
def joined (method : String) : LogEvent :=
  ⟨.trace, "joined in-flight rpc call", [("rpc.method", method)]⟩

end LogEvent
end NodeRpc

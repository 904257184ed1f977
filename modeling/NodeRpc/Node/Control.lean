import NodeRpc.Call.Operation
import NodeRpc.Result.Control

/-!
# Asking for the node itself

Its general state, memory and settings, and its end: the methods `getinfo`, `getmemoryinfo`,
`getsettings`, `dumpparameters`, `uptime` and `stop`.

Of stopping only the success matters, and what else the node answers is not looked at.
-/

namespace NodeRpc.Node

/-- The state of the node in general. -/
def info : Operation Info := .ask "getinfo" [] Info.shape

def memoryInfo : Operation MemoryInfo := .ask "getmemoryinfo" [] MemoryInfo.shape

def settings : Operation Settings := .ask "getsettings" [] Settings.shape

/-- The parameters the node was started with. -/
def startupParameters : Operation (List String) := .ask "dumpparameters" [] (.list .string)

/-- How long the node has been running; it counts whole seconds. -/
def uptime : Operation Duration :=
  (Operation.ask "uptime" [] .u64).map fun seconds => .ofSeconds seconds.toNat

/-- Stops the node. Any answer without an error will do. -/
def stop : Operation Unit := .tell "stop" []

end NodeRpc.Node

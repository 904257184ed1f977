import NodeRpc.Chain.Hash
import NodeRpc.Json.Basic

/-!
# Parameters of calls

Parameters are told apart by their position alone. So an optional parameter can be sent only if all
those before it are, and the first one left out ends the list (`trailing`).

There is no value to put in the place of one that is left out. Null would be taken for a value by
some methods and refused by others, and a default that was made up here would be wrong once the
node's is another. An option behind a gap is therefore not sent. That is silent: a caller who gives
the second of two options and not the first is not told that it had no effect.

Members of an object are different. They have names, so each of them can be left out by itself
(`present`).
-/

namespace NodeRpc

namespace Json

/-- The value of a natural number of 32 bits. -/
def word32 (n : UInt32) : Json := .word n.toUInt64

def hash (h : Hash) : Json := .string h.text

end Json

/-- The optional parameters at the end of a call, up to the first that is left out. -/
def trailing : List (Option Json) → List Json
  | some value :: rest => value :: trailing rest
  | _ => []

/-- The members of an object that are there. -/
def present (members : List (String × Option Json)) : List (String × Json) :=
  members.filterMap fun (name, value) => value.map fun value => (name, value)

end NodeRpc

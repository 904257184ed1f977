import NodeRpc.Json.Printer

/-!
# Request keys

Two calls ask for the same thing when they have the same method and the same parameters, whatever
order the members of objects are stored in. The key of a call is the compact text
`["<method>",[<params>…]]` with the members of every object sorted by name. Method and parameters
have a place of their own in it, so no method name can pass for another method with parameters.

The order of the parameters matters and so does that of items in any array, as both mean something
to a node. Numbers are compared as they are printed: `1` and `1.0` are two keys, even where a node
would answer them alike. To take different requests for the same would be wrong, and to take the
same request for two different ones costs a round trip.

The key is a text because a text is compared and hashed without a thought. That the text tells calls
apart as it should is a theorem about printing (`NodeRpc.Proofs.Call.KeyIdentity`).
-/

namespace NodeRpc

namespace Json

mutual

/-- The value with the members of every object in it sorted by name. -/
def sorted : Json → Json
  | .array items => .array (sortedItems items)
  | .object members => .object (sortedMembers members)
  | scalar => scalar

/-- The items of an array, each sorted inside and all where they were. -/
def sortedItems : List Json → List Json
  | [] => []
  | item :: rest => sorted item :: sortedItems rest

/-- The members of an object, sorted inside and by name. -/
def sortedMembers : List (String × Json) → List (String × Json)
  | [] => []
  | (name, value) :: rest => insert name (sorted value) (sortedMembers rest)

end

end Json

/-- The identity of a call. Calls that have the same one share a round trip. -/
structure RequestKey where
  text : String
  deriving DecidableEq

/-- The key of a method with its parameters. -/
def RequestKey.ofCall (method : String) (params : List Json) : RequestKey :=
  ⟨(Json.array [.string method, .array (params.map Json.sorted)]).compact⟩

end NodeRpc

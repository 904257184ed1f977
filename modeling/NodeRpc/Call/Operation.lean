import NodeRpc.Call.Ending

/-!
# Operations

An operation is one call and the reading of its outcome. What the node is asked and how its answer
is understood stand together, so that the rest need not know either.

All operations of the node are values of this one type, with the method and the parameters as data.
What holds for all calls is therefore said once, of any operation. What a particular one asks for is
in the modules under `NodeRpc.Node`, and what it gets in those under `NodeRpc.Result`.

An operation whose result is read further, as a text that is taken for a transaction, keeps the
method and the parameters of the call it was made from, and so its key: it is merged with the plain
call.
-/

namespace NodeRpc

/-- A call and the reading of its outcome. -/
structure Operation (α : Type) where
  method : String
  params : List Json
  read : Outcome → Except CallError α

namespace Operation

variable {α β : Type}

/-- A call whose outcome is a value of a shape. -/
def ask (method : String) (params : List Json) (shape : Shape α) : Operation α :=
  ⟨method, params, fun outcome => outcome.decode method shape⟩

/-- A call of which only the success matters; whatever the outcome holds will do. -/
def tell (method : String) (params : List Json) : Operation Unit :=
  ⟨method, params, Outcome.acknowledge⟩

/-- The result is read further. -/
def andThen (op : Operation α) (further : α → Except CallError β) : Operation β :=
  { op with read := fun outcome => (op.read outcome).bind further }

/-- The result is changed by a function that cannot fail. -/
def map (f : α → β) (op : Operation α) : Operation β := op.andThen fun result => .ok (f result)

/-- The error is changed; what was read stays. -/
def mapError (f : CallError → CallError) (op : Operation α) : Operation α :=
  { op with read := fun outcome => (op.read outcome).mapError f }

/-- The result once the caller has ended. -/
def result? (op : Operation α) (ending : Option Ending) : Option (Except CallError α) :=
  ending.map fun ending => ending.result op.method op.read

end Operation
end NodeRpc

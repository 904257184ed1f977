import NodeRpc.Call.Operation
import NodeRpc.Call.Timeline

/-!
# Batches

A batch is a list of operations that run at the same time. It succeeds with all their results in
their order, or it fails when one of them is seen to fail, and then those still waiting are dropped.
One operation is a batch of its own, and several batches may run at the same time.

When a failure is seen depends on the number of operations. Up to thirty are watched all at once,
and whichever fails first ends the batch. The results of more are taken one after the other, so a
failure waits there for the operations ahead of it, however long they take. Which failure a batch
ends with can therefore depend on how many operations there are, and `joinResults` has the one bit
that it takes.

A dropped caller leaves its dispatcher, and that is all that happens to it. The round trip it waited
for goes on, others may have joined it, and its answer is thrown away if nobody has.

A batch without results when nothing is left to come is one whose round trips were never answered.
That cannot be with the transports here, which answer everything or die.
-/

namespace NodeRpc

/-- Operations that run at the same time. -/
abbrev Batch (α : Type) := List (Operation α)

/-- So many operations at most are watched all at once; the results of more are
taken one after the other. -/
def watchLimit : Nat := 30

/-- The results of operations whose callers have ended so far: all of them, or the
first failure in their order, or nothing yet. Taken `inOrder`, a failure is not seen
before all operations ahead of it have ended. -/
def joinResults {α : Type} (inOrder : Bool) : List (Operation α × Option Ending) →
    Option (Except CallError (List α))
  | [] => some (.ok [])
  | (op, ending) :: rest =>
    match op.result? ending with
    | some (.error error) => some (.error error)
    | some (.ok result) =>
      match joinResults inOrder rest with
      | some (.ok results) => some (.ok (result :: results))
      | other => other
    | none =>
      -- watched all at once, a failure further on is seen already, but a success further on decides
      -- nothing
      if inOrder then none
      else
        match joinResults inOrder rest with
        | some (.error error) => some (.error error)
        | _ => none

/-- The results of a batch from the endings of its callers, once there are results. -/
def Batch.results? {α : Type} (batch : Batch α) (endings : List (Option Ending)) :
    Option (Except CallError (List α)) :=
  joinResults (watchLimit < batch.length) (batch.zip endings)

/-- A batch that has been started: its callers, and its results once it has them. -/
structure Underway (α : Type) where
  batch : Batch α
  callers : List CallerId
  results : Option (Except CallError (List α))

namespace Timeline

variable {σ α : Type}

/-- Callers come, one for each operation, all at once. -/
def callAll (t : Timeline σ) (name : String) (patience : Patience) :
    Batch α → List CallerId × Timeline σ
  | [] => ([], t)
  | op :: rest =>
    let (caller, t) := t.call name op.method op.params patience
    let (callers, t) := t.callAll name patience rest
    (caller :: callers, t)

/-- Starts batches, each with all its calls. -/
def begin (t : Timeline σ) (name : String) (patience : Patience) :
    List (Batch α) → List (Underway α) × Timeline σ
  | [] => ([], t)
  | batch :: rest =>
    let (callers, t) := t.callAll name patience batch
    let (more, t) := t.begin name patience rest
    (⟨batch, callers, none⟩ :: more, t)

/-- Sees which batches have results by now. Callers of one that has are dropped. -/
def collect (t : Timeline σ) (name : String) :
    List (Underway α) → List (Underway α) × Timeline σ
  | [] => ([], t)
  | u :: rest =>
    let results := u.results.or (u.batch.results? (u.callers.map t.ending?))
    let t :=
      if u.results.isNone && results.isSome then
        u.callers.foldl (fun t caller => t.drop name caller) t
      else t
    let (more, t) := t.collect name rest
    ({ u with results } :: more, t)

/-- Lets time pass from one appointment to the next until every batch has results;
`fuel` bounds the appointments. -/
def await (name : String) :
    Nat → List (Underway α) → Timeline σ → List (Underway α) × Timeline σ
  | 0, underway, t => (underway, t)
  | fuel + 1, underway, t =>
    let (underway, t) := t.settle.collect name underway
    if underway.all (·.results.isSome) then (underway, t)
    else
      match t.agenda with
      | [] => (underway, t)
      | next :: _ => await name fuel underway (t.passUntil next.time)

/-- Runs batches at the same time, from their start to the last result. One that gets no results was
abandoned. -/
def runAll (t : Timeline σ) (name : String) (patience : Patience) (batches : List (Batch α)) :
    List (Except CallError (List α)) × Timeline σ :=
  let (underway, t) := t.begin name patience batches
  let (underway, t) := await name (t.agenda.length + 1) underway t
  (underway.map fun u => u.results.getD (.error (.trip .aborted)), t)

/-- Runs one batch. -/
def runBatch (t : Timeline σ) (name : String) (patience : Patience) (batch : Batch α) :
    Except CallError (List α) × Timeline σ :=
  match t.runAll name patience [batch] with
  | (results :: _, t) => (results, t)
  | ([], t) => (.ok [], t)

end Timeline
end NodeRpc

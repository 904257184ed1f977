import NodeRpc.Call.RequestKey
import NodeRpc.Error.Basic

/-!
# The table of calls in flight

The first caller of a key becomes the owner of a *round*: it gets the right to publish the round's
outcome. Everyone who asks for the same key before that joins the round. Each round has a slot of
its own, which is written once: when the owner publishes, or with `aborted` when the owner gives the
right up. In the same step the key leaves the table, so whoever comes later starts a round of his
own.

A publisher removes its *key* from the table, and acts at most once, because it is spent when it
acts. That the entry it removes is its own is an invariant of the table and not checked when it
acts. If there could be two publishers of one key, the first would take the entry of the second away
with it; that there cannot is what `NodeRpc.Proofs.Call.Table` is about.

Asking, publishing and giving up are each one step. Between the moment in which a key is looked for
and the moment in which its round is added nothing can happen, and a slot is written in the step in
which its key leaves the table. No caller is ever in a position to see one without the other. What a
caller holds is the number of a slot, and slots are never taken back or used again, so an outcome
can be read as late as one likes.

A wait that finds an empty slot and no publisher to write it is `closed`. A publisher that is spent
has written its slot, so this does not happen either, and it is a case all the same: whoever waits
has to be told something.
-/

namespace NodeRpc

/-- What one round trip came to; every caller who shares it gets the same. -/
abbrev Outcome := Except TripError Json

/-- A published outcome. The number tells one publication from another, whatever was
published. -/
structure Shared where
  id : Nat
  outcome : Outcome

/-- The read side of a round: where its outcome will stand. -/
structure Pending where
  slot : Nat
  deriving DecidableEq

/-- The right to publish the outcome of a round. It knows the key that it will remove and the slot
that it will write. -/
structure Publisher where
  key : RequestKey
  slot : Nat
  deriving DecidableEq

/-- The rounds of all keys: those in flight by key, the slots of all there ever were, and who may
still write one. -/
structure Coalescer where
  /-- The rounds in flight. -/
  table : List (RequestKey × Pending) := []
  /-- One slot for every round that was ever started. -/
  slots : Array (Option Shared) := #[]
  /-- The publishers that have not acted yet. -/
  publishers : List Publisher := []
  /-- How many outcomes have been published. -/
  published : Nat := 0

/-- What asking for a key gives. -/
inductive Acquired where
  /-- The first caller: it has to see to the round trip. -/
  | owner (pending : Pending) (publisher : Publisher)
  /-- A round of this key is in flight. -/
  | waiter (pending : Pending)
  deriving DecidableEq

/-- How a wait stands. -/
inductive Wait where
  | pending
  | resolved (shared : Shared)
  /-- The slot is empty and nobody is left who could write it. -/
  | closed

namespace Coalescer

/-- A table with nothing in flight. -/
def empty : Coalescer := {}

def inFlight (c : Coalescer) : Nat := c.table.length

/-- Joins the round of a key, or starts one. -/
def acquire (c : Coalescer) (key : RequestKey) : Acquired × Coalescer :=
  match c.table.lookup key with
  | some pending => (.waiter pending, c)
  | none =>
    let pending : Pending := ⟨c.slots.size⟩
    let publisher : Publisher := ⟨key, c.slots.size⟩
    (.owner pending publisher,
      { c with
        table := (key, pending) :: c.table
        slots := c.slots.push none
        publishers := publisher :: c.publishers })

/-- Publishes an outcome: the key leaves the table and the slot is written in one
step. A publisher that has acted before does nothing. -/
def publish (c : Coalescer) (publisher : Publisher) (outcome : Outcome) : Coalescer :=
  if publisher ∈ c.publishers then
    { table := c.table.filter fun (key, _) => key ≠ publisher.key
      slots := c.slots.setIfInBounds publisher.slot (some ⟨c.published, outcome⟩)
      publishers := c.publishers.erase publisher
      published := c.published + 1 }
  else c

/-- Gives up the right to publish; a round without an outcome is aborted. -/
def dropPublisher (c : Coalescer) (publisher : Publisher) : Coalescer :=
  c.publish publisher (.error .aborted)

/-- The outcome of a round, if it has one. -/
def tryGet (c : Coalescer) (pending : Pending) : Option Shared :=
  (c.slots[pending.slot]?).join

/-- How a wait for a round's outcome stands. -/
def wait (c : Coalescer) (pending : Pending) : Wait :=
  match c.tryGet pending with
  | some shared => .resolved shared
  | none =>
    -- an empty slot is waited for as long as somebody can write it
    if c.publishers.any (·.slot = pending.slot) then .pending else .closed

/-- Whether two rounds have resolved to one and the same publication. -/
def same (c : Coalescer) (a b : Pending) : Bool :=
  match c.tryGet a, c.tryGet b with
  | some x, some y => x.id == y.id
  | _, _ => false

end Coalescer

/-- What a caller gets from its wait; a round that was closed without an outcome is
aborted. -/
def Wait.outcome? : Wait → Option Outcome
  | .pending => none
  | .resolved shared => some shared.outcome
  | .closed => some (.error .aborted)

end NodeRpc

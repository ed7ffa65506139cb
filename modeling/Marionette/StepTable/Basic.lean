import Marionette.Actor.State
import Marionette.Flow
import Marionette.SortedMap

/-!
# Step tables

What a flow compiles to: a sequence of snapshots, each with the state of every actor that takes part and
the set of actors that are to start over after it.  The first snapshot is the state before any block.
Blocks that took no part are listed beside the snapshots.

## Main definitions

* `StateMap`, `ActorSet`, `Snapshot`, `StepTable`.
* `Snapshot.hold` — how long a snapshot asks to stay up.
* `SkipReason`, `SkippedBlock`.
-/

namespace Marionette

/-- The states of some actors. -/
abbrev StateMap := SortedMap ActorId ActorState

/-- A set of actors. -/
abbrev ActorSet := KeySet ActorId

/-- The states of all actors after one step, and who starts over. -/
structure Snapshot where
  states : StateMap := .empty
  repeaters : ActorSet := .empty

namespace Snapshot

/-- The state of an actor. -/
def state? (s : Snapshot) (actor : ActorId) : Option ActorState := s.states.get? actor

/-- The longest hold that a message asks for, in milliseconds. -/
def hold (s : Snapshot) : Nat := (s.states.values.map fun a => a.messageHold.toNat).foldr max 0

end Snapshot

/-- Why a block takes no part. -/
inductive SkipReason
  /-- Its kind is not registered. -/
  | unknownAction
  /-- It has no target. -/
  | unassigned
  /-- Its target is not on the stage. -/
  | unknownActor
  deriving DecidableEq, Repr

/-- A block that takes no part.  This is a note and no error. -/
structure SkippedBlock where
  block : BlockId
  action : String
  target : Option ActorId
  /-- The index of the snapshot that the block would have made, if it had a place. -/
  step : Option Nat
  reason : SkipReason
  deriving DecidableEq, Repr

/-- The snapshots of a flow and the blocks that took no part. -/
structure StepTable where
  snapshots : List Snapshot := []
  skipped : List SkippedBlock := []

namespace StepTable

/-- The number of snapshots. -/
def size (t : StepTable) : Nat := t.snapshots.length

/-- Whether there is nothing to play. -/
def isEmpty (t : StepTable) : Bool := t.snapshots.isEmpty

/-- The snapshot of a step. -/
def snapshot? (t : StepTable) (step : Nat) : Option Snapshot := t.snapshots[step]?

/-- The index of the last snapshot. -/
def lastStep? (t : StepTable) : Option Nat := if t.isEmpty then none else some (t.size - 1)

end StepTable

end Marionette

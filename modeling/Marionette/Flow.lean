import Marionette.Defect
import Marionette.Listing
import Marionette.Refusal

/-!
# Flows

A flow is an ordered list of blocks, each with the kind of an action and the actor that is to do it.  The
blocks of different actors may stand in any order among each other: each actor has its own lane.

## Main definitions

* `ActionBlock`, `Flow`, `Flow.lane`.
* `Flow.pushBlock`, `removeBlock?`, `moveBlock`.
* `Flow.defect?` — a block id that is used twice.
-/

namespace Marionette

/-- One action placed in a flow. -/
structure ActionBlock where
  id : BlockId
  /-- The kind of action, looked up when the flow is compiled. -/
  action : String
  target : Option ActorId := none
  deriving DecidableEq, Repr

/-- An ordered list of blocks. -/
structure Flow where
  id : FlowId
  name : String
  blocks : List ActionBlock := []
  deriving DecidableEq, Repr

/-- The blocks of one actor, in the order of the flow. -/
def laneOf (blocks : List ActionBlock) (actor : ActorId) : List ActionBlock :=
  blocks.filter fun b => b.target = some actor

namespace Flow

/-- The blocks of one actor, in the order of the flow. -/
def lane (f : Flow) (actor : ActorId) : List ActionBlock := laneOf f.blocks actor

/-- The id for one more block. -/
def freshBlockId (f : Flow) : BlockId :=
  ⟨leastFree "block" (f.blocks.length + 1) (f.blocks.map (·.id.text))⟩

/-- Append a block under a fresh id. -/
def pushBlock (f : Flow) (action : String) (target : Option ActorId) : BlockId × Flow :=
  (f.freshBlockId, { f with blocks := f.blocks ++ [{ id := f.freshBlockId, action, target }] })

/-- Take out the first block named `id`, if there is one. -/
def removeBlock? (f : Flow) (id : BlockId) : Option (ActionBlock × Flow) :=
  (Listing.find? ActionBlock.id id f.blocks).map fun b =>
    (b, { f with blocks := Listing.remove ActionBlock.id id f.blocks })

/-- Move the block at index `source` so that it ends up at index `target`. -/
def moveBlock (f : Flow) (source target : Nat) : Except Refusal Flow :=
  match f.blocks[source]? with
  | some b =>
    if target < f.blocks.length then
      .ok { f with blocks := (f.blocks.eraseIdx source).insertIdx target b }
    else .error (.moveOutOfRange source target f.blocks.length)
  | none => .error (.moveOutOfRange source target f.blocks.length)

/-- The first defect: a block id that stood in the flow before. -/
def defect? (f : Flow) : Option Defect :=
  (Listing.firstRepeated [] (f.blocks.map (·.id))).map (.duplicateBlock f.id)

/-- A flow has no defect exactly when its block ids are distinct. -/
theorem defect?_eq_none_iff (f : Flow) : f.defect? = none ↔ (f.blocks.map (·.id)).Nodup := by
  simp [defect?, Listing.firstRepeated_eq_none_iff]

end Flow

end Marionette

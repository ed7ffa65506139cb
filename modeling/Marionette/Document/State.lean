import Marionette.Actor.State
import Marionette.Identifier
import Marionette.Json.Decode
import Marionette.StepTable.Basic

/-!
# Documents: identifiers and states

Identifiers are written as strings and states as objects with all their fields.

## Main definitions

* `ActorId.encode`, `BlockId.encode`, `FlowId.encode` and their decoders.
* `ActorState.encode`, `ActorState.decode`.
* `StateMap.encode`, `ActorSet.encode`, `ActorSet.decode`.
-/

namespace Marionette

open Json (Fields Decoder)

/-- An actor's id as a string. -/
def ActorId.encode (a : ActorId) : Json := .text a.text

/-- A block's id as a string. -/
def BlockId.encode (b : BlockId) : Json := .text b.text

/-- A flow's id as a string. -/
def FlowId.encode (f : FlowId) : Json := .text f.text

/-- An actor's id from a string. -/
def ActorId.decode : Decoder ActorId := fun v => .mk <$> Json.decodeText v

/-- A block's id from a string. -/
def BlockId.decode : Decoder BlockId := fun v => .mk <$> Json.decodeText v

/-- A flow's id from a string. -/
def FlowId.decode : Decoder FlowId := fun v => .mk <$> Json.decodeText v

namespace ActorState

/-- A state as an object. -/
def encode (s : ActorState) : Json := .record [
  ("x", .float s.x),
  ("y", .float s.y),
  ("rotation", .float s.rotation),
  ("size", .float s.size),
  ("message", .optional .text s.message),
  ("messageDuration", .optional (fun d => .nat d.toNat) s.messageDuration),
  ("visible", .bool s.visible)]

/-- The fields of a state. -/
def fields : Fields [Float, Float, Float, Float, Option String, Option UInt64, Bool] :=
  .required "x" Json.decodeFloat <|
  .required "y" Json.decodeFloat <|
  .required "rotation" Json.decodeFloat <|
  .required "size" Json.decodeFloat <|
  .defaulted "message" (Json.decodeOptional Json.decodeText) none <|
  .defaulted "messageDuration" (Json.decodeOptional Json.decodeUInt64) none <|
  .defaulted "visible" Json.decodeBool true .nil

/-- A state from an object. -/
def decode : Decoder ActorState :=
  fields.decode fun (x, y, rotation, size, message, messageDuration, visible, ()) =>
    { x, y, rotation, size, message, messageDuration, visible }

end ActorState

/-- States by actor. -/
def StateMap.encode (m : StateMap) : Json :=
  .record (SortedMap.entries m |>.map fun e => (e.1.text, e.2.encode))

/-- A set of actors as an array in ascending order. -/
def ActorSet.encode (s : ActorSet) : Json := .list ((SortedMap.keys s).map ActorId.encode)

/-- A set of actors from an array in any order. -/
def ActorSet.decode : Decoder ActorSet := fun v => KeySet.ofKeys <$> Json.decodeList ActorId.decode v

end Marionette

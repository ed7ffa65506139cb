/-!
# The state of an actor

What the screen shows of one actor, and partial states that are merged into it.  Positions are pixels from
the actor's origin, rotation is in degrees and unbounded, and a size of 100 is the natural size.

## Main definitions

* `ActorState`, `ActorState.messageHold`.
* `StatePatch`, `ActorState.merge`, `ActorState.toPatch`.

## Main results

* `ActorState.merge_toPatch` — a full patch replaces whatever it is merged into.
-/

namespace Marionette

/-- What the screen shows of one actor. -/
structure ActorState where
  x : Float := 0.0
  y : Float := 0.0
  rotation : Float := 0.0
  size : Float := 100.0
  message : Option String := none
  /-- How long the message asks to stay up, in milliseconds. -/
  messageDuration : Option UInt64 := none
  visible : Bool := true
  deriving DecidableEq

instance : Inhabited ActorState := ⟨{}⟩

/-- A partial state: only what is present is written.  A present `none` clears. -/
structure StatePatch where
  x : Option Float := none
  y : Option Float := none
  rotation : Option Float := none
  size : Option Float := none
  message : Option (Option String) := none
  messageDuration : Option (Option UInt64) := none
  visible : Option Bool := none
  deriving DecidableEq

/-- Whether the patch writes nothing. -/
def StatePatch.isEmpty (p : StatePatch) : Bool :=
  p.x.isNone && p.y.isNone && p.rotation.isNone && p.size.isNone && p.message.isNone &&
    p.messageDuration.isNone && p.visible.isNone

namespace ActorState

/-- The default state at a position. -/
def placed (x y : Float) : ActorState := { x, y }

/-- Write what `p` holds and keep the rest. -/
def merge (s : ActorState) (p : StatePatch) : ActorState where
  x := p.x.getD s.x
  y := p.y.getD s.y
  rotation := p.rotation.getD s.rotation
  size := p.size.getD s.size
  message := p.message.getD s.message
  messageDuration := p.messageDuration.getD s.messageDuration
  visible := p.visible.getD s.visible

/-- The patch that writes every field. -/
def toPatch (s : ActorState) : StatePatch where
  x := some s.x
  y := some s.y
  rotation := some s.rotation
  size := some s.size
  message := some s.message
  messageDuration := some s.messageDuration
  visible := some s.visible

/-- How many milliseconds the state asks playback to hold: the duration of a message that is showing. -/
def messageHold (s : ActorState) : UInt64 :=
  match s.message with
  | some _ => s.messageDuration.getD 0
  | none => 0

/-- The same state without its message. -/
def quiet (s : ActorState) : ActorState := { s with message := none }

/-- A full patch replaces whatever it is merged into. -/
@[simp] theorem merge_toPatch (s t : ActorState) : s.merge t.toPatch = t := rfl

end ActorState

end Marionette

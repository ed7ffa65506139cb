import Marionette.Action.Basic

/-!
# The built-in actions

Moves, turns, sizes, greetings and the repeat marker.  Every action that moves, turns or resizes takes the
actor's message away, so a greeting stays up until the actor does something else.

## Main definitions

* `BuiltIn` — the built-in actions, with `BuiltIn.kind` and `BuiltIn.action`.
* `advanceWrapped` — a step that wraps to 0 at the end of the extent.
* `randomCoordinate` — a whole number between the configured bounds.
-/

namespace Marionette

/-! ### Numbers -/

/-- The greater of two numbers: the other one if one is no number, and the first if they are equal. -/
def greater (a b : Float) : Float := if a.isNaN || a < b then b else a

/-- The smaller of two numbers: the other one if one is no number, and the first if they are equal. -/
def smaller (a b : Float) : Float := if a.isNaN || b < a then b else a

/-- Whether a step from `coordinate` would leave the extent. -/
def leaves (coordinate step margin extent : Float) : Bool := coordinate + step + margin > extent

/-- A step from `coordinate`, wrapping to 0 where it would leave the extent. -/
def advanceWrapped (coordinate step margin extent : Float) : Float :=
  if leaves coordinate step margin extent then 0.0 else coordinate + step

/-- The number of integers from `least` up to but not including `bound`, as far as it fits in a signed
64-bit word. -/
def spanOf (least bound : Int64) : Float :=
  Float.ofInt (max Int64.minValue.toInt (min Int64.maxValue.toInt (bound.toInt - least.toInt)))

/-- A whole number from `least` up to but not including `bound`, chosen by a value `r` of `[0, 1)`.  Other
values of `r` count as the end of the interval next to them, and what is no finite number counts as 0. -/
def wholeBetween (least bound : Int64) (r : Float) : Float :=
  let span := spanOf least bound
  let r := if !r.isFinite then 0.0 else if r < 0.0 then 0.0 else if r > 1.0 then 1.0 else r
  Float.ofInt least.toInt + greater (smaller (r * span).floor (span - 1.0)) 0.0

/-- A random coordinate. -/
def randomCoordinate (m : MotionConfig) : Chance Float := do
  let r ← Chance.sample
  pure (wholeBetween m.randomMin m.randomMax r)

/-! ### Transitions -/

namespace ActorState

/-- One step to the right. -/
def moveX (around : Surroundings) (s : ActorState) : ActorState :=
  { s.quiet with
    x := advanceWrapped s.x around.motion.moveStep around.viewport.marginX around.viewport.width }

/-- One step up. -/
def moveY (around : Surroundings) (s : ActorState) : ActorState :=
  { s.quiet with
    y := advanceWrapped s.y around.motion.moveStep around.viewport.marginY around.viewport.height }

/-- One step along the diagonal.  Where either axis would leave its extent, both start over at 0. -/
def moveXY (around : Surroundings) (s : ActorState) : ActorState :=
  let step := around.motion.moveStep
  if leaves s.x step around.viewport.marginX around.viewport.width ||
      leaves s.y step around.viewport.marginY around.viewport.height then
    { s.quiet with x := 0.0, y := 0.0 }
  else { s.quiet with x := s.x + step, y := s.y + step }

/-- Back to the origin. -/
def goToOrigin (s : ActorState) : ActorState := { s.quiet with x := 0.0, y := 0.0 }

/-- To a random place; the first value drawn is for `x`. -/
def goToRandomPlace (around : Surroundings) (s : ActorState) : Chance ActorState := do
  let x ← randomCoordinate around.motion
  let y ← randomCoordinate around.motion
  pure { s.quiet with x, y }

/-- Turned by some degrees. -/
def turned (degrees : Float) (s : ActorState) : ActorState :=
  { s.quiet with rotation := s.rotation + degrees }

/-- Resized by a step, but not below the least size. -/
def resized (m : MotionConfig) (step : Float) (s : ActorState) : ActorState :=
  { s.quiet with size := greater (s.size + step) m.minSize }

/-- With the greeting as its message. -/
def greeting (m : MotionConfig) (s : ActorState) : ActorState := { s with message := some m.greeting }

/-- With the greeting as its message for a while. -/
def greetingForAWhile (m : MotionConfig) (s : ActorState) : ActorState :=
  { s with message := some m.greeting, messageDuration := some m.greetingHold }

end ActorState

/-! ### Kinds -/

/-- The built-in actions. -/
inductive BuiltIn
  | moveX
  | moveY
  | moveXY
  | goToOrigin
  | goToRandomPlace
  | turnClockwise
  | turnAnticlockwise
  | spin
  | grow
  | shrink
  | greet
  | greetForAWhile
  | repeatAnimation
  deriving DecidableEq, Repr

namespace BuiltIn

/-- Every built-in action. -/
def all : List BuiltIn :=
  [moveX, moveY, moveXY, goToOrigin, goToRandomPlace, turnClockwise, turnAnticlockwise, spin, grow, shrink,
    greet, greetForAWhile, repeatAnimation]

theorem mem_all (b : BuiltIn) : b ∈ all := by cases b <;> decide

/-- The kind that blocks name the action by. -/
def kind : BuiltIn → String
  | moveX => "moveXBy50"
  | moveY => "moveYBy50"
  | moveXY => "moveXY50"
  | goToOrigin => "goToOrigin"
  | goToRandomPlace => "goToRandomPosition"
  | turnClockwise => "turnClockwise45"
  | turnAnticlockwise => "turnAnticlockwise45"
  | spin => "rotate360"
  | grow => "increaseSize"
  | shrink => "decreaseSize"
  | greet => "sayHello"
  | greetForAWhile => "sayHelloFor1Sec"
  | repeatAnimation => "repeatWholeAnimation"

/-- What the action does. -/
def action : BuiltIn → Action
  | moveX => .steady fun around _ => .moveX around
  | moveY => .steady fun around _ => .moveY around
  | moveXY => .steady fun around _ => .moveXY around
  | goToOrigin => .steady fun _ _ => .goToOrigin
  | goToRandomPlace => { transition := fun around _ => ActorState.goToRandomPlace around }
  | turnClockwise => .steady fun around _ => .turned around.motion.turnDegrees
  | turnAnticlockwise => .steady fun around _ => .turned (-around.motion.turnDegrees)
  | spin => .steady fun around _ => .turned around.motion.spinDegrees
  | grow => .steady fun around _ => .resized around.motion around.motion.sizeStep
  | shrink => .steady fun around _ => .resized around.motion (-around.motion.sizeStep)
  | greet => .steady fun around _ => .greeting around.motion
  | greetForAWhile => .steady fun around _ => .greetingForAWhile around.motion
  | repeatAnimation => .repeatMarker

theorem kind_injective {a b : BuiltIn} (h : a.kind = b.kind) : a = b := by
  revert h; cases a <;> cases b <;> decide

end BuiltIn

end Marionette

import Marionette.Error

/-!
# Configuration

Everything about playback that can be tuned.  Every field has a default, so the empty configuration is a
complete one.

## Main definitions

* `PlaybackConfig`, `MotionConfig`, `Viewport`, and `Config` which joins them.
* `ConfigFault` — why a configuration is refused — and `Config.validate`, which finds the first fault.
-/

namespace Marionette

/-- The timing of playback. -/
structure PlaybackConfig where
  /-- Milliseconds between two steps. -/
  stepDelay : UInt64 := 500
  /-- Milliseconds between a step that repeats and the run it starts. -/
  repeatDelay : UInt64 := 800
  /-- Whether a step stays up for as long as its messages ask. -/
  holdForMessages : Bool := true
  /-- The most repeat runs of one playback; without it there is no limit. -/
  maxRepeats : Option UInt32 := none
  deriving DecidableEq

/-- The magnitudes of the built-in actions. -/
structure MotionConfig where
  moveStep : Float := 50.0
  turnDegrees : Float := 45.0
  spinDegrees : Float := 360.0
  sizeStep : Float := 10.0
  minSize : Float := 10.0
  /-- The least random coordinate. -/
  randomMin : Int64 := -150
  /-- The first integer above the random coordinates. -/
  randomMax : Int64 := 150
  greeting : String := "Hello!"
  /-- Milliseconds that a timed greeting asks to stay up. -/
  greetingHold : UInt64 := 1000
  deriving DecidableEq

/-- The extent of the stage.  A move wraps to 0 where the new coordinate and the margin together would pass
the extent; the margin stands for the actor's own footprint. -/
structure Viewport where
  width : Float := 768.0
  height : Float := 720.0
  marginX : Float := 100.0
  marginY : Float := 200.0
  deriving DecidableEq

/-- Everything that can be tuned. -/
structure Config where
  playback : PlaybackConfig := {}
  motion : MotionConfig := {}
  viewport : Viewport := {}
  deriving DecidableEq

instance : Inhabited Config := ⟨{}⟩

/-- Why a configuration is refused. -/
inductive ConfigFault
  | minSize
  | sizeStep
  | moveStep
  | randomBounds
  | viewport
  deriving DecidableEq, Repr

namespace ConfigFault

/-- The fault in words. -/
def message : ConfigFault → String
  | minSize => "motion.min_size must be finite and >= 0"
  | sizeStep => "motion.size_step must be finite and >= 0"
  | moveStep => "motion.move_step must be finite"
  | randomBounds => "motion.random_min must be < motion.random_max"
  | viewport => "viewport width/height must be > 0"

/-- The fault as an error. -/
def error (f : ConfigFault) : Error := ⟨.config, f.message⟩

end ConfigFault

namespace Config

/-- The first fault of a configuration, if it has one. -/
def fault? (c : Config) : Option ConfigFault :=
  if !c.motion.minSize.isFinite || c.motion.minSize < 0.0 then some .minSize
  else if !c.motion.sizeStep.isFinite || c.motion.sizeStep < 0.0 then some .sizeStep
  else if !c.motion.moveStep.isFinite then some .moveStep
  else if c.motion.randomMin ≥ c.motion.randomMax then some .randomBounds
  else if !(c.viewport.width.isFinite && c.viewport.width > 0.0 &&
      c.viewport.height.isFinite && c.viewport.height > 0.0) then some .viewport
  else none

/-- Accept a configuration without a fault. -/
def validate (c : Config) : Except ConfigFault Unit :=
  match c.fault? with
  | some f => .error f
  | none => .ok ()

end Config

end Marionette

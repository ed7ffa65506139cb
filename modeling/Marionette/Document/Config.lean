import Marionette.Config
import Marionette.Json.Decode

/-!
# Documents: configurations

Every structure of a configuration is an object, and every field has a default.

## Main definitions

* `Config.encode`, `Config.decode`.
* `Config.ofText` — read and check a configuration.
-/

namespace Marionette

open Json (Fields Decoder)

namespace PlaybackConfig

/-- The timing of playback as an object. -/
def encode (c : PlaybackConfig) : Json := .record [
  ("step_delay_ms", .nat c.stepDelay.toNat),
  ("repeat_delay_ms", .nat c.repeatDelay.toNat),
  ("hold_for_messages", .bool c.holdForMessages),
  ("max_repeats", .optional (fun n => .nat n.toNat) c.maxRepeats)]

/-- The fields of the timing. -/
def fields : Fields [UInt64, UInt64, Bool, Option UInt32] :=
  let c : PlaybackConfig := {}
  .defaulted "step_delay_ms" Json.decodeUInt64 c.stepDelay <|
  .defaulted "repeat_delay_ms" Json.decodeUInt64 c.repeatDelay <|
  .defaulted "hold_for_messages" Json.decodeBool c.holdForMessages <|
  .defaulted "max_repeats" (Json.decodeOptional Json.decodeUInt32) c.maxRepeats .nil

/-- The timing of playback from an object. -/
def decode : Decoder PlaybackConfig :=
  fields.decode fun (stepDelay, repeatDelay, holdForMessages, maxRepeats, ()) =>
    { stepDelay, repeatDelay, holdForMessages, maxRepeats }

end PlaybackConfig

namespace MotionConfig

/-- The magnitudes of the actions as an object. -/
def encode (c : MotionConfig) : Json := .record [
  ("move_step", .float c.moveStep),
  ("turn_degrees", .float c.turnDegrees),
  ("spin_degrees", .float c.spinDegrees),
  ("size_step", .float c.sizeStep),
  ("min_size", .float c.minSize),
  ("random_min", .int c.randomMin.toInt),
  ("random_max", .int c.randomMax.toInt),
  ("greeting", .text c.greeting),
  ("greeting_hold_ms", .nat c.greetingHold.toNat)]

/-- The fields of the magnitudes. -/
def fields : Fields [Float, Float, Float, Float, Float, Int64, Int64, String, UInt64] :=
  let c : MotionConfig := {}
  .defaulted "move_step" Json.decodeFloat c.moveStep <|
  .defaulted "turn_degrees" Json.decodeFloat c.turnDegrees <|
  .defaulted "spin_degrees" Json.decodeFloat c.spinDegrees <|
  .defaulted "size_step" Json.decodeFloat c.sizeStep <|
  .defaulted "min_size" Json.decodeFloat c.minSize <|
  .defaulted "random_min" Json.decodeInt64 c.randomMin <|
  .defaulted "random_max" Json.decodeInt64 c.randomMax <|
  .defaulted "greeting" Json.decodeText c.greeting <|
  .defaulted "greeting_hold_ms" Json.decodeUInt64 c.greetingHold .nil

/-- The magnitudes of the actions from an object. -/
def decode : Decoder MotionConfig :=
  fields.decode fun (moveStep, turnDegrees, spinDegrees, sizeStep, minSize, randomMin, randomMax, greeting,
      greetingHold, ()) =>
    { moveStep, turnDegrees, spinDegrees, sizeStep, minSize, randomMin, randomMax, greeting, greetingHold }

end MotionConfig

namespace Viewport

/-- The extent of the stage as an object. -/
def encode (v : Viewport) : Json := .record [
  ("width", .float v.width),
  ("height", .float v.height),
  ("margin_x", .float v.marginX),
  ("margin_y", .float v.marginY)]

/-- The fields of the extent. -/
def fields : Fields [Float, Float, Float, Float] :=
  let v : Viewport := {}
  .defaulted "width" Json.decodeFloat v.width <|
  .defaulted "height" Json.decodeFloat v.height <|
  .defaulted "margin_x" Json.decodeFloat v.marginX <|
  .defaulted "margin_y" Json.decodeFloat v.marginY .nil

/-- The extent of the stage from an object. -/
def decode : Decoder Viewport :=
  fields.decode fun (width, height, marginX, marginY, ()) => { width, height, marginX, marginY }

end Viewport

namespace Config

/-- A configuration as an object. -/
def encode (c : Config) : Json := .record [
  ("playback", c.playback.encode),
  ("motion", c.motion.encode),
  ("viewport", c.viewport.encode)]

/-- The fields of a configuration. -/
def fields : Fields [PlaybackConfig, MotionConfig, Viewport] :=
  .defaulted "playback" PlaybackConfig.decode {} <|
  .defaulted "motion" MotionConfig.decode {} <|
  .defaulted "viewport" Viewport.decode {} .nil

/-- A configuration from an object, which is not checked. -/
def decode : Decoder Config :=
  fields.decode fun (playback, motion, viewport, ()) => { playback, motion, viewport }

/-- Read a configuration from a text and check it. -/
def ofText (cs : List Char) : Except Error Config := do
  let c ← (Json.parse decode cs).mapError (·.error)
  c.validate.mapError (·.error)
  pure c

end Config

end Marionette

import Marionette.Document.State
import Marionette.Playback.Event
import Marionette.TimerQueue

/-!
# Documents: events and wakeups

An event is an object whose first member names it.  A wakeup is one word; it may also be read from an object
with that word as its only key and `null` as its value.

## Main definitions

* `Event.encode`.
* `Wakeup.encode`, `Wakeup.decode`, `TimerToken.encode`, `TimerToken.decode`.
-/

namespace Marionette

open Json (Decoder)

/-- An event as an object. -/
def Event.encode : Event → Json
  | started steps => .record [("event", .text "started"), ("steps", .nat steps)]
  | stepApplied run step last states repeaters => .record [
      ("event", .text "step_applied"),
      ("run", .nat run),
      ("step", .nat step),
      ("last", .nat last),
      ("states", states.encode),
      ("repeat", ActorSet.encode repeaters)]
  | repeatScheduled actors delay => .record [
      ("event", .text "repeat_scheduled"),
      ("actors", ActorSet.encode actors),
      ("delay_ms", .nat delay.toNat)]
  | repeatStarted run actors steps => .record [
      ("event", .text "repeat_started"),
      ("run", .nat run),
      ("actors", ActorSet.encode actors),
      ("steps", .nat steps)]
  | finished => .record [("event", .text "finished")]
  | stopped => .record [("event", .text "stopped")]

namespace Wakeup

/-- The wakeup as one word. -/
def word : Wakeup → String
  | advance => "advance"
  | restart => "repeat"

/-- A wakeup as its word. -/
def encode (w : Wakeup) : Json := .text w.word

/-- The wakeup of a word. -/
def ofWord? (s : String) : Option Wakeup :=
  if s = "advance" then some .advance else if s = "repeat" then some .restart else none

/-- A wakeup from its word, which may be the only key of an object with `null` as its value. -/
def decode : Decoder Wakeup
  | .string (some s) => Json.orMalformed (ofWord? s)
  | .object [(some s, .null)] true => Json.orMalformed (ofWord? s)
  | _ => .error .malformed

end Wakeup

/-- A token as its number. -/
def TimerToken.encode (t : TimerToken) : Json := .nat t.index

/-- A token from its number. -/
def TimerToken.decode : Decoder TimerToken := fun v => .mk <$> Json.decodeNat (UInt64.size - 1) v

end Marionette

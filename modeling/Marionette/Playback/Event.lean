import Marionette.StepTable.Basic

/-!
# Playback events

What an observer of playback is told.

## Main definitions

* `Event`.
-/

namespace Marionette

/-- A milestone of playback. -/
inductive Event where
  /-- A flow with this many snapshots begins. -/
  | started (steps : Nat)
  /-- A snapshot is on the display.  Run 0 is the first; each repeat has the next number. -/
  | stepApplied (run step last : Nat) (states : StateMap) (repeaters : ActorSet)
  /-- Some actors are to start over after a delay, told in milliseconds modulo 2^64. -/
  | repeatScheduled (actors : ActorSet) (delay : UInt64)
  /-- A repeat run with this many snapshots begins. -/
  | repeatStarted (run : Nat) (actors : ActorSet) (steps : Nat)
  /-- Playback came to its end. -/
  | finished
  /-- Playback was stopped. -/
  | stopped

end Marionette

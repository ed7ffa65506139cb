import Marionette.Actor.State
import Marionette.Chance
import Marionette.Config
import Marionette.Identifier

/-!
# Actions

What a block of a flow does to its actor: a transition of the actor's state, which may read the
configuration and draw random values.  A repeat marker leaves the state alone and asks that its actor starts
over.

## Main definitions

* `Surroundings` — what a transition may read besides the actor.
* `Transition`, `Action`, `Action.repeatMarker`.
-/

namespace Marionette

/-- What a transition may read besides the actor. -/
structure Surroundings where
  motion : MotionConfig := {}
  viewport : Viewport := {}

/-- The surroundings that a configuration gives. -/
def Config.surroundings (c : Config) : Surroundings := { motion := c.motion, viewport := c.viewport }

/-- A change of one actor's state. -/
abbrev Transition := Surroundings → ActorId → ActorState → Chance ActorState

/-- What a kind of block does. -/
structure Action where
  transition : Transition
  /-- Whether the actor is to start over after the step. -/
  repeats : Bool := false

namespace Action

/-- An action that draws nothing. -/
def steady (f : Surroundings → ActorId → ActorState → ActorState) : Action :=
  { transition := fun around actor s => .done (f around actor s) }

/-- The marker that makes an actor start over. -/
def repeatMarker : Action := { transition := fun _ _ s => .done s, repeats := true }

end Action

end Marionette

import Marionette.StepTable.Basic

/-!
# Displays

A display holds the states that are shown while a flow is played.  Playback reads where the actors are,
writes one batch of states a step, and says when it begins and ends.

## Main definitions

* `Display` — what playback needs of a display; batches and reading all states have defaults.
* `Board` — a display that is nothing but states.
* `LoggedBoard` — a display with its own list of actors that keeps a log of what was done to it.
-/

namespace Marionette

/-- What playback needs of a display. -/
class Display (σ : Type) where
  /-- The actors, in their order. -/
  actorIds : σ → List ActorId
  /-- The state of an actor. -/
  state? : σ → ActorId → Option ActorState
  /-- Merge a patch into the state of an actor. -/
  merge : σ → ActorId → StatePatch → σ
  /-- Write the patches of one step, in order. -/
  applyBatch : σ → List (ActorId × StatePatch) → σ := fun d batch =>
    batch.foldl (fun d e => merge d e.1 e.2) d
  /-- The states of all actors that have one. -/
  currentStates : σ → StateMap := fun d =>
    .ofList ((actorIds d).filterMap fun a => (state? d a).map (a, ·))
  /-- Playback begins. -/
  started : σ → σ := id
  /-- Playback has ended. -/
  finished : σ → σ := id

/-- The batch that shows a snapshot: a full patch for every actor. -/
def Snapshot.batch (s : Snapshot) : List (ActorId × StatePatch) :=
  s.states.entries.map fun e => (e.1, e.2.toPatch)

/-! ### Boards -/

/-- A display that is nothing but states.  It takes in no new actors. -/
structure Board where
  states : StateMap

instance : Display Board where
  actorIds b := b.states.keys
  state? b a := b.states.get? a
  merge b a p :=
    match b.states.get? a with
    | some s => ⟨b.states.insert a (s.merge p)⟩
    | none => b

/-- What was done to a logged board. -/
inductive LogEntry
  | merged (actor : ActorId)
  | started
  | finished
  deriving DecidableEq, Repr

/-- A display with a list of actors of its own, which may name an actor twice or one without a state.  It
keeps a log of what was done to it, and an actor it does not know starts from the default state. -/
structure LoggedBoard where
  actors : List ActorId
  states : StateMap
  log : List LogEntry := []

instance : Display LoggedBoard where
  actorIds b := b.actors
  state? b a := b.states.get? a
  merge b a p :=
    { b with
      states := b.states.insert a (((b.states.get? a).getD default).merge p)
      log := b.log ++ [.merged a] }
  started b := { b with log := b.log ++ [.started] }
  finished b := { b with log := b.log ++ [.finished] }

end Marionette

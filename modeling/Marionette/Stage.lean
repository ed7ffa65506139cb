import Marionette.Defect
import Marionette.Display
import Marionette.Listing
import Marionette.Refusal
import Marionette.Text.Blank

/-!
# The stage

The actors in their order, each with a state that every front end shows.  While playback runs the stage is
locked: edits are refused and only playback writes.  The revision grows with every change that has to be
drawn again.

## Main definitions

* `Actor`, `Stage`.
* The edits `Stage.addActor`, `removeActor`, `renameActor`, `updateActor`, `resetToHome`.
* `Stage.states`, `homeStates`, and the stage as a `Display`.
* `Stage.defect?`.
-/

namespace Marionette

/-- An actor on the stage. -/
structure Actor where
  id : ActorId
  name : String
  /-- The artwork that shows the actor. -/
  costume : String := "cat"
  state : ActorState := {}
  deriving DecidableEq

/-- The actors, whether they are locked, and how often they changed. -/
structure Stage where
  actors : List Actor := [{ id := ⟨"sprite-1"⟩, name := "Cat" }]
  locked : Bool := false
  revision : Nat := 0
  deriving DecidableEq

namespace Stage

/-! ### Looking -/

/-- The actor named `id`. -/
def find? (s : Stage) (id : ActorId) : Option Actor := Listing.find? Actor.id id s.actors

/-- Whether there is an actor named `id`. -/
def contains (s : Stage) (id : ActorId) : Bool := (s.find? id).isSome

/-- The distance between two neighbours at home. -/
def homeSpacing : Float := 100.0

/-- The home of the actor at an index: a place on the x axis. -/
def homePosition (index : Nat) : Float × Float := (Float.ofNat index * homeSpacing, 0.0)

/-- The state of the actor at an index when it is at home. -/
def homeState (index : Nat) : ActorState :=
  .placed (homePosition index).1 (homePosition index).2

/-- The states of all actors; of two actors of one name the later one counts. -/
def states (s : Stage) : StateMap := .ofList (s.actors.map fun a => (a.id, a.state))

/-- The states of all actors when they are at home. -/
def homeStates (s : Stage) : StateMap :=
  .ofList (s.actors.zipIdx.map fun (a, i) => (a.id, homeState i))

/-! ### Edits -/

/-- Go on with an edit unless the stage is locked. -/
def editing {α : Type} (s : Stage) (edit : StageEdit) (go : Except Refusal α) : Except Refusal α :=
  if s.locked then .error (.stageLocked edit) else go

/-- Go on with the actor named `id`. -/
def withActor {α : Type} (s : Stage) (id : ActorId) (go : Actor → Except Refusal α) : Except Refusal α :=
  match s.find? id with
  | some a => go a
  | none => .error (.unknownActor id)

/-- The id for one more actor. -/
def freshActorId (s : Stage) : ActorId :=
  ⟨leastFree "sprite" (s.actors.length + 1) (s.actors.map (·.id.text))⟩

/-- Append an actor at home under a fresh id. -/
def addActor (s : Stage) (costume : String) (name : Option String) : Except Refusal (ActorId × Stage) :=
  s.editing .addActor do
    let actor : Actor :=
      { id := s.freshActorId
        name := name.getD ("Sprite " ++ decimal (s.actors.length + 1))
        costume
        state := homeState s.actors.length }
    pure (actor.id, { s with actors := s.actors ++ [actor], revision := s.revision + 1 })

/-- Take an actor off the stage, but never the last one. -/
def removeActor (s : Stage) (id : ActorId) : Except Refusal (Actor × Stage) :=
  s.editing .removeActor <| s.withActor id fun a =>
    if s.actors.length ≤ 1 then .error .lastActor
    else .ok (a, { s with actors := Listing.remove Actor.id id s.actors, revision := s.revision + 1 })

/-- Give an actor another name, which must not be blank. -/
def renameActor (s : Stage) (id : ActorId) (name : String) : Except Refusal Stage :=
  s.editing .renameActor <|
    if Text.isBlankText name then .error .blankActorName
    else s.withActor id fun _ =>
      .ok { s with actors := Listing.modify Actor.id id (fun a => { a with name }) s.actors }

/-- The stage with a patch merged into the state of an actor. -/
def mergeState (s : Stage) (id : ActorId) (p : StatePatch) : Stage :=
  { s with actors := Listing.modify Actor.id id (fun a => { a with state := a.state.merge p }) s.actors }

/-- Merge a patch into the state of an actor. -/
def updateActor (s : Stage) (id : ActorId) (p : StatePatch) : Except Refusal Stage :=
  s.editing .updateActor <| s.withActor id fun _ =>
    .ok { s.mergeState id p with revision := s.revision + 1 }

/-- Send every actor home. -/
def resetToHome (s : Stage) : Except Refusal Stage :=
  s.editing .resetToHome <|
    .ok { s with
      actors := s.actors.zipIdx.map fun (a, i) => { a with state := homeState i }
      revision := s.revision + 1 }

/-! ### The stage as a display -/

/-- A batch counts as one change, whatever it writes; a single write counts if it reaches an actor. -/
instance : Display Stage where
  actorIds s := s.actors.map (·.id)
  state? s id := (s.find? id).map (·.state)
  merge s id p :=
    if s.contains id then { s.mergeState id p with revision := s.revision + 1 } else s
  applyBatch s batch :=
    { batch.foldl (fun s e => s.mergeState e.1 e.2) s with revision := s.revision + 1 }
  started s := { s with locked := true }
  finished s := { s with locked := false }

/-! ### Checking -/

/-- The first defect: no actor at all, or a name that stood in the list before. -/
def defect? (s : Stage) : Option Defect :=
  if s.actors.isEmpty then some .noActors
  else (Listing.firstRepeated [] (s.actors.map (·.id))).map .duplicateActor

/-- A stage has no defect exactly when it has actors and their names are distinct. -/
theorem defect?_eq_none_iff (s : Stage) :
    s.defect? = none ↔ s.actors ≠ [] ∧ (s.actors.map (·.id)).Nodup := by
  by_cases h : s.actors = [] <;> simp [defect?, Listing.firstRepeated_eq_none_iff, h]

end Stage

end Marionette

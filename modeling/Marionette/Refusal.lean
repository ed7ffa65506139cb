import Marionette.Error
import Marionette.Identifier

/-!
# Refused operations

Why an edit or a call is refused.  A refused operation changes nothing.

## Main definitions

* `StageEdit` — the edits that a locked stage refuses.
* `Refusal`, `Refusal.error`.
-/

namespace Marionette

/-- The edits of a stage. -/
inductive StageEdit
  | addActor
  | removeActor
  | renameActor
  | updateActor
  | resetToHome
  deriving DecidableEq, Repr

/-- What the edit does, as the end of "cannot …". -/
def StageEdit.phrase : StageEdit → String
  | addActor => "add an actor"
  | removeActor => "remove an actor"
  | renameActor => "rename an actor"
  | updateActor => "edit actor state"
  | resetToHome => "reset the stage"

/-- Why an operation is refused. -/
inductive Refusal
  | stageLocked (edit : StageEdit)
  | unknownActor (id : ActorId)
  | lastActor
  | blankActorName
  | moveOutOfRange (source target count : Nat)
  | unknownFlow (id : FlowId)
  | lastFlow
  | alreadyPlaying
  deriving DecidableEq, Repr

/-- The refusal as an error. -/
def Refusal.error : Refusal → Error
  | stageLocked edit => ⟨.invalidState, "cannot " ++ edit.phrase ++ " while playback is running"⟩
  | unknownActor id => ⟨.validation, "unknown actor '" ++ id.text ++ "'"⟩
  | lastActor => ⟨.invalidState, "cannot remove the last actor"⟩
  | blankActorName => ⟨.validation, "actor name must be non-empty"⟩
  | moveOutOfRange source target count =>
    ⟨.validation, "block move " ++ decimal source ++ " -> " ++ decimal target ++ " out of range for " ++
      decimal count ++ " blocks"⟩
  | unknownFlow id => ⟨.validation, "unknown flow '" ++ id.text ++ "'"⟩
  | lastFlow => ⟨.invalidState, "cannot delete the last flow"⟩
  | alreadyPlaying => ⟨.invalidState, "playback already running; stop() it first"⟩

end Marionette

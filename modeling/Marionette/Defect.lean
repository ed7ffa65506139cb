import Marionette.Error
import Marionette.Identifier

/-!
# Defects of a project

What checking a project can find.

## Main definitions

* `Defect`, `Defect.error`.
-/

namespace Marionette

/-- What is wrong with a project. -/
inductive Defect
  | noActors
  | duplicateActor (id : ActorId)
  | noFlows
  | duplicateFlow (id : FlowId)
  | duplicateBlock (flow : FlowId) (block : BlockId)
  | activeFlowMissing
  deriving DecidableEq, Repr

/-- The defect as an error. -/
def Defect.error : Defect → Error
  | noActors => ⟨.validation, "a stage needs at least one actor"⟩
  | duplicateActor id => ⟨.validation, "duplicate actor id '" ++ id.text ++ "'"⟩
  | noFlows => ⟨.validation, "a project needs at least one flow"⟩
  | duplicateFlow id => ⟨.validation, "duplicate flow id '" ++ id.text ++ "'"⟩
  | duplicateBlock flow block =>
    ⟨.validation, "flow '" ++ flow.text ++ "' has duplicate block id '" ++ block.text ++ "'"⟩
  | activeFlowMissing => ⟨.validation, "active flow does not exist"⟩

end Marionette

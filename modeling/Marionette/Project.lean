import Marionette.FlowBook
import Marionette.Stage

/-!
# Projects

A project is a stage and the flows that are written for it.

## Main definitions

* `Project`, `Project.defect?`.
-/

namespace Marionette

/-- A stage and its flows. -/
structure Project where
  stage : Stage := {}
  book : FlowBook := {}
  deriving DecidableEq

namespace Project

/-- The first defect: of the stage, then of the flows, then of the selection. -/
def defect? (p : Project) : Option Defect :=
  p.stage.defect?.or <| p.book.defect?.or <|
    if p.book.activeFlow?.isNone then some .activeFlowMissing else none

/-- Accept a project without a defect. -/
def validate (p : Project) : Except Defect Unit :=
  match p.defect? with
  | some d => .error d
  | none => .ok ()

end Project

end Marionette

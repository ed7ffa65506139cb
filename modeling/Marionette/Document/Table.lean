import Marionette.Document.State

/-!
# Documents: step tables

## Main definitions

* `Snapshot.encode`, `SkippedBlock.encode`, `StepTable.encode`.
-/

namespace Marionette

/-- A snapshot as an object. -/
def Snapshot.encode (s : Snapshot) : Json := .record [
  ("states", s.states.encode),
  ("repeat", ActorSet.encode s.repeaters)]

/-- The reason as one word. -/
def SkipReason.word : SkipReason → String
  | unknownAction => "unknown_action"
  | unassigned => "unassigned"
  | unknownActor => "unknown_actor"

/-- A skipped block as an object. -/
def SkippedBlock.encode (b : SkippedBlock) : Json := .record [
  ("block", b.block.encode),
  ("action", .text b.action),
  ("target", .optional ActorId.encode b.target),
  ("step", .optional .nat b.step),
  ("reason", .text b.reason.word)]

/-- A step table as an object. -/
def StepTable.encode (t : StepTable) : Json := .record [
  ("snapshots", .list (t.snapshots.map Snapshot.encode)),
  ("skipped", .list (t.skipped.map SkippedBlock.encode))]

end Marionette

import Marionette.Flow

/-!
# Books of flows

All flows of a project, and which of them is selected for playback.

## Main definitions

* `FlowBook`, with lookups by id.
* `FlowBook.select`, `addFlow`, `deleteFlow`, `rename`, `modify`.
* `FlowBook.defect?`.
-/

namespace Marionette

/-- Flows and the id of the selected one. -/
structure FlowBook where
  flows : List Flow := [{ id := ⟨"flow-1"⟩, name := "Flow 1" }]
  active : FlowId := ⟨"flow-1"⟩
  deriving DecidableEq, Repr

namespace FlowBook

/-- The flow named `id`. -/
def find? (b : FlowBook) (id : FlowId) : Option Flow := Listing.find? Flow.id id b.flows

/-- The selected flow. -/
def activeFlow? (b : FlowBook) : Option Flow := b.find? b.active

/-- Change the flow named `id`. -/
def modify (b : FlowBook) (id : FlowId) (f : Flow → Flow) : FlowBook :=
  { b with flows := Listing.modify Flow.id id f b.flows }

/-- Select a flow. -/
def select (b : FlowBook) (id : FlowId) : Except Refusal FlowBook :=
  match b.find? id with
  | some _ => .ok { b with active := id }
  | none => .error (.unknownFlow id)

/-- The id for one more flow. -/
def freshFlowId (b : FlowBook) : FlowId :=
  ⟨leastFree "flow" (b.flows.length + 1) (b.flows.map (·.id.text))⟩

/-- Append an empty flow under a fresh id and select it. -/
def addFlow (b : FlowBook) : FlowId × FlowBook :=
  (b.freshFlowId,
    { flows := b.flows ++ [{ id := b.freshFlowId, name := "Flow " ++ decimal (b.flows.length + 1) }]
      active := b.freshFlowId })

/-- Delete a flow, but never the last one.  If it was selected, the first of the others is. -/
def deleteFlow (b : FlowBook) (id : FlowId) : Except Refusal (Flow × FlowBook) :=
  match b.find? id with
  | none => .error (.unknownFlow id)
  | some f =>
    if b.flows.length ≤ 1 then .error .lastFlow
    else
      let flows := Listing.remove Flow.id id b.flows
      let active := if b.active = id then ((flows.head?).map (·.id)).getD b.active else b.active
      .ok (f, { flows, active })

/-- Give a flow another name. -/
def rename (b : FlowBook) (id : FlowId) (name : String) : Except Refusal FlowBook :=
  match b.find? id with
  | some _ => .ok (b.modify id fun f => { f with name })
  | none => .error (.unknownFlow id)

/-- The first defect of some flows when `seen` ids stood before them. -/
def firstDefect (seen : List FlowId) : List Flow → Option Defect
  | [] => none
  | f :: fs =>
    if f.id ∈ seen then some (.duplicateFlow f.id)
    else f.defect?.or (firstDefect (f.id :: seen) fs)

/-- The first defect of a book. -/
def defect? (b : FlowBook) : Option Defect :=
  if b.flows.isEmpty then some .noFlows else firstDefect [] b.flows

end FlowBook

end Marionette

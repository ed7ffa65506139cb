import Marionette.Action.Registry
import Marionette.StepTable.Basic

/-!
# Compiling flows

In step `k` every actor that still has one does its `k`-th own block, all of them from the states of the
snapshot before.  Actors take their turn in the order in which they are listed, which decides who draws
which random value.  An actor without a block left keeps its state.

## Main definitions

* `Lane` — an actor with its blocks; `lanesOf` — the lanes of a list of actors.
* `Lane.act` — what one actor's turn adds to a snapshot.
* `Snapshot.next`, `Snapshot.following` — one step, and a number of steps.
* `StepTable.compile`, `StepTable.recompile`.
-/

namespace Marionette

/-- An actor with its blocks. -/
structure Lane where
  actor : ActorId
  blocks : List ActionBlock

/-- The lanes of the listed actors, each actor once, in the order of first mention. -/
def lanesOf (blocks : List ActionBlock) (actors : List ActorId) : List Lane :=
  actors.eraseDups.map fun a => ⟨a, laneOf blocks a⟩

/-- The number of blocks in the longest lane. -/
def longest (lanes : List Lane) : Nat := (lanes.map (·.blocks.length)).foldr max 0

/-- What is known of a step while its actors take their turns. -/
structure Turn where
  snapshot : Snapshot
  skipped : List SkippedBlock := []

/-- The turn of one actor in the step from `prior` to snapshot `step`. -/
def Lane.act (r : Registry) (around : Surroundings) (prior : Snapshot) (step : Nat) (l : Lane) (t : Turn) :
    Chance Turn :=
  match l.blocks[step - 1]? with
  | none => pure t
  | some b =>
    match r.perform? around b.action l.actor ((prior.state? l.actor).getD default) with
    | some change => do
      let s ← change
      let repeaters :=
        if r.isRepeat b.action then t.snapshot.repeaters.insert l.actor () else t.snapshot.repeaters
      pure { t with snapshot := { states := t.snapshot.states.insert l.actor s, repeaters } }
    | none =>
      let note : SkippedBlock :=
        { block := b.id, action := b.action, target := some l.actor, step := some step,
          reason := .unknownAction }
      pure { t with skipped := t.skipped ++ [note] }

namespace Snapshot

/-- The snapshot at index `step`, from the one before it. -/
def next (r : Registry) (around : Surroundings) (lanes : List Lane) (step : Nat) (prior : Snapshot) :
    Chance Turn :=
  lanes.foldlM (fun t l => l.act r around prior step t) { snapshot := { states := prior.states } }

/-- The `count` snapshots from index `step` on, and what was skipped in them. -/
def following (r : Registry) (around : Surroundings) (lanes : List Lane) :
    (count step : Nat) → Snapshot → Chance (List Snapshot × List SkippedBlock)
  | 0, _, _ => pure ([], [])
  | count + 1, step, prior => do
    let t ← next r around lanes step prior
    let (rest, skipped) ← following r around lanes count (step + 1) t.snapshot
    pure (t.snapshot :: rest, t.skipped ++ skipped)

/-- The snapshot before any block: an actor without a state starts from the default. -/
def start (lanes : List Lane) (seed : StateMap) : Snapshot :=
  { states := .ofList (lanes.map fun l => (l.actor, (seed.get? l.actor).getD default)) }

end Snapshot

namespace StepTable

/-- The note on a block that is in no lane. -/
def foreignNote? (actors : List ActorId) (b : ActionBlock) : Option SkippedBlock :=
  match b.target with
  | none =>
    some { block := b.id, action := b.action, target := none, step := none, reason := .unassigned }
  | some a =>
    if a ∈ actors then none
    else some { block := b.id, action := b.action, target := some a, step := none, reason := .unknownActor }

/-- The table of some lanes.  Without any block there is no snapshot. -/
def ofLanes (r : Registry) (around : Surroundings) (lanes : List Lane) (seed : StateMap) :
    Chance StepTable :=
  match longest lanes with
  | 0 => pure {}
  | count => do
    let first := Snapshot.start lanes seed
    let (rest, skipped) ← Snapshot.following r around lanes count 1 first
    pure { snapshots := first :: rest, skipped }

/-- Compile blocks for the listed actors.  Blocks of other actors, and blocks of none, are noted before the
blocks of unknown kinds. -/
def compile (r : Registry) (around : Surroundings) (blocks : List ActionBlock) (actors : List ActorId)
    (seed : StateMap) : Chance StepTable := do
  let t ← ofLanes r around (lanesOf blocks actors) seed
  pure { t with skipped := blocks.filterMap (foreignNote? actors) ++ t.skipped }

/-- Compile only the blocks of the actors in a set, and take no note of the others. -/
def recompile (r : Registry) (around : Surroundings) (blocks : List ActionBlock) (seed : StateMap)
    (actors : ActorSet) : Chance StepTable :=
  ofLanes r around (lanesOf blocks actors.keys) seed

end StepTable

end Marionette

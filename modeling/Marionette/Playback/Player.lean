import Marionette.Playback.Event
import Marionette.StepTable.Compile
import Marionette.TimerQueue

/-!
# The player

The player is idle or plays a run: a compiled table, the step that is on the display, and one timer that
will go on with it.  It never waits by itself.

## Main definitions

* `Run` — what is being played.
* `Player`, with `Player.isRunning`, `pendingToken?`, `currentStep?`, `currentTable?`.

## Implementation notes

Status, run and timer are three fields, so a value of the type may have a run and no timer, or a timer and
no run.  Between two calls they always agree; that is an invariant of the calls and not of the type,
because a wakeup takes the timer first and the run later.
-/

namespace Marionette

/-- What is being played: the blocks it was compiled from, its table, and the step on the display. -/
structure Run where
  blocks : List ActionBlock
  table : StepTable
  step : Nat := 0

namespace Run

/-- The snapshot on the display. -/
def snapshot? (r : Run) : Option Snapshot := r.table.snapshot? r.step

/-- The index of the last snapshot. -/
def last (r : Run) : Nat := r.table.lastStep?.getD 0

/-- The same run one step on. -/
def next (r : Run) : Run := { r with step := r.step + 1 }

end Run

/-- Whether a player plays. -/
inductive Status
  | idle
  | running
  deriving DecidableEq, Repr

/-- What plays flows: its actions, its tuning, its random source, whether it plays, the timer that will go
on and what that will do, the run on the display, how often the flow was repeated, and the events that
nobody has taken yet, the oldest first. -/
structure Player where
  registry : Registry
  config : Config
  source : RandomSource
  status : Status := .idle
  pending? : Option (TimerToken × Wakeup) := none
  run? : Option Run := none
  repeats : Nat := 0
  log : List Event := []

namespace Player

/-- Whether the player plays. -/
def isRunning (p : Player) : Bool := p.status == .running

/-- The token of the timer that will go on with the run. -/
def pendingToken? (p : Player) : Option TimerToken := p.pending?.map (·.1)

/-- The step on the display. -/
def currentStep? (p : Player) : Option Nat := p.run?.map (·.step)

/-- The table of the run. -/
def currentTable? (p : Player) : Option StepTable := p.run?.map (·.table)

/-- Append an event to the log. -/
def note (p : Player) (e : Event) : Player := { p with log := p.log ++ [e] }

/-- Hand the log out. -/
def takeEvents (p : Player) : List Event × Player := (p.log, { p with log := [] })

/-- Carry out a computation with the player's random source. -/
def draw {α : Type} (p : Player) (c : Chance α) : α × Player :=
  let (a, source) := c.run p.source
  (a, { p with source })

/-- How long a snapshot stays up for its messages, in milliseconds. -/
def hold (p : Player) (s : Snapshot) : Nat := if p.config.playback.holdForMessages then s.hold else 0

/-- The delay between two steps, in milliseconds. -/
def stepDelay (p : Player) : Nat := p.config.playback.stepDelay.toNat

/-- The delay before a repeat run, in milliseconds. -/
def repeatDelay (p : Player) : Nat := p.config.playback.repeatDelay.toNat

/-- Whether the flow has been repeated as often as it may be. -/
def isCapped (p : Player) : Bool := p.config.playback.maxRepeats.any fun most => most.toNat ≤ p.repeats

theorem isRunning_iff (p : Player) : p.isRunning = true ↔ p.status = .running := by
  simp [isRunning]

theorem isRunning_eq_false_iff (p : Player) : p.isRunning = false ↔ p.status = .idle := by
  cases h : p.status <;> simp [isRunning, h]

end Player

end Marionette

import Marionette.Display
import Marionette.Playback.Player
import Marionette.Refusal

/-!
# Playback

A player, a display and a timer queue together.  Playing a flow compiles it from what the display shows,
puts the first snapshot on the display and sets a timer.  Each time the timer fires the next snapshot is
applied.  A snapshot whose repeat set is not empty starts a repeat run after a delay: the blocks of those
actors alone, compiled anew from the snapshot.  A repeat run takes the place of the run before it.

## Main definitions

* `Playback` — player, display and timers.
* `Playback.compile`, `play`, `stop`, `onTimer`, `takeEvents`.
* `Playback.advance`, `startRepeat` — what the two kinds of wakeup do.
* `Playback.InRange` — no time is beyond the horizon, and the repeat runs can be counted.
* `Playback.play?`, `onTimer?` — the calls that make sums of times, which have an answer in range only.

## Main results

* `Playback.onTimer_of_ne` — a token that is not the pending one changes nothing.
* `Playback.stop_of_idle` — stopping an idle player changes nothing.
-/

namespace Marionette

/-- A player, a display and a timer queue. -/
structure Playback (σ : Type) where
  player : Player
  display : σ
  timers : TimerQueue := .empty

/-- What came of starting a flow. -/
inductive PlayOutcome
  /-- The first snapshot is on the display. -/
  | started
  /-- The flow has nothing to play, and nothing happened. -/
  | empty
  deriving DecidableEq, Repr

namespace Playback

variable {σ : Type}

/-! ### Parts of a step -/

/-- Note an event. -/
def note (pb : Playback σ) (e : Event) : Playback σ := { pb with player := pb.player.note e }

@[simp] theorem player_note (pb : Playback σ) (e : Event) : (pb.note e).player = pb.player.note e := rfl

@[simp] theorem display_note (pb : Playback σ) (e : Event) : (pb.note e).display = pb.display := rfl

@[simp] theorem timers_note (pb : Playback σ) (e : Event) : (pb.note e).timers = pb.timers := rfl

/-- Take up `run`. -/
def takeUp (pb : Playback σ) (run : Run) : Playback σ :=
  { pb with player := { pb.player with run? := some run } }

/-- Take out the timer that is pending, if there is one. -/
def disarm (pb : Playback σ) : Playback σ :=
  { pb with
    player := { pb.player with pending? := none }
    timers := pb.player.pending?.elim pb.timers fun (old, _) => pb.timers.cancel old }

/-- Set the timer that goes on, in place of an earlier one. -/
def arm (pb : Playback σ) (wakeup : Wakeup) (delay : Nat) : Playback σ :=
  let pb := pb.disarm
  let (token, timers) := pb.timers.schedule wakeup delay
  { pb with player := { pb.player with pending? := some (token, wakeup) }, timers }

/-- The new timer has the token that was next before, whether or not an earlier timer was taken out. -/
@[simp] theorem player_arm (pb : Playback σ) (wakeup : Wakeup) (delay : Nat) :
    (pb.arm wakeup delay).player =
      { pb.player with pending? := some (pb.timers.nextToken, wakeup) } := by
  rcases h : pb.player.pending? with _ | ⟨old, _⟩ <;>
    simp [arm, disarm, h, TimerQueue.nextToken, TimerQueue.cancel]

/-- Where no timer is pending, none is taken out. -/
theorem timers_arm (pb : Playback σ) (h : pb.player.pending? = none) (wakeup : Wakeup) (delay : Nat) :
    (pb.arm wakeup delay).timers = (pb.timers.schedule wakeup delay).2 := by
  simp [arm, disarm, h]

@[simp] theorem display_arm (pb : Playback σ) (wakeup : Wakeup) (delay : Nat) :
    (pb.arm wakeup delay).display = pb.display := rfl

/-! ### Ranges -/

/-- Every time is before the horizon of the clock, and the number of repeat runs has 32 bits. -/
structure InRange (pb : Playback σ) : Prop where
  timers : pb.timers.InRange
  repeats_lt : pb.player.repeats < UInt32.size

theorem inRange_iff {pb : Playback σ} :
    pb.InRange ↔ pb.timers.InRange ∧ pb.player.repeats < UInt32.size :=
  ⟨fun h => ⟨h.timers, h.repeats_lt⟩, fun h => ⟨h.1, h.2⟩⟩

instance (pb : Playback σ) : Decidable pb.InRange := decidable_of_decidable_of_iff inRange_iff.symm

variable [Display σ]

/-- Put the current snapshot on the display as one batch, if there is one. -/
def present (pb : Playback σ) : Playback σ :=
  match pb.player.run? with
  | none => pb
  | some run =>
    match run.snapshot? with
    | none => pb
    | some s =>
      { pb with display := Display.applyBatch pb.display s.batch }.note
        (.stepApplied pb.player.repeats run.step run.last s.states s.repeaters)

/-- Be idle, and say why. -/
def finish (pb : Playback σ) (e : Event) : Playback σ :=
  { pb with
    player := { pb.player with status := .idle, pending? := none, run? := none }.note e
    display := Display.finished pb.display }

@[simp] theorem player_finish (pb : Playback σ) (e : Event) : (pb.finish e).player =
    { pb.player with status := .idle, pending? := none, run? := none }.note e := rfl

@[simp] theorem display_finish (pb : Playback σ) (e : Event) :
    (pb.finish e).display = Display.finished pb.display := rfl

@[simp] theorem timers_finish (pb : Playback σ) (e : Event) : (pb.finish e).timers = pb.timers := rfl

/-! ### Wakeups -/

/-- What follows a snapshot of `run` that is now on the display: a repeat run, the next step, or the end. -/
def goOn (pb : Playback σ) (run : Run) (s : Snapshot) : Playback σ :=
  let hold := pb.player.hold s
  if !s.repeaters.isEmpty then
    if pb.player.isCapped then pb.finish .finished
    else
      let delay := hold + pb.player.repeatDelay
      (pb.note (.repeatScheduled s.repeaters (.ofNat delay))).arm .restart delay
  else if run.last ≤ run.step then pb.finish .finished
  else pb.arm .advance (hold + pb.player.stepDelay)

/-- Apply the next step of the run and set the timer for what follows it. -/
def advance (pb : Playback σ) : Playback σ :=
  match pb.player.run? with
  | none => pb.finish .finished
  | some run =>
    let pb := pb.takeUp run.next
    match run.next.snapshot? with
    | none => pb.finish .finished
    | some s => pb.present.goOn run.next s

/-- The states that a repeat run of some actors starts from: those of the snapshot that asked for it. -/
def repeatSeed (display : σ) (s : Snapshot) : StateMap :=
  .ofList (s.repeaters.keys.map fun a =>
    (a, ((s.state? a).or (Display.state? display a)).getD default))

/-- The blocks of the actors in a set. -/
def blocksOf (actors : ActorSet) (blocks : List ActionBlock) : List ActionBlock :=
  blocks.filter fun b => b.target.any actors.contains

/-- The table of the repeat run that snapshot `s` of `run` asks for. -/
def repeatTable (pb : Playback σ) (run : Run) (s : Snapshot) : Chance StepTable :=
  StepTable.recompile pb.player.registry pb.player.config.surroundings (blocksOf s.repeaters run.blocks)
    (repeatSeed pb.display s) s.repeaters

/-- Replace the run by a repeat run of the actors that its snapshot asks for.  The first snapshot of the
repeat run is already on the display and is not applied again. -/
def startRepeat (pb : Playback σ) : Playback σ :=
  match pb.player.run? with
  | none => pb.finish .finished
  | some run =>
    match run.snapshot? with
    | none => pb.finish .finished
    | some s =>
      let (table, player) := pb.player.draw (pb.repeatTable run s)
      let pb := { pb with player := { player with repeats := player.repeats + 1 } }
      if table.isEmpty then pb.finish .finished
      else
        ((pb.note (.repeatStarted pb.player.repeats s.repeaters table.size)).takeUp
          { blocks := blocksOf s.repeaters run.blocks, table }).arm .advance pb.player.stepDelay

/-- Take a fired timer, and say whether it was the pending one.  Every other token is ignored. -/
def onTimer (pb : Playback σ) (token : TimerToken) : Bool × Playback σ :=
  match pb.player.pending? with
  | none => (false, pb)
  | some (pending, wakeup) =>
    if pending = token then
      let pb := { pb with player := { pb.player with pending? := none } }
      (true,
        match wakeup with
        | .advance => pb.advance
        | .restart => pb.startRepeat)
    else (false, pb)

/-! ### Calls -/

/-- Compile a flow for the actors of the display, from what the display shows. -/
def compile (pb : Playback σ) (flow : Flow) : StepTable × Playback σ :=
  let (table, player) := pb.player.draw <|
    StepTable.compile pb.player.registry pb.player.config.surroundings flow.blocks
      (Display.actorIds pb.display) (Display.currentStates pb.display)
  (table, { pb with player })

/-- Put a compiled table on the display and set the timer for its second step. -/
def start (pb : Playback σ) (flow : Flow) (table : StepTable) : Playback σ :=
  let pb := { pb with
    player := { pb.player with status := .running, repeats := 0 }.note (.started table.size)
    display := Display.started pb.display }
  (pb.takeUp { blocks := flow.blocks, table }).present.arm .advance pb.player.stepDelay

/-- Start a flow.  This is refused while a run is on the display, which then goes on as before.  Sums of times
are taken however large they are; `play?` is the call with the horizon in it. -/
def play (pb : Playback σ) (flow : Flow) : Except Refusal (PlayOutcome × Playback σ) :=
  if pb.player.isRunning then .error .alreadyPlaying
  else
    let (table, pb) := pb.compile flow
    if table.isEmpty then .ok (.empty, pb) else .ok (.started, pb.start flow table)

/-- Stop playing and cancel the timer, and say whether anything was playing.  The display keeps what it
shows. -/
def stop (pb : Playback σ) : Bool × Playback σ :=
  if pb.player.isRunning then (true, pb.disarm.finish .stopped) else (false, pb)

/-- Hand the events out. -/
def takeEvents (pb : Playback σ) : List Event × Playback σ :=
  let (events, player) := pb.player.takeEvents
  (events, { pb with player })

/-! ### Sums out of range -/

/-- Start a flow.  There is no answer when the first timer would be due beyond the horizon: that ends the
program. -/
def play? (pb : Playback σ) (flow : Flow) : Option (Except Refusal (PlayOutcome × Playback σ)) :=
  match pb.play flow with
  | .error refusal => some (.error refusal)
  | .ok (outcome, next) => if next.InRange then some (.ok (outcome, next)) else none

/-- Take a fired timer.  There is no answer when the next timer would be due beyond the horizon, or when there
is one repeat run more than can be counted: that ends the program. -/
def onTimer? (pb : Playback σ) (token : TimerToken) : Option (Bool × Playback σ) :=
  let (handled, next) := pb.onTimer token
  if next.InRange then some (handled, next) else none

/-! ### Calls that change nothing -/

/-- A token that is not the pending one changes nothing. -/
theorem onTimer_of_ne (pb : Playback σ) {token : TimerToken} (h : pb.player.pendingToken? ≠ some token) :
    pb.onTimer token = (false, pb) := by
  rcases hp : pb.player.pending? with _ | ⟨pending, wakeup⟩
  · simp [onTimer, hp]
  · have : pending ≠ token := by simpa [Player.pendingToken?, hp] using h
    simp [onTimer, hp, this]

/-- Stopping an idle player changes nothing. -/
theorem stop_of_idle (pb : Playback σ) (h : pb.player.isRunning = false) : pb.stop = (false, pb) := by
  simp [stop, h]

end Playback

end Marionette

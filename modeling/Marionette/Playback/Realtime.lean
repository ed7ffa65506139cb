import Marionette.Playback.Drain

/-!
# Playing in real time

The driver waits for each due time and then fires every timer that is due.  A cancellation that comes
before the next due time stops playback.

Timers may set timers that are due at once, and with delays of zero this need not end.  So firing takes
fuel, and has no result when it runs out.  The clock has no horizon here, as it has none in `Playback.drain`.

## Main definitions

* `Playback.fireDue?` — fire all timers that are due, with fuel.
* `RunEnd`, `Playback.runRealtime?`.
-/

namespace Marionette

/-- How a run in real time ended. -/
inductive RunEnd
  | completed
  | cancelled
  deriving DecidableEq, Repr

namespace Playback

variable {σ : Type} [Display σ]

/-- Fire timers until none is due. -/
def fireDue? : (fuel : Nat) → Playback σ → Option (Playback σ)
  | 0, _ => none
  | fuel + 1, pb =>
    match pb.timers.popDue? with
    | none => some pb
    | some (t, timers) => fireDue? fuel ({ pb with timers }.onTimer t.token).2

end Playback

namespace Observed

variable {σ : Type} [Display σ]

/-- Whether a cancellation, `cancel` milliseconds after the clock stood at `base`, comes before `due`. -/
def cancelsBefore (cancel : Option Nat) (base due : Nat) : Bool := cancel.any fun c => c < due - base

/-- Stop playback and hand out what that tells. -/
def cancel (o : Observed σ) : Observed σ := { o with playback := o.playback.stop.2 }.flush

/-- Wait for due times and fire, until playback has ended or is cancelled. -/
def realtimeFrom? (cancelAfter : Option Nat) (base : Nat) : (fuel : Nat) → Observed σ → Option (RunEnd × Observed σ)
  | 0, _ => none
  | fuel + 1, o =>
    if !o.playback.player.isRunning then some (.completed, o)
    else
      match o.playback.timers.nextDue? with
      | none => some (.completed, o)
      | some due =>
        if cancelsBefore cancelAfter base due then some (.cancelled, o.cancel)
        else
          match { o.playback with timers := o.playback.timers.advanceTo due }.fireDue? (fuel + 1) with
          | none => none
          | some playback => realtimeFrom? cancelAfter base fuel { o with playback }.flush

end Observed

namespace Playback

variable {σ : Type} [Display σ]

/-- Play in real time, on a clock that reaches every due time exactly.  A cancellation comes that many
milliseconds after the call. -/
def runRealtime? (pb : Playback σ) (fuel : Nat) (cancelAfter : Option Nat) :
    Option (RunEnd × Observed σ) :=
  let o : Observed σ := { playback := pb }
  o.flush.realtimeFrom? cancelAfter pb.timers.now fuel

end Playback

end Marionette

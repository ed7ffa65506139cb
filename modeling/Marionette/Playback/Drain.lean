import Marionette.Playback.Basic

/-!
# Playing without waiting

The clock jumps from one due time to the next and every timer that is due is fired, until the player is
idle, no timer is left, or as many timers were fired as the caller allows.

A sum of times beyond the horizon of the clock breaks this off, and with it the program.  `Playback.drain?` is
what then comes of it; `Playback.drain` is the same on a clock that has no horizon.

## Main definitions

* `Observed` — playback together with what an observer was told, and at which time of the clock.
* `Observed.fire`, `Observed.drainFrom`, `Playback.drain` — firing timers, however far the clock goes.
* `Observed.next?`, `Observed.drainFrom?`, `Playback.drain?` — firing timers up to the first sum out of range.

## Main results

* `Playback.drain_fired_le` — no more timers are fired than allowed.
-/

namespace Marionette

/-- An event and what the clock showed when an observer was told of it. -/
structure Sighting where
  time : Nat
  event : Event

/-- Playback, what an observer was told, and the number of timers fired. -/
structure Observed (σ : Type) where
  playback : Playback σ
  seen : Array Sighting := #[]
  fired : Nat := 0

namespace Observed

variable {σ : Type} [Display σ]

/-- The events that the observer was told of, in order. -/
def events (o : Observed σ) : List Event := o.seen.toList.map (·.event)

/-- Tell the observer of the new events. -/
def flush (o : Observed σ) : Observed σ :=
  let (events, playback) := o.playback.takeEvents
  let time := o.playback.timers.now
  { o with playback, seen := o.seen ++ events.map (Sighting.mk time) }

/-- Fire a timer that was popped, leaving `timers`. -/
def fire (o : Observed σ) (t : Timer) (timers : TimerQueue) : Observed σ :=
  let playback := ({ o.playback with timers }.onTimer t.token).2
  { o with playback, fired := o.fired + 1 }.flush

/-- Fire at most `room` timers.  All timers that are due are fired, also when playback has ended meanwhile;
only then, and only while the player is running, does the clock jump to the next due time. -/
def drainFrom : (room : Nat) → Observed σ → Observed σ
  | 0, o => o
  | room + 1, o =>
    match o.playback.timers.popDue? with
    | some (t, timers) => drainFrom room (o.fire t timers)
    | none =>
      if o.playback.player.isRunning then
        match o.playback.timers.nextDue? with
        | none => o
        | some due =>
          match (o.playback.timers.advanceTo due).popDue? with
          | some (t, timers) => drainFrom room (o.fire t timers)
          | none => o
      else o

/-- The timer that is fired next, and the queue without it: the first one that is due, or else, while the
player is running, the first one at all, for which the clock jumps. -/
def next? (o : Observed σ) : Option (Timer × TimerQueue) :=
  match o.playback.timers.popDue? with
  | some next => some next
  | none =>
    if o.playback.player.isRunning then
      o.playback.timers.nextDue?.bind fun due => (o.playback.timers.advanceTo due).popDue?
    else none

/-- Fire at most `room` timers, as `drainFrom` does.  A sum out of range ends the program, and the error is what
had been observed until then. -/
def drainFrom? : (room : Nat) → Observed σ → Except (Observed σ) (Observed σ)
  | 0, o => .ok o
  | room + 1, o =>
    match o.next? with
    | none => .ok o
    | some (t, timers) =>
      match ({ o.playback with timers } : Playback σ).onTimer? t.token with
      | none => .error o
      | some (_, playback) => drainFrom? room { o with playback, fired := o.fired + 1 }.flush

theorem fired_fire (o : Observed σ) (t : Timer) (timers : TimerQueue) :
    (o.fire t timers).fired = o.fired + 1 := rfl

theorem fired_drainFrom_le (room : Nat) (o : Observed σ) : (drainFrom room o).fired ≤ o.fired + room := by
  induction room generalizing o with
  | zero => exact Nat.le_refl _
  | succ room ih =>
    rw [drainFrom]
    split
    · next t timers _ =>
      have := ih (o.fire t timers)
      rw [fired_fire] at this
      omega
    · split
      · split
        · omega
        · split
          · next t timers _ =>
            have := ih (o.fire t timers)
            rw [fired_fire] at this
            omega
          · omega
      · omega

end Observed

namespace Playback

variable {σ : Type} [Display σ]

/-- Fire timers without waiting until playback has ended or `limit` timers were fired, on a clock without a
horizon. -/
def drain (pb : Playback σ) (limit : Nat) : Observed σ :=
  let o : Observed σ := { playback := pb }
  let o := o.flush
  if o.playback.player.isRunning then o.drainFrom limit else o

/-- Fire timers without waiting, as `drain` does, unless a sum out of range ends the program before. -/
def drain? (pb : Playback σ) (limit : Nat) : Except (Observed σ) (Observed σ) :=
  let o : Observed σ := { playback := pb }
  let o := o.flush
  if o.playback.player.isRunning then o.drainFrom? limit else .ok o

/-- No more timers are fired than allowed. -/
theorem drain_fired_le (pb : Playback σ) (limit : Nat) : (pb.drain limit).fired ≤ limit := by
  simp only [drain]
  split
  · exact Nat.le_trans (Observed.fired_drainFrom_le _ _) (by simp [Observed.flush])
  · simp [Observed.flush]

end Playback

end Marionette

import Marionette.Playback.Realtime
import Marionette.Proofs.Playback.Drain

/-!
# The two drivers agree

Playing in real time goes in rounds.  The clock is moved on to the next due time, everything that is due is
fired, and only then is the observer told.  Draining tells the observer after each timer and counts timers
instead of rounds.  The clock stands while timers fire, so the observer is told the same at the same time;
and a drain that stops with timers to spare has finished every round that it began.

## Main definitions

* `Observed.Serves` — one round, in which at most so many timers are fired.

## Main results

* `Playback.now_onTimer` — no timer moves the clock.
* `Observed.exists_serves_drainFrom` — draining goes on in rounds, as long as it is not cut short.
* `Playback.runRealtime?_eq_drain` — a drain with timers to spare does what playing in real time does.
-/

namespace Marionette

/-! ### The clock stands -/

namespace Playback

variable {σ : Type}

@[simp] theorem now_arm (pb : Playback σ) (wakeup : Wakeup) (delay : Nat) :
    (pb.arm wakeup delay).timers.now = pb.timers.now := by
  rcases h : pb.player.pending? with _ | ⟨old, _⟩ <;>
    simp [arm, disarm, h, TimerQueue.schedule, TimerQueue.cancel]

variable [Display σ]

@[simp] theorem timers_present (pb : Playback σ) : pb.present.timers = pb.timers := by
  rw [present]
  split
  · rfl
  · split <;> rfl

@[simp] theorem now_goOn (pb : Playback σ) (run : Run) (s : Snapshot) :
    (pb.goOn run s).timers.now = pb.timers.now := by
  rw [goOn]
  dsimp only
  split
  · split <;> simp
  · split <;> simp

@[simp] theorem now_advance (pb : Playback σ) : pb.advance.timers.now = pb.timers.now := by
  rw [advance]
  split
  · rfl
  · dsimp only
    split <;> simp [takeUp]

@[simp] theorem now_startRepeat (pb : Playback σ) : pb.startRepeat.timers.now = pb.timers.now := by
  rw [startRepeat]
  split
  · rfl
  · split
    · rfl
    · dsimp only
      split <;> simp [takeUp]

/-- No timer moves the clock. -/
@[simp] theorem now_onTimer (pb : Playback σ) (token : TimerToken) :
    (pb.onTimer token).2.timers.now = pb.timers.now := by
  rw [onTimer]
  split
  · rfl
  · split
    · dsimp only
      split <;> simp
    · rfl

/-- Fuel that is left over makes no difference. -/
theorem fireDue?_of_le {pb pb' : Playback σ} {fuel more : Nat} (h : pb.fireDue? fuel = some pb')
    (hle : fuel ≤ more) : pb.fireDue? more = some pb' := by
  induction fuel generalizing pb more with
  | zero => cases h
  | succ fuel ih =>
    obtain ⟨more, rfl⟩ : ∃ left, more = left + 1 := Nat.exists_eq_succ_of_ne_zero (by omega)
    rw [fireDue?] at h ⊢
    split at h
    · exact h
    · exact ih h (Nat.le_of_succ_le_succ hle)

end Playback

/-! ### Rounds -/

namespace Observed

variable {σ : Type} [Display σ] {o o' : Observed σ}

/-- As long as the clock stands, it makes no difference when the observer is told. -/
theorem fire_flush (o : Observed σ) (t : Timer) {timers : TimerQueue}
    (hnow : timers.now = o.playback.timers.now) :
    o.flush.fire t timers =
      { o with
        playback := (Playback.onTimer { o.playback with timers } t.token).2
        fired := o.fired + 1 : Observed σ }.flush := by
  have hbehind : (Playback.onTimer { o.playback with timers } t.token).2 =
      (Playback.onTimer { o.flush.playback with timers } t.token).2.behind o.playback.player.log := by
    rw [← Playback.behind_onTimer]
    simp [Playback.behind, flush, Playback.takeEvents, Player.takeEvents]
  rw [fire, hbehind]
  simp [flush, Playback.behind, Playback.takeEvents, Player.takeEvents, hnow, ← Array.toList_inj]

/-- One round of playing in real time: the clock is moved on, what is due is fired, which is at most `n`
timers, and the observer is told. -/
def Serves (n : Nat) (o o' : Observed σ) : Prop :=
  o.playback.player.isRunning = true ∧ ∃ due playback, o.playback.timers.nextDue? = some due ∧
    (∀ fuel, n < fuel →
      Playback.fireDue? fuel { o.playback with timers := o.playback.timers.advanceTo due } =
        some playback) ∧
    o' = { o with playback }.flush

/-- Nobody looks at the number of timers that were fired before. -/
theorem Serves.counting {n : Nat} (h : o.Serves n o') (k : Nat) :
    { o with fired := k : Observed σ }.Serves n { o' with fired := k } := by
  obtain ⟨hrunning, due, playback, hdue, hfire, rfl⟩ := h
  exact ⟨hrunning, due, playback, hdue, hfire, rfl⟩

/-- Playing in real time begins with a round, if no cancellation comes before. -/
theorem Serves.realtimeFrom?_eq {n : Nat} (h : o.Serves n o') {cancelAfter : Option Nat} {base : Nat}
    (hcancel : ∀ due ∈ o.playback.timers.nextDue?, cancelsBefore cancelAfter base due = false)
    {fuel : Nat} (hfuel : n ≤ fuel) :
    o.realtimeFrom? cancelAfter base (fuel + 1) = o'.realtimeFrom? cancelAfter base fuel := by
  obtain ⟨hrunning, due, playback, hdue, hfire, rfl⟩ := h
  rw [realtimeFrom?]
  simp [hrunning, hdue, hcancel due hdue, hfire (fuel + 1) (Nat.lt_succ_of_le hfuel)]

/-! ### Draining goes on in rounds -/

/-- A drain that is not cut short fires everything that is due, as if the observer was told only then. -/
theorem exists_fireDue?_drainFrom (room : Nat) (o : Observed σ)
    (hroom : (drainFrom room o.flush).fired < o.fired + room) :
    ∃ n rest playback, n + rest = room ∧
      (∀ fuel, n < fuel → Playback.fireDue? fuel o.playback = some playback) ∧
      playback.timers.popDue? = none ∧
      drainFrom room o.flush =
        drainFrom rest { o with playback, fired := o.fired + n : Observed σ }.flush := by
  induction room generalizing o with
  | zero => exact absurd hroom (Nat.lt_irrefl _)
  | succ room ih =>
    rcases hpop : o.playback.timers.popDue? with _ | ⟨t, timers⟩
    · refine ⟨0, room + 1, o.playback, Nat.zero_add _, ?_, hpop, rfl⟩
      rintro (_ | fuel) hfuel
      · exact absurd hfuel (Nat.lt_irrefl 0)
      · rw [Playback.fireDue?, hpop]
    · have hfire : drainFrom (room + 1) o.flush = drainFrom room (o.flush.fire t timers) := by
        rw [drainFrom, show o.flush.playback.timers.popDue? = some (t, timers) from hpop]
      rw [fire_flush o t (TimerQueue.now_of_popDue? hpop).1] at hfire
      rw [hfire] at hroom ⊢
      obtain ⟨n, rest, playback, hsum, hdue, hnone, hdrain⟩ :=
        ih { o with playback := (Playback.onTimer { o.playback with timers } t.token).2
                    fired := o.fired + 1 } (Nat.lt_of_lt_of_eq hroom (Nat.succ_add_eq_add_succ _ _).symm)
      refine ⟨n + 1, rest, playback, by omega, ?_, hnone, ?_⟩
      · rintro (_ | fuel) hfuel
        · exact absurd hfuel (Nat.not_lt_zero _)
        · rw [Playback.fireDue?, hpop]
          exact hdue fuel (Nat.lt_of_succ_lt_succ hfuel)
      · rw [hdrain]
        simp only [Nat.add_assoc, Nat.add_comm 1]

/-- **Draining goes on in rounds, as long as it is not cut short.** -/
theorem exists_serves_drainFrom (room : Nat) (hrunning : o.playback.player.isRunning = true) {due : Nat}
    (hdue : o.playback.timers.nextDue? = some due)
    (hroom : (drainFrom room o).fired < o.fired + room) :
    ∃ n rest o', n + 1 + rest = room ∧ o.Serves (n + 1) o' ∧ o'.playback.timers.popDue? = none ∧
      drainFrom room o = drainFrom rest { o' with fired := o.fired + (n + 1) } := by
  cases room with
  | zero => exact absurd hroom (Nat.lt_irrefl _)
  | succ room =>
    obtain ⟨t, timers, hpop, hfire⟩ := exists_drainFrom_succ_of_nextDue? hrunning hdue
    rw [hfire] at hroom ⊢
    obtain ⟨n, rest, playback, hsum, hfires, hnone, hdrain⟩ := exists_fireDue?_drainFrom room
      { o with playback := (Playback.onTimer { o.playback with timers } t.token).2
               fired := o.fired + 1 } (Nat.lt_of_lt_of_eq hroom (Nat.succ_add_eq_add_succ _ _).symm)
    refine ⟨n, rest, { o with playback }.flush, by omega, ?_, hnone, ?_⟩
    · refine ⟨hrunning, due, playback, hdue, ?_, rfl⟩
      rintro (_ | fuel) hfuel
      · exact absurd hfuel (Nat.not_lt_zero _)
      · rw [Playback.fireDue?, hpop]
        exact hfires fuel (Nat.lt_of_succ_lt_succ hfuel)
    · rw [Nat.add_comm n 1, ← Nat.add_assoc]
      exact hdrain

theorem realtimeFrom?_of_not_running (h : o.playback.player.isRunning = false) (cancelAfter : Option Nat)
    (base fuel : Nat) : o.realtimeFrom? cancelAfter base (fuel + 1) = some (.completed, o) := by
  rw [realtimeFrom?]
  simp [h]

/-- A drain with timers to spare does what playing in real time does, which does not count timers. -/
theorem realtimeFrom?_eq_drainFrom (room : Nat)
    (hready : o.playback.timers.popDue? = none ∨ o.playback.player.isRunning = true)
    (hroom : (drainFrom room o).fired < o.fired + room) (base k : Nat) {fuel : Nat} (hfuel : room ≤ fuel) :
    { o with fired := k : Observed σ }.realtimeFrom? none base fuel =
      some (.completed, { drainFrom room o with fired := k }) := by
  induction room using Nat.strong_induction_on generalizing o fuel with
  | h room ih =>
    obtain ⟨spare, rfl⟩ : ∃ spare, room = spare + 1 :=
      Nat.exists_eq_succ_of_ne_zero (by rintro rfl; exact absurd hroom (Nat.lt_irrefl _))
    obtain ⟨fuel, rfl⟩ : ∃ left, fuel = left + 1 :=
      Nat.exists_eq_succ_of_ne_zero (by omega)
    rcases hrunning : o.playback.player.isRunning with _ | _
    · have hnone : o.playback.timers.popDue? = none := hready.resolve_right (by simp [hrunning])
      rw [realtimeFrom?_of_not_running (o := { o with fired := k }) hrunning, drainFrom, hnone]
      simp [hrunning]
    · rcases hdue : o.playback.timers.nextDue? with _ | due
      · have hqueue : o.playback.timers.pending = [] := by
          simpa [TimerQueue.nextDue?] using hdue
        rw [drainFrom_of_isEmpty _ hqueue, realtimeFrom?]
        simp [hrunning, hdue]
      · obtain ⟨n, rest, o', hsum, hserves, hnone, hdrain⟩ :=
          exists_serves_drainFrom (spare + 1) hrunning hdue hroom
        rw [hdrain] at hroom ⊢
        have hroom' : (drainFrom rest { o' with fired := o.fired + (n + 1) }).fired <
            o.fired + (n + 1) + rest := by omega
        have hrest : 0 < rest := by
          rcases rest with _ | rest
          · exact absurd hroom' (Nat.lt_irrefl _)
          · exact Nat.succ_pos rest
        rw [(hserves.counting k).realtimeFrom?_eq (fun _ _ => rfl) (by omega)]
        exact ih rest (by omega) (o := { o' with fired := o.fired + (n + 1) }) (.inl hnone) hroom'
          (by omega)

end Observed

/-- **The two drivers agree.**  A drain that has timers to spare leaves the same playback as playing in real
time that nobody cancels, and has told the observer the same at the same times. -/
theorem Playback.runRealtime?_eq_drain {σ : Type} [Display σ] (pb : Playback σ) (limit : Nat)
    (h : (pb.drain limit).fired < limit) (fuel : Nat) (hfuel : limit ≤ fuel) :
    pb.runRealtime? fuel none = some (.completed, { pb.drain limit with fired := 0 }) := by
  rw [runRealtime?]
  rw [drain] at h ⊢
  dsimp only at h ⊢
  split at h
  · next hrunning =>
    rw [if_pos hrunning]
    exact Observed.realtimeFrom?_eq_drainFrom limit (o := Observed.flush { playback := pb }) (.inr hrunning)
      (by simpa [Observed.flush] using h) pb.timers.now 0 hfuel
  · next hidle =>
    obtain ⟨fuel, rfl⟩ : ∃ left, fuel = left + 1 := Nat.exists_eq_succ_of_ne_zero (by omega)
    rw [if_neg hidle, Observed.realtimeFrom?_of_not_running (by simpa using hidle)]
    rfl

namespace Sample

/-- The sample is played and repeated once, and someone else's timer waits with its own. -/
def besides : Playback Stage :=
  { idle (some 1) with timers := (TimerQueue.empty.schedule .advance 700).2 }.call (.play flow)

end Sample

/-- The sample is over after six timers. -/
theorem Playback.runRealtime?_eq_drain_sample :
    (Sample.besides.drain 9).fired = 6 ∧ Sample.besides.runRealtime? 9 none =
      some (.completed, { Sample.besides.drain 9 with fired := 0 }) := by
  have hfired : (Sample.besides.drain 9).fired = 6 := rfl
  exact ⟨hfired, runRealtime?_eq_drain Sample.besides 9 (by rw [hfired]; decide) 9 (Nat.le_refl 9)⟩

end Marionette

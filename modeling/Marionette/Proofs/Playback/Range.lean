import Marionette.Proofs.Playback.Laps
import Marionette.Proofs.Playback.Timing
import Mathlib.Data.List.MinMax
import Mathlib.Order.Nat

/-!
# The range of the clock

Times are in range up to the horizon of the clock, and repeat runs are counted in 32 bits.  A single delay
is far from the horizon, but delays add up: each timer that is fired has taken the clock on by the shorter
of the two delays at least, and by the longest hold and the longer delay at most.  So every playback is in
range for as many timers as there are longest delays before the horizon.  One that never ends leaves the
range: in time when the shortest delays add up to the horizon, and in runs when it has gone around 2^32
times.

## Main definitions

* `PlaybackConfig.longestHold`, `shortestDelay`, `longestDelay` — what one timer can take.
* `Playback.Clocked` — the clock and the next due time after `n` timers.
* `Player.Paced` — the number of repeat runs after `n` timers.
* `Playback.Ranged` — what is in range after a bounded number of timers.

## Main results

* `Playback.clocked_drain`, `Playback.paced_drain` — how far a drain gets in time and in runs.
* `Playback.inRange_drain` — which playbacks stay in range, and which do not.
-/

namespace Marionette

/-! ### What one timer can take -/

theorem longestMessage_le (states : StateMap) : longestMessage states ≤ UInt64.size - 1 := by
  rw [longestMessage]
  refine List.max_le_of_forall_le (_ : List Nat) _ ?_
  intro d hd
  obtain ⟨a, -, rfl⟩ := List.mem_map.mp hd
  exact Nat.le_pred_of_lt (UInt64.toNat_lt_size _)

namespace PlaybackConfig

/-- The longest time that messages can hold the display. -/
def longestHold (c : PlaybackConfig) : Nat := if c.holdForMessages then UInt64.size - 1 else 0

/-- The least time from one timer to the next. -/
def shortestDelay (c : PlaybackConfig) : Nat := min c.stepDelay.toNat c.repeatDelay.toNat

/-- The longest time from one timer to the next. -/
def longestDelay (c : PlaybackConfig) : Nat := c.longestHold + max c.stepDelay.toNat c.repeatDelay.toNat

variable (c : PlaybackConfig)

theorem longestHold_le : c.longestHold ≤ UInt64.size - 1 := by
  rw [longestHold]
  split
  · exact Nat.le_refl _
  · exact Nat.zero_le _

theorem longestDelay_le : c.longestDelay ≤ 2 * (UInt64.size - 1) := by
  have hhold := c.longestHold_le
  have hstep := c.stepDelay.toNat_lt_size
  have hrepeat := c.repeatDelay.toNat_lt_size
  rw [longestDelay]
  omega

/-- Five hundred of the longest delays fit before the horizon, whatever they are. -/
theorem mul_longestDelay_lt {n : Nat} (hn : n ≤ 500) : n * c.longestDelay < TimerQueue.horizon :=
  calc n * c.longestDelay
      ≤ 500 * (2 * (UInt64.size - 1)) := Nat.mul_le_mul hn c.longestDelay_le
    _ < TimerQueue.horizon := by decide

/-- After any event the display is held for no longer than messages can hold it. -/
theorem holdAfter_le {hold : Nat} (hhold : hold ≤ c.longestHold) (e : Event) :
    c.holdAfter hold e ≤ c.longestHold := by
  cases e with
  | stepApplied run step last states repeaters =>
    cases step with
    | zero => exact Nat.zero_le _
    | succ step =>
      rw [holdAfter, longestHold]
      split
      · exact longestMessage_le states
      · exact Nat.le_refl _
  | repeatScheduled actors delay => exact hhold
  | started | repeatStarted | finished | stopped => exact Nat.zero_le _

theorem foldl_holdAfter_le {hold : Nat} (hhold : hold ≤ c.longestHold) (es : List Event) :
    es.foldl c.holdAfter hold ≤ c.longestHold := by
  induction es generalizing hold with
  | nil => exact hhold
  | cons e es ih => exact ih (c.holdAfter_le hhold e)

end PlaybackConfig

theorem Player.hold_le (p : Player) (s : Snapshot) : p.hold s ≤ p.config.playback.longestHold := by
  rw [hold_eq, PlaybackConfig.longestHold]
  split
  · exact longestMessage_le s.states
  · exact Nat.le_refl _

/-! ### The clock -/

namespace Playback

variable {σ : Type} {pb pb' : Playback σ} {c : PlaybackConfig} {start n : Nat}

theorem shortestDelay_le_timeLeft (hconfig : pb.player.config.playback = c) (hold : Nat) (s : Snapshot) :
    c.shortestDelay ≤ pb.timeLeft hold s := by
  subst hconfig
  simp only [PlaybackConfig.shortestDelay, timeLeft, Player.stepDelay, Player.repeatDelay]
  split <;> omega

theorem timeLeft_le (hconfig : pb.player.config.playback = c) {hold : Nat} (hhold : hold ≤ c.longestHold)
    (s : Snapshot) : pb.timeLeft hold s ≤ c.longestDelay := by
  subst hconfig
  simp only [PlaybackConfig.longestDelay, timeLeft, Player.stepDelay, Player.repeatDelay]
  split <;> omega

/-- After `n` timers the clock, which began at `start`, is between `n` shortest and `n` longest delays, and
the display is held for no longer than messages can hold it. -/
structure Clocked (c : PlaybackConfig) (start n : Nat) (pb : Playback σ) : Prop where
  config_eq : pb.player.config.playback = c
  le_now : start + n * c.shortestDelay ≤ pb.timers.now
  now_le : pb.timers.now ≤ start + n * c.longestDelay
  dueIn : ∃ hold ≤ c.longestHold, pb.DueIn hold

/-- The next timer is due within one delay more. -/
theorem Clocked.due_mem (h : pb.Clocked c start n) {t : Timer} (ht : t ∈ pb.timers.pending) :
    start + (n + 1) * c.shortestDelay ≤ t.due ∧ t.due ≤ start + (n + 1) * c.longestDelay := by
  obtain ⟨hold, hhold, ⟨-, hqueue⟩ | ⟨run, actors, s, token, -, hqueue⟩⟩ := h.dueIn
  · rw [hqueue] at ht
    cases ht
  · rw [hqueue, List.mem_singleton] at ht
    subst ht
    have hshort := shortestDelay_le_timeLeft h.config_eq hold s
    have hlong := timeLeft_le h.config_eq hhold s
    have hnow := h.le_now
    have hnow' := h.now_le
    simp only [Nat.succ_mul]
    omega

theorem Clocked.inRange (h : pb.Clocked c start n)
    (hlt : start + (n + 1) * c.longestDelay < TimerQueue.horizon) : pb.timers.InRange where
  now_lt := by
    have hnow := h.now_le
    rw [Nat.succ_mul] at hlt
    omega
  due_lt t ht := Nat.lt_of_le_of_lt (h.due_mem ht).2 hlt

/-- A player that still plays waits for a time beyond the horizon when the shortest delays add up to it. -/
theorem Clocked.not_inRange (h : pb.Clocked c start n) (hrunning : pb.player.isRunning = true)
    (hle : TimerQueue.horizon ≤ start + (n + 1) * c.shortestDelay) : ¬ pb.timers.InRange := by
  intro hrange
  obtain ⟨hold, -, ⟨hidle, -⟩ | ⟨run, actors, s, token, -, hqueue⟩⟩ := h.dueIn
  · exact absurd (hidle.symm.trans hrunning) Bool.false_ne_true
  · have hmem : (⟨pb.timers.now + pb.timeLeft hold s, token, s.wakeup⟩ : Timer) ∈ pb.timers.pending := by
      rw [hqueue]
      exact List.mem_singleton_self _
    exact absurd (hrange.due_lt _ hmem) (Nat.not_lt.mpr (Nat.le_trans hle (h.due_mem hmem).1))

variable [Display σ]

/-- A flow that starts leaves the clock where it is. -/
theorem Starts.clocked {flow : Flow} (h : pb.Starts flow pb') (hqueue : pb.timers.pending = []) :
    pb'.Clocked pb.player.config.playback pb.timers.now 0 := by
  obtain ⟨steps, last, states, repeaters, htime⟩ := onTime_start h hqueue
  have hnow : pb'.timers.now = pb.timers.now := htime.now_eq
  refine ⟨htime.config_eq, by omega, by omega, _, ?_, htime.dueIn⟩
  exact PlaybackConfig.foldl_holdAfter_le _ (Nat.zero_le _) _

/-- **One timer takes one delay**, and no longer than messages can hold the display. -/
theorem Clocked.woken {run : Run} {actors : List ActorId} {s : Snapshot} {hold : Nat}
    (h : pb.Clocked c start n) (hhold : hold ≤ c.longestHold) {timers : TimerQueue}
    (hqueue : timers.pending = []) (hnow : timers.now = pb.timers.now + pb.timeLeft hold s)
    (hwoken : Woken { pb with timers } run actors s pb') : pb'.Clocked c start (n + 1) := by
  obtain ⟨news, hnews⟩ := exists_news hwoken hqueue hold
  have hconfig : ({ pb with timers } : Playback σ).player.config.playback = c := h.config_eq
  have hnow' : pb'.timers.now = pb.timers.now + pb.timeLeft hold s := hnews.now_eq.trans hnow
  have hshort := shortestDelay_le_timeLeft h.config_eq hold s
  have hlong := timeLeft_le h.config_eq hhold s
  have hle := h.le_now
  have hle' := h.now_le
  refine ⟨hnews.config_eq ▸ h.config_eq, ?_, ?_, _, ?_, hnews.dueIn⟩
  · rw [hnow', Nat.succ_mul]
    omega
  · rw [hnow', Nat.succ_mul]
    omega
  · rw [hconfig]
    exact c.foldl_holdAfter_le hhold news

end Playback

namespace Observed

variable {σ : Type} [Display σ] {o : Observed σ} {c : PlaybackConfig} {start : Nat}

omit [Display σ] in
theorem clocked_flush (h : o.playback.Clocked c start o.fired) :
    o.flush.playback.Clocked c start o.flush.fired := by
  obtain ⟨hold, hhold, hdue⟩ := h.dueIn
  exact ⟨h.config_eq, h.le_now, h.now_le, hold, hhold, hdue.of_log []⟩

theorem clocked_drainFrom (room : Nat) (h : o.playback.Clocked c start o.fired) :
    (drainFrom room o).playback.Clocked c start (drainFrom room o).fired := by
  induction room generalizing o with
  | zero => exact h
  | succ room ih =>
    obtain ⟨hold, hhold, ⟨-, hqueue⟩ | ⟨run, actors, s, token, hplays, hqueue⟩⟩ := h.dueIn
    · rw [drainFrom_of_isEmpty _ hqueue]
      exact h
    · obtain ⟨timers, hpopped, hnow, hfire⟩ := exists_drainFrom_succ hplays.isRunning_eq hqueue
      rw [Nat.max_eq_right (Nat.le_add_right _ _)] at hnow
      rw [hfire]
      have hplays' : ({ o.playback with timers } : Playback σ).player.PlaysAt run actors s token := hplays
      exact ih (clocked_flush (h.woken hhold hpopped hnow (Playback.woken_of_playsAt hplays')))

end Observed

namespace Playback

variable {σ : Type} [Display σ] {pb pb' : Playback σ} {c : PlaybackConfig} {start n : Nat} {flow : Flow}

/-- **How far a drain gets in time.** -/
theorem clocked_drain (limit : Nat) (h : pb.Clocked c start 0) :
    (pb.drain limit).playback.Clocked c start (pb.drain limit).fired := by
  have hflush := Observed.clocked_flush (o := { playback := pb }) h
  rw [drain]
  split
  · exact Observed.clocked_drainFrom limit hflush
  · exact hflush

end Playback

/-! ### The number of repeat runs -/

/-- How many repeat runs a snapshot asks for. -/
def Snapshot.asked (s : Snapshot) : Nat := if s.repeaters.isEmpty then 0 else 1

theorem Snapshot.asked_of_isEmpty {s : Snapshot} (h : s.repeaters.isEmpty = true) : s.asked = 0 := if_pos h

theorem Snapshot.asked_of_isEmpty_eq_false {s : Snapshot} (h : s.repeaters.isEmpty = false) : s.asked = 1 := by
  rw [asked, h]
  rfl

/-- After `n` timers a player has spent two on every repeat run, one to ask for it and one to start it, and it
keeps to the cap, if there is one.  It has asked for `asked` more. -/
structure Player.Paced (n asked : Nat) (p : Player) : Prop where
  le_fired : 2 * p.repeats + asked ≤ n
  le_cap : ∀ most, p.config.playback.maxRepeats = some most → p.repeats + asked ≤ most.toNat

namespace Playback

variable {σ : Type} [Display σ] {pb pb' : Playback σ} {n : Nat} {flow : Flow} {run : Run}
  {actors : List ActorId} {s : Snapshot}

/-- **One timer starts at most one repeat run**, and none unless the timer before it has asked for it. -/
theorem paced_woken (h : pb.player.Paced n s.asked) (hwoken : Woken pb run actors s pb') :
    pb'.player.Stands (pb'.player.Paced (n + 1) 0) fun _ s' => pb'.player.Paced (n + 1) s'.asked := by
  have hfired := h.le_fired
  cases hwoken with
  | moved s' hs hs' heq hplays' =>
    subst heq
    rw [Snapshot.asked_of_isEmpty hs] at h hfired
    refine .plays _ _ _ _ hplays' ?_
    rw [Snapshot.asked_of_isEmpty hs']
    exact ⟨Nat.le_succ_of_le hfired, h.le_cap⟩
  | asked s' hs hs' hcap heq hplays' =>
    subst heq
    rw [Snapshot.asked_of_isEmpty hs] at hfired
    refine .plays _ _ _ _ hplays' ?_
    rw [Snapshot.asked_of_isEmpty_eq_false hs']
    exact ⟨Nat.succ_le_succ hfired, fun most hmost => Player.lt_of_isCapped_eq_false hcap hmost⟩
  | ended s' hs hsnap hend heq hrests =>
    subst heq
    rw [Snapshot.asked_of_isEmpty hs] at h hfired
    exact .rests hrests ⟨Nat.le_succ_of_le hfired, h.le_cap⟩
  | repeated out first hs hout heq hplays' =>
    have hempty := hplays'.fits.repeaters_zero hplays'.snapshot_eq
    subst heq
    rw [Snapshot.asked_of_isEmpty_eq_false hs] at h hfired
    refine .plays _ _ _ _ hplays' ?_
    rw [Snapshot.asked_of_isEmpty hempty]
    refine ⟨?_, h.le_cap⟩
    change 2 * (pb.player.repeats + 1) ≤ n + 1
    omega

theorem Starts.paced (h : pb.Starts flow pb') :
    pb'.player.Stands (pb'.player.Paced 0 0) fun _ s => pb'.player.Paced 0 s.asked := by
  obtain ⟨first, hstart, hplays⟩ := h.exists_playsAt
  have hempty := hplays.fits.repeaters_zero hplays.snapshot_eq
  have hrepeats := h.repeats_eq
  refine .plays _ _ _ _ hplays ?_
  rw [Snapshot.asked_of_isEmpty hempty]
  refine ⟨?_, fun most _ => ?_⟩
  · rw [hrepeats]
  · rw [hrepeats]
    exact Nat.zero_le _

/-- **How far a drain gets in runs.** -/
theorem paced_drain (h : pb.Starts flow pb') (hqueue : pb.timers.pending = []) (limit : Nat) :
    (pb'.drain limit).playback.player.Paced (pb'.drain limit).fired 0 := by
  have hstands := stands_drain_of_lone (A := fun n p => p.Paced n 0) (B := fun n p _ s => p.Paced n s.asked)
    (fun _ _ _ _ _ _ _ _ hpaced hwoken => paced_woken hpaced hwoken) limit (h.lone hqueue) h.paced
  rcases hstands with ⟨-, hpaced⟩ | ⟨run, actors, s, token, -, hpaced⟩
  · exact ⟨hpaced.le_fired, hpaced.le_cap⟩
  · exact ⟨Nat.le_trans (Nat.le_add_right _ s.asked) hpaced.le_fired, fun most hmost =>
      Nat.le_trans (Nat.le_add_right _ s.asked) (hpaced.le_cap most hmost)⟩

/-- Without a cap the number of repeat runs grows with the number of timers. -/
theorem le_repeats_of_endless (hstarts : pb.Starts flow pb') (hqueue : pb.timers.pending = []) {k : Nat}
    {set : ActorSet} (hturn : (pb.compile flow).1.TurnsAt k set)
    (hmost : pb.player.config.playback.maxRepeats = none) {most limit : Nat}
    (hlimit : most * (k + 1) ≤ limit) : most ≤ (pb'.drain limit).playback.player.repeats := by
  obtain ⟨-, run, actors, s, token, -, -, hrepeats, -⟩ :=
    around_drain_of_endless hstarts hqueue hturn hmost limit
  rw [← hrepeats]
  exact (Nat.le_div_iff_mul_le (Nat.succ_pos k)).mpr hlimit

/-- Without a cap the clock leaves its range. -/
theorem not_inRange_of_endless (hstarts : pb.Starts flow pb') (hqueue : pb.timers.pending = []) {k : Nat}
    {set : ActorSet} (hturn : (pb.compile flow).1.TurnsAt k set)
    (hmost : pb.player.config.playback.maxRepeats = none) {limit : Nat}
    (hlimit : TimerQueue.horizon ≤ (limit + 1) * pb.player.config.playback.shortestDelay) :
    ¬ (pb'.drain limit).playback.timers.InRange := by
  obtain ⟨hfired, run, actors, s, token, hplays, -⟩ :=
    around_drain_of_endless hstarts hqueue hturn hmost limit
  have hclocked := clocked_drain limit (hstarts.clocked hqueue)
  rw [hfired] at hclocked
  exact hclocked.not_inRange hplays.isRunning_eq (Nat.le_trans hlimit (Nat.le_add_left _ _))

omit [Display σ] in
/-- What is in range after at most `limit` timers.  Each sum of a hold and a delay is.  The clock and the
timers are, as long as the longest delays up to the next timer do not add up to the horizon, and so they are
for up to 499 timers, whatever the delays are.  The number of repeat runs is for twice 2^32 timers, and
always if there is a cap. -/
structure Ranged (config : Config) (limit : Nat) (pb : Playback σ) : Prop where
  hold_add_lt : ∀ s : Snapshot,
    pb.player.hold s + config.playback.stepDelay.toNat < TimerQueue.horizon ∧
    pb.player.hold s + config.playback.repeatDelay.toNat < TimerQueue.horizon
  inRange : (limit + 1) * config.playback.longestDelay < TimerQueue.horizon → pb.timers.InRange
  inRange_of_lt : limit < 500 → pb.timers.InRange
  repeats_lt : limit < 2 * UInt32.size ∨ config.playback.maxRepeats.isSome →
    pb.player.repeats < UInt32.size

omit [Display σ] in
theorem Clocked.ranged {config : Config} {limit : Nat} (h : pb.Clocked config.playback 0 n)
    (hpaced : pb.player.Paced n 0) (hle : n ≤ limit) : pb.Ranged config limit := by
  have hinRange (hlt : (limit + 1) * config.playback.longestDelay < TimerQueue.horizon) :
      pb.timers.InRange := by
    refine h.inRange ?_
    rw [Nat.zero_add]
    exact Nat.lt_of_le_of_lt (Nat.mul_le_mul_right _ (Nat.succ_le_succ hle)) hlt
  refine ⟨fun s => ?_, hinRange, fun hlimit => hinRange (config.playback.mul_longestDelay_lt hlimit), ?_⟩
  · have hhold := pb.player.hold_le s
    rw [h.config_eq] at hhold
    have hmost := config.playback.longestHold_le
    have hstep := config.playback.stepDelay.toNat_lt_size
    have hrepeat := config.playback.repeatDelay.toNat_lt_size
    have hsum : 2 * (UInt64.size - 1) < TimerQueue.horizon := by decide
    omega
  · rintro (hlimit | hcap)
    · have hpace := hpaced.le_fired
      omega
    · obtain ⟨most, hmost⟩ := Option.isSome_iff_exists.mp hcap
      have hle := hpaced.le_cap most (h.config_eq ▸ hmost)
      exact Nat.lt_of_le_of_lt hle most.toNat_lt_size

/-- A player that has played nothing is in range. -/
theorem ranged_drain_of_idle (pb : Playback σ) (hidle : pb.player.isRunning = false)
    (hqueue : pb.timers.pending = []) (hnow : pb.timers.now = 0) (hrepeats : pb.player.repeats = 0)
    (limit : Nat) : (pb.drain limit).playback.Ranged pb.player.config limit := by
  have hclocked : pb.Clocked pb.player.config.playback 0 0 :=
    ⟨rfl, by omega, by omega, 0, Nat.zero_le _, .idle hidle hqueue⟩
  have hpaced : pb.player.Paced 0 0 := ⟨by omega, fun most _ => by omega⟩
  rw [drain_eq_flush hidle]
  exact (Observed.clocked_flush (o := { playback := pb }) hclocked).ranged ⟨hpaced.le_fired, hpaced.le_cap⟩
    (Nat.zero_le limit)

/-- **Which playbacks stay in range.**  A new player starts a flow on a new clock, and its timers are fired
without waiting.  Whatever is played, the first timers are in range.  Where nothing ends the playback, time
leaves its range when the shortest delays add up to the horizon, and the number of repeat runs leaves its
range after so many times around. -/
theorem inRange_drain (registry : Registry) (config : Config) (source : RandomSource) (display : σ)
    (flow : Flow) :
    let pb : Playback σ := { player := { registry, config, source }, display }
    ∃ outcome pb', pb.play flow = .ok (outcome, pb') ∧ ∀ limit,
      (pb'.drain limit).playback.Ranged config limit ∧
      ∀ k set, (pb.compile flow).1.TurnsAt k set → config.playback.maxRepeats = none →
        (TimerQueue.horizon ≤ (limit + 1) * config.playback.shortestDelay →
          ¬ (pb'.drain limit).playback.timers.InRange) ∧
        (UInt32.size * (k + 1) ≤ limit → UInt32.size ≤ (pb'.drain limit).playback.player.repeats) := by
  intro pb
  rcases hne : (pb.compile flow).1.isEmpty with _ | _
  · obtain ⟨pb', hplay, hstarts⟩ : ∃ pb', pb.play flow = .ok (.started, pb') ∧ pb.Starts flow pb' :=
      exists_starts rfl hne
    refine ⟨.started, pb', hplay, fun limit => ⟨?_, fun k set hturn hmost => ⟨?_, ?_⟩⟩⟩
    · exact (clocked_drain limit (hstarts.clocked rfl)).ranged (paced_drain hstarts rfl limit)
        (pb'.drain_fired_le limit)
    · exact not_inRange_of_endless hstarts rfl hturn hmost
    · exact le_repeats_of_endless hstarts rfl hturn hmost
  · have hplay : pb.play flow = .ok (.empty, (pb.compile flow).2) := play_of_isEmpty rfl hne
    refine ⟨.empty, _, hplay, fun limit => ⟨?_, fun k set hturn => ?_⟩⟩
    · exact ranged_drain_of_idle (pb.compile flow).2 rfl rfl rfl rfl limit
    · -- what goes around has something to play
      obtain ⟨s, hs, -⟩ := hturn.trigger
      have hpos := Nat.lt_of_le_of_lt (Nat.zero_le k) (StepTable.lt_size_iff.mpr ⟨s, hs⟩)
      exact absurd ((StepTable.isEmpty_eq_false_iff.mpr hpos).symm.trans hne) Bool.false_ne_true

end Playback

/-! ### Samples -/

namespace Sample

/-- A new player with the given timing and no cap. -/
def timed (playback : PlaybackConfig) : Playback Stage :=
  { player := { registry, config := { playback }, source := .scripted [] }, display := stage }

/-- The longest delays that a configuration can name. -/
def slow : Playback Stage :=
  timed { stepDelay := 18446744073709551615, repeatDelay := 18446744073709551615 }

/-- The default delays, and messages are not waited for. -/
def brisk : Playback Stage := timed { holdForMessages := false }

/-- The sample is gone around in three timers: its second step sends the first actor back. -/
theorem turnsAt_timed (playback : PlaybackConfig) :
    ((timed playback).compile flow).1.TurnsAt 2 (.ofKeys [⟨"a"⟩]) := by
  refine ⟨⟨_, rfl, rfl⟩, rfl, ?_⟩
  rintro (_ | _ | j) s hj hs
  · cases hs
    rfl
  · cases hs
    rfl
  · omega

end Sample

/-- Nothing is wrong with the configurations of the samples, but one of the two leaves the range of the
clock, for after a thousand timers the next one is due beyond the horizon, and the other, whose clock lasts,
the range of the number of repeat runs. -/
theorem Playback.not_inRange_slow :
    (Sample.slow.player.config.validate = .ok () ∧ Sample.slow.timers = .empty ∧
      ∃ pb', Sample.slow.play Sample.flow = .ok (.started, pb') ∧
        ¬ (pb'.drain 1000).playback.timers.InRange) ∧
    Sample.brisk.player.config.validate = .ok () ∧ Sample.brisk.timers = .empty ∧
      ∃ pb', Sample.brisk.play Sample.flow = .ok (.started, pb') ∧
        (pb'.drain (3 * UInt32.size)).playback.timers.InRange ∧
        UInt32.size ≤ (pb'.drain (3 * UInt32.size)).playback.player.repeats := by
  obtain ⟨slow', hslow, hslowly⟩ : ∃ pb', Sample.slow.play Sample.flow = .ok (.started, pb') ∧
      Sample.slow.Starts Sample.flow pb' := exists_starts rfl rfl
  obtain ⟨brisk', hbrisk, hbriskly⟩ : ∃ pb', Sample.brisk.play Sample.flow = .ok (.started, pb') ∧
      Sample.brisk.Starts Sample.flow pb' := exists_starts rfl rfl
  have hranged : (brisk'.drain (3 * UInt32.size)).playback.Ranged Sample.brisk.player.config _ :=
    (clocked_drain _ (hbriskly.clocked rfl)).ranged (paced_drain hbriskly rfl _) (brisk'.drain_fired_le _)
  refine ⟨⟨by decide +kernel, rfl, slow', hslow, ?_⟩, by decide +kernel, rfl, brisk', hbrisk, ?_, ?_⟩
  · exact not_inRange_of_endless hslowly rfl (Sample.turnsAt_timed _) rfl (by decide)
  · exact hranged.inRange (by decide)
  · exact le_repeats_of_endless hbriskly rfl (Sample.turnsAt_timed _) rfl (by decide)

end Marionette

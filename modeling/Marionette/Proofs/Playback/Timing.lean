import Marionette.Proofs.Playback.Drain
import Mathlib.Algebra.GroupWithZero.Nat

/-!
# When things happen

Nothing happens on the clock but what was set for then.  So the times of the events can be computed from the
events alone: every step comes one step delay after the one before it, and later by as long as the messages
of that one ask for; every repeat run comes one repeat delay after the step that asked for it, and later by
its messages; and everything else happens at once.  The snapshots that runs begin with are not held.

## Main definitions

* `longestMessage` — how long the messages on the display ask to stay up.
* `PlaybackConfig.wait`, `PlaybackConfig.holdAfter` — the time that passes before an event, and how long the
  display is held after it.
* `PlaybackConfig.waits`, `PlaybackConfig.times` — the same for the events of a play.
* `Playback.DueIn` — the pending timer is set for when the next event comes.
* `Playback.OnTime` — a play has told its events at their times.

## Main results

* `Playback.exists_news` — a wakeup tells of one time, and sets the timer for the next.
* `Observed.onTime_drainFrom`, `Playback.times_drains` — draining tells every event at its time.
-/

namespace Marionette

/-! ### The law -/

/-- The longest time that a message on the display asks for, in milliseconds.  A message may ask for none. -/
def longestMessage (states : StateMap) : Nat :=
  ((states.values.filter (·.message.isSome)).map fun a => (a.messageDuration.getD 0).toNat).foldr max 0

namespace PlaybackConfig

/-- The time that passes before an event, where the display is held for `hold` after the event before it. -/
def wait (c : PlaybackConfig) (hold : Nat) : Event → Nat
  | .stepApplied _ 0 _ _ _ => 0
  | .stepApplied _ (_ + 1) _ _ _ => hold + c.stepDelay.toNat
  | .repeatStarted _ _ _ => hold + c.repeatDelay.toNat
  | .started _ | .repeatScheduled _ _ | .finished | .stopped => 0

/-- How long the display is held after an event, where it was held for `hold` after the one before it. -/
def holdAfter (c : PlaybackConfig) (hold : Nat) : Event → Nat
  | .stepApplied _ (_ + 1) _ states _ => if c.holdForMessages then longestMessage states else 0
  | .repeatScheduled _ _ => hold
  | .stepApplied _ 0 _ _ _ | .started _ | .repeatStarted _ _ _ | .finished | .stopped => 0

/-- The times that pass before events, one for each. -/
def waits (c : PlaybackConfig) (hold : Nat) : List Event → List Nat
  | [] => []
  | e :: es => c.wait hold e :: c.waits (c.holdAfter hold e) es

/-- Events at their times, when the clock stands at `now`. -/
def times (c : PlaybackConfig) (now hold : Nat) : List Event → List Sighting
  | [] => []
  | e :: es =>
    ⟨now + c.wait hold e, e⟩ :: c.times (now + c.wait hold e) (c.holdAfter hold e) es

variable (c : PlaybackConfig)

theorem sum_waits_append (hold : Nat) (es es' : List Event) :
    (c.waits hold (es ++ es')).sum =
      (c.waits hold es).sum + (c.waits (es.foldl c.holdAfter hold) es').sum := by
  induction es generalizing hold with
  | nil => simp [waits]
  | cons e es ih => simp [waits, ih, Nat.add_assoc]

theorem times_append (now hold : Nat) (es es' : List Event) :
    c.times now hold (es ++ es') = c.times now hold es ++
      c.times (now + (c.waits hold es).sum) (es.foldl c.holdAfter hold) es' := by
  induction es generalizing now hold with
  | nil => simp [waits, times]
  | cons e es ih => simp [waits, times, ih, Nat.add_assoc]

end PlaybackConfig

theorem foldr_max_messageHold (states : List ActorState) :
    (states.map fun a => a.messageHold.toNat).foldr max 0 =
      ((states.filter (·.message.isSome)).map fun a => (a.messageDuration.getD 0).toNat).foldr max 0 := by
  induction states with
  | nil => rfl
  | cons a states ih =>
    rw [List.map_cons, List.foldr_cons, ih]
    rcases hmessage : a.message with _ | text
    · rw [List.filter_cons_of_neg (by simp [hmessage]), ActorState.messageHold, hmessage]
      exact Nat.zero_max _
    · rw [List.filter_cons_of_pos (by simp [hmessage]), ActorState.messageHold, hmessage]
      rfl

/-- A player holds a snapshot for as long as its longest message asks, if it is to hold at all. -/
theorem Player.hold_eq (p : Player) (s : Snapshot) :
    p.hold s = if p.config.playback.holdForMessages then longestMessage s.states else 0 := by
  rw [hold, Snapshot.hold, foldr_max_messageHold]
  rfl

/-! ### One wakeup -/

namespace Playback

variable {σ : Type} [Display σ] {pb pb' : Playback σ} {run : Run} {actors : List ActorId} {s : Snapshot}
  {token : TimerToken}

omit [Display σ] in
/-- The time until the timer of a player that waits at a snapshot, when the display is held for `hold`. -/
def timeLeft (pb : Playback σ) (hold : Nat) (s : Snapshot) : Nat :=
  hold + if s.repeaters.isEmpty then pb.player.stepDelay else pb.player.repeatDelay

/-- No timer waits but the pending one, and that is set for when the display was held for `hold` and one
delay has passed. -/
inductive DueIn (pb : Playback σ) (hold : Nat) : Prop
  | idle (hidle : pb.player.isRunning = false) (hqueue : pb.timers.pending = [])
  | plays (run : Run) (actors : List ActorId) (s : Snapshot) (token : TimerToken)
      (hplays : pb.player.PlaysAt run actors s token)
      (hqueue : pb.timers.pending = [⟨pb.timers.now + pb.timeLeft hold s, token, s.wakeup⟩])

omit [Display σ] in
/-- When the player's timer is due does not depend on what it has noted. -/
theorem DueIn.of_log {hold : Nat} (h : pb.DueIn hold) (log : List Event) :
    { pb with player := { pb.player with log } : Playback σ }.DueIn hold := by
  cases h with
  | idle hidle hqueue => exact .idle hidle hqueue
  | plays run actors s token hplays hqueue =>
    exact .plays run actors s token ⟨hplays.status_eq, hplays.run_eq, hplays.pending_eq, hplays.fits,
      hplays.snapshot_eq, hplays.step_lt⟩ hqueue

/-- What a wakeup or a start tells: the first event after `span`, and all others at once. -/
structure News (pb pb' : Playback σ) (hold span : Nat) (news : List Event) : Prop where
  log_eq : pb'.player.log = pb.player.log ++ news
  config_eq : pb'.player.config = pb.player.config
  now_eq : pb'.timers.now = pb.timers.now
  sum_eq : (pb.player.config.playback.waits hold news).sum = span
  times_eq : ∀ now, pb.player.config.playback.times now hold news = news.map (Sighting.mk (now + span))
  dueIn : pb'.DueIn (news.foldl pb.player.config.playback.holdAfter hold)

omit [Display σ] in
/-- In an empty queue there is no earlier timer to take out. -/
theorem timers_arm_of_isEmpty (pb : Playback σ) (hqueue : pb.timers.pending = []) (wakeup : Wakeup)
    (delay : Nat) : (pb.arm wakeup delay).timers = (pb.timers.schedule wakeup delay).2 := by
  have hcancel : ∀ (timers : TimerQueue) old, timers.pending = [] → timers.cancel old = timers := by
    rintro ⟨now, issued, _, ordered, hlt⟩ old rfl
    rfl
  rcases hpending : pb.player.pending? with _ | ⟨old, _⟩
  · exact timers_arm pb hpending _ _
  · simp [arm, disarm, hpending, hcancel _ old hqueue]

omit [Display σ] in
/-- A player that sets its timer where no other waits is due when the delay has passed. -/
theorem dueIn_of_schedule {timers : TimerQueue} (hqueue : timers.pending = []) {delay hold : Nat}
    (htimers : pb.timers = (timers.schedule s.wakeup delay).2)
    (hplays : pb.player.PlaysAt run actors s timers.nextToken) (hdelay : delay = pb.timeLeft hold s) :
    pb.DueIn hold := by
  refine .plays run actors s _ hplays ?_
  rw [htimers, ← hdelay]
  show TimerQueue.place _ timers.pending = _
  rw [hqueue]
  rfl

/-- **A wakeup tells of one time, and sets the timer for the next.** -/
theorem exists_news (hwoken : Woken pb run actors s pb') (hqueue : pb.timers.pending = [])
    (hold : Nat) : ∃ news, News pb pb' hold (pb.timeLeft hold s) news := by
  cases hwoken with
  | moved s' hs hs' heq hplays' =>
    refine ⟨[.stepApplied pb.player.repeats run.next.step run.last s'.states s'.repeaters], ?_⟩
    rw [timeLeft, hs]
    rw [← s'.wakeup_eq_advance_iff.mpr hs'] at heq
    have htimers := (congrArg Playback.timers heq).trans (timers_arm (pb.shown run s') rfl _ _)
    refine ⟨by rw [heq]; rfl, by rw [heq]; rfl, by rw [htimers]; rfl, rfl, fun _ => rfl,
      dueIn_of_schedule hqueue htimers hplays' ?_⟩
    rw [timeLeft, hs', pb.player.hold_eq, heq]
    rfl
  | asked s' hs hs' hcap heq hplays' =>
    refine ⟨[.stepApplied pb.player.repeats run.next.step run.last s'.states s'.repeaters,
      .repeatScheduled s'.repeaters (.ofNat (pb.player.hold s' + pb.player.repeatDelay))], ?_⟩
    rw [timeLeft, hs]
    rw [← s'.wakeup_eq_restart_iff.mpr hs'] at heq
    have htimers := (congrArg Playback.timers heq).trans (timers_arm ((pb.shown run s').note _) rfl _ _)
    refine ⟨?_, by rw [heq]; rfl, by rw [htimers]; rfl, rfl, fun _ => rfl,
      dueIn_of_schedule hqueue htimers hplays' ?_⟩
    · rw [heq]
      exact List.append_assoc _ _ _
    · rw [timeLeft, hs', pb.player.hold_eq, heq]
      rfl
  | ended s' hs hsnap hend heq hrests =>
    refine ⟨[.stepApplied pb.player.repeats run.next.step run.last s'.states s'.repeaters, .finished], ?_⟩
    rw [timeLeft, hs]
    refine ⟨?_, by rw [heq]; rfl, by rw [heq]; rfl, rfl, fun _ => rfl,
      .idle hrests.isRunning_eq ?_⟩
    · rw [heq]
      exact List.append_assoc _ _ _
    · rw [heq]
      exact hqueue
  | repeated out first hs hout heq hplays' =>
    refine ⟨[.repeatStarted (pb.player.repeats + 1) s.repeaters out.1.size], ?_⟩
    rw [timeLeft, hs]
    -- what a run begins with repeats nobody
    have hempty := hplays'.fits.repeaters_zero hplays'.snapshot_eq
    have htimers := congrArg Playback.timers heq
    rw [restarted, ← first.wakeup_eq_advance_iff.mpr hempty] at htimers
    refine ⟨by rw [heq]; rfl, by rw [heq]; rfl, by rw [heq]; rfl, rfl, fun _ => rfl,
      dueIn_of_schedule hqueue htimers hplays' ?_⟩
    rw [timeLeft, hempty, heq]
    exact (Nat.zero_add _).symm

/-! ### A whole play -/

/-- A play that began at `start` has told `es`, all at their times.  Before it, an observer was told `past`.
What is still in the log is told now. -/
structure OnTime (c : PlaybackConfig) (past : List Sighting) (start : Nat) (es : List Event)
    (told : List Sighting) (pb : Playback σ) : Prop where
  config_eq : pb.player.config.playback = c
  now_eq : pb.timers.now = start + (c.waits 0 es).sum
  told_eq : told ++ pb.player.log.map (Sighting.mk pb.timers.now) = past ++ c.times start 0 es
  dueIn : pb.DueIn (es.foldl c.holdAfter 0)

variable {c : PlaybackConfig} {past told : List Sighting} {start : Nat} {es : List Event}

/-- A flow that starts tells two events, and both at once. -/
theorem onTime_start {flow : Flow} (hstarts : pb.Starts flow pb') (hqueue : pb.timers.pending = []) :
    ∃ steps last states repeaters, pb'.OnTime pb.player.config.playback
      (pb.player.log.map (Sighting.mk pb.timers.now)) pb.timers.now
      [.started steps, .stepApplied 0 0 last states repeaters] [] := by
  obtain ⟨first, hstart, hplays⟩ := hstarts.exists_playsAt
  have hempty := hplays.fits.repeaters_zero hplays.snapshot_eq
  rw [← first.wakeup_eq_advance_iff.mpr hempty] at hstart
  have htimers := (congrArg Playback.timers hstart).trans
    (timers_arm_of_isEmpty ((pb.compile flow).2.begun flow _ first) hqueue _ _)
  refine ⟨(pb.compile flow).1.size, (pb.compile flow).1.last, first.states, first.repeaters,
    by rw [hstart]; rfl, by rw [htimers]; rfl, ?_, ?_⟩
  · rw [htimers, hstart]
    change List.map _ ((pb.player.log ++ [_]) ++ [_]) = _
    rw [List.append_assoc, List.map_append]
    rfl
  · refine dueIn_of_schedule hqueue htimers hplays ?_
    rw [timeLeft, hempty, hstart]
    exact (Nat.zero_add _).symm

/-- A player that is due tells the next events at their time. -/
theorem OnTime.woken (h : pb.OnTime c past start es told) (hlog : pb.player.log = [])
    {timers : TimerQueue} (hqueue : timers.pending = [])
    (hnow : timers.now = pb.timers.now + pb.timeLeft (es.foldl c.holdAfter 0) s)
    (hwoken : Woken { pb with timers } run actors s pb') :
    ∃ news, pb'.OnTime c past start (es ++ news) told := by
  obtain ⟨news, hnews⟩ := exists_news hwoken hqueue (es.foldl c.holdAfter 0)
  have hconfig : ({ pb with timers } : Playback σ).player.config.playback = c := h.config_eq
  have hsum := hnews.sum_eq
  have htimes := hnews.times_eq (start + (c.waits 0 es).sum)
  rw [hconfig] at hsum htimes
  have htold : told = past ++ c.times start 0 es := by
    have := h.told_eq
    rwa [hlog, List.map_nil, List.append_nil] at this
  have hnow' : pb'.timers.now = start + (c.waits 0 es).sum + pb.timeLeft (es.foldl c.holdAfter 0) s := by
    rw [hnews.now_eq, ← h.now_eq]
    exact hnow
  refine ⟨news, hnews.config_eq ▸ h.config_eq, ?_, ?_, ?_⟩
  · rw [hnow', PlaybackConfig.sum_waits_append, hsum, Nat.add_assoc]
    rfl
  · rw [PlaybackConfig.times_append, htimes, ← List.append_assoc, ← htold, hnews.log_eq, hnow']
    rw [show ({ pb with timers } : Playback σ).player.log = [] from hlog, List.nil_append]
    rfl
  · have := hnews.dueIn
    rwa [hconfig, ← List.foldl_append] at this

end Playback

namespace Observed

variable {σ : Type} [Display σ] {o : Observed σ} {c : PlaybackConfig} {past told : List Sighting}
  {start : Nat} {es : List Event}

omit [Display σ] in
/-- What is told late is told at the same time, as long as the clock stands. -/
theorem onTime_flush (h : o.playback.OnTime c past start es (told ++ o.seen.toList)) :
    o.flush.playback.OnTime c past start es (told ++ o.flush.seen.toList) := by
  refine ⟨h.config_eq, h.now_eq, ?_, h.dueIn.of_log []⟩
  rw [← h.told_eq]
  simp [flush, Playback.takeEvents, Player.takeEvents]

/-- The timer that a player is due for tells the next events at their time. -/
theorem onTime_fire (h : o.playback.OnTime c past start es (told ++ o.seen.toList))
    (hlog : o.playback.player.log = []) {run : Run} {actors : List ActorId} {s : Snapshot} {t : Timer}
    (hplays : o.playback.player.PlaysAt run actors s t.token) {timers : TimerQueue}
    (hqueue : timers.pending = [])
    (hnow : timers.now = o.playback.timers.now + o.playback.timeLeft (es.foldl c.holdAfter 0) s) :
    ∃ news, (o.fire t timers).playback.OnTime c past start (es ++ news)
      (told ++ (o.fire t timers).seen.toList) := by
  have hplays' : ({ o.playback with timers } : Playback σ).player.PlaysAt run actors s t.token := hplays
  obtain ⟨news, hnews⟩ := h.woken hlog hqueue hnow (Playback.woken_of_playsAt hplays')
  exact ⟨news, onTime_flush hnews⟩

/-- **Draining keeps to the times.** -/
theorem onTime_drainFrom (room : Nat) (h : o.playback.OnTime c past start es (told ++ o.seen.toList))
    (hlog : o.playback.player.log = []) :
    ∃ news, (drainFrom room o).playback.OnTime c past start (es ++ news)
      (told ++ (drainFrom room o).seen.toList) := by
  induction room generalizing o es with
  | zero => exact ⟨[], (List.append_nil es).symm ▸ h⟩
  | succ room ih =>
    cases h.dueIn with
    | idle hidle hqueue =>
      rw [drainFrom_of_isEmpty _ hqueue]
      exact ⟨[], (List.append_nil es).symm ▸ h⟩
    | plays run actors s token hplays hqueue =>
      obtain ⟨timers, hpopped, hnow, hfire⟩ := exists_drainFrom_succ hplays.isRunning_eq hqueue
      rw [Nat.max_eq_right (Nat.le_add_right _ _)] at hnow
      obtain ⟨news, hnews⟩ := onTime_fire (t := ⟨_, token, s.wakeup⟩) h hlog hplays hpopped hnow
      obtain ⟨news', hnews'⟩ := ih hnews rfl
      rw [hfire]
      exact ⟨news ++ news', List.append_assoc es news news' ▸ hnews'⟩

end Observed

namespace Playback

variable {σ : Type} [Display σ] {pb pb' : Playback σ} {flow : Flow} {c : PlaybackConfig}
  {past told : List Sighting} {start : Nat} {es : List Event}

theorem onTime_drain (limit : Nat) (h : pb.OnTime c past start es told) :
    ∃ news, (pb.drain limit).playback.OnTime c past start (es ++ news)
      (told ++ (pb.drain limit).seen.toList) := by
  have hflush : (Observed.flush { playback := pb }).playback.OnTime c past start es
      (told ++ (Observed.flush { playback := pb }).seen.toList) := by
    apply Observed.onTime_flush
    rwa [List.append_nil]
  rw [drain]
  split
  · exact Observed.onTime_drainFrom limit hflush rfl
  · exact ⟨[], (List.append_nil es).symm ▸ hflush⟩

/-- Drain several times, with an allowance each.  What the observer is told is collected. -/
def drains (pb : Playback σ) : List Nat → List Sighting × Playback σ
  | [] => ([], pb)
  | limit :: limits =>
    let o := pb.drain limit
    let (seen, pb') := o.playback.drains limits
    (o.seen.toList ++ seen, pb')

theorem onTime_drains (limits : List Nat) (h : pb.OnTime c past start es told) :
    ∃ news, (pb.drains limits).2.OnTime c past start (es ++ news) (told ++ (pb.drains limits).1) := by
  induction limits generalizing pb es told with
  | nil =>
    refine ⟨[], ?_⟩
    rw [drains, List.append_nil, List.append_nil]
    exact h
  | cons limit limits ih =>
    obtain ⟨news, hnews⟩ := onTime_drain limit h
    obtain ⟨news', hnews'⟩ := ih hnews
    refine ⟨news ++ news', ?_⟩
    rw [drains, ← List.append_assoc, ← List.append_assoc]
    exact hnews'

theorem log_drains (limits : List Nat) (h : pb.player.log = []) :
    (pb.drains limits).2.player.log = [] := by
  induction limits generalizing pb with
  | nil => exact h
  | cons limit limits ih => exact ih (log_drain pb limit)

/-- **Every event has its time.**  Start a flow where no timer waits and drain as often as you like.  The
times at which the observer is told are those that the events say, and so is what the clock shows in the
end. -/
theorem times_drains (pb : Playback σ) (flow : Flow) (hidle : pb.player.isRunning = false)
    (hqueue : pb.timers.pending = []) :
    ∃ outcome pb', pb.play flow = .ok (outcome, pb') ∧ ∀ limit limits,
      ∃ es, (pb'.drains (limit :: limits)).1 = pb.player.log.map (Sighting.mk pb.timers.now) ++
          pb.player.config.playback.times pb.timers.now 0 es ∧
        (pb'.drains (limit :: limits)).2.timers.now =
          pb.timers.now + (pb.player.config.playback.waits 0 es).sum ∧
        (outcome = .started → ∃ steps last states repeaters,
          [.started steps, .stepApplied 0 0 last states repeaters] <+: es) := by
  have hdrained : ∀ {pb' : Playback σ} {es : List Event},
      pb'.OnTime pb.player.config.playback (pb.player.log.map (Sighting.mk pb.timers.now))
        pb.timers.now es [] →
      ∀ limit limits, ∃ news, (pb'.drains (limit :: limits)).1 =
          pb.player.log.map (Sighting.mk pb.timers.now) ++
            pb.player.config.playback.times pb.timers.now 0 (es ++ news) ∧
        (pb'.drains (limit :: limits)).2.timers.now =
          pb.timers.now + (pb.player.config.playback.waits 0 (es ++ news)).sum := by
    intro pb' es h limit limits
    obtain ⟨news, hnews⟩ := onTime_drains (limit :: limits) h
    have htold := hnews.told_eq
    rw [show (pb'.drains (limit :: limits)).2.player.log = [] from log_drains limits (log_drain pb' limit),
      List.map_nil, List.append_nil, List.nil_append] at htold
    exact ⟨news, htold, hnews.now_eq⟩
  rcases hne : (pb.compile flow).1.isEmpty with _ | _
  · obtain ⟨pb', hplay, hstarts⟩ := exists_starts hidle hne
    obtain ⟨steps, last, states, repeaters, h⟩ := onTime_start hstarts hqueue
    refine ⟨.started, pb', hplay, ?_⟩
    intro limit limits
    obtain ⟨news, hseen, hnow⟩ := hdrained h limit limits
    exact ⟨_, hseen, hnow, fun _ => ⟨steps, last, states, repeaters, List.prefix_append _ news⟩⟩
  · have h : (pb.compile flow).2.OnTime pb.player.config.playback
        (pb.player.log.map (Sighting.mk pb.timers.now)) pb.timers.now [] [] :=
      ⟨rfl, rfl, (List.append_nil _).symm, .idle hidle hqueue⟩
    refine ⟨.empty, _, play_of_isEmpty hidle hne, ?_⟩
    intro limit limits
    obtain ⟨news, hseen, hnow⟩ := hdrained h limit limits
    exact ⟨_, hseen, hnow, fun hstarted => nomatch hstarted⟩

/-- The sample takes two steps, waits for its repeat run, and takes two steps again. -/
theorem times_drains_sample :
    let pb := Sample.idle (some 1)
    pb.player.isRunning = false ∧ pb.timers.pending = [] ∧
      ∃ pb' es, pb.play Sample.flow = .ok (.started, pb') ∧
        (pb'.drains [3, 2]).1 = pb.player.config.playback.times 0 0 es ∧
        (pb.player.config.playback.waits 0 es).sum = 2 * 500 + 800 + 2 * 500 := by
  obtain ⟨outcome, pb', hplay, h⟩ := times_drains (Sample.idle (some 1)) Sample.flow rfl rfl
  obtain ⟨es, hseen, hnow, -⟩ := h 3 [2]
  have hstarted : (Sample.idle (some 1)).play Sample.flow = .ok (.started, _) := rfl
  rw [hstarted] at hplay
  cases hplay
  refine ⟨rfl, rfl, _, es, hstarted, hseen, ?_⟩
  rw [show (Sample.idle (some 1)).timers.now = 0 from rfl, Nat.zero_add] at hnow
  exact hnow.symm.trans rfl

end Playback

end Marionette

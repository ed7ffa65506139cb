import Marionette.Playback.Realtime
import Marionette.Proofs.Playback.Laps

/-!
# At one instant

All timers that are due are fired before anybody else has a say.  A timer of others is fired once.  The
player's own may set the next one for the same instant, and so it is a question whether firing ever comes to
an end.  It does if anything makes the player wait or stop: a delay, the cap, or a run without a step that
sends actors back.  Where nothing does, and messages do not hold the display either, it never ends.

## Main definitions

* `Playback.Settles` — firing what is due comes to an end.
* `Playback.Spins` — the player's timer is due, and neither a delay nor the cap will stop it.

## Main results

* `Playback.settles_of_own` — only the player's own timer can keep firing from its end.
* `Playback.fireDue?_eq_none` — a player that spins is never done.
* `Playback.settles_unless_spins` — when firing comes to an end and when it does not.
-/

namespace Marionette

namespace Playback

variable {σ : Type} [Display σ] {pb pb' : Playback σ} {run : Run} {actors : List ActorId} {s : Snapshot}
  {token : TimerToken}

/-! ### Timers of others -/

/-- Firing what is due comes to an end. -/
def Settles (pb : Playback σ) : Prop := ∃ fuel pb', pb.fireDue? fuel = some pb'

theorem settles_of_popDue?_eq_none (h : pb.timers.popDue? = none) : pb.Settles :=
  ⟨1, pb, by rw [fireDue?, h]⟩

theorem settles_of_popDue? {t : Timer} {timers : TimerQueue} (h : pb.timers.popDue? = some (t, timers))
    (hrest : (onTimer { pb with timers } t.token).2.Settles) : pb.Settles := by
  obtain ⟨fuel, pb', hfire⟩ := hrest
  refine ⟨fuel + 1, pb', ?_⟩
  rw [fireDue?, h]
  exact hfire

/-- **Only the player's own timer can keep firing from its end.** -/
theorem settles_of_own (h : ∀ t ∈ pb.timers.pending, pb.player.pendingToken? = some t.token →
    t.due ≤ pb.timers.now → ∀ timers, (onTimer { pb with timers } t.token).2.Settles) : pb.Settles := by
  induction hn : pb.timers.pending.length generalizing pb with
  | zero =>
    refine settles_of_popDue?_eq_none (TimerQueue.popDue?_eq_none_iff.mpr ?_)
    simp [List.length_eq_zero_iff.mp hn]
  | succ n ih =>
    rcases hpop : pb.timers.popDue? with _ | ⟨t, timers⟩
    · exact settles_of_popDue?_eq_none hpop
    · obtain ⟨hdue, hpending, -⟩ := TimerQueue.le_of_popDue? hpop
      have hnow := (TimerQueue.now_of_popDue? hpop).1
      refine settles_of_popDue? hpop ?_
      by_cases hown : pb.player.pendingToken? = some t.token
      · exact h t (hpending ▸ List.mem_cons_self) hown hdue timers
      · rw [onTimer_of_ne { pb with timers } hown]
        refine ih ?_ ?_
        · intro u hu hown' hdue'
          exact h u (hpending ▸ List.mem_cons_of_mem t hu) hown' (hnow ▸ hdue')
        · rw [hpending, List.length_cons] at hn
          exact Nat.succ.inj hn

omit [Display σ] in
/-- The player's timer does not fire before `delay` has passed. -/
def Sleeps (pb : Playback σ) (delay : Nat) : Prop :=
  ∀ t ∈ pb.timers.pending, pb.player.pendingToken? = some t.token → pb.timers.now + delay ≤ t.due

theorem settles_of_sleeps {delay : Nat} (h : pb.Sleeps delay) (hdelay : delay ≠ 0) : pb.Settles := by
  refine settles_of_own ?_
  intro t ht hown hdue timers
  have := h t ht hown
  omega

theorem settles_of_rests (h : pb.player.Rests) : pb.Settles := by
  refine settles_of_own ?_
  intro t ht hown hdue timers
  rw [Player.pendingToken?, h.pending_eq] at hown
  cases hown

/-- What the own timer of a player leads to decides whether firing comes to an end. -/
theorem settles_of_woken (hplays : pb.player.PlaysAt run actors s token)
    (h : ∀ (timers : TimerQueue) pb', Woken { pb with timers } run actors s pb' → pb'.Settles) :
    pb.Settles := by
  refine settles_of_own ?_
  intro t ht hown hdue timers
  obtain rfl : token = t.token := by
    rw [Player.pendingToken?, hplays.pending_eq] at hown
    exact Option.some.inj hown
  have hplays' : ({ pb with timers } : Playback σ).player.PlaysAt run actors s t.token := hplays
  exact h timers _ (woken_of_playsAt hplays')

omit [Display σ] in
/-- A timer that was set after the others waits for its delay. -/
theorem sleeps_of_schedule {timers : TimerQueue} {wakeup : Wakeup} {span delay : Nat}
    (htimers : pb.timers = (timers.schedule wakeup span).2)
    (hown : pb.player.pendingToken? = some timers.nextToken) (hdelay : delay ≤ span) :
    pb.Sleeps delay := by
  intro t ht htoken
  rw [htimers, TimerQueue.mem_pending_schedule] at ht
  rw [htimers]
  rcases ht with rfl | ht
  · exact Nat.add_le_add_left hdelay _
  · -- the tokens of the others were given out before
    have hlt := timers.token_lt t ht
    have heq : timers.nextToken = t.token := Option.some.inj (hown.symm.trans htoken)
    rw [← heq] at hlt
    exact absurd hlt (Nat.lt_irrefl _)

/-! ### Steps and repeat runs -/

/-- Later in `run`, `pb'` has come to snapshot `s'`, which asks for a repeat run and may have it. -/
structure Asks (pb : Playback σ) (run : Run) (actors : List ActorId) (pb' : Playback σ) (run' : Run)
    (s' : Snapshot) (token' : TimerToken) : Prop where
  playsAt : pb'.player.PlaysAt run' actors s' token'
  isEmpty_eq : s'.repeaters.isEmpty = false
  table_eq : run'.table = run.table
  step_le : run.step ≤ run'.step
  config_eq : pb'.player.config = pb.player.config
  repeats_eq : pb'.player.repeats = pb.player.repeats
  isCapped_eq : pb'.player.isCapped = false
  sleeps : pb'.Sleeps pb.player.repeatDelay

/-- In `pb'` a repeat run of the player waits at its first snapshot. -/
structure Restarts (pb pb' : Playback σ) (run' : Run) (actors' : List ActorId) (s' : Snapshot)
    (token' : TimerToken) : Prop where
  playsAt : pb'.player.PlaysAt run' actors' s' token'
  isEmpty_eq : s'.repeaters.isEmpty = true
  config_eq : pb'.player.config = pb.player.config
  repeats_eq : pb'.player.repeats = pb.player.repeats + 1
  sleeps : pb'.Sleeps pb.player.stepDelay

/-- **A run comes to its end or asks for a repeat run**, even where no step takes any time. -/
theorem settles_of_isEmpty (hplays : pb.player.PlaysAt run actors s token)
    (hs : s.repeaters.isEmpty = true)
    (hask : ∀ pb' run' s' token', pb.Asks run actors pb' run' s' token' → pb'.Settles) : pb.Settles := by
  induction hn : run.last - run.step generalizing pb run s token with
  | zero =>
    have := hplays.step_lt hs
    omega
  | succ n ih =>
    refine settles_of_woken hplays ?_
    intro timers pb' hwoken
    cases hwoken with
    | moved s' _ hs' heq hplays' =>
      refine ih hplays' hs' ?_ ?_
      · intro pb'' run'' s'' token'' h
        refine hask pb'' run'' s'' token'' { h with
          step_le := Nat.le_trans (Nat.le_succ _) h.step_le
          config_eq := ?_
          repeats_eq := ?_
          sleeps := ?_ }
        · rw [h.config_eq, heq]
          rfl
        · rw [h.repeats_eq, heq]
          rfl
        · have := h.sleeps
          rw [heq] at this
          exact this
      · change run.last - (run.step + 1) = n
        omega
    | asked s' _ hs' hcap heq hplays' =>
      refine hask pb' run.next s' _
        { playsAt := hplays'
          isEmpty_eq := hs'
          table_eq := rfl
          step_le := Nat.le_succ _
          config_eq := by rw [heq]; rfl
          repeats_eq := by rw [heq]; rfl
          isCapped_eq := by rw [heq]; exact hcap
          sleeps := ?_ }
      have htimers := (congrArg Playback.timers heq).trans
        (timers_arm (note _ _) (show Player.pending? _ = none from rfl) _ _)
      exact sleeps_of_schedule htimers (congrArg (Option.map Prod.fst) hplays'.pending_eq)
        (Nat.le_add_left _ _)
    | ended s' _ hsnap hend heq hrests => exact settles_of_rests hrests
    | repeated out first hrep hout heq hplays' => exact absurd (hrep.symm.trans hs) Bool.false_ne_true

theorem settles_of_repeat (hplays : pb.player.PlaysAt run actors s token)
    (hs : s.repeaters.isEmpty = false)
    (hrestart : ∀ pb' run' actors' s' token', pb.Restarts pb' run' actors' s' token' → pb'.Settles) :
    pb.Settles := by
  refine settles_of_woken hplays ?_
  intro timers pb' hwoken
  cases hwoken with
  | moved s' hs' _ heq hplays' => exact absurd (hs.symm.trans hs') Bool.false_ne_true
  | asked s' hs' _ hcap heq hplays' => exact absurd (hs.symm.trans hs') Bool.false_ne_true
  | ended s' hs' hsnap hend heq hrests => exact absurd (hs.symm.trans hs') Bool.false_ne_true
  | repeated out first _ hout heq hplays' =>
    refine hrestart pb' _ _ first _
      { playsAt := hplays'
        isEmpty_eq := hplays'.fits.repeaters_zero hplays'.snapshot_eq
        config_eq := by rw [heq]; rfl
        repeats_eq := by rw [heq]; rfl
        sleeps := ?_ }
    have htimers : pb'.timers = (timers.schedule .advance pb.player.stepDelay).2 := by rw [heq]; rfl
    exact sleeps_of_schedule htimers (congrArg (Option.map Prod.fst) hplays'.pending_eq) (Nat.le_refl _)

/-- Where every run comes to an end, so does one that has yet to start over. -/
theorem settles_of_runs (hplays : pb.player.PlaysAt run actors s token)
    (hruns : ∀ (pb' : Playback σ) run' actors' s' token', pb'.player.PlaysAt run' actors' s' token' →
      s'.repeaters.isEmpty = true → pb'.player.config = pb.player.config → pb'.Settles) : pb.Settles := by
  rcases hs : s.repeaters.isEmpty with _ | _
  · refine settles_of_repeat hplays hs ?_
    intro pb' run' actors' s' token' h
    exact hruns pb' run' actors' s' token' h.playsAt h.isEmpty_eq h.config_eq
  · exact hruns pb run actors s token hplays hs rfl

/-! ### What makes a player wait or stop -/

/-- A delay before repeat runs lets no repeat run be asked for and started at one instant. -/
theorem settles_of_repeatDelay (hplays : pb.player.PlaysAt run actors s token)
    (hdelay : pb.player.repeatDelay ≠ 0) : pb.Settles := by
  refine settles_of_runs hplays ?_
  intro pb' run' actors' s' token' hplays' hs' hconfig
  refine settles_of_isEmpty hplays' hs' ?_
  intro pb'' run'' s'' token'' h
  refine settles_of_sleeps h.sleeps ?_
  rw [Player.repeatDelay, hconfig]
  exact hdelay

/-- A delay between steps lets no repeat run go on at the instant at which it starts. -/
theorem settles_of_stepDelay (hplays : pb.player.PlaysAt run actors s token)
    (hdelay : pb.player.stepDelay ≠ 0) : pb.Settles := by
  have hrepeat : ∀ {pb' : Playback σ} {run' actors' s' token'},
      pb'.player.PlaysAt run' actors' s' token' → s'.repeaters.isEmpty = false →
      pb'.player.config = pb.player.config → pb'.Settles := by
    intro pb' run' actors' s' token' hplays' hs' hconfig
    refine settles_of_repeat hplays' hs' ?_
    intro pb'' run'' actors'' s'' token'' h
    refine settles_of_sleeps h.sleeps ?_
    rw [Player.stepDelay, hconfig]
    exact hdelay
  rcases hs : s.repeaters.isEmpty with _ | _
  · exact hrepeat hplays hs rfl
  · refine settles_of_isEmpty hplays hs ?_
    intro pb' run' s' token' h
    exact hrepeat h.playsAt h.isEmpty_eq h.config_eq

/-- A run comes to an end when at most `left` repeat runs may follow it. -/
theorem settles_of_isEmpty_of_maxRepeats (left : Nat) (hplays : pb.player.PlaysAt run actors s token)
    (hs : s.repeaters.isEmpty = true) {most : UInt32}
    (hmost : pb.player.config.playback.maxRepeats = some most)
    (hleft : most.toNat ≤ pb.player.repeats + left) : pb.Settles := by
  induction left generalizing pb run actors s token with
  | zero =>
    refine settles_of_isEmpty hplays hs ?_
    intro pb' run' s' token' h
    have hlt := Player.lt_of_isCapped_eq_false h.isCapped_eq (h.config_eq ▸ hmost)
    rw [h.repeats_eq] at hlt
    omega
  | succ left ih =>
    refine settles_of_isEmpty hplays hs ?_
    intro pb' run' s' token' h
    refine settles_of_repeat h.playsAt h.isEmpty_eq ?_
    intro pb'' run'' actors'' s'' token'' h'
    refine ih h'.playsAt h'.isEmpty_eq ?_ ?_
    · rw [h'.config_eq, h.config_eq]
      exact hmost
    · rw [h'.repeats_eq, h.repeats_eq]
      omega

/-- A cap lets only so many repeat runs start. -/
theorem settles_of_maxRepeats (hplays : pb.player.PlaysAt run actors s token) {most : UInt32}
    (hmost : pb.player.config.playback.maxRepeats = some most) : pb.Settles := by
  refine settles_of_runs hplays ?_
  intro pb' run' actors' s' token' hplays' hs' hconfig
  exact settles_of_isEmpty_of_maxRepeats most.toNat hplays' hs' (hconfig ▸ hmost) (Nat.le_add_left _ _)

end Playback

/-! ### Where nothing does -/

/-- The run is at a step that sends actors back, or will come to one. -/
def Run.Recurs (run : Run) : Prop :=
  ∃ j s, run.step ≤ j ∧ run.table.snapshot? j = some s ∧ s.repeaters.isEmpty = false

namespace Run.Recurs

variable {p : Player} {run : Run} {actors : List ActorId} {s : Snapshot} {token : TimerToken}

theorem next (h : run.Recurs) (hs : run.snapshot? = some s) (hempty : s.repeaters.isEmpty = true) :
    run.next.Recurs := by
  obtain ⟨j, s', hle, hs', hrep⟩ := h
  refine ⟨j, s', Nat.lt_of_le_of_ne hle ?_, hs', hrep⟩
  rintro rfl
  obtain rfl : s = s' := Option.some.inj (hs.symm.trans hs')
  exact absurd (hrep.symm.trans hempty) Bool.false_ne_true

/-- The last step is none before one that sends actors back. -/
theorem not_last (h : run.Recurs) (hs : run.snapshot? = some s) (hempty : s.repeaters.isEmpty = true) :
    run.step ≠ run.last := by
  obtain ⟨j, s', hle, hs', hrep⟩ := h.next hs hempty
  have hlt := StepTable.lt_size_of_snapshot? hs'
  have hlast : run.last = run.table.size - 1 := run.table.last_eq
  change run.step + 1 ≤ j at hle
  have hj : j < run.table.size := hlt
  omega

/-- **Whoever was sent back will be again.** -/
theorem again (hplays : p.PlaysAt run actors s token) (hrep : s.repeaters.isEmpty = false)
    {t : StepTable} (hfits : t.Fits p.registry (Playback.blocksOf s.repeaters run.blocks) s.repeaters.keys) :
    ({ blocks := Playback.blocksOf s.repeaters run.blocks, table := t } : Run).Recurs := by
  obtain ⟨a, ha⟩ := (SortedMap.isEmpty_eq_false_iff _).mp hrep
  obtain ⟨s', hs', ha'⟩ :=
    hplays.fits.exists_repeaters hplays.snapshot_eq ha hfits ha (laneOf_blocksOf ha)
  exact ⟨run.step, s', Nat.zero_le _, hs', (SortedMap.isEmpty_eq_false_iff _).mpr ⟨a, ha'⟩⟩

end Run.Recurs

namespace Playback

variable {σ : Type} [Display σ] {pb pb' : Playback σ} {run : Run} {actors : List ActorId} {s : Snapshot}
  {token : TimerToken}

/-- A run that sends nobody back is over some day. -/
theorem settles_of_not_recurs (hplays : pb.player.PlaysAt run actors s token) (h : ¬ run.Recurs) :
    pb.Settles := by
  rcases hs : s.repeaters.isEmpty with _ | _
  · exact absurd ⟨run.step, s, Nat.le_refl _, hplays.snapshot_eq, hs⟩ h
  · refine settles_of_isEmpty hplays hs ?_
    intro pb' run' s' token' hask
    have hsnap : run.table.snapshot? run'.step = some s' := hask.table_eq ▸ hask.playsAt.snapshot_eq
    exact absurd ⟨run'.step, s', hask.step_le, hsnap, hask.isEmpty_eq⟩ h

omit [Display σ] in
/-- The player's timer is due, and neither a delay nor the cap nor the end of its run will stop it. -/
structure Spins (pb : Playback σ) : Prop where
  due : ∃ t ∈ pb.timers.pending, pb.player.pendingToken? = some t.token ∧ t.due ≤ pb.timers.now
  recurs : ∃ run, pb.player.run? = some run ∧ run.Recurs
  stepDelay_eq : pb.player.stepDelay = 0
  repeatDelay_eq : pb.player.repeatDelay = 0
  maxRepeats_eq : pb.player.config.playback.maxRepeats = none

omit [Display σ] in
/-- A timer that was set without a delay is due. -/
theorem Spins.of_schedule (h : pb.Spins) (hconfig : pb'.player.config = pb.player.config)
    {timers : TimerQueue} {wakeup : Wakeup} {delay : Nat}
    (htimers : pb'.timers = (timers.schedule wakeup delay).2) (hdelay : delay = 0)
    (hplays : pb'.player.PlaysAt run actors s timers.nextToken) (hrecurs : run.Recurs) : pb'.Spins := by
  refine ⟨⟨⟨timers.now + delay, timers.nextToken, wakeup⟩, ?_, ?_, ?_⟩, ⟨run, hplays.run_eq, hrecurs⟩,
    ?_, ?_, ?_⟩
  · rw [htimers, TimerQueue.mem_pending_schedule]
    exact .inl rfl
  · exact congrArg (Option.map Prod.fst) hplays.pending_eq
  · rw [htimers, hdelay]
    exact Nat.le_refl _
  · rw [Player.stepDelay, hconfig]
    exact h.stepDelay_eq
  · rw [Player.repeatDelay, hconfig]
    exact h.repeatDelay_eq
  · rw [hconfig]
    exact h.maxRepeats_eq

/-- **A player that spins goes on spinning**, unless it holds the display for messages. -/
theorem Spins.woken (h : pb.Spins) (hhold : pb.player.config.playback.holdForMessages = false)
    (hplays : pb.player.PlaysAt run actors s token) {timers : TimerQueue}
    (hwoken : Woken { pb with timers } run actors s pb') : pb'.Spins := by
  have hconfig : pb'.player.config = pb.player.config := hwoken.config_eq
  have hdelay : ∀ s', pb.player.hold s' + pb.player.stepDelay = 0 ∧
      pb.player.hold s' + pb.player.repeatDelay = 0 := by
    intro s'
    simp [Player.hold, hhold, h.stepDelay_eq, h.repeatDelay_eq]
  have hrecurs : run.Recurs := by
    obtain ⟨run', hrun, hrecurs⟩ := h.recurs
    rwa [Option.some.inj (hplays.run_eq.symm.trans hrun)]
  cases hwoken with
  | moved s' hs hs' heq hplays' =>
    have htimers := (congrArg Playback.timers heq).trans
      (timers_arm (shown _ _ _) (show Player.pending? _ = none from rfl) _ _)
    exact h.of_schedule hconfig htimers (hdelay s').1 hplays' (hrecurs.next hplays.snapshot_eq hs)
  | asked s' hs hs' hcap heq hplays' =>
    have htimers := (congrArg Playback.timers heq).trans
      (timers_arm (note _ _) (show Player.pending? _ = none from rfl) _ _)
    exact h.of_schedule hconfig htimers (hdelay s').2 hplays' (hrecurs.next hplays.snapshot_eq hs)
  | ended s' hs hsnap hend heq hrests =>
    have hnext := hrecurs.next hplays.snapshot_eq hs
    rcases hend with ⟨hs', hlast⟩ | ⟨-, hcap⟩
    · exact absurd hlast (hnext.not_last hsnap hs')
    · obtain ⟨most, hmost, -⟩ := Player.exists_of_isCapped hcap
      exact absurd (h.maxRepeats_eq.symm.trans hmost) (Option.some_ne_none most).symm
  | repeated out first hs hout heq hplays' =>
    have htimers : pb'.timers = (timers.schedule .advance pb.player.stepDelay).2 := by rw [heq]; rfl
    have hfits := hplays'.fits
    rw [heq] at hfits
    exact h.of_schedule hconfig htimers h.stepDelay_eq hplays' (.again hplays hs hfits)

/-- Whichever timer is fired, the player goes on spinning. -/
theorem Spins.fired (h : pb.Spins) (hsound : pb.player.Sound)
    (hhold : pb.player.config.playback.holdForMessages = false) {t : Timer} {timers : TimerQueue}
    (hpop : pb.timers.popDue? = some (t, timers)) :
    (onTimer { pb with timers } t.token).2.Spins ∧
      (onTimer { pb with timers } t.token).2.player.config = pb.player.config := by
  obtain ⟨own, hmem, hown, hdue⟩ := h.due
  obtain ⟨-, hpending, -⟩ := TimerQueue.le_of_popDue? hpop
  obtain ⟨run, actors, s, hplays⟩ := hsound.playsAt hown
  by_cases htoken : own.token = t.token
  · rw [htoken] at hplays
    have hplays' : ({ pb with timers } : Playback σ).player.PlaysAt run actors s t.token := hplays
    have hwoken := woken_of_playsAt hplays'
    exact ⟨h.woken hhold hplays hwoken, hwoken.config_eq⟩
  · have hne : pb.player.pendingToken? ≠ some t.token := fun heq =>
      htoken (Option.some.inj (hown.symm.trans heq))
    rw [onTimer_of_ne { pb with timers } hne]
    refine ⟨⟨⟨own, ?_, hown, ?_⟩, h.recurs, h.stepDelay_eq, h.repeatDelay_eq, h.maxRepeats_eq⟩, rfl⟩
    · rw [hpending, List.mem_cons] at hmem
      exact hmem.resolve_left fun heq => htoken (congrArg Timer.token heq)
    · rw [(TimerQueue.now_of_popDue? hpop).1]
      exact hdue

/-- **A player that spins is never done.** -/
theorem fireDue?_eq_none (h : pb.Spins) (hsound : pb.player.Sound)
    (hhold : pb.player.config.playback.holdForMessages = false) (fuel : Nat) :
    pb.fireDue? fuel = none := by
  induction fuel generalizing pb with
  | zero => rfl
  | succ fuel ih =>
    obtain ⟨own, hmem, -, hdue⟩ := h.due
    obtain ⟨t, timers, hpop⟩ := TimerQueue.exists_popDue?_of_mem hmem hdue
    obtain ⟨hspins, hconfig⟩ := h.fired hsound hhold hpop
    have hsound' : ({ pb with timers } : Playback σ).player.Sound := hsound
    rw [fireDue?, hpop]
    exact ih hspins (sound_onTimer hsound' t.token) (hconfig ▸ hhold)

omit [Display σ] in
/-- Spinning does not depend on the log, and a clock that moves on stops nothing. -/
theorem Spins.congr (h : pb.Spins) (log : List Event) (time : Nat) :
    ({ pb with
      player := { pb.player with log }
      timers := pb.timers.advanceTo time } : Playback σ).Spins := by
  obtain ⟨t, ht, hown, hdue⟩ := h.due
  exact ⟨⟨t, ht, hown, Nat.le_trans hdue (Nat.le_max_left _ _)⟩, h.recurs, h.stepDelay_eq,
    h.repeatDelay_eq, h.maxRepeats_eq⟩

/-- In real time no cancellation comes before a timer that is due, and firing is never done. -/
theorem runRealtime?_eq_none (h : pb.Spins) (hsound : pb.player.Sound)
    (hhold : pb.player.config.playback.holdForMessages = false) (fuel : Nat) (cancelAfter : Option Nat) :
    pb.runRealtime? fuel cancelAfter = none := by
  cases fuel with
  | zero => rfl
  | succ fuel =>
    obtain ⟨own, hmem, hown, hdue⟩ := h.due
    obtain ⟨run, actors, s, hplays⟩ := hsound.playsAt hown
    obtain ⟨t, timers, hpop⟩ := TimerQueue.exists_popDue?_of_mem hmem hdue
    obtain ⟨hle, hpending, -⟩ := TimerQueue.le_of_popDue? hpop
    have hnext : pb.takeEvents.2.timers.nextDue? = some t.due := by
      show pb.timers.pending.head?.map (·.due) = some t.due
      rw [hpending]
      rfl
    have hcancel : Observed.cancelsBefore cancelAfter pb.timers.now t.due = false := by
      rw [Observed.cancelsBefore, Nat.sub_eq_zero_of_le hle]
      cases cancelAfter <;> rfl
    have hrunning : pb.takeEvents.2.player.isRunning = true := hplays.isRunning_eq
    have hfire : fireDue? (fuel + 1)
        { player := pb.takeEvents.2.player
          display := pb.takeEvents.2.display
          timers := pb.takeEvents.2.timers.advanceTo t.due } = none :=
      fireDue?_eq_none (h.congr [] t.due) (hsound.congr rfl rfl rfl rfl) hhold (fuel + 1)
    show Observed.realtimeFrom? cancelAfter pb.timers.now (fuel + 1)
      { playback := pb.takeEvents.2, seen := _ } = none
    simp only [Observed.realtimeFrom?, hrunning, hnext, hcancel, hfire, Bool.not_true, Bool.false_eq_true,
      if_false]

/-- A player that does not spin has something that makes it wait or stop. -/
theorem settles_of_not_spins (hsound : pb.player.Sound) (h : ¬ pb.Spins) : pb.Settles := by
  rcases hsound with ⟨hrests, -⟩ | ⟨run, actors, s, token, hplays, -⟩
  · exact settles_of_rests hrests
  · by_cases hrecurs : run.Recurs
    · by_cases hstep : pb.player.stepDelay = 0
      · by_cases hrepeat : pb.player.repeatDelay = 0
        · rcases hmost : pb.player.config.playback.maxRepeats with _ | most
          · refine settles_of_own ?_
            intro t ht hown hdue timers
            exact absurd ⟨⟨t, ht, hown, hdue⟩, ⟨run, hplays.run_eq, hrecurs⟩, hstep, hrepeat, hmost⟩ h
          · exact settles_of_maxRepeats hplays hmost
        · exact settles_of_repeatDelay hplays hrepeat
      · exact settles_of_stepDelay hplays hstep
    · exact settles_of_not_recurs hplays hrecurs

/-- **When firing comes to an end.**  A player that was reached by any calls, in front of any display and any
queue, is done after finitely many timers unless it spins.  One that spins and does not hold its display for
messages is never done. -/
theorem settles_unless_spins (pb : Playback σ) (hreach : pb.player.Reachable) :
    (¬ pb.Spins → ∃ fuel pb', pb.fireDue? fuel = some pb') ∧
      (pb.Spins → pb.player.config.playback.holdForMessages = false →
        ∀ fuel, pb.fireDue? fuel = none) := by
  have hsound := Player.sound_of_reachable hreach
  constructor
  · intro hspins
    exact settles_of_not_spins hsound hspins
  · intro hspins hhold fuel
    exact fireDue?_eq_none hspins hsound hhold fuel

/-- The sample with its usual delays is done at its first due time. -/
theorem settles_unless_spins_sample :
    let pb := (Sample.idle none).call (.play Sample.flow)
    pb.player.Reachable ∧
      ∃ fuel pb', fireDue? fuel { pb with timers := pb.timers.advanceTo 500 } = some pb' := by
  intro pb
  have hreach : pb.player.Reachable := ⟨_, _, _, .call _ _ trivial .refl⟩
  have hdue : ({ pb with timers := pb.timers.advanceTo 500 } : Playback Stage).player.Reachable := hreach
  refine ⟨hreach, (settles_unless_spins _ hdue).1 ?_⟩
  intro hspins
  have hdelay : pb.player.stepDelay = 0 := hspins.stepDelay_eq
  exact absurd hdelay (by decide)

end Playback

/-- A new player in front of the sample's actors, which waits for nothing and has no cap. -/
def Sample.hasty : Playback Stage :=
  { player :=
      { registry := Sample.registry
        config := { playback := { stepDelay := 0, repeatDelay := 0, holdForMessages := false } }
        source := .scripted [] }
    display := Sample.stage }

namespace Playback

/-- The configuration is valid, but the first due time is never over.  Nobody asks for a cancellation. -/
theorem never_done_hasty :
    Sample.hasty.player.config.validate = .ok () ∧
      ∃ pb', Sample.hasty.play Sample.flow = .ok (.started, pb') ∧ pb'.timers.nextDue? = some 0 ∧
        (∀ fuel, fireDue? fuel { pb' with timers := pb'.timers.advanceTo 0 } = none) ∧
        ∀ fuel cancelAfter, pb'.runRealtime? fuel cancelAfter = none := by
  obtain ⟨pb', hpb'⟩ : ∃ pb', Sample.hasty.call (.play Sample.flow) = pb' := ⟨_, rfl⟩
  have hsound : pb'.player.Sound := by
    rw [← hpb']
    exact Player.sound_of_reachable ⟨_, _, _, .call Sample.hasty _ trivial .refl⟩
  have hspins : pb'.Spins := by
    rw [← hpb']
    refine ⟨⟨_, List.mem_cons_self, rfl, Nat.le_refl _⟩, ⟨_, rfl, 2, _, Nat.zero_le _, rfl, rfl⟩, ?_, ?_, ?_⟩
    · rfl
    · rfl
    · rfl
  have hhold : pb'.player.config.playback.holdForMessages = false := by rw [← hpb']; rfl
  refine ⟨rfl, pb', ?_, ?_, ?_, ?_⟩
  · rw [← hpb']
    rfl
  · rw [← hpb']
    rfl
  · intro fuel
    exact fireDue?_eq_none (hspins.congr _ 0) hsound hhold fuel
  · intro fuel cancelAfter
    exact runRealtime?_eq_none hspins hsound hhold fuel cancelAfter

end Playback

end Marionette

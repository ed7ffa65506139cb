import Marionette.Playback.Drain
import Marionette.Proofs.Playback.Reachable

/-!
# Draining, timer by timer

Events are only ever appended to the log and nobody reads it.  So it makes no difference when an observer
takes them: what an observer was told and what is still in the log is together the log of a player whose
events nobody took.  `Observed.whole` is playback with that log, and firing a timer is nothing but a wakeup
of it.

A lone player is one whose timers are all that wait.  Then every timer that is fired is the one the player
waits for, and draining stops early only when playback has ended.

## Main definitions

* `Playback.behind` — the same playback with more events before those in the log.
* `Playback.Fires` — so many timers are popped, and the player is told of each.
* `Observed.whole` — playback as if nobody had taken events.
* `Playback.Lone` — no other timer waits.

## Main results

* `Playback.behind_onTimer` — a wakeup does not look at the log.
* `Playback.fires_drain` — draining is firing timers, as many as it says.
* `Playback.stands_drain` — what the player's own timers keep holds after draining.
* `Playback.stands_drain_of_lone` — the same for a lone player, where the timers are counted.
* `Playback.fired_drain_of_running` — a lone player that still plays has used up the allowance.
-/

namespace Marionette

/-! ### The log is only appended to -/

namespace Playback

variable {σ : Type}

/-- The same playback with `past` before the events in the log. -/
def behind (pb : Playback σ) (past : List Event) : Playback σ :=
  { pb with player := { pb.player with log := past ++ pb.player.log } }

theorem behind_note (pb : Playback σ) (past : List Event) (e : Event) :
    (pb.behind past).note e = (pb.note e).behind past := by
  simp [behind, note, Player.note]

variable [Display σ]

theorem behind_finish (pb : Playback σ) (past : List Event) (e : Event) :
    (pb.behind past).finish e = (pb.finish e).behind past := by
  simp [behind, finish, Player.note]

theorem behind_present (pb : Playback σ) (past : List Event) :
    (pb.behind past).present = pb.present.behind past := by
  rw [present, present, show (pb.behind past).player.run? = pb.player.run? from rfl]
  rcases pb.player.run? with _ | run
  · rfl
  · dsimp only
    rcases run.snapshot? with _ | s
    · rfl
    · exact behind_note { pb with display := Display.applyBatch pb.display s.batch } past _

theorem behind_goOn (pb : Playback σ) (past : List Event) (run : Run) (s : Snapshot) :
    (pb.behind past).goOn run s = (pb.goOn run s).behind past := by
  have hcap : (pb.behind past).player.isCapped = pb.player.isCapped := rfl
  rw [goOn, goOn, hcap, behind_finish]
  dsimp only
  rw [behind_note]
  split
  · split <;> rfl
  · split <;> rfl

theorem behind_advance (pb : Playback σ) (past : List Event) :
    (pb.behind past).advance = pb.advance.behind past := by
  rw [advance, advance, show (pb.behind past).player.run? = pb.player.run? from rfl]
  rcases pb.player.run? with _ | run
  · exact behind_finish pb past _
  · dsimp only
    rcases run.next.snapshot? with _ | s
    · exact behind_finish (pb.takeUp run.next) past _
    · dsimp only
      rw [← behind_goOn, ← behind_present]
      rfl

theorem behind_startRepeat (pb : Playback σ) (past : List Event) :
    (pb.behind past).startRepeat = pb.startRepeat.behind past := by
  rw [startRepeat, startRepeat, show (pb.behind past).player.run? = pb.player.run? from rfl]
  rcases pb.player.run? with _ | run
  · exact behind_finish pb past _
  · dsimp only
    rcases run.snapshot? with _ | s
    · exact behind_finish pb past _
    · have htable : (pb.behind past).player.draw ((pb.behind past).repeatTable run s) =
          ((pb.player.draw (pb.repeatTable run s)).1,
            { (pb.player.draw (pb.repeatTable run s)).2 with log := past ++ pb.player.log }) := rfl
      dsimp only
      rw [htable]
      split
      · exact behind_finish { pb with player := { (pb.player.draw (pb.repeatTable run s)).2 with
          repeats := pb.player.repeats + 1 } } past _
      · simp [behind, arm, disarm, takeUp, note, Player.note, Player.draw, Player.stepDelay]

/-- A wakeup does not look at the log. -/
theorem behind_onTimer (pb : Playback σ) (past : List Event) (token : TimerToken) :
    ((pb.behind past).onTimer token).2 = (pb.onTimer token).2.behind past := by
  rw [onTimer, onTimer, show (pb.behind past).player.pending? = pb.player.pending? from rfl]
  rcases pb.player.pending? with _ | ⟨own, wakeup⟩
  · rfl
  · dsimp only
    split
    · cases wakeup
      · exact behind_advance { pb with player := { pb.player with pending? := none } } past
      · exact behind_startRepeat { pb with player := { pb.player with pending? := none } } past
    · rfl

end Playback

/-! ### Draining -/

/-- From `pb` on, so many timers are popped, and the player is told of each.  The clock may be moved on before
any of them, and nobody takes events. -/
inductive Playback.Fires {σ : Type} [Display σ] (pb : Playback σ) : Nat → Playback σ → Prop
  | none : Fires pb 0 pb
  | fire {n : Nat} {pb' : Playback σ} (h : Fires pb n pb') (time : Nat) (t : Timer) (timers : TimerQueue)
      (hpop : (pb'.timers.advanceTo time).popDue? = some (t, timers)) :
      Fires pb (n + 1) (onTimer { pb' with timers } t.token).2

namespace Observed

variable {σ : Type} [Display σ]

omit [Display σ] in
/-- Playback as if nobody had taken the events that the observer was told. -/
def whole (o : Observed σ) : Playback σ := o.playback.behind o.events

omit [Display σ] in
theorem events_flush (o : Observed σ) : o.flush.events = o.events ++ o.playback.player.log := by
  simp [flush, events, Playback.takeEvents, Player.takeEvents, Function.comp_def]

omit [Display σ] in
theorem seen_flush (o : Observed σ) : o.flush.seen.toList =
    o.seen.toList ++ o.playback.player.log.map (Sighting.mk o.playback.timers.now) := by
  simp [flush, Playback.takeEvents, Player.takeEvents]

omit [Display σ] in
theorem whole_flush (o : Observed σ) : o.flush.whole = o.whole := by
  rw [whole, whole, events_flush]
  simp [Playback.behind, flush, Playback.takeEvents, Player.takeEvents]

/-- Firing a timer is a wakeup of the playback whose events nobody took. -/
theorem whole_fire (o : Observed σ) (t : Timer) (timers : TimerQueue) :
    (o.fire t timers).whole = (Playback.onTimer { o.whole with timers } t.token).2 := by
  rw [fire, whole_flush]
  exact (Playback.behind_onTimer { o.playback with timers } o.events t.token).symm

/-- Draining stops, or it fires the next timer, for which the clock may have been moved on. -/
theorem drainFrom_succ_cases (room : Nat) (o : Observed σ) : drainFrom (room + 1) o = o ∨
    ∃ time t timers, (o.playback.timers.advanceTo time).popDue? = some (t, timers) ∧
      drainFrom (room + 1) o = drainFrom room (o.fire t timers) := by
  rw [drainFrom]
  split
  · next t timers hpop =>
    have hstays := TimerQueue.advanceTo_of_le (Nat.le_refl o.playback.timers.now)
    exact .inr ⟨o.playback.timers.now, t, timers, hstays.symm ▸ hpop, rfl⟩
  · split
    · split
      · exact .inl rfl
      · next due _ =>
        split
        · next t timers hpop => exact .inr ⟨due, t, timers, hpop, rfl⟩
        · exact .inl rfl
    · exact .inl rfl

/-- Draining a playback whose events nobody takes is firing some of its timers. -/
theorem fires_drainFrom (room : Nat) {pb : Playback σ} {o : Observed σ} (h : pb.Fires o.fired o.whole) :
    pb.Fires (drainFrom room o).fired (drainFrom room o).whole := by
  induction room generalizing o with
  | zero => exact h
  | succ room ih =>
    rcases drainFrom_succ_cases room o with hstops | ⟨time, t, timers, hpop, hfire⟩
    · rw [hstops]
      exact h
    · rw [hfire]
      refine ih ?_
      rw [fired_fire, whole_fire]
      exact h.fire time t timers hpop

theorem log_drainFrom (room : Nat) {o : Observed σ} (h : o.playback.player.log = []) :
    (drainFrom room o).playback.player.log = [] := by
  induction room generalizing o with
  | zero => exact h
  | succ room ih =>
    rcases drainFrom_succ_cases room o with hstops | ⟨time, t, timers, hpop, hfire⟩
    · rw [hstops]
      exact h
    · rw [hfire]
      exact ih rfl

end Observed

namespace Playback

variable {σ : Type} [Display σ] {pb : Playback σ}

/-- What every fired timer keeps holds after all of them.  The number counts the timers. -/
theorem Fires.induction {pb' : Playback σ} {n : Nat} {J : Nat → Playback σ → Prop} (hfires : pb.Fires n pb')
    (hstep : ∀ n pb t timers, J n pb → pb.timers.pending = t :: timers.pending →
      J (n + 1) (onTimer { pb with timers } t.token).2) (h : J 0 pb) : J n pb' := by
  induction hfires with
  | none => exact h
  | fire _ time t timers hpop ih => exact hstep _ _ _ _ ih (TimerQueue.le_of_popDue? hpop).2.1

/-- Draining is firing some of the timers, and it says how many. -/
theorem fires_drain (pb : Playback σ) (limit : Nat) :
    pb.Fires (pb.drain limit).fired (pb.drain limit).whole := by
  have hflush : pb.Fires 0 (Observed.flush { playback := pb }).whole := by
    rw [Observed.whole_flush]
    exact .none
  rw [drain]
  split
  · exact Observed.fires_drainFrom limit hflush
  · exact hflush

/-- What every fired timer keeps holds after draining.  The number counts the timers. -/
theorem drain_induction {J : Nat → Playback σ → Prop}
    (hstep : ∀ n pb t timers, J n pb → pb.timers.pending = t :: timers.pending →
      J (n + 1) (onTimer { pb with timers } t.token).2)
    (limit : Nat) (h : J 0 pb) : J (pb.drain limit).fired (pb.drain limit).whole :=
  (fires_drain pb limit).induction hstep h

/-- Where nothing is played only the observer is told. -/
theorem drain_eq_flush (h : pb.player.isRunning = false) (limit : Nat) :
    pb.drain limit = Observed.flush { playback := pb } := by
  have hidle : (Observed.flush { playback := pb }).playback.player.isRunning = false := h
  rw [drain, hidle]
  rfl

/-- Where something is played timers are fired. -/
theorem drain_eq_drainFrom (h : pb.player.isRunning = true) (limit : Nat) :
    pb.drain limit = Observed.drainFrom limit (Observed.flush { playback := pb }) := by
  have hrunning : (Observed.flush { playback := pb }).playback.player.isRunning = true := h
  rw [drain, hrunning]
  rfl

/-- After draining, everything that was noted has been told. -/
theorem log_drain (pb : Playback σ) (limit : Nat) : (pb.drain limit).playback.player.log = [] := by
  rw [drain]
  split
  · exact Observed.log_drainFrom limit rfl
  · rfl

theorem log_whole_drain (pb : Playback σ) (limit : Nat) :
    (pb.drain limit).whole.player.log = (pb.drain limit).events := by
  change (pb.drain limit).events ++ _ = _
  rw [log_drain, List.append_nil]

/-- **What the player's own timers keep holds after draining**, whichever other timers wait. -/
theorem stands_drain {A : Player → σ → Prop} {B : Player → σ → Run → Snapshot → Prop}
    (hstep : ∀ (pb pb' : Playback σ) run actors s token, pb.player.PlaysAt run actors s token →
      B pb.player pb.display run s → Woken pb run actors s pb' →
      pb'.player.Stands (A pb'.player pb'.display) (B pb'.player pb'.display))
    (limit : Nat) (h : pb.player.Stands (A pb.player pb.display) (B pb.player pb.display)) :
    (pb.drain limit).whole.player.Stands
      (A (pb.drain limit).whole.player (pb.drain limit).whole.display)
      (B (pb.drain limit).whole.player (pb.drain limit).whole.display) :=
  drain_induction (J := fun _ pb => pb.player.Stands (A pb.player pb.display) (B pb.player pb.display))
    (fun _ pb t timers h _ => stands_onTimer hstep { pb with timers } t.token h) limit h

/-- After draining the player rests, or it waits at a snapshot. -/
theorem sound_drain (h : pb.player.Sound) (limit : Nat) : (pb.drain limit).whole.player.Sound :=
  stands_drain (A := fun _ _ => True) (B := fun _ _ _ _ => True)
    (fun _ _ _ _ _ _ _ _ hwoken => hwoken.sound) limit h

/-! ### Lone players -/

/-- No timer waits but the one that the player waits for. -/
def Lone (pb : Playback σ) : Prop := pb.timers.pending.map (·.token) = pb.player.pendingToken?.toList

variable {pb' : Playback σ} {run : Run} {actors : List ActorId} {s : Snapshot} {token : TimerToken}

theorem tokens_schedule {timers : TimerQueue} (h : timers.pending = []) (wakeup : Wakeup) (delay : Nat) :
    (timers.schedule wakeup delay).2.pending.map (·.token) = [timers.nextToken] := by
  change (TimerQueue.place _ timers.pending).map (·.token) = _
  rw [h]
  rfl

omit [Display σ] in
theorem lone_arm (pb : Playback σ) (h : pb.timers.pending = []) (wakeup : Wakeup) (delay : Nat) :
    (pb.arm wakeup delay).Lone := by
  have hdisarm : pb.disarm.timers.pending = [] := by
    rcases hpending : pb.player.pending? with _ | ⟨old, _⟩ <;>
      simp [disarm, TimerQueue.cancel, hpending, h]
  exact tokens_schedule hdisarm wakeup delay

/-- A flow that is started where no timer waits leaves its own alone. -/
theorem Starts.lone {flow : Flow} (h : pb.Starts flow pb') (hqueue : pb.timers.pending = []) :
    pb'.Lone := by
  obtain ⟨first, rfl, -⟩ := h.exists_playsAt
  exact lone_arm ((pb.compile flow).2.begun flow (pb.compile flow).1 first) hqueue _ _

/-- A wakeup leaves no timer behind but the one that it sets. -/
theorem Woken.lone (h : Woken pb run actors s pb') (hqueue : pb.timers.pending = []) : pb'.Lone := by
  cases h with
  | moved s' hs hs' heq hplays =>
    rw [heq]
    exact lone_arm (pb.shown run s') hqueue _ _
  | asked s' hs hs' hcap heq hplays =>
    rw [heq]
    exact lone_arm ((pb.shown run s').note _) hqueue _ _
  | ended s' hs hsnap hend heq hrests =>
    rw [Lone, Player.pendingToken?, hrests.pending_eq, heq, timers_finish]
    exact congrArg (List.map _) hqueue
  | repeated out first hs hout heq hplays =>
    rw [heq]
    exact tokens_schedule hqueue _ _

omit [Display σ] in
/-- The first timer of a lone player is its own, and there is no other. -/
theorem Lone.tail (h : pb.Lone) {t : Timer} {timers : TimerQueue}
    (hpending : pb.timers.pending = t :: timers.pending) :
    timers.pending = [] ∧ pb.player.pendingToken? = some t.token := by
  rw [Lone, hpending, List.map_cons] at h
  rcases hown : pb.player.pendingToken? with _ | own
  · rw [hown] at h
    cases h
  · rw [hown] at h
    obtain ⟨rfl, hnil⟩ := List.cons.inj h
    exact ⟨List.map_eq_nil_iff.mp hnil, rfl⟩

/-- **What the own timers of a lone player keep holds after draining.**  The number counts the timers. -/
theorem stands_drain_of_lone {A : Nat → Player → Prop}
    {B : Nat → Player → Run → Snapshot → Prop}
    (hstep : ∀ n (pb pb' : Playback σ) run actors s token, pb.player.PlaysAt run actors s token →
      B n pb.player run s → Woken pb run actors s pb' →
      pb'.player.Stands (A (n + 1) pb'.player) (B (n + 1) pb'.player))
    (limit : Nat) (hlone : pb.Lone) (h : pb.player.Stands (A 0 pb.player) (B 0 pb.player)) :
    (pb.drain limit).whole.player.Stands
      (A (pb.drain limit).fired (pb.drain limit).whole.player)
      (B (pb.drain limit).fired (pb.drain limit).whole.player) := by
  refine (drain_induction (J := fun n pb => pb.Lone ∧
    pb.player.Stands (A n pb.player) (B n pb.player)) ?_ limit ⟨hlone, h⟩).2
  rintro n pb t timers ⟨hlone, h⟩ hpending
  obtain ⟨hqueue, hown⟩ := hlone.tail hpending
  rcases h with ⟨hrests, -⟩ | ⟨run, actors, s, token, hplays, hB⟩
  · rw [Player.pendingToken?, hrests.pending_eq] at hown
    cases hown
  · rw [Player.pendingToken?, hplays.pending_eq] at hown
    obtain rfl : token = t.token := Option.some.inj hown
    have hwoken : Woken { pb with timers } run actors s (onTimer { pb with timers } t.token).2 :=
      woken_of_playsAt hplays
    exact ⟨hwoken.lone hqueue, hstep n { pb with timers } _ _ _ _ _ hplays hB hwoken⟩

/-- Draining a lone player leaves no timer but its own. -/
theorem lone_drain (hlone : pb.Lone) (hsound : pb.player.Sound) (limit : Nat) :
    (pb.drain limit).whole.Lone := by
  refine (drain_induction (J := fun _ pb => pb.Lone ∧ pb.player.Sound) ?_ limit ⟨hlone, hsound⟩).1
  rintro _ pb t timers ⟨hlone, hsound⟩ hpending
  obtain ⟨hqueue, hown⟩ := hlone.tail hpending
  obtain ⟨run, actors, s, hplays⟩ := hsound.playsAt hown
  have hwoken : Woken { pb with timers } run actors s (onTimer { pb with timers } t.token).2 :=
    woken_of_playsAt hplays
  exact ⟨hwoken.lone hqueue, hwoken.sound⟩

omit [Display σ] in
/-- A lone player that rests has no timer left. -/
theorem Lone.pending_eq_nil (h : pb.Lone) (hrests : pb.player.Rests) : pb.timers.pending = [] := by
  rw [Lone, Player.pendingToken?, hrests.pending_eq] at h
  exact List.map_eq_nil_iff.mp h

omit [Display σ] in
/-- A lone player that waits has no timer left when its own is taken out. -/
theorem Lone.pending_disarm (h : pb.Lone) (hplays : pb.player.PlaysAt run actors s token) :
    pb.disarm.timers.pending = [] := by
  rw [Lone, Player.pendingToken?, hplays.pending_eq] at h
  obtain ⟨t, hpending, rfl⟩ := List.map_eq_singleton_iff.mp h
  simp [disarm, hplays.pending_eq, TimerQueue.cancel, hpending]

end Playback

namespace Observed

variable {σ : Type} [Display σ]

/-- When the player still plays and a timer waits, draining moves the clock on and fires it. -/
theorem exists_drainFrom_succ_of_nextDue? {o : Observed σ}
    (hrunning : o.playback.player.isRunning = true)
    {due : Nat} (hdue : o.playback.timers.nextDue? = some due) :
    ∃ t timers, (o.playback.timers.advanceTo due).popDue? = some (t, timers) ∧
      ∀ room, drainFrom (room + 1) o = drainFrom room (o.fire t timers) := by
  obtain ⟨t, ts, hpending, rfl⟩ : ∃ t ts, o.playback.timers.pending = t :: ts ∧ t.due = due := by
    rcases hp : o.playback.timers.pending with _ | ⟨t, ts⟩
    · simp [TimerQueue.nextDue?, hp] at hdue
    · refine ⟨t, ts, rfl, ?_⟩
      simpa [TimerQueue.nextDue?, hp] using hdue
  obtain ⟨timers, hpop⟩ := TimerQueue.exists_popDue?_advanceTo hpending
  refine ⟨t, timers, hpop, fun room => ?_⟩
  rcases hnow : o.playback.timers.popDue? with _ | ⟨t', timers'⟩
  · rw [drainFrom, hnow]
    simp [hrunning, hdue, hpop]
  · -- the timer is late, and the clock stays where it is
    obtain ⟨hle, hpending', -⟩ := TimerQueue.le_of_popDue? hnow
    obtain rfl : t = t' := (List.cons.inj (hpending.symm.trans hpending')).1
    rw [TimerQueue.advanceTo_of_le hle, hnow] at hpop
    obtain rfl : timers' = timers := (Prod.mk.inj (Option.some.inj hpop)).2
    rw [drainFrom, hnow]

/-- While the player plays the first timer is fired when it is due. -/
theorem exists_drainFrom_succ {o : Observed σ}
    (hrunning : o.playback.player.isRunning = true) {t : Timer} {ts : List Timer}
    (hpending : o.playback.timers.pending = t :: ts) :
    ∃ timers, timers.pending = ts ∧ timers.now = max o.playback.timers.now t.due ∧
      ∀ room, drainFrom (room + 1) o = drainFrom room (o.fire t timers) := by
  have hdue : o.playback.timers.nextDue? = some t.due := by simp [TimerQueue.nextDue?, hpending]
  obtain ⟨t', timers, hpop, hfire⟩ := exists_drainFrom_succ_of_nextDue? hrunning hdue
  have hpending' := (TimerQueue.le_of_popDue? hpop).2.1.symm.trans hpending
  obtain ⟨rfl, hrest⟩ := List.cons.inj hpending'
  exact ⟨timers, hrest, (TimerQueue.now_of_popDue? hpop).1, hfire⟩

/-- Where no timer waits nothing is fired. -/
theorem drainFrom_of_isEmpty (room : Nat) {o : Observed σ} (hqueue : o.playback.timers.pending = []) :
    drainFrom room o = o := by
  cases room with
  | zero => rfl
  | succ room =>
    have hpop : o.playback.timers.popDue? = none := TimerQueue.popDue?_eq_none_iff.mpr (by simp [hqueue])
    rw [drainFrom, hpop]
    simp [TimerQueue.nextDue?, hqueue]

/-- A drain may be taken up where it was cut short. -/
theorem drainFrom_add (m k : Nat) (o : Observed σ) :
    drainFrom (m + k) o = drainFrom k (drainFrom m o) := by
  induction m generalizing o with
  | zero => rw [Nat.zero_add, drainFrom]
  | succ m ih =>
    rw [Nat.succ_add]
    rcases hpop : o.playback.timers.popDue? with _ | ⟨t, timers⟩
    · rcases hrunning : o.playback.player.isRunning with _ | _
      · have hself : ∀ room, drainFrom room o = o := by
          rintro (_ | room)
          · rfl
          · rw [drainFrom, hpop]
            simp [hrunning]
        rw [hself, hself, hself]
      · rcases hpending : o.playback.timers.pending with _ | ⟨t, ts⟩
        · rw [drainFrom_of_isEmpty _ hpending, drainFrom_of_isEmpty _ hpending,
            drainFrom_of_isEmpty _ hpending]
        · obtain ⟨timers, -, -, hdrain⟩ := exists_drainFrom_succ hrunning hpending
          rw [hdrain, hdrain, ih]
    · rw [drainFrom, drainFrom, hpop]
      exact ih _

/-- A lone player that still plays has fired as many timers as it was allowed. -/
theorem fired_drainFrom_of_running (room : Nat) {o : Observed σ} (hlone : o.whole.Lone)
    (hsound : o.whole.player.Sound) (h : (drainFrom room o).playback.player.isRunning = true) :
    (drainFrom room o).fired = o.fired + room := by
  induction room generalizing o with
  | zero => rfl
  | succ room ih =>
    rcases hsound with ⟨hrests, -⟩ | ⟨run, actors, s, token, hplays, -⟩
    · have hqueue : o.playback.timers.pending = [] := hlone.pending_eq_nil hrests
      rw [drainFrom_of_isEmpty _ hqueue] at h
      exact absurd (hrests.isRunning_eq.symm.trans h) Bool.false_ne_true
    · have hlone' := hlone
      rw [Playback.Lone, Player.pendingToken?, hplays.pending_eq] at hlone'
      obtain ⟨t, hpending, rfl⟩ := List.map_eq_singleton_iff.mp hlone'
      obtain ⟨timers, hqueue, -, hfire⟩ := exists_drainFrom_succ hplays.isRunning_eq hpending
      have hwoken : Playback.Woken { o.whole with timers } run actors s (o.fire t timers).whole := by
        rw [whole_fire]
        exact Playback.woken_of_playsAt hplays
      rw [hfire] at h ⊢
      rw [ih (hwoken.lone hqueue) hwoken.sound h, fired_fire]
      omega

end Observed

namespace Playback

variable {σ : Type} [Display σ] {pb : Playback σ}

/-- **A lone player that still plays has used up the allowance.** -/
theorem fired_drain_of_running (hlone : pb.Lone) (hsound : pb.player.Sound) {limit : Nat}
    (h : (pb.drain limit).playback.player.isRunning = true) : (pb.drain limit).fired = limit := by
  have hflush : (Observed.flush { playback := pb }).whole = pb := Observed.whole_flush _
  rw [drain] at h ⊢
  split at h
  · next hrunning =>
    rw [if_pos hrunning]
    have := Observed.fired_drainFrom_of_running limit (hflush.symm ▸ hlone) (hflush.symm ▸ hsound) h
    rwa [show (Observed.flush { playback := pb }).fired = 0 from rfl, Nat.zero_add] at this
  · next hidle => exact absurd h hidle

/-- A lone player that does not play any more has left no timer behind. -/
theorem pending_drain_of_idle (hlone : pb.Lone) (hsound : pb.player.Sound) {limit : Nat}
    (hidle : (pb.drain limit).playback.player.isRunning = false) :
    (pb.drain limit).playback.timers.pending = [] :=
  (lone_drain hlone hsound limit).pending_eq_nil ((sound_drain hsound limit).rests_of_idle hidle)

/-- Then it is left as it is, however many timers more are allowed. -/
theorem drain_eq_of_idle (hlone : pb.Lone) (hsound : pb.player.Sound) {m n : Nat} (hmn : m ≤ n)
    (hidle : (pb.drain m).playback.player.isRunning = false) : pb.drain n = pb.drain m := by
  have hqueue := pending_drain_of_idle hlone hsound hidle
  obtain ⟨k, rfl⟩ := Nat.exists_eq_add_of_le hmn
  rcases hrunning : pb.player.isRunning with _ | _
  · rw [drain_eq_flush hrunning, drain_eq_flush hrunning]
  · rw [drain_eq_drainFrom hrunning] at hqueue ⊢
    rw [drain_eq_drainFrom hrunning, Observed.drainFrom_add, Observed.drainFrom_of_isEmpty k hqueue]

end Playback

end Marionette

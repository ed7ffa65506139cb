import Marionette.Proofs.Playback.Horizon
import Marionette.Proofs.Playback.Ownership

/-!
# Draining in portions

Draining is written as two loops that share one allowance.  The outer one moves the clock to the next due time
while the player plays, and the inner one fires what is due there, which may set timers for the same instant.
The allowance may run out in the midst of an instant.  A drain that begins there goes on with the clock where
it is, and comes to where one drain with both allowances would have come.

A sum out of range breaks a drain off, as if its allowance had run out there, but for good: a drain that goes on
from there is broken off at once.

## Main definitions

* `Observed.fireDue`, `Observed.pass`, `Observed.passes` — the inner loop, one pass of the outer loop, and the
  outer loop.
* `Observed.goOnFrom`, `Observed.drainOn?` — what was observed, after something that was observed before.

## Main results

* `Observed.fired_lt_fired_pass` — each pass fires a timer.
* `Playback.drain_eq_passes` — draining is the two loops.
* `Playback.drain_add`, `Playback.drain?_add` — two drains of a lone player, one after the other, are one.
* `Playback.drain_in_portions` — draining ends, in range or out of it, keeps to its allowance, tells everything
  once, and may be cut anywhere.
-/

namespace Marionette

/-- Where nothing is new, there is nothing to hand out. -/
theorem Player.takeEvents_of_log {p : Player} (h : p.log = []) : p.takeEvents = ([], p) := by
  cases p
  cases h
  rfl

/-- The same of playback. -/
theorem Playback.takeEvents_of_log {σ : Type} {pb : Playback σ} (h : pb.player.log = []) :
    pb.takeEvents = ([], pb) := by
  rw [takeEvents, Player.takeEvents_of_log h]

namespace Observed

variable {σ : Type} [Display σ]

/-! ### The two loops -/

/-- Fire what is due, but no more than `room` timers. -/
def fireDue : (room : Nat) → Observed σ → Observed σ
  | 0, o => o
  | room + 1, o =>
    match o.playback.timers.popDue? with
    | some (t, timers) => fireDue room (o.fire t timers)
    | none => o

omit [Display σ] in
/-- Move the clock on to `due`. -/
def advanceTo (due : Nat) (o : Observed σ) : Observed σ :=
  { o with playback := { o.playback with timers := o.playback.timers.advanceTo due } }

/-- Move the clock on to `due` and fire what is due then, within what `limit` leaves. -/
def pass (limit due : Nat) (o : Observed σ) : Observed σ := fireDue (limit - o.fired) (o.advanceTo due)

/-- The inner loop spends the allowance on the timers it fires, and what is left when it stops is for later:
there is nothing left, or nothing is due. -/
theorem exists_fireDue (room : Nat) (o : Observed σ) :
    ∃ rest, (fireDue room o).fired + rest = o.fired + room ∧
      drainFrom room o = drainFrom rest (fireDue room o) ∧
      (rest = 0 ∨ (fireDue room o).playback.timers.popDue? = none) ∧ o.fired ≤ (fireDue room o).fired := by
  induction room generalizing o with
  | zero => exact ⟨0, rfl, rfl, .inl rfl, Nat.le_refl _⟩
  | succ room ih =>
    rcases hpop : o.playback.timers.popDue? with _ | ⟨t, timers⟩
    · have hstops : fireDue (room + 1) o = o := by rw [fireDue, hpop]
      rw [hstops]
      exact ⟨room + 1, rfl, rfl, .inr hpop, Nat.le_refl _⟩
    · have hfire : fireDue (room + 1) o = fireDue room (o.fire t timers) := by rw [fireDue, hpop]
      obtain ⟨rest, hsum, hdrain, hstops, hle⟩ := ih (o.fire t timers)
      rw [fired_fire] at hsum hle
      rw [hfire]
      refine ⟨rest, by omega, ?_, hstops, by omega⟩
      rw [drainFrom, hpop]
      exact hdrain

/-- While the player plays, a pass begins with the timer that a drain fires next. -/
theorem exists_fireDue_advanceTo {o : Observed σ} (hrunning : o.playback.player.isRunning = true) {due : Nat}
    (hdue : o.playback.timers.nextDue? = some due) (room : Nat) :
    ∃ t timers, drainFrom (room + 1) o = drainFrom room (o.fire t timers) ∧
      fireDue (room + 1) (o.advanceTo due) = fireDue room (o.fire t timers) := by
  obtain ⟨t, timers, hpop, hfire⟩ := exists_drainFrom_succ_of_nextDue? hrunning hdue
  refine ⟨t, timers, hfire room, ?_⟩
  rw [fireDue, show (o.advanceTo due).playback.timers = o.playback.timers.advanceTo due from rfl, hpop]
  rfl

/-- A drain does what a pass does, and goes on with what is left of the allowance. -/
theorem exists_pass {limit : Nat} {o : Observed σ} (hrunning : o.playback.player.isRunning = true)
    (hroom : o.fired < limit) {due : Nat} (hdue : o.playback.timers.nextDue? = some due) :
    ∃ rest, o.fired < (o.pass limit due).fired ∧ (o.pass limit due).fired + rest = limit ∧
      drainFrom (limit - o.fired) o = drainFrom rest (o.pass limit due) ∧
      (rest = 0 ∨ (o.pass limit due).playback.timers.popDue? = none) := by
  obtain ⟨room, hsucc⟩ : ∃ room, limit - o.fired = room + 1 := Nat.exists_eq_succ_of_ne_zero (by omega)
  obtain ⟨t, timers, hdrain, hfire⟩ := exists_fireDue_advanceTo hrunning hdue room
  obtain ⟨rest, hsum, hrest, hstops, hle⟩ := exists_fireDue room (o.fire t timers)
  rw [fired_fire] at hsum hle
  rw [pass, hsucc, hdrain, hfire]
  exact ⟨rest, by omega, by omega, hrest, hstops⟩

/-- **Each pass fires a timer.** -/
theorem fired_lt_fired_pass {limit : Nat} {o : Observed σ} (hrunning : o.playback.player.isRunning = true)
    (hroom : o.fired < limit) {due : Nat} (hdue : o.playback.timers.nextDue? = some due) :
    o.fired < (o.pass limit due).fired ∧ (o.pass limit due).fired ≤ limit := by
  obtain ⟨rest, hlt, hsum, -, -⟩ := exists_pass hrunning hroom hdue
  exact ⟨hlt, by omega⟩

/-- Pass after pass, until playback has ended, no timer waits or `limit` timers were fired. -/
def passes (limit : Nat) (o : Observed σ) : Observed σ :=
  if h : o.playback.player.isRunning = true ∧ o.fired < limit then
    match hdue : o.playback.timers.nextDue? with
    | some due =>
      have := fired_lt_fired_pass h.1 h.2 hdue
      passes limit (o.pass limit due)
    | none => o
  else o
termination_by limit - o.fired

theorem passes_of_not {limit : Nat} {o : Observed σ}
    (h : ¬ (o.playback.player.isRunning = true ∧ o.fired < limit)) : passes limit o = o := by
  rw [passes, dif_neg h]

theorem passes_of_nextDue?_eq_none {limit : Nat} {o : Observed σ} (h : o.playback.timers.nextDue? = none) :
    passes limit o = o := by
  rw [passes]
  split
  · split
    · next due hdue => cases h.symm.trans hdue
    · rfl
  · rfl

theorem passes_of_nextDue? {limit : Nat} {o : Observed σ} (hrunning : o.playback.player.isRunning = true)
    (hroom : o.fired < limit) {due : Nat} (hdue : o.playback.timers.nextDue? = some due) :
    passes limit o = passes limit (o.pass limit due) := by
  rw [passes, dif_pos ⟨hrunning, hroom⟩]
  split
  · next due' hdue' =>
    obtain rfl : due = due' := Option.some.inj (hdue.symm.trans hdue')
    rfl
  · next hnone => cases hdue.symm.trans hnone

/-- Draining is pass after pass, when it begins where a pass may begin. -/
theorem drainFrom_eq_passes (room : Nat) {limit : Nat} {o : Observed σ} (hlimit : o.fired + room = limit)
    (hready : room = 0 ∨ o.playback.timers.popDue? = none ∨ o.playback.player.isRunning = true) :
    drainFrom room o = passes limit o := by
  induction room using Nat.strong_induction_on generalizing o with
  | h room ih =>
    rcases Nat.eq_zero_or_pos room with rfl | hpos
    · rw [passes_of_not (by omega)]
      rfl
    rcases hrunning : o.playback.player.isRunning with _ | _
    · obtain ⟨room, rfl⟩ : ∃ n, room = n + 1 := Nat.exists_eq_succ_of_ne_zero (Nat.pos_iff_ne_zero.mp hpos)
      have hnone : o.playback.timers.popDue? = none := by
        simpa [hrunning] using hready
      rw [passes_of_not (by simp [hrunning]), drainFrom, hnone]
      simp [hrunning]
    · have hroom : o.fired < limit := by omega
      rcases hdue : o.playback.timers.nextDue? with _ | due
      · have hqueue : o.playback.timers.pending = [] := by simpa [TimerQueue.nextDue?] using hdue
        rw [passes_of_nextDue?_eq_none hdue, drainFrom_of_isEmpty room hqueue]
      · obtain ⟨rest, hlt, hsum, hdrain, hstops⟩ := exists_pass hrunning hroom hdue
        rw [passes_of_nextDue? hrunning hroom hdue, ← ih rest (by omega) hsum (hstops.imp_right .inl),
          ← hdrain, show limit - o.fired = room by omega]

/-! ### Going on -/

omit [Display σ] in
/-- What was observed, after something that was observed before. -/
def goOnFrom (past o : Observed σ) : Observed σ :=
  { o with seen := past.seen ++ o.seen, fired := past.fired + o.fired }

omit [Display σ] in
/-- Where nothing is new, the observer is told nothing. -/
theorem flush_of_log {o : Observed σ} (h : o.playback.player.log = []) : o.flush = o := by
  rw [flush, Playback.takeEvents_of_log h]
  simp

/-- Drain on.  What comes of it is observed after `past`, whether the drain ends or is broken off. -/
def drainOn? (past : Observed σ) (limit : Nat) : Except (Observed σ) (Observed σ) :=
  ((past.playback.drain? limit).map past.goOnFrom).mapError past.goOnFrom

theorem fire_goOnFrom (past o : Observed σ) (t : Timer) (timers : TimerQueue) :
    (past.goOnFrom o).fire t timers = past.goOnFrom (o.fire t timers) := by
  simp [fire, flush, goOnFrom, ← Array.toList_inj, Nat.add_assoc]

/-- Draining does not look at what was observed before. -/
theorem drainFrom_goOnFrom (room : Nat) (past o : Observed σ) :
    drainFrom room (past.goOnFrom o) = past.goOnFrom (drainFrom room o) := by
  induction room generalizing o with
  | zero => rfl
  | succ room ih =>
    have hplayback : (past.goOnFrom o).playback = o.playback := rfl
    rw [drainFrom, drainFrom, hplayback]
    split
    · rw [fire_goOnFrom, ih]
    · split
      · split
        · rfl
        · split
          · rw [fire_goOnFrom, ih]
          · rfl
      · rfl

end Observed

namespace Playback

variable {σ : Type} [Display σ] {pb : Playback σ}

/-- **Draining is the two loops.** -/
theorem drain_eq_passes (pb : Playback σ) (limit : Nat) :
    pb.drain limit = Observed.passes limit (Observed.flush { playback := pb }) := by
  have hfired : (Observed.flush { playback := pb }).fired + limit = limit := Nat.zero_add limit
  rw [drain]
  split
  · next hrunning => exact Observed.drainFrom_eq_passes limit hfired (.inr (.inr hrunning))
  · next hidle => exact (Observed.passes_of_not fun h => hidle h.1).symm

/-- The observer is told all that a player notes whose events nobody takes, and the player has nothing left. -/
theorem exists_fires_drain (pb : Playback σ) (limit : Nat) :
    ∃ pb', pb.Fires (pb.drain limit).fired pb' ∧
      pb'.takeEvents = ((pb.drain limit).events, (pb.drain limit).playback) := by
  refine ⟨_, fires_drain pb limit, Prod.ext (log_whole_drain pb limit) ?_⟩
  change (pb.drain limit).playback.takeEvents.2 = _
  rw [takeEvents_of_log (log_drain pb limit)]

/-! ### Lone players -/

/-- A drain has nothing to tell at once where the events were taken before, and nothing to do where no timer
is left. -/
theorem drain_eq_drainFrom_of_log (hlog : pb.player.log = [])
    (hready : pb.player.isRunning = false → pb.timers.pending = []) (limit : Nat) :
    pb.drain limit = Observed.drainFrom limit { playback := pb } := by
  have hflush : Observed.flush { playback := pb } = { playback := pb } := Observed.flush_of_log hlog
  rcases hrunning : pb.player.isRunning with _ | _
  · rw [drain_eq_flush hrunning, hflush, Observed.drainFrom_of_isEmpty limit (hready hrunning)]
  · rw [drain_eq_drainFrom hrunning, hflush]

/-- A lone player has ended where a drain has allowance left. -/
theorem idle_of_fired_drain_lt (hlone : pb.Lone) (hsound : pb.player.Sound) {limit : Nat}
    (h : (pb.drain limit).fired < limit) : (pb.drain limit).playback.player.isRunning = false ∧
      (pb.drain limit).playback.timers.pending = [] := by
  have hidle : (pb.drain limit).playback.player.isRunning = false := by
    refine Bool.eq_false_iff.mpr fun hrunning => ?_
    exact Nat.ne_of_lt h (fired_drain_of_running hlone hsound hrunning)
  exact ⟨hidle, pending_drain_of_idle hlone hsound hidle⟩

/-- **Two drains of a lone player, one after the other, are one.** -/
theorem drain_add (hlone : pb.Lone) (hsound : pb.player.Sound) (m n : Nat) :
    pb.drain (m + n) = (pb.drain m).goOnFrom ((pb.drain m).playback.drain n) := by
  have hself : pb.drain m = (pb.drain m).goOnFrom { playback := (pb.drain m).playback } := by
    simp [Observed.goOnFrom]
  have hadd : pb.drain (m + n) = Observed.drainFrom n (pb.drain m) := by
    rcases hrunning : pb.player.isRunning with _ | _
    · have hqueue := hlone.pending_eq_nil (hsound.rests_of_idle hrunning)
      rw [drain_eq_flush hrunning, drain_eq_flush hrunning, Observed.drainFrom_of_isEmpty n hqueue]
    · rw [drain_eq_drainFrom hrunning, drain_eq_drainFrom hrunning, Observed.drainFrom_add]
  calc pb.drain (m + n)
      = Observed.drainFrom n ((pb.drain m).goOnFrom { playback := (pb.drain m).playback }) :=
        hself ▸ hadd
    _ = (pb.drain m).goOnFrom (Observed.drainFrom n { playback := (pb.drain m).playback }) :=
        Observed.drainFrom_goOnFrom n _ _
    _ = (pb.drain m).goOnFrom ((pb.drain m).playback.drain n) := by
        rw [drain_eq_drainFrom_of_log (log_drain pb m) (pending_drain_of_idle hlone hsound)]

/-- **So they are when times are out of range.**  Either the first drain is broken off, or the second one, or none
of them is. -/
theorem drain?_add (hlone : pb.Lone) (hsound : pb.player.Sound) (hrange : pb.InRange) (m n : Nat) :
    pb.drain? (m + n) = (pb.drain? m).bind (·.drainOn? n) := by
  rcases pb.drain?_cases m hrange with ⟨hends, hlast⟩ | ⟨k, hk, hbreaks, hfired, hcut, hbeyond⟩
  · rw [hends, Except.bind, Observed.drainOn?]
    rcases (pb.drain m).playback.drain?_cases n hlast with ⟨hends', hlast'⟩ | ⟨k, hk, hbreaks, hfired, hcut, hbeyond⟩
    · rw [hends']
      refine (drain?_eq_ok_iff hrange).mpr ⟨(drain_add hlone hsound m n).symm, ?_⟩
      rw [drain_add hlone hsound]
      exact hlast'
    · -- the first drain has used its allowance up, for otherwise nothing was left to fire
      have hrunning : (pb.drain m).playback.player.isRunning = true := by
        refine Bool.not_eq_false _ |>.mp fun hidle => hbeyond ?_
        rw [drain_eq_flush hidle]
        exact ⟨hlast.timers, hlast.repeats_lt⟩
      have hall := fired_drain_of_running hlone hsound hrunning
      have hsum : ((pb.drain m).goOnFrom ((pb.drain m).playback.drain k)).fired = m + k := by
        change (pb.drain m).fired + ((pb.drain m).playback.drain k).fired = m + k
        rw [hall, hfired]
      rw [hbreaks]
      refine (drain?_eq_error_iff hrange).mpr ?_
      rw [hsum, Nat.add_assoc, drain_add hlone hsound, drain_add hlone hsound]
      exact ⟨Nat.add_lt_add_left hk m, rfl, hcut, hbeyond⟩
  · rw [hbreaks]
    refine (drain?_eq_error_iff hrange).mpr ?_
    rw [hfired]
    exact ⟨Nat.lt_add_right n hk, rfl, hcut, hbeyond⟩

omit [Display σ] in
/-- A player that shares its queue with nobody's timers is a lone one. -/
theorem lone_of_kept {w : Shared} (h : w.Kept) (hpopped : w.popped = false)
    (hown : ∀ t ∈ w.timers.pending, w.player.pendingToken? = some t.token) (display : σ) :
    (w.facing display).Lone := by
  have hwaiting : w.waiting = w.timers.pending :=
    List.filter_eq_self.mpr fun t ht => by simpa using h.pending_mem t.token (hown t ht)
  have hmap := congrArg (List.map Prod.fst) h.waiting_eq
  rw [hwaiting, hpopped] at hmap
  simpa [Lone, Shared.facing, Player.pendingToken?, Option.toList_map, Function.comp_def] using hmap

/-- **A drain ends within its allowance, or at the first time out of range, and may be cut anywhere.**  It is two
loops, of which the outer one fires a timer in each pass; the observer is told all events once and in order, and
none is left.  It ends exactly when what it comes to without a horizon is in range, and so it does while all
delays fit before the horizon; one that is broken off has told what one with a smaller allowance tells.  Whatever the player and others did before, if only the player's own timer waits,
two drains are one with both allowances, and where allowance is left, playback has ended and no timer waits. -/
theorem drain_in_portions :
    (∀ (pb : Playback σ) (n : Nat), pb.InRange →
      (∀ o, pb.drain? n = .ok o ↔ o = pb.drain n ∧ (pb.drain n).playback.InRange) ∧
      (∀ o, pb.drain? n = .error o → o.fired < n ∧ pb.drain? o.fired = .ok o) ∧
      ∀ bound, pb.timers.Below bound →
        bound + n * pb.player.config.playback.longestDelay ≤ TimerQueue.horizon →
        pb.player.repeats + n < UInt32.size → pb.drain? n = .ok (pb.drain n)) ∧
    (∀ (pb : Playback σ) (n : Nat),
      pb.drain n = Observed.passes n (Observed.flush { playback := pb }) ∧
      (pb.drain n).fired ≤ n ∧
      (pb.drain n).playback.player.log = [] ∧
      ∃ pb', pb.Fires (pb.drain n).fired pb' ∧
        pb'.takeEvents = ((pb.drain n).events, (pb.drain n).playback)) ∧
    (∀ (o : Observed σ) (n due : Nat), o.playback.player.isRunning = true → o.fired < n →
      o.playback.timers.nextDue? = some due →
      o.fired < (o.pass n due).fired ∧ (o.pass n due).fired ≤ n) ∧
    ∀ (registry : Registry) (config : Config) (source : RandomSource) (timers : TimerQueue) (w : Shared),
      Shared.Leads { player := { registry, config, source }, timers } w → w.popped = false →
      (∀ t ∈ w.timers.pending, w.player.pendingToken? = some t.token) → ∀ (display : σ) (m n : Nat),
        (w.facing display).InRange →
        (w.facing display).drain? (m + n) = ((w.facing display).drain? m).bind (·.drainOn? n) ∧
        ∀ o, (w.facing display).drain? n = .ok o → o.fired < n →
          o.playback.player.isRunning = false ∧ o.playback.timers.pending = [] := by
  refine ⟨fun pb n hrange => ⟨fun o => drain?_eq_ok_iff hrange, fun o => drain?_fired_of_eq_error hrange,
      fun bound hbelow hhorizon hcount => ?_⟩,
    fun pb n => ⟨drain_eq_passes pb n, drain_fired_le pb n, log_drain pb n, exists_fires_drain pb n⟩,
    fun o n due hrunning hroom hdue => Observed.fired_lt_fired_pass hrunning hroom hdue,
    fun registry config source timers w hleads hpopped hown display m n hrange => ?_⟩
  · have hfired := pb.drain_fired_le n
    refine drain?_eq_ok_of_below hrange hbelow ?_ ?_
    · exact Nat.le_trans (Nat.add_le_add_left (Nat.mul_le_mul_right _ hfired) _) hhorizon
    · exact Nat.lt_of_le_of_lt (Nat.add_le_add_left hfired _) hcount
  · have hkept : w.Kept := (Shared.kept_new registry config source timers).leads hleads
    have hlone := lone_of_kept hkept hpopped hown display
    refine ⟨drain?_add hlone hkept.sound hrange m n, fun o hdrain hfired => ?_⟩
    obtain ⟨rfl, -⟩ := (drain?_eq_ok_iff hrange).mp hdrain
    exact idle_of_fired_drain_lt hlone hkept.sound hfired

end Playback

namespace Sample

/-- The sample is played on a queue of its own. -/
def alone : Shared :=
  { player := (idle (some 1)).player, timers := .empty : Shared }.call stage (.play flow)

/-- The default delays, on a clock on which less than two of them are left. -/
def belated : Playback Stage :=
  { timed {} with timers := TimerQueue.empty.advanceTo 18446744073709551615000 }

end Sample

/-- The sample is over after five timers, whether it is drained at once or in two portions. -/
theorem Playback.drain_in_portions_sample :
    (Sample.alone.facing Sample.stage).InRange ∧
      (Sample.alone.facing Sample.stage).drain? (2 + 7) =
        ((Sample.alone.facing Sample.stage).drain? 2).bind (·.drainOn? 7) ∧
      ∃ o, (Sample.alone.facing Sample.stage).drain? 7 = .ok o ∧ o.fired = 5 ∧
        o.playback.player.isRunning = false := by
  have hleads : Shared.Leads { player := (Sample.idle (some 1)).player, timers := .empty } Sample.alone :=
    .single <| .call Sample.stage (.play Sample.flow) <|
      iff_of_false Bool.false_ne_true fun ⟨_, htold, _⟩ => by cases htold
  have hown : ∀ t ∈ Sample.alone.timers.pending, Sample.alone.player.pendingToken? = some t.token := by
    decide
  have hrange : (Sample.alone.facing Sample.stage).InRange := by decide
  obtain ⟨hends, -, -, hall⟩ := drain_in_portions (σ := Stage)
  obtain ⟨hadd, hidle⟩ := hall _ _ _ _ _ hleads rfl hown Sample.stage 2 7 hrange
  have hdrain := (hends _ 7 hrange).2.2 501 ⟨by decide, by decide⟩ (by decide) (by decide)
  have hfired : ((Sample.alone.facing Sample.stage).drain 7).fired = 5 := rfl
  exact ⟨hrange, hadd, _, hdrain, hfired, (hidle _ hdrain (by rw [hfired]; decide)).1⟩

/-- **A drain does not return when its first timer sets the next one beyond the horizon.** -/
theorem Playback.drain?_belated : Sample.belated.player.config.validate = .ok () ∧
    ∃ pb', Sample.belated.play? Sample.flow = some (.ok (.started, pb')) ∧ pb'.InRange ∧
      ∃ o, pb'.drain? 10 = .error o ∧ o.fired = 0 :=
  ⟨by decide +kernel, _, rfl, by decide, _, rfl, rfl⟩

end Marionette

import Marionette.Proofs.Playback.Range
import Marionette.Proofs.Playback.Rounds

/-!
# The horizon of the clock

A wakeup sets one timer at most, and no timer is ever taken back.  So a sum of times that is out of range cannot
be undone: the timer that it was made for is still to fire, or has taken the clock out of range with it.
Therefore it is enough to look at what a drain on a clock without a horizon comes to.  If that is in range, then
so was all before it, and the horizon was of no consequence.  If it is not, then the program ends at the first
wakeup that leaves the range, and what had been observed until then is what a smaller allowance gives.

## Main definitions

* `TimerQueue.Below` — all times are before some time.
* `Playback.Sets` — what a wakeup does to times, to the count of repeat runs and to the configuration.
* `Playback.HasTime` — the delays of so many timers fit before the horizon.

## Main results

* `Playback.Starts.play?_eq` — the one sum of a start.
* `Playback.sets_onTimer` — a wakeup makes one sum at most, with one of the delays.
* `Observed.drainFrom?_cases` — draining comes to an end, or to a sum out of range.
* `Playback.drain?_eq_ok_iff`, `Playback.drain?_eq_error_iff` — which of the two it is.
* `Playback.drain?_eq_ok_of_below` — a drain comes to its end when all delays fit before the horizon.
-/

namespace Marionette

/-! ### Times before a bound -/

namespace TimerQueue

/-- Every time of the queue is before `bound`. -/
structure Below (bound : Nat) (q : TimerQueue) : Prop where
  now_lt : q.now < bound
  due_lt : ∀ t ∈ q.pending, t.due < bound

variable {q q' : TimerQueue} {bound : Nat}

theorem Below.inRange (h : q.Below bound) (hle : bound ≤ horizon) : q.InRange :=
  ⟨Nat.lt_of_lt_of_le h.now_lt hle, fun t ht => Nat.lt_of_lt_of_le (h.due_lt t ht) hle⟩

theorem Below.mono (h : q.Below bound) {more : Nat} (hle : bound ≤ more) : q.Below more :=
  ⟨Nat.lt_of_lt_of_le h.now_lt hle, fun t ht => Nat.lt_of_lt_of_le (h.due_lt t ht) hle⟩

/-- A new timer is due one delay later at most. -/
theorem Below.schedule (h : q.Below bound) (wakeup : Wakeup) {delay span : Nat} (hdelay : delay ≤ span) :
    (q.schedule wakeup delay).2.Below (bound + span) := by
  have hnow := h.now_lt
  refine ⟨Nat.lt_add_right span hnow, fun t ht => ?_⟩
  rcases (q.mem_pending_schedule wakeup delay t).mp ht with rfl | ht
  · change q.now + delay < bound + span
    omega
  · exact Nat.lt_add_right span (h.due_lt t ht)

/-- The clock jumps to a due time at most. -/
theorem Below.of_fired {t : Timer} (h : q.Below bound) (hpending : q.pending = t :: q'.pending)
    (hnow : q'.now = max q.now t.due) : q'.Below bound := by
  constructor
  · rw [hnow]
    exact Nat.max_lt.mpr ⟨h.now_lt, h.due_lt t (hpending ▸ List.mem_cons_self)⟩
  · intro u hu
    exact h.due_lt u (hpending ▸ List.mem_cons_of_mem t hu)

/-- When the clock is in range after a timer was fired and so are the timers that are left, they were before. -/
theorem InRange.of_fired {t : Timer} (h : q'.InRange) (hpending : q.pending = t :: q'.pending)
    (hnow : q'.now = max q.now t.due) : q.InRange := by
  have hmax := h.now_lt
  rw [hnow, Nat.max_lt] at hmax
  refine ⟨hmax.1, fun u hu => ?_⟩
  rw [hpending] at hu
  rcases List.mem_cons.mp hu with rfl | hu
  · exact hmax.2
  · exact h.due_lt u hu

/-- Scheduling has taken nothing away. -/
theorem InRange.of_schedule {wakeup : Wakeup} {delay : Nat} (h : (q.schedule wakeup delay).2.InRange) :
    q.InRange :=
  ⟨h.now_lt, fun t ht => h.due_lt t ((q.mem_pending_schedule wakeup delay t).mpr (.inr ht))⟩

end TimerQueue

/-! ### Wakeups -/

/-- From the timers `q` on, one timer is set at most, with a delay that is no longer than the longest, and one
repeat run more is counted at most. -/
structure Playback.Sets {σ : Type} (q : TimerQueue) (repeats : Nat) (config : Config) (pb' : Playback σ) :
    Prop where
  timers : pb'.timers = q ∨ ∃ wakeup delay, delay ≤ config.playback.longestDelay ∧
    pb'.timers = (q.schedule wakeup delay).2
  repeats : pb'.player.repeats = repeats ∨ pb'.player.repeats = repeats + 1
  config_eq : pb'.player.config = config

namespace Playback

section Sets

variable {σ : Type} {q : TimerQueue} {repeats bound : Nat} {config : Config} {pb' : Playback σ}

theorem Sets.below (h : pb'.Sets q repeats config) (hq : q.Below bound) :
    pb'.timers.Below (bound + config.playback.longestDelay) := by
  rcases h.timers with htimers | ⟨wakeup, delay, hdelay, htimers⟩
  · rw [htimers]
    exact hq.mono (Nat.le_add_right _ _)
  · rw [htimers]
    exact hq.schedule wakeup hdelay

/-- What is in range afterwards was so before. -/
theorem Sets.inRange (h : pb'.Sets q repeats config) (hrange : pb'.InRange) :
    q.InRange ∧ repeats < UInt32.size := by
  have hcount := hrange.repeats_lt
  have htimers := hrange.timers
  constructor
  · rcases h.timers with hq | ⟨wakeup, delay, -, hq⟩
    · exact hq ▸ htimers
    · exact (hq ▸ htimers).of_schedule
  · rcases h.repeats with heq | heq <;> omega

end Sets

variable {σ : Type} {pb pb' : Playback σ}

theorem sets_arm (pb : Playback σ) (hpending : pb.player.pending? = none) (wakeup : Wakeup) {delay : Nat}
    (hdelay : delay ≤ pb.player.config.playback.longestDelay) :
    (pb.arm wakeup delay).Sets pb.timers pb.player.repeats pb.player.config := by
  refine ⟨.inr ⟨wakeup, delay, hdelay, pb.timers_arm hpending wakeup delay⟩, .inl ?_, ?_⟩
  · rw [player_arm]
  · rw [player_arm]

variable [Display σ]

theorem sets_finish (pb : Playback σ) (e : Event) :
    (pb.finish e).Sets pb.timers pb.player.repeats pb.player.config :=
  ⟨.inl rfl, .inl rfl, rfl⟩

/-- A snapshot on the display makes no difference to the player but in its log. -/
theorem exists_player_present (pb : Playback σ) : ∃ log, pb.present.player = { pb.player with log } := by
  rw [present]
  split
  · exact ⟨_, rfl⟩
  · split
    · exact ⟨_, rfl⟩
    · exact ⟨_, rfl⟩

theorem sets_goOn (pb : Playback σ) (hpending : pb.player.pending? = none) (run : Run) (s : Snapshot) :
    (pb.goOn run s).Sets pb.timers pb.player.repeats pb.player.config := by
  have hhold := pb.player.hold_le s
  rw [goOn]
  dsimp only
  split
  · split
    · exact sets_finish pb _
    · refine sets_arm (pb.note _) hpending .restart ?_
      exact Nat.add_le_add hhold (Nat.le_max_right _ _)
  · split
    · exact sets_finish pb _
    · refine sets_arm pb hpending .advance ?_
      exact Nat.add_le_add hhold (Nat.le_max_left _ _)

theorem sets_advance (pb : Playback σ) (hpending : pb.player.pending? = none) :
    pb.advance.Sets pb.timers pb.player.repeats pb.player.config := by
  rw [advance]
  split
  · exact sets_finish pb _
  · next run hrun =>
    dsimp only
    split
    · exact sets_finish (pb.takeUp run.next) _
    · next s hs =>
      obtain ⟨log, hplayer⟩ := exists_player_present (pb.takeUp run.next)
      have hpending' : (pb.takeUp run.next).present.player.pending? = none := by
        rw [hplayer]
        exact hpending
      have hsets := sets_goOn _ hpending' run.next s
      rw [timers_present, hplayer] at hsets
      exact hsets

theorem sets_startRepeat (pb : Playback σ) (hpending : pb.player.pending? = none) :
    pb.startRepeat.Sets pb.timers pb.player.repeats pb.player.config := by
  rw [startRepeat]
  split
  · exact sets_finish pb _
  · next run hrun =>
    split
    · exact sets_finish pb _
    · next s hs =>
      dsimp only
      split
      · exact ⟨.inl rfl, .inr rfl, rfl⟩
      · refine ⟨.inr ⟨.advance, pb.player.stepDelay, ?_, timers_arm _ hpending _ _⟩, .inr ?_, ?_⟩
        · exact Nat.le_trans (Nat.le_max_left _ _) (Nat.le_add_left _ _)
        · rw [player_arm]
          rfl
        · rw [player_arm]
          rfl

/-- **A wakeup sets one timer at most, and takes none back.** -/
theorem sets_onTimer (pb : Playback σ) (token : TimerToken) :
    (pb.onTimer token).2.Sets pb.timers pb.player.repeats pb.player.config := by
  rw [onTimer]
  split
  · exact ⟨.inl rfl, .inl rfl, rfl⟩
  · split
    · dsimp only
      split
      · exact sets_advance { pb with player := { pb.player with pending? := none } } rfl
      · exact sets_startRepeat { pb with player := { pb.player with pending? := none } } rfl
    · exact ⟨.inl rfl, .inl rfl, rfl⟩

/-! ### Answers -/

variable {flow : Flow}

theorem onTimer?_eq (pb : Playback σ) (token : TimerToken) :
    pb.onTimer? token = if (pb.onTimer token).2.InRange then some (pb.onTimer token) else none := rfl

/-- An answer is what the call comes to on a clock without a horizon, and it is in range. -/
theorem play?_eq_some_iff {r : Except Refusal (PlayOutcome × Playback σ)} :
    pb.play? flow = some r ↔
      pb.play flow = r ∧ ∀ outcome pb', r = .ok (outcome, pb') → pb'.InRange := by
  rw [play?]
  rcases pb.play flow with refusal | ⟨outcome, next⟩
  · constructor
    · intro h
      cases h
      exact ⟨rfl, fun _ _ h => by cases h⟩
    · rintro ⟨rfl, -⟩
      rfl
  · dsimp only
    by_cases hrange : next.InRange
    · rw [if_pos hrange]
      constructor
      · intro h
        cases h
        exact ⟨rfl, fun _ _ h => by cases h; exact hrange⟩
      · rintro ⟨rfl, -⟩
        rfl
    · rw [if_neg hrange]
      constructor
      · intro h
        cases h
      · rintro ⟨rfl, h⟩
        exact absurd (h outcome next rfl) hrange

/-- A start that is answered leaves everything in range. -/
theorem starts_of_play? (h : pb.play? flow = some (.ok (.started, pb'))) : pb.Starts flow pb' ∧ pb'.InRange := by
  obtain ⟨hplay, hrange⟩ := play?_eq_some_iff.mp h
  exact ⟨starts_of_play hplay, hrange _ _ rfl⟩

/-- **The one sum of a start.** -/
theorem Starts.inRange_iff (h : pb.Starts flow pb') (hrests : pb.player.Rests) (hrange : pb.InRange) :
    pb'.InRange ↔ pb.timers.now + pb.player.stepDelay < TimerQueue.horizon := by
  obtain ⟨first, hstart, -⟩ := h.exists_playsAt
  have htimers : pb'.timers = (pb.timers.schedule .advance pb.player.stepDelay).2 := by
    rw [hstart]
    exact timers_arm _ hrests.pending_eq _ _
  rw [← hrange.timers.schedule_iff .advance, ← htimers]
  exact ⟨fun hrange => hrange.timers, fun htimers => ⟨htimers, by rw [h.repeats_eq]; decide⟩⟩

/-- A start has an answer if its sum is in range. -/
theorem Starts.play?_eq (h : pb.Starts flow pb') (hrests : pb.player.Rests) (hrange : pb.InRange) :
    pb.play? flow =
      if pb.timers.now + pb.player.stepDelay < TimerQueue.horizon then some (.ok (.started, pb')) else none := by
  have hplay : pb.play flow = .ok (.started, pb') := by
    rw [play_of_idle hrests.isRunning_eq h.isEmpty_eq, h.eq_start]
  rw [play?, hplay]
  simp only [h.inRange_iff hrests hrange]

/-- Where nothing is started no sum is made. -/
theorem play?_of_not_started (hrange : pb.InRange) (h : ∀ pb', pb.play flow ≠ .ok (.started, pb')) :
    pb.play? flow = some (pb.play flow) := by
  refine play?_eq_some_iff.mpr ⟨rfl, fun outcome pb' hplay => ?_⟩
  cases outcome with
  | started => exact absurd hplay (h pb')
  | empty =>
    rw [play] at hplay
    split at hplay
    · cases hplay
    · dsimp only at hplay
      split at hplay
      · cases hplay
        exact ⟨hrange.timers, hrange.repeats_lt⟩
      · cases hplay

end Playback

/-! ### Draining -/

namespace Observed

variable {σ : Type} [Display σ] {o o' : Observed σ}

omit [Display σ] in
/-- The next timer is the first of the queue, and the clock then shows its due time or a later one. -/
theorem of_next? {t : Timer} {timers : TimerQueue} (h : o.next? = some (t, timers)) :
    o.playback.timers.pending = t :: timers.pending ∧ timers.now = max o.playback.timers.now t.due := by
  rw [next?] at h
  split at h
  · next next hpop =>
    obtain rfl := Option.some.inj h
    obtain ⟨hdue, hpending, -⟩ := TimerQueue.le_of_popDue? hpop
    exact ⟨hpending, (TimerQueue.now_of_popDue? hpop).1.trans (Nat.max_eq_left hdue).symm⟩
  · split at h
    · obtain ⟨due, hnext, hpop⟩ := Option.bind_eq_some_iff.mp h
      obtain ⟨-, hpending, -⟩ := TimerQueue.le_of_popDue? hpop
      have hdue : t.due = due := by
        rw [TimerQueue.nextDue?, show o.playback.timers.pending = t :: timers.pending from hpending] at hnext
        exact Option.some.inj hnext
      exact ⟨hpending, (TimerQueue.now_of_popDue? hpop).1.trans (by rw [hdue]; rfl)⟩
    · cases h

theorem drainFrom_of_next?_eq_none (room : Nat) (h : o.next? = none) : drainFrom room o = o := by
  cases room with
  | zero => rfl
  | succ room =>
    rw [next?] at h
    rw [drainFrom]
    split at h
    · cases h
    · next hpop =>
      rw [hpop]
      dsimp only
      split at h
      · next hrunning =>
        rw [if_pos hrunning]
        rcases hdue : o.playback.timers.nextDue? with _ | due
        · rfl
        · rw [hdue, Option.bind_some] at h
          dsimp only
          rw [h]
      · next hidle => rw [if_neg hidle]

theorem drainFrom_of_next? (room : Nat) {t : Timer} {timers : TimerQueue} (h : o.next? = some (t, timers)) :
    drainFrom (room + 1) o = drainFrom room (o.fire t timers) := by
  rw [next?] at h
  rw [drainFrom]
  split at h
  · next next hpop =>
    obtain rfl := Option.some.inj h
    rw [hpop]
  · next hpop =>
    rw [hpop]
    dsimp only
    split at h
    · next hrunning =>
      obtain ⟨due, hdue, hpop'⟩ := Option.bind_eq_some_iff.mp h
      rw [if_pos hrunning, hdue]
      dsimp only
      rw [hpop']
    · cases h

/-- What is in range after a timer was fired was so before. -/
theorem inRange_of_fire {t : Timer} {timers : TimerQueue} (h : o.next? = some (t, timers))
    (hrange : (o.fire t timers).playback.InRange) : o.playback.InRange := by
  obtain ⟨hpending, hnow⟩ := of_next? h
  have hsets := Playback.sets_onTimer { o.playback with timers } t.token
  obtain ⟨htimers, hrepeats⟩ := hsets.inRange ⟨hrange.timers, hrange.repeats_lt⟩
  exact ⟨htimers.of_fired hpending hnow, hrepeats⟩

/-- **What is in range after draining was so all the time.** -/
theorem inRange_of_drainFrom (room : Nat) (hrange : (drainFrom room o).playback.InRange) :
    o.playback.InRange := by
  induction room generalizing o with
  | zero => exact hrange
  | succ room ih =>
    rcases hnext : o.next? with _ | ⟨t, timers⟩
    · rwa [drainFrom_of_next?_eq_none _ hnext] at hrange
    · rw [drainFrom_of_next? room hnext] at hrange
      exact inRange_of_fire hnext (ih hrange)

/-- A timer is fired if what comes of it is in range. -/
theorem drainFrom?_of_next? (room : Nat) {t : Timer} {timers : TimerQueue} (h : o.next? = some (t, timers)) :
    drainFrom? (room + 1) o =
      if (o.fire t timers).playback.InRange then drainFrom? room (o.fire t timers) else .error o := by
  have hiff : (Playback.onTimer { o.playback with timers } t.token).2.InRange ↔
      (o.fire t timers).playback.InRange :=
    ⟨fun hrange => ⟨hrange.timers, hrange.repeats_lt⟩, fun hrange => ⟨hrange.timers, hrange.repeats_lt⟩⟩
  rw [drainFrom?, h]
  dsimp only
  rw [Playback.onTimer?_eq]
  by_cases hrange : (o.fire t timers).playback.InRange
  · rw [if_pos hrange, if_pos (hiff.mpr hrange)]
    rfl
  · rw [if_neg hrange, if_neg (hiff.not.mpr hrange)]

/-- **Draining comes to an end, or to a sum out of range.**  Then it has fired as many timers as were in range,
and the next one is not. -/
theorem drainFrom?_cases (room : Nat) (hrange : o.playback.InRange) :
    drainFrom? room o = .ok (drainFrom room o) ∧ (drainFrom room o).playback.InRange ∨
    ∃ n < room, drainFrom? room o = .error (drainFrom n o) ∧ (drainFrom n o).fired = o.fired + n ∧
      (drainFrom n o).playback.InRange ∧ ¬ (drainFrom (n + 1) o).playback.InRange := by
  induction room generalizing o with
  | zero => exact .inl ⟨rfl, hrange⟩
  | succ room ih =>
    rcases hnext : o.next? with _ | ⟨t, timers⟩
    · have hstops : drainFrom? (room + 1) o = .ok o := by rw [drainFrom?, hnext]
      rw [drainFrom_of_next?_eq_none _ hnext]
      exact .inl ⟨hstops, hrange⟩
    · rw [drainFrom?_of_next? room hnext]
      by_cases hfire : (o.fire t timers).playback.InRange
      · rw [if_pos hfire, drainFrom_of_next? room hnext]
        rcases ih hfire with hends | ⟨n, hn, hbreaks, hfired, hlast, hbeyond⟩
        · exact .inl hends
        · refine .inr ⟨n + 1, Nat.succ_lt_succ hn, ?_⟩
          rw [drainFrom_of_next? n hnext, drainFrom_of_next? (n + 1) hnext, hfired, fired_fire]
          exact ⟨hbreaks, by omega, hlast, hbeyond⟩
      · rw [if_neg hfire]
        refine .inr ⟨0, Nat.succ_pos room, rfl, rfl, hrange, ?_⟩
        rw [drainFrom_of_next? 0 hnext]
        exact hfire

/-- Every timer takes the times one longest delay further at most. -/
theorem below_drainFrom {config : Config} {bound : Nat} (room : Nat) (hconfig : o.playback.player.config = config)
    (h : o.playback.timers.Below (bound + o.fired * config.playback.longestDelay)) :
    (drainFrom room o).playback.timers.Below
        (bound + (drainFrom room o).fired * config.playback.longestDelay) ∧
      (drainFrom room o).playback.player.repeats + o.fired ≤
        o.playback.player.repeats + (drainFrom room o).fired := by
  induction room generalizing o with
  | zero => exact ⟨h, Nat.le_refl _⟩
  | succ room ih =>
    rcases hnext : o.next? with _ | ⟨t, timers⟩
    · rw [drainFrom_of_next?_eq_none _ hnext]
      exact ⟨h, Nat.le_refl _⟩
    · obtain ⟨hpending, hnow⟩ := of_next? hnext
      have hsets := Playback.sets_onTimer { o.playback with timers } t.token
      have hbelow := hsets.below (h.of_fired hpending hnow)
      change (o.fire t timers).playback.timers.Below (_ + o.playback.player.config.playback.longestDelay)
        at hbelow
      rw [hconfig, Nat.add_assoc, ← Nat.succ_mul] at hbelow
      rw [drainFrom_of_next? room hnext]
      obtain ⟨htimers, hrepeats⟩ := ih (o := o.fire t timers) (hsets.config_eq.trans hconfig) hbelow
      refine ⟨htimers, ?_⟩
      have hcount : (o.fire t timers).playback.player.repeats = o.playback.player.repeats ∨
          (o.fire t timers).playback.player.repeats = o.playback.player.repeats + 1 := hsets.repeats
      rw [fired_fire] at hrepeats
      omega

end Observed

namespace Playback

variable {σ : Type} [Display σ] {pb : Playback σ} {o : Observed σ} {n : Nat}

/-- Draining makes its sums timer by timer. -/
theorem drain?_cases (n : Nat) (hrange : pb.InRange) :
    pb.drain? n = .ok (pb.drain n) ∧ (pb.drain n).playback.InRange ∨
    ∃ k < n, pb.drain? n = .error (pb.drain k) ∧ (pb.drain k).fired = k ∧
      (pb.drain k).playback.InRange ∧ ¬ (pb.drain (k + 1)).playback.InRange := by
  have hflush : (Observed.flush { playback := pb }).playback.InRange := ⟨hrange.timers, hrange.repeats_lt⟩
  rcases hrunning : pb.player.isRunning with _ | _
  · have hidle : (Observed.flush { playback := pb }).playback.player.isRunning = false := hrunning
    rw [drain_eq_flush hrunning, drain?, hidle]
    exact .inl ⟨rfl, hflush⟩
  · have hrunning' : (Observed.flush { playback := pb }).playback.player.isRunning = true := hrunning
    simp only [drain_eq_drainFrom hrunning]
    rw [drain?, hrunning', if_pos rfl]
    simpa [Observed.flush] using Observed.drainFrom?_cases n hflush

/-- What is in range after a drain was so after any shorter one. -/
theorem inRange_drain_of_le {m : Nat} (hmn : m ≤ n) (hrange : (pb.drain n).playback.InRange) :
    (pb.drain m).playback.InRange := by
  obtain ⟨k, rfl⟩ := Nat.exists_eq_add_of_le hmn
  rcases hrunning : pb.player.isRunning with _ | _
  · rw [drain_eq_flush hrunning] at hrange ⊢
    exact hrange
  · rw [drain_eq_drainFrom hrunning] at hrange ⊢
    rw [Observed.drainFrom_add] at hrange
    exact Observed.inRange_of_drainFrom k hrange

/-- **A drain comes to its end exactly when that is in range.** -/
theorem drain?_eq_ok_iff (hrange : pb.InRange) :
    pb.drain? n = .ok o ↔ o = pb.drain n ∧ (pb.drain n).playback.InRange := by
  rcases pb.drain?_cases n hrange with ⟨hends, hlast⟩ | ⟨k, hk, hbreaks, -, -, hbeyond⟩
  · rw [hends]
    exact ⟨fun h => ⟨(Except.ok.inj h).symm, hlast⟩, fun h => congrArg Except.ok h.1.symm⟩
  · rw [hbreaks]
    constructor
    · intro h
      cases h
    · rintro ⟨-, hlast⟩
      exact absurd (inRange_drain_of_le hk hlast) hbeyond

/-- **Otherwise the program ends** after as many timers as were in range. -/
theorem drain?_eq_error_iff (hrange : pb.InRange) :
    pb.drain? n = .error o ↔ o.fired < n ∧ o = pb.drain o.fired ∧ o.playback.InRange ∧
      ¬ (pb.drain (o.fired + 1)).playback.InRange := by
  rcases pb.drain?_cases n hrange with ⟨hends, hlast⟩ | ⟨k, hk, hbreaks, hfired, hcut, hbeyond⟩
  · rw [hends]
    constructor
    · intro h
      cases h
    · rintro ⟨hlt, -, -, hbeyond⟩
      exact absurd (inRange_drain_of_le hlt hlast) hbeyond
  · rw [hbreaks]
    constructor
    · intro h
      obtain rfl := Except.error.inj h
      rw [hfired]
      exact ⟨hk, rfl, hcut, hbeyond⟩
    · rintro ⟨-, heq, hrange', hbeyond'⟩
      have hle : o.fired ≤ k := by
        by_contra hlt
        exact hbeyond (inRange_drain_of_le (Nat.lt_of_not_le hlt) (heq ▸ hrange'))
      have hge : k ≤ o.fired := by
        by_contra hlt
        exact hbeyond' (inRange_drain_of_le (Nat.lt_of_not_le hlt) hcut)
      rw [heq, Nat.le_antisymm hle hge]

/-- What had been observed when a sum was out of range is what a smaller allowance gives. -/
theorem drain?_fired_of_eq_error (hrange : pb.InRange) (h : pb.drain? n = .error o) :
    o.fired < n ∧ pb.drain? o.fired = .ok o := by
  obtain ⟨hlt, heq, hcut, -⟩ := (drain?_eq_error_iff hrange).mp h
  exact ⟨hlt, (drain?_eq_ok_iff hrange).mpr ⟨heq, heq ▸ hcut⟩⟩

/-- **A drain comes to its end when all delays fit before the horizon** and all repeat runs can be counted. -/
theorem drain?_eq_ok_of_below {bound : Nat} (hrange : pb.InRange) (hbelow : pb.timers.Below bound)
    (hhorizon : bound + (pb.drain n).fired * pb.player.config.playback.longestDelay ≤ TimerQueue.horizon)
    (hcount : pb.player.repeats + (pb.drain n).fired < UInt32.size) :
    pb.drain? n = .ok (pb.drain n) := by
  refine (drain?_eq_ok_iff hrange).mpr ⟨rfl, ?_⟩
  rcases hrunning : pb.player.isRunning with _ | _
  · rw [drain_eq_flush hrunning]
    exact ⟨hrange.timers, hrange.repeats_lt⟩
  · rw [drain_eq_drainFrom hrunning] at hhorizon hcount ⊢
    have hflush : (Observed.flush { playback := pb }).playback.timers.Below
        (bound + 0 * pb.player.config.playback.longestDelay) := by
      rw [Nat.zero_mul]
      exact hbelow
    obtain ⟨htimers, hrepeats⟩ := Observed.below_drainFrom (o := Observed.flush { playback := pb }) n rfl hflush
    exact ⟨htimers.inRange hhorizon, Nat.lt_of_le_of_lt hrepeats hcount⟩

/-! ### Flows that start -/

omit [Display σ] in
/-- Before the horizon there is time for `n` timers and for the one that they leave, whatever the messages. -/
def HasTime (pb : Playback σ) (n : Nat) : Prop :=
  pb.timers.now + (n + 1) * pb.player.config.playback.longestDelay < TimerQueue.horizon

omit [Display σ] in
instance (pb : Playback σ) (n : Nat) : Decidable (pb.HasTime n) := inferInstanceAs (Decidable (_ < _))

omit [Display σ] in
/-- A new clock has time for 499 timers, whatever the delays are. -/
theorem hasTime_of_lt (hnow : pb.timers.now = 0) (hn : n < 500) : pb.HasTime n := by
  rw [HasTime, hnow, Nat.zero_add]
  exact PlaybackConfig.mul_longestDelay_lt _ hn

variable {pb' : Playback σ} {flow : Flow}

/-- A flow can be started where there is time for its first timer. -/
theorem exists_play?_of_hasTime (hidle : pb.player.isRunning = false) (hqueue : pb.timers.pending = [])
    (hne : (pb.compile flow).1.isEmpty = false) (htime : pb.HasTime 0) :
    ∃ pb', pb.play? flow = some (.ok (.started, pb')) := by
  obtain ⟨pb', hplay, hstarts⟩ := exists_starts hidle hne
  refine ⟨pb', play?_eq_some_iff.mpr ⟨hplay, fun outcome next hnext => ?_⟩⟩
  obtain ⟨-, rfl⟩ := Prod.mk.inj (Except.ok.inj hnext)
  exact ⟨(hstarts.clocked hqueue).inRange htime, by rw [hstarts.repeats_eq]; decide⟩

/-- Where there is time for the timers that are fired, draining comes to its end. -/
theorem Starts.drain?_eq_of_hasTime (h : pb.Starts flow pb') (hqueue : pb.timers.pending = [])
    (hrange : pb'.InRange) {most : Nat} (hfired : (pb'.drain n).fired ≤ most) (htime : pb.HasTime most)
    (hrepeats : (pb'.drain n).playback.player.repeats < UInt32.size) :
    pb'.drain? n = .ok (pb'.drain n) := by
  have hclocked := clocked_drain n (h.clocked hqueue)
  refine (drain?_eq_ok_iff hrange).mpr ⟨rfl, hclocked.inRange ?_, hrepeats⟩
  calc pb.timers.now + ((pb'.drain n).fired + 1) * pb.player.config.playback.longestDelay
      ≤ pb.timers.now + (most + 1) * pb.player.config.playback.longestDelay :=
        Nat.add_le_add_left (Nat.mul_le_mul_right _ (Nat.succ_le_succ hfired)) _
    _ < TimerQueue.horizon := htime

end Playback

end Marionette

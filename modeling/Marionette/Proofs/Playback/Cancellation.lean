import Marionette.Proofs.Playback.Rounds
import Marionette.Proofs.Playback.Timing
import Mathlib.Logic.Relation

/-!
# Cancelling is a clean cut

Who plays in real time waits for two things at once, the next due time and a cancellation.  Whichever comes
first is taken; when both come at the same time either may be.  So a run may end in more than one way, and
what is shown here holds for all of them.

With delays the player's timer is always due later than now.  Every round then has a time of its own, and a
cancellation cuts the run between two of them: what was told is what would have been told until then if
nobody had cancelled, and after it comes nothing but that playback was stopped.

## Main definitions

* `Observed.EndsIn` — the ways in which a run may end.
* `Observed.Reaches` — what a run that nobody cancels comes to.
* `Observed.Paced` — only the player's own timer waits, and it is not due yet.
* `Observed.CutAt`, `Observed.StoppedAt` — what was told ends at a time; playback was stopped there.

## Main results

* `Observed.endsIn_of_realtimeFrom?` — the driver takes one of the ways.
* `Observed.Paced.exists_round` — each round has one time, which is later than the one before.
* `Playback.cancel_cuts` — cancelling is a clean cut.
-/

namespace Marionette

namespace Observed

variable {σ : Type} [Display σ] {o o' out : Observed σ} {e : RunEnd} {n : Nat}

/-! ### How a run may end -/

/-- The ways in which a run may end that is cancelled when the clock would show `cut`.  Neither for a due
time nor for a cancellation that has passed is there anything to wait. -/
inductive EndsIn (cut : Option Nat) : Observed σ → RunEnd → Observed σ → Prop
  | idle {o : Observed σ} (hidle : o.playback.player.isRunning = false) : EndsIn cut o .completed o
  | starved {o : Observed σ} (hqueue : o.playback.timers.nextDue? = none) : EndsIn cut o .completed o
  | cancelled {o : Observed σ} {due c : Nat} (hrunning : o.playback.player.isRunning = true)
      (hdue : o.playback.timers.nextDue? = some due) (hcut : cut = some c)
      (hle : c ≤ max o.playback.timers.now due) : EndsIn cut o .cancelled o.cancel
  | served {o o' out : Observed σ} {n due : Nat} {e : RunEnd} (hserves : o.Serves n o')
      (hdue : o.playback.timers.nextDue? = some due)
      (hcut : ∀ c ∈ cut, due ≤ max o.playback.timers.now c) (hends : EndsIn cut o' e out) :
      EndsIn cut o e out

/-- The driver takes one of the ways. -/
theorem endsIn_of_realtimeFrom? {cancelAfter : Option Nat} {base fuel : Nat}
    (h : o.realtimeFrom? cancelAfter base fuel = some (e, out)) :
    o.EndsIn (cancelAfter.map (base + ·)) e out := by
  induction fuel generalizing o with
  | zero => cases h
  | succ fuel ih =>
    rw [realtimeFrom?] at h
    rcases hrunning : o.playback.player.isRunning with _ | _
    · simp only [hrunning, Bool.not_false, if_true, Option.some.injEq, Prod.mk.injEq] at h
      obtain ⟨rfl, rfl⟩ := h
      exact .idle hrunning
    · simp only [hrunning, Bool.not_true, Bool.false_eq_true, if_false] at h
      rcases hdue : o.playback.timers.nextDue? with _ | due
      · simp only [hdue, Option.some.injEq, Prod.mk.injEq] at h
        obtain ⟨rfl, rfl⟩ := h
        exact .starved hdue
      · simp only [hdue] at h
        split at h
        · next hcancel =>
          obtain ⟨rfl, rfl⟩ := Prod.mk.inj (Option.some.inj h)
          rcases cancelAfter with _ | span
          · cases hcancel
          · refine .cancelled hrunning hdue rfl ?_
            have : span < due - base := of_decide_eq_true hcancel
            change base + span ≤ _
            omega
        · next hcancel =>
          split at h
          · cases h
          · next playback hfire =>
            refine .served (n := fuel) ⟨hrunning, due, playback, hdue, ?_, rfl⟩ hdue ?_ (ih h)
            · exact fun more hmore => Playback.fireDue?_of_le hfire hmore
            · intro c hc
              rcases cancelAfter with _ | span
              · cases hc
              · obtain rfl : base + span = c := Option.some.inj hc
                have : ¬ span < due - base := fun hlt => hcancel (decide_eq_true hlt)
                omega

/-- What a run that nobody cancels comes to, round by round. -/
def Reaches : Observed σ → Observed σ → Prop := Relation.ReflTransGen fun o o' => ∃ n, o.Serves n o'

/-- A run that nobody cancels is over when the player is idle or no timer waits. -/
theorem EndsIn.reaches (h : o.EndsIn none e out) : e = .completed ∧ o.Reaches out ∧
    (out.playback.player.isRunning = false ∨ out.playback.timers.nextDue? = none) := by
  induction h with
  | idle hidle => exact ⟨rfl, .refl, .inl hidle⟩
  | starved hqueue => exact ⟨rfl, .refl, .inr hqueue⟩
  | cancelled hrunning hdue hcut hle => cases hcut
  | served hserves hdue hcut hends ih => exact ⟨ih.1, .head ⟨_, hserves⟩ ih.2.1, ih.2.2⟩

/-- There is one way for a round to go. -/
theorem Serves.unique {o₁ o₂ : Observed σ} {m : Nat} (h₁ : o.Serves n o₁) (h₂ : o.Serves m o₂) :
    o₁ = o₂ := by
  obtain ⟨-, due, playback, hdue, hfire, rfl⟩ := h₁
  obtain ⟨-, due', playback', hdue', hfire', rfl⟩ := h₂
  obtain rfl : due = due' := Option.some.inj (hdue.symm.trans hdue')
  have hn := hfire (n + m + 1) (by omega)
  have hm := hfire' (n + m + 1) (by omega)
  rw [Option.some.inj (hn.symm.trans hm)]

/-- Of two states of one run, one comes after the other. -/
theorem Reaches.total {o₁ o₂ : Observed σ} (h₁ : o.Reaches o₁) (h₂ : o.Reaches o₂) :
    o₁.Reaches o₂ ∨ o₂.Reaches o₁ :=
  Relation.ReflTransGen.total_of_right_unique (fun _ _ _ ⟨_, h⟩ ⟨_, h'⟩ => h.unique h') h₁ h₂

/-- A player that is idle goes nowhere. -/
theorem Reaches.eq_of_idle (h : o.Reaches o') (hidle : o.playback.player.isRunning = false) : o' = o := by
  rcases Relation.ReflTransGen.cases_head h with rfl | ⟨_, ⟨_, hrunning, -⟩, -⟩
  · rfl
  · exact absurd (hidle.symm.trans hrunning) Bool.false_ne_true

end Observed

/-! ### Rounds of a player that waits -/

namespace Playback

variable {σ : Type} [Display σ] {pb pb' : Playback σ} {run : Run} {actors : List ActorId} {s : Snapshot}
  {hold : Nat}

omit [Display σ] in
/-- With delays, what waits is due later than now. -/
theorem DueIn.lt_due (h : pb.DueIn hold) (hstep : 0 < pb.player.stepDelay)
    (hrepeat : 0 < pb.player.repeatDelay) : ∀ t ∈ pb.timers.pending, pb.timers.now < t.due := by
  intro t ht
  cases h with
  | idle hidle hqueue =>
    rw [hqueue] at ht
    cases ht
  | plays run actors s token hplays hqueue =>
    rw [hqueue] at ht
    obtain rfl := List.mem_singleton.mp ht
    refine Nat.lt_add_of_pos_right ?_
    rw [timeLeft]
    split <;> omega

/-- Where firing a timer leaves nothing due, it is the only one that is fired. -/
theorem fireDue?_of_popDue? (pb : Playback σ) {t : Timer} {timers : TimerQueue}
    (hpop : pb.timers.popDue? = some (t, timers))
    (hquiet : (onTimer { pb with timers } t.token).2.timers.popDue? = none) {fuel : Nat}
    (hfuel : 1 < fuel) : pb.fireDue? fuel = some (onTimer { pb with timers } t.token).2 := by
  have hfire : pb.fireDue? 2 = some (onTimer { pb with timers } t.token).2 := by
    rw [fireDue?, hpop]
    dsimp only
    rw [fireDue?, hquiet]
  exact fireDue?_of_le hfire hfuel

/-- No timer tells that playback was stopped. -/
theorem Woken.stopped_notMem (h : Woken pb run actors s pb') {news : List Event}
    (hlog : pb'.player.log = pb.player.log ++ news) : Event.stopped ∉ news := by
  have htold : ∃ es, pb'.player.log = pb.player.log ++ es ∧ Event.stopped ∉ es := by
    cases h with
    | moved s' hs hs' heq hplays => exact ⟨[_], by rw [heq]; rfl, by simp⟩
    | asked s' hs hs' hcap heq hplays =>
      exact ⟨[_, _], by rw [heq]; exact List.append_assoc _ [_] [_], by simp⟩
    | ended s' hs hsnap hend heq hrests =>
      exact ⟨[_, _], by rw [heq]; exact List.append_assoc _ [_] [_], by simp⟩
    | repeated out first hs hout heq hplays => exact ⟨[_], by rw [heq]; rfl, by simp⟩
  obtain ⟨es, hes, hnot⟩ := htold
  rwa [List.append_cancel_left (hlog.symm.trans hes)]

end Playback

namespace Observed

variable {σ : Type} [Display σ] {o o' mid later : Observed σ}

/-- Everything that happened was told, no timer waits but the player's own, and there are delays, so that it
is not due yet. -/
structure Paced (o : Observed σ) : Prop where
  log_eq : o.playback.player.log = []
  stepDelay_pos : 0 < o.playback.player.stepDelay
  repeatDelay_pos : 0 < o.playback.player.repeatDelay
  exists_dueIn : ∃ hold, o.playback.DueIn hold
  time_le : ∀ x ∈ o.seen.toList, x.time ≤ o.playback.timers.now

/-- Between `o` and `o'` the clock went on to the next due time, and what then happened was told. -/
structure Round (o o' : Observed σ) : Prop where
  nextDue?_eq : o.playback.timers.nextDue? = some o'.playback.timers.now
  now_lt : o.playback.timers.now < o'.playback.timers.now
  exists_seen_eq : ∃ es : List Event,
    o'.seen.toList = o.seen.toList ++ es.map (Sighting.mk o'.playback.timers.now) ∧ Event.stopped ∉ es
  paced : o'.Paced

omit [Display σ] in
theorem Paced.popDue?_eq_none (h : o.Paced) : o.playback.timers.popDue? = none := by
  obtain ⟨hold, hdueIn⟩ := h.exists_dueIn
  refine TimerQueue.popDue?_eq_none_iff.mpr ?_
  exact fun t ht => hdueIn.lt_due h.stepDelay_pos h.repeatDelay_pos t (List.mem_of_mem_head? ht)

omit [Display σ] in
/-- What is news at the next due time makes a round. -/
theorem Paced.round_of_news (h : o.Paced) {timers : TimerQueue} {pb' : Playback σ} {hold span : Nat}
    {news : List Event} (hnews : Playback.News { o.playback with timers } pb' hold span news)
    (hdue : o.playback.timers.nextDue? = some timers.now) (hlt : o.playback.timers.now < timers.now)
    (hnot : Event.stopped ∉ news) : o.Round { o with playback := pb' }.flush := by
  have hnow : pb'.timers.now = timers.now := hnews.now_eq
  have hconfig : pb'.player.config = o.playback.player.config := hnews.config_eq
  have hlog : pb'.player.log = news := hnews.log_eq.trans (congrArg (· ++ news) h.log_eq)
  have hseen : ({ o with playback := pb' } : Observed σ).flush.seen.toList =
      o.seen.toList ++ news.map (Sighting.mk pb'.timers.now) := by
    rw [seen_flush]
    exact congrArg (fun log => o.seen.toList ++ List.map (Sighting.mk pb'.timers.now) log) hlog
  refine ⟨hnow ▸ hdue, hnow ▸ hlt, ⟨news, hseen, hnot⟩, rfl, ?_, ?_, ⟨_, hnews.dueIn.of_log []⟩, ?_⟩
  · change 0 < pb'.player.stepDelay
    rw [Player.stepDelay, hconfig]
    exact h.stepDelay_pos
  · change 0 < pb'.player.repeatDelay
    rw [Player.repeatDelay, hconfig]
    exact h.repeatDelay_pos
  · intro x hx
    change x.time ≤ pb'.timers.now
    rw [hseen, List.mem_append] at hx
    rcases hx with hx | hx
    · exact Nat.le_trans (h.time_le x hx) (Nat.le_of_lt (hnow ▸ hlt))
    · obtain ⟨e, -, rfl⟩ := List.mem_map.mp hx
      exact Nat.le_refl _

/-- **Each round has one time, which is later than the one before.** -/
theorem Paced.exists_round (h : o.Paced) (hrunning : o.playback.player.isRunning = true) :
    ∃ o', o.Serves 1 o' ∧ o.Round o' := by
  obtain ⟨hold, hdueIn⟩ := h.exists_dueIn
  have hlt := hdueIn.lt_due h.stepDelay_pos h.repeatDelay_pos
  cases hdueIn with
  | idle hidle hqueue => exact absurd (hidle.symm.trans hrunning) Bool.false_ne_true
  | plays run actors s token hplays hqueue =>
    have hlater := hlt _ (hqueue ▸ List.mem_singleton_self _)
    obtain ⟨timers, hpop⟩ := TimerQueue.exists_popDue?_advanceTo hqueue
    have hnow : timers.now = o.playback.timers.now + o.playback.timeLeft hold s :=
      (TimerQueue.now_of_popDue? hpop).1.trans (Nat.max_eq_right (Nat.le_of_lt hlater))
    have hdue : o.playback.timers.nextDue? = some timers.now := by
      simp [TimerQueue.nextDue?, hqueue, hnow]
    -- the player's timer was the only one, so what it sets next will be the only one again
    have hempty : timers.pending = [] :=
      (List.cons.inj ((TimerQueue.le_of_popDue? hpop).2.1.symm.trans hqueue)).2
    have hplays' : ({ o.playback with timers } : Playback σ).player.PlaysAt run actors s token := hplays
    have hwoken := Playback.woken_of_playsAt hplays'
    obtain ⟨news, hnews⟩ := Playback.exists_news hwoken hempty hold
    have hround := h.round_of_news hnews hdue (hnow ▸ hlater) (hwoken.stopped_notMem hnews.log_eq)
    refine ⟨_, ⟨hrunning, _, _, hdue, ?_, rfl⟩, hround⟩
    intro fuel hfuel
    rw [hnow]
    exact Playback.fireDue?_of_popDue? { o.playback with timers := o.playback.timers.advanceTo _ } hpop
      hround.paced.popDue?_eq_none hfuel

theorem Paced.round (h : o.Paced) {n : Nat} (hserves : o.Serves n o') : o.Round o' := by
  obtain ⟨o₁, hserves₁, hround⟩ := h.exists_round hserves.1
  rwa [hserves.unique hserves₁]

/-- A paced player that plays waits for its timer. -/
theorem Paced.isRunning_eq_false (h : o.Paced) (hqueue : o.playback.timers.nextDue? = none) :
    o.playback.player.isRunning = false := by
  rcases hrunning : o.playback.player.isRunning with _ | _
  · rfl
  · obtain ⟨o₁, -, hround⟩ := h.exists_round hrunning
    cases hqueue.symm.trans hround.nextDue?_eq

/-- What is told later is told at later times, and never that playback was stopped. -/
structure TellsOn (o o' : Observed σ) : Prop where
  now_le : o.playback.timers.now ≤ o'.playback.timers.now
  exists_seen_eq : ∃ new, o'.seen.toList = o.seen.toList ++ new ∧
    ∀ x ∈ new, o.playback.timers.now < x.time ∧ x.event ≠ .stopped

theorem Paced.tellsOn (h : o.Paced) (hreach : o.Reaches o') : o'.Paced ∧ o.TellsOn o' := by
  induction hreach with
  | refl => exact ⟨h, Nat.le_refl _, [], (List.append_nil _).symm, by simp⟩
  | @tail mid later hreach hstep ih =>
    obtain ⟨hpaced, hle, new, hseen, hnew⟩ := ih
    obtain ⟨n, hserves⟩ := hstep
    have hround := hpaced.round hserves
    obtain ⟨es, hseen', hnot⟩ := hround.exists_seen_eq
    refine ⟨hround.paced, Nat.le_trans hle (Nat.le_of_lt hround.now_lt),
      new ++ es.map (Sighting.mk later.playback.timers.now), ?_, ?_⟩
    · rw [hseen', hseen, List.append_assoc]
    · intro x hx
      rcases List.mem_append.mp hx with hx | hx
      · exact hnew x hx
      · obtain ⟨e, he, rfl⟩ := List.mem_map.mp hx
        exact ⟨Nat.lt_of_le_of_lt hle hround.now_lt, fun heq => hnot (heq ▸ he)⟩

/-- Playback that nobody cancels does not tell that it was stopped. -/
theorem Paced.exists_events_eq (h : o.Paced) (hreach : o.Reaches o') :
    ∃ es, o'.events = o.events ++ es ∧ Event.stopped ∉ es := by
  obtain ⟨-, new, hseen, hnew⟩ := (h.tellsOn hreach).2
  refine ⟨new.map (·.event), ?_, ?_⟩
  · rw [events, hseen, List.map_append]
    rfl
  · intro hmem
    obtain ⟨x, hx, hstopped⟩ := List.mem_map.mp hmem
    exact (hnew x hx).2 hstopped

/-- What a paced player comes to it comes to at the next due time or later, and so does what it tells. -/
theorem Paced.due_le (h : mid.Paced) {due : Nat} (hdue : mid.playback.timers.nextDue? = some due)
    (hreach : mid.Reaches later) :
    (later = mid ∨ due ≤ later.playback.timers.now) ∧
      ∃ new, later.seen.toList = mid.seen.toList ++ new ∧ ∀ x ∈ new, due ≤ x.time := by
  rcases Relation.ReflTransGen.cases_head hreach with rfl | ⟨o, ⟨n, hserves⟩, hrest⟩
  · exact ⟨.inl rfl, [], (List.append_nil _).symm, by simp⟩
  · have hround := h.round hserves
    obtain rfl : due = o.playback.timers.now := Option.some.inj (hdue.symm.trans hround.nextDue?_eq)
    obtain ⟨es, hseen, -⟩ := hround.exists_seen_eq
    obtain ⟨hle, new, hseen', hnew⟩ := (hround.paced.tellsOn hrest).2
    refine ⟨.inr hle, es.map (Sighting.mk o.playback.timers.now) ++ new, ?_, ?_⟩
    · rw [hseen', hseen, List.append_assoc]
    · intro x hx
      rcases List.mem_append.mp hx with hx | hx
      · obtain ⟨e, -, rfl⟩ := List.mem_map.mp hx
        exact Nat.le_refl _
      · exact Nat.le_of_lt (hnew x hx).1

/-- A run is not over before the due time that the player waits for. -/
theorem Paced.due_le_of_idle (h : mid.Paced) {due : Nat} (hdue : mid.playback.timers.nextDue? = some due)
    (hrunning : mid.playback.player.isRunning = true) (hmid : o.Reaches mid) (hreach : o.Reaches later)
    (hidle : later.playback.player.isRunning = false) : due ≤ later.playback.timers.now := by
  have hafter : mid.Reaches later := by
    rcases hmid.total hreach with hafter | hbefore
    · exact hafter
    · rw [hbefore.eq_of_idle hidle]
      exact .refl
  rcases (h.due_le hdue hafter).1 with rfl | hle
  · exact absurd (hidle.symm.trans hrunning) Bool.false_ne_true
  · exact hle

/-! ### Where a cancelled run ends -/

/-- What the observer was told is what is told before time `c`, however long playback goes on, or that and
what is told at `c`.  A cancellation at the very time of an event may come before it or after it. -/
def CutAt (o : Observed σ) (c : Nat) : Prop :=
  (∀ later, o.Reaches later → o.seen.toList = later.seen.toList.filter (·.time < c)) ∨
    ∀ later, o.Reaches later → o.seen.toList = later.seen.toList.filter (·.time ≤ c)

theorem filter_append_of_forall {xs ys : List Sighting} {p : Sighting → Bool} (hxs : ∀ x ∈ xs, p x = true)
    (hys : ∀ y ∈ ys, p y = false) : xs = (xs ++ ys).filter p := by
  rw [List.filter_append, List.filter_eq_self.mpr hxs, List.filter_eq_nil_iff.mpr (by simpa using hys),
    List.append_nil]

/-- A player that waits from before `c` until after it is cut there. -/
theorem Paced.cutAt (h : mid.Paced) {due c : Nat} (hdue : mid.playback.timers.nextDue? = some due)
    (hnow : mid.playback.timers.now ≤ c) (hle : c ≤ due) : mid.CutAt c := by
  rcases Nat.lt_or_eq_of_le hnow with hlt | rfl
  · -- a timer that is due at `c` has not fired, so what is told at `c` is not in
    left
    intro later hreach
    obtain ⟨new, hseen, hnew⟩ := (h.due_le hdue hreach).2
    rw [hseen]
    refine filter_append_of_forall ?_ ?_
    · exact fun x hx => decide_eq_true (Nat.lt_of_le_of_lt (h.time_le x hx) hlt)
    · exact fun x hx => decide_eq_false (Nat.not_lt.mpr (Nat.le_trans hle (hnew x hx)))
  · -- the clock shows `c` and everything was told, so what is told at `c` is in
    right
    intro later hreach
    obtain ⟨-, new, hseen, hnew⟩ := (h.tellsOn hreach).2
    rw [hseen]
    refine filter_append_of_forall ?_ ?_
    · exact fun x hx => decide_eq_true (h.time_le x hx)
    · exact fun x hx => decide_eq_false (Nat.not_le.mpr (hnew x hx).1)

/-- A run of a paced player that is cancelled no sooner than now is over by then, or it ends where the player
waits until then. -/
theorem Paced.endsIn (h : o.Paced) {cut : Nat} (hcut : o.playback.timers.now ≤ cut) {e : RunEnd}
    {out : Observed σ} (hends : o.EndsIn (some cut) e out) :
    (e = .completed ∧ o.Reaches out ∧ out.playback.player.isRunning = false ∧
        out.playback.timers.now ≤ cut) ∨
      (e = .cancelled ∧ ∃ mid due, o.Reaches mid ∧ mid.Paced ∧ mid.playback.player.isRunning = true ∧
        mid.playback.timers.nextDue? = some due ∧ mid.playback.timers.now ≤ cut ∧ cut ≤ due ∧
        out = mid.cancel) := by
  induction hends with
  | idle hidle => exact .inl ⟨rfl, .refl, hidle, hcut⟩
  | starved hqueue => exact .inl ⟨rfl, .refl, h.isRunning_eq_false hqueue, hcut⟩
  | @cancelled o due c hrunning hdue hcut' hle =>
    obtain rfl : cut = c := Option.some.inj hcut'
    obtain ⟨o₁, -, hround⟩ := h.exists_round hrunning
    obtain rfl : due = o₁.playback.timers.now := Option.some.inj (hdue.symm.trans hround.nextDue?_eq)
    rw [Nat.max_eq_right (Nat.le_of_lt hround.now_lt)] at hle
    exact .inr ⟨rfl, o, _, .refl, h, hrunning, hdue, hcut, hle, rfl⟩
  | @served o o' out n due e hserves hdue hcut' hends ih =>
    have hround := h.round hserves
    obtain rfl : due = o'.playback.timers.now := Option.some.inj (hdue.symm.trans hround.nextDue?_eq)
    have hle := hcut' cut rfl
    rw [Nat.max_eq_right hcut] at hle
    rcases ih hround.paced hle with ⟨he, hreach, hend⟩ | ⟨he, mid, due, hreach, hend⟩
    · exact .inl ⟨he, .head ⟨n, hserves⟩ hreach, hend⟩
    · exact .inr ⟨he, mid, due, .head ⟨n, hserves⟩ hreach, hend⟩

/-- A run that is cancelled has an end: every round takes time. -/
theorem Paced.exists_realtimeFrom? (h : o.Paced) {base c : Nat} (hcut : o.playback.timers.now ≤ base + c)
    {fuel : Nat} (hfuel : base + c - o.playback.timers.now < fuel) :
    ∃ e out, o.realtimeFrom? (some c) base fuel = some (e, out) := by
  induction fuel generalizing o with
  | zero => exact absurd hfuel (Nat.not_lt_zero _)
  | succ fuel ih =>
    rcases hrunning : o.playback.player.isRunning with _ | _
    · exact ⟨_, _, realtimeFrom?_of_not_running hrunning _ _ _⟩
    · obtain ⟨o', hserves, hround⟩ := h.exists_round hrunning
      have hlt := hround.now_lt
      rcases hcancel : cancelsBefore (some c) base o'.playback.timers.now with _ | _
      · have hle : ¬ c < o'.playback.timers.now - base := of_decide_eq_false hcancel
        rw [hserves.realtimeFrom?_eq (by simpa [hround.nextDue?_eq] using hcancel) (by omega)]
        exact ih hround.paced (by omega) (by omega)
      · refine ⟨.cancelled, o.cancel, ?_⟩
        rw [realtimeFrom?]
        simp [hrunning, hround.nextDue?_eq, hcancel]

/-- Playback of `mid` was stopped, and nothing else has happened. -/
structure StoppedAt (mid o : Observed Stage) : Prop where
  events_eq : o.events = mid.events ++ [.stopped]
  log_eq : o.playback.player.log = []
  display_eq : o.playback.display = { mid.playback.display with locked := false }
  isRunning_eq : o.playback.player.isRunning = false
  pending_eq : o.playback.timers.pending = []

theorem Paced.stoppedAt_cancel {mid : Observed Stage} (h : mid.Paced)
    (hrunning : mid.playback.player.isRunning = true) : mid.StoppedAt mid.cancel := by
  have hstop : mid.playback.stop.2 = mid.playback.disarm.finish .stopped := by
    rw [Playback.stop, if_pos hrunning]
  obtain ⟨hold, hdueIn⟩ := h.exists_dueIn
  cases hdueIn with
  | idle hidle hqueue => exact absurd (hidle.symm.trans hrunning) Bool.false_ne_true
  | plays run actors s token hplays hqueue =>
    refine ⟨?_, rfl, ?_, ?_, ?_⟩
    · rw [cancel, events_flush, hstop]
      exact congrArg (fun log => mid.events ++ (log ++ [Event.stopped])) h.log_eq
    · rw [cancel, hstop]
      rfl
    · rw [cancel, hstop]
      rfl
    · rw [cancel, hstop]
      change mid.playback.disarm.timers.pending = []
      simp [Playback.disarm, hplays.pending_eq, TimerQueue.cancel, hqueue]

end Observed

namespace Playback

/-- A flow that is started where no timer waits is paced by its delays. -/
theorem paced_start {σ : Type} [Display σ] {pb pb' : Playback σ} {flow : Flow} (h : pb.Starts flow pb')
    (hqueue : pb.timers.pending = []) (hstep : 0 < pb.player.stepDelay)
    (hrepeat : 0 < pb.player.repeatDelay) :
    (Observed.flush { playback := pb' }).Paced ∧ pb'.timers.now = pb.timers.now ∧
      ∃ es, (Observed.flush { playback := pb' }).events = pb.player.log ++ es ∧ Event.stopped ∉ es := by
  obtain ⟨steps, last, states, repeaters, honTime⟩ := onTime_start h hqueue
  obtain ⟨first, hstart, -⟩ := h.exists_playsAt
  refine ⟨⟨rfl, ?_, ?_, ⟨_, honTime.dueIn.of_log []⟩, ?_⟩, honTime.now_eq, ?_⟩
  · change 0 < pb'.player.stepDelay
    rw [Player.stepDelay, honTime.config_eq]
    exact hstep
  · change 0 < pb'.player.repeatDelay
    rw [Player.repeatDelay, honTime.config_eq]
    exact hrepeat
  · intro x hx
    rw [Observed.seen_flush] at hx
    obtain ⟨e, -, rfl⟩ := List.mem_map.mp hx
    exact Nat.le_refl _
  · refine ⟨[.started (pb.compile flow).1.size,
      .stepApplied 0 0 (pb.compile flow).1.last first.states first.repeaters], ?_, by simp⟩
    rw [Observed.events_flush, hstart]
    exact List.append_assoc _ _ _

/-- **Cancelling is a clean cut.**  A flow was started where no timer waits, with a delay between steps and
before repeats, and a cancellation comes `c` milliseconds later.  Playback that nobody cancels goes round by
round and never tells that it was stopped.  Playback that is cancelled returns, and whichever way it takes:
if it would be idle only after the cancellation, or never, it is cancelled, and if it is idle before, it is
completed.  When it is cancelled, the observer was told what is told before the cancellation, then that
playback was stopped, and that is all; the stage stays as it was then, but is open.  When it is completed,
nothing came of the cancellation. -/
theorem cancel_cuts (pb pb' : Playback Stage) (flow : Flow) (hplay : pb.play flow = .ok (.started, pb'))
    (hqueue : pb.timers.pending = []) (hstep : 0 < pb.player.stepDelay)
    (hrepeat : 0 < pb.player.repeatDelay) (c : Nat) :
    let start : Observed Stage := Observed.flush { playback := pb' }
    let cut := pb.timers.now + c
    (∀ later, start.Reaches later → ∃ es, later.events = pb.player.log ++ es ∧ Event.stopped ∉ es) ∧
    (∀ fuel e last, pb'.runRealtime? fuel none = some (e, last) →
      e = .completed ∧ start.Reaches last ∧ last.playback.player.isRunning = false) ∧
    (∀ fuel, c < fuel →
      ∃ e out, pb'.runRealtime? fuel (some c) = some (e, out) ∧ start.EndsIn (some cut) e out) ∧
    ∀ e out, start.EndsIn (some cut) e out →
      ((∀ last, start.Reaches last → last.playback.player.isRunning = false →
        cut < last.playback.timers.now) → e = .cancelled) ∧
      (∀ last, start.Reaches last → last.playback.player.isRunning = false →
        last.playback.timers.now < cut → e = .completed) ∧
      (e = .cancelled → ∃ mid, start.Reaches mid ∧
        (∀ other, start.Reaches other → other.Reaches mid ∨ mid.Reaches other) ∧
        mid.CutAt cut ∧ mid.StoppedAt out) ∧
      (e = .completed → start.Reaches out ∧ out.playback.player.isRunning = false ∧
        out.playback.timers.now ≤ cut) := by
  intro start cut
  obtain ⟨hpaced, hnow, es, hevents, hnot⟩ := paced_start (starts_of_play hplay) hqueue hstep hrepeat
  have hcut : start.playback.timers.now ≤ cut := Nat.le_trans (Nat.le_of_eq hnow) (Nat.le_add_right _ _)
  refine ⟨?_, ?_, ?_, ?_⟩
  · intro later hreach
    obtain ⟨es', hevents', hnot'⟩ := hpaced.exists_events_eq hreach
    refine ⟨es ++ es', ?_, fun hmem => (List.mem_append.mp hmem).elim hnot hnot'⟩
    rw [hevents', hevents, List.append_assoc]
  · intro fuel e last hrun
    obtain ⟨he, hreach, hidle | hstarved⟩ := (Observed.endsIn_of_realtimeFrom? hrun).reaches
    · exact ⟨he, hreach, hidle⟩
    · exact ⟨he, hreach, (hpaced.tellsOn hreach).1.isRunning_eq_false hstarved⟩
  · intro fuel hfuel
    have hshort : pb'.timers.now + c - pb'.timers.now < fuel := by omega
    obtain ⟨e, out, hrun⟩ := hpaced.exists_realtimeFrom? (Nat.le_add_right _ _) hshort
    refine ⟨e, out, hrun, ?_⟩
    have hends : start.EndsIn (some (pb'.timers.now + c)) e out := Observed.endsIn_of_realtimeFrom? hrun
    rwa [hnow] at hends
  · intro e out hends
    rcases hpaced.endsIn hcut hends with ⟨rfl, hreach, hidle, hle⟩ |
      ⟨rfl, mid, due, hreach, hmid, hrunning, hdue, hle, hdue_le, rfl⟩
    · refine ⟨fun h => ?_, fun _ _ _ _ => rfl, fun he => absurd he (by decide), fun _ => ⟨hreach, hidle, hle⟩⟩
      exact absurd (h out hreach hidle) (Nat.not_lt.mpr hle)
    · refine ⟨fun _ => rfl, ?_, ?_, fun he => absurd he (by decide)⟩
      · intro last hlast hidle hlt
        have hlate := hmid.due_le_of_idle hdue hrunning hreach hlast hidle
        exact absurd hlt (Nat.not_lt.mpr (Nat.le_trans hdue_le hlate))
      · exact fun _ => ⟨mid, hreach, fun _ hother => hother.total hreach, hmid.cutAt hdue hle hdue_le,
          hmid.stoppedAt_cancel hrunning⟩

end Playback

/-- The sample is played, and may be repeated once. -/
def Sample.begun : Playback Stage := (idle (some 1)).call (.play flow)

/-- The sample is cancelled between its second and its third snapshot. -/
theorem Playback.cancel_cuts_sample :
    (Sample.idle (some 1)).play Sample.flow = .ok (.started, Sample.begun) ∧
      (Sample.idle (some 1)).timers.pending = [] ∧ 0 < (Sample.idle (some 1)).player.stepDelay ∧
      0 < (Sample.idle (some 1)).player.repeatDelay ∧
      ∃ out mid : Observed Stage, Sample.begun.runRealtime? 701 (some 700) = some (.cancelled, out) ∧
        mid.CutAt 700 ∧ mid.StoppedAt out := by
  have hplay : (Sample.idle (some 1)).play Sample.flow = .ok (.started, Sample.begun) := rfl
  have hstep : 0 < (Sample.idle (some 1)).player.stepDelay := by decide
  have hrepeat : 0 < (Sample.idle (some 1)).player.repeatDelay := by decide
  obtain ⟨-, -, hruns, hends⟩ := cancel_cuts _ _ _ hplay rfl hstep hrepeat 700
  obtain ⟨e, out, hrun, hend⟩ := hruns 701 (by decide)
  have he : (Sample.begun.runRealtime? 701 (some 700)).map (·.1) = some .cancelled := rfl
  rw [hrun] at he
  obtain rfl : e = .cancelled := Option.some.inj he
  obtain ⟨mid, -, -, hcut, hstopped⟩ := (hends _ _ hend).2.2.1 rfl
  exact ⟨hplay, rfl, hstep, hrepeat, out, mid, hrun, hcut, hstopped⟩

end Marionette

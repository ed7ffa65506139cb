import Marionette.Proofs.Playback.Lockstep
import Marionette.Proofs.Playback.Ownership
import Marionette.Proofs.Playback.Rounds

/-!
# Timers of others

A player may share its queue with others.  Their timers are fired as its own are, and make the clock stop at
more places, but the player does not listen to them: they are taken out of the queue and ignored.  So
playback among others is playback alone, in which now and then a timer of others is popped.  The player's
timers have other names then, and wait at other places in the queue, but they are due at the same times.

## Main definitions

* `TimerQueue.scheduleAll`, `appointments` — many timers set at once.
* `Playback.others` — the timers in the queue that are not the player's.
* `Playback.Amid` — the same playback, alone and among others.
* `Observed.Passes` — which timers of others were popped meanwhile.

## Main results

* `Playback.amid_of_goOn` — what goes on in lockstep, alone and among others, is the same playback.
* `Observed.Amid.fire` — a timer that fires among others is ignored, or it is the player's.
* `Observed.Amid.exists_follows` — draining among others is draining alone, but for timers that are ignored.
* `Playback.drain_among_others` — timers of others are invisible.
-/

namespace Marionette

/-! ### Many timers at once -/

namespace TimerQueue

/-- Schedule timers one after the other, each with its wakeup and its delay from now. -/
def scheduleAll (q : TimerQueue) (es : List (Wakeup × Nat)) : TimerQueue :=
  es.foldl (fun q e => (q.schedule e.1 e.2).2) q

/-- The timers that are scheduled in this way. -/
def appointments (q : TimerQueue) : List (Wakeup × Nat) → List Timer
  | [] => []
  | e :: es => ⟨q.now + e.2, q.nextToken, e.1⟩ :: appointments (q.schedule e.1 e.2).2 es

@[simp] theorem now_scheduleAll (q : TimerQueue) (es : List (Wakeup × Nat)) :
    (q.scheduleAll es).now = q.now := by
  induction es generalizing q with
  | nil => rfl
  | cons e es ih => exact ih (q.schedule e.1 e.2).2

end TimerQueue

/-! ### Alone and among others -/

namespace Playback

variable {σ : Type} {pb pb' : Playback σ}

/-- The timers that wait and are not what the player waits for. -/
def others (pb : Playback σ) : List Timer :=
  pb.timers.pending.filter fun t => pb.player.pendingToken? ≠ some t.token

theorem others_of_rests (h : pb.player.Rests) : pb.others = pb.timers.pending := by
  rw [others, Player.pendingToken?, h.pending_eq]
  simp

theorem others_of_playsAt {run : Run} {actors : List ActorId} {s : Snapshot} {token : TimerToken}
    (h : pb.player.PlaysAt run actors s token) :
    pb.others = pb.timers.pending.filter fun t => token ≠ t.token := by
  rw [others, Player.pendingToken?, h.pending_eq]
  simp

/-- The same playback, alone and among others.  Either both rest, or both wait at the same snapshot, each for
the one timer of its own. -/
inductive Amid (pb pb' : Playback σ) : Prop
  | rest (hsimilar : pb.Similar pb') (hrests : pb.player.Rests) (hrests' : pb'.player.Rests)
      (hqueue : pb.timers.pending = []) (hnow : pb'.timers.now = pb.timers.now)
  | wait (run run' : Run) (actors : List ActorId) (s : Snapshot) (t t' : Timer)
      (hsimilar : pb.Similar pb') (halike : run.Alike run' actors)
      (hplays : pb.player.PlaysAt run actors s t.token)
      (hplays' : pb'.player.PlaysAt run' actors s t'.token)
      (hqueue : pb.timers.pending = [t])
      (hown : pb'.timers.pending.filter (fun u => t'.token = u.token) = [t'])
      (hdue : t'.due = t.due) (hnow : pb.timers.now ≤ t.due) (hnow' : pb'.timers.now ≤ t.due)

namespace Amid

theorem similar (h : Amid pb pb') : pb.Similar pb' := by
  cases h with
  | rest hsimilar => exact hsimilar
  | wait _ _ _ _ _ _ hsimilar => exact hsimilar

theorem takeEvents (h : Amid pb pb') : Amid pb.takeEvents.2 pb'.takeEvents.2 := by
  cases h with
  | rest hsimilar hrests hrests' hqueue hnow =>
    exact .rest hsimilar.takeEvents hrests.takeEvents hrests'.takeEvents hqueue hnow
  | wait run run' actors s t t' hsimilar halike hplays hplays' hqueue hown hdue hnow hnow' =>
    exact .wait run run' actors s t t' hsimilar.takeEvents halike hplays.takeEvents hplays'.takeEvents
      hqueue hown hdue hnow hnow'

/-- Whoever is alone is among no others. -/
theorem self (h : Amid pb pb') : Amid pb pb ∧ pb.others = [] := by
  cases h with
  | rest hsimilar hrests hrests' hqueue hnow =>
    refine ⟨.rest (.refl pb) hrests hrests hqueue rfl, ?_⟩
    rw [others_of_rests hrests, hqueue]
  | wait run run' actors s t t' hsimilar halike hplays hplays' hqueue hown hdue hnow hnow' =>
    refine ⟨.wait run run actors s t t (.refl pb) ⟨rfl, rfl, fun _ _ => rfl⟩ hplays hplays hqueue ?_ rfl
      hnow hnow, ?_⟩
    · simp [hqueue]
    · rw [others_of_playsAt hplays, hqueue]
      simp

/-- When playback has ended, only timers of others wait. -/
theorem rests_of_idle (h : Amid pb pb') (hidle : pb.player.isRunning = false) :
    pb.timers.pending = [] ∧ pb'.player.Rests ∧ pb'.timers.now = pb.timers.now := by
  cases h with
  | rest hsimilar hrests hrests' hqueue hnow => exact ⟨hqueue, hrests', hnow⟩
  | wait run run' actors s t t' hsimilar halike hplays =>
    exact absurd (hidle.symm.trans hplays.isRunning_eq) Bool.false_ne_true

/-- Someone else sets a timer. -/
theorem schedule (h : Amid pb pb') (wakeup : Wakeup) (delay : Nat) :
    let next : Playback σ := { pb' with timers := (pb'.timers.schedule wakeup delay).2 }
    Amid pb next ∧
      next.others.Perm (⟨pb'.timers.now + delay, pb'.timers.nextToken, wakeup⟩ :: pb'.others) := by
  intro next
  have hperm : next.timers.pending.Perm (_ :: pb'.timers.pending) := TimerQueue.place_perm _ _
  cases h with
  | rest hsimilar hrests hrests' hqueue hnow =>
    have hrests'' : next.player.Rests := hrests'
    refine ⟨.rest (hsimilar.with_timers pb.timers _) hrests hrests'' hqueue hnow, ?_⟩
    rw [others_of_rests hrests', others_of_rests hrests'']
    exact hperm
  | wait run run' actors s t t' hsimilar halike hplays hplays' hqueue hown hdue hnow hnow' =>
    have hmem : t' ∈ pb'.timers.pending :=
      (List.mem_filter.mp (hown ▸ List.mem_singleton_self t')).1
    have hne : t'.token ≠ pb'.timers.nextToken := TimerQueue.ne_nextToken hmem
    have hplays'' : next.player.PlaysAt run' actors s t'.token := hplays'
    refine ⟨.wait run run' actors s t t' (hsimilar.with_timers pb.timers _) halike hplays hplays'' hqueue ?_
      hdue hnow hnow', ?_⟩
    · rw [← hown]
      exact TimerQueue.filter_place_of_eq_false (by simpa using hne) _
    · rw [others_of_playsAt hplays', others_of_playsAt hplays'']
      refine (hperm.filter _).trans ?_
      rw [List.filter_cons_of_pos (by simpa using hne)]

/-- **Others may set timers at any time.** -/
theorem scheduleAll (es : List (Wakeup × Nat)) (h : Amid pb pb') :
    let next : Playback σ := { pb' with timers := pb'.timers.scheduleAll es }
    Amid pb next ∧ next.others.Perm (pb'.timers.appointments es ++ pb'.others) := by
  induction es generalizing pb' with
  | nil => exact ⟨h, .refl _⟩
  | cons e es ih =>
    obtain ⟨hnext, hperm⟩ := h.schedule e.1 e.2
    obtain ⟨hlast, hperms⟩ := ih hnext
    refine ⟨hlast, hperms.trans ?_⟩
    exact (hperm.append_left _).trans List.perm_middle

end Amid

/-! ### Setting out -/

variable {q q' : TimerQueue}

/-- **What goes on in lockstep, alone and among others, is the same playback.**  The others are those whose
timers waited before. -/
theorem amid_of_goOn (h : GoOn q q' pb pb') (hqueue : q.pending = []) (hnow : q'.now = q.now) :
    Amid pb pb' ∧ pb'.others = q'.pending := by
  cases h with
  | rest hsimilar hrests hrests' htimers htimers' =>
    subst htimers htimers'
    exact ⟨.rest hsimilar hrests hrests' hqueue hnow, others_of_rests hrests'⟩
  | wait run run' actors s delay hsimilar halike hplays hplays' htimers htimers' =>
    have hplace : pb.timers.pending = [⟨q.now + delay, q.nextToken, s.wakeup⟩] := by
      rw [htimers]
      show TimerQueue.place _ q.pending = _
      rw [hqueue]
      rfl
    have hnone : q'.pending.filter (fun u => q'.nextToken = u.token) = [] := by
      refine List.filter_eq_nil_iff.mpr ?_
      intro u hu
      simpa using (TimerQueue.ne_nextToken hu).symm
    constructor
    · refine .wait run run' actors s ⟨q.now + delay, q.nextToken, s.wakeup⟩
        ⟨q'.now + delay, q'.nextToken, s.wakeup⟩ hsimilar halike hplays hplays' hplace ?_ ?_ ?_ ?_
      · rw [htimers']
        exact TimerQueue.filter_place_of_filter_eq_nil (by simp) hnone
      · rw [hnow]
      · rw [htimers]
        exact Nat.le_add_right _ _
      · rw [htimers']
        show q'.now ≤ _
        rw [hnow]
        exact Nat.le_add_right _ _
    · rw [others_of_playsAt hplays', htimers']
      refine (TimerQueue.filter_place_of_eq_false (by simp) _).trans (List.filter_eq_self.mpr ?_)
      intro u hu
      simpa using (TimerQueue.ne_nextToken hu).symm

end Playback

/-! ### Draining among others -/

namespace Observed

variable {σ : Type} [Display σ] {o o' o'' : Observed σ} {u : Timer} {timers : TimerQueue}

/-- The same playback alone and among others, of which the observer was told the same. -/
structure Amid (o o' : Observed σ) : Prop where
  playback : o.playback.Amid o'.playback
  seen_eq : o'.seen = o.seen
  /-- The observer was told everything. -/
  log_eq : o'.playback.player.log = []

/-- Meanwhile the timers `popped` of others were taken out, all of them due, and no other timer of others. -/
structure Passes (o o' : Observed σ) (popped : List Timer) : Prop where
  others_eq : o.playback.others = popped ++ o'.playback.others
  now_le : o.playback.timers.now ≤ o'.playback.timers.now
  due_le : ∀ t ∈ popped, t.due ≤ o'.playback.timers.now

namespace Passes

omit [Display σ] in
theorem refl (o : Observed σ) : o.Passes o [] := ⟨rfl, Nat.le_refl _, by simp⟩

omit [Display σ] in
theorem trans {popped popped' : List Timer} (h : o.Passes o' popped) (h' : o'.Passes o'' popped') :
    o.Passes o'' (popped ++ popped') := by
  refine ⟨?_, Nat.le_trans h.now_le h'.now_le, ?_⟩
  · rw [h.others_eq, h'.others_eq, List.append_assoc]
  · intro t ht
    rcases List.mem_append.mp ht with ht | ht
    · exact Nat.le_trans (h.due_le t ht) h'.now_le
    · exact h'.due_le t ht

end Passes

@[simp] theorem now_fire (o : Observed σ) (t : Timer) (timers : TimerQueue) :
    (o.fire t timers).playback.timers.now = timers.now :=
  Playback.now_onTimer _ _

/-- A timer that is ignored leaves everything but the queue and the count. -/
theorem fire_of_ignored (hlog : o.playback.player.log = [])
    (h : (Playback.onTimer { o.playback with timers } u.token).2 = { o.playback with timers }) :
    o.fire u timers = { o with playback := { o.playback with timers }, fired := o.fired + 1 } := by
  have htaken : { o.playback.player with log := [] } = o.playback.player := by rw [← hlog]
  rw [fire, h]
  simp [flush, Playback.takeEvents, Player.takeEvents, hlog, htaken]

namespace Amid

/-- A timer that is ignored was one of others. -/
theorem ignore (h : o.Amid o') (hfire : (Playback.onTimer { o'.playback with timers } u.token).2 =
    { o'.playback with timers }) (hplayback : o.playback.Amid { o'.playback with timers })
    (hnow : timers.now = max o'.playback.timers.now u.due)
    (hothers : o'.playback.others = u :: ({ o'.playback with timers } : Playback σ).others) :
    o.Amid (o'.fire u timers) ∧ o'.Passes (o'.fire u timers) [u] := by
  rw [fire_of_ignored h.log_eq hfire]
  refine ⟨⟨hplayback, h.seen_eq, h.log_eq⟩, hothers, ?_, ?_⟩
  · exact hnow ▸ Nat.le_max_left _ _
  · intro t ht
    rw [List.mem_singleton.mp ht]
    exact hnow ▸ Nat.le_max_right _ _

/-- Timers that fire in lockstep at the same time tell the observer the same. -/
theorem of_goOn (h : o.Amid o') {t : Timer} {timers₀ : TimerQueue}
    (hgo : Playback.GoOn timers₀ timers (Playback.onTimer { o.playback with timers := timers₀ } t.token).2
      (Playback.onTimer { o'.playback with timers } u.token).2)
    (hqueue : timers₀.pending = []) (hnow : timers.now = timers₀.now) :
    (o.fire t timers₀).Amid (o'.fire u timers) ∧ (o'.fire u timers).playback.others = timers.pending := by
  obtain ⟨hamid, hothers⟩ := Playback.amid_of_goOn hgo hqueue hnow
  refine ⟨⟨hamid.takeEvents, seen_flush_eq hamid.similar.log_eq ?_ h.seen_eq, rfl⟩, hothers⟩
  dsimp only
  rw [Playback.now_onTimer, Playback.now_onTimer, hnow]

/-- **A timer that fires among others is ignored, or it is the player's.**  Then the player's timer fires
alone, too. -/
theorem fire (h : o.Amid o') (hpending : o'.playback.timers.pending = u :: timers.pending)
    (hnow : timers.now = max o'.playback.timers.now u.due)
    (hlate : o'.playback.player.isRunning = false → u.due ≤ o'.playback.timers.now) :
    (o.Amid (o'.fire u timers) ∧ o'.Passes (o'.fire u timers) [u]) ∨
      ∃ next : Observed σ, (∀ room, drainFrom (room + 1) o = drainFrom room next) ∧
        next.fired = o.fired + 1 ∧ next.Amid (o'.fire u timers) ∧ o'.Passes (o'.fire u timers) [] := by
  cases h.playback with
  | rest hsimilar hrests hrests' hqueue hnow' =>
    have hstands : timers.now = o'.playback.timers.now := by
      rw [hnow, Nat.max_eq_left (hlate hrests'.isRunning_eq)]
    have hrests'' : ({ o'.playback with timers } : Playback σ).player.Rests := hrests'
    refine .inl (h.ignore (Playback.onTimer_of_rests hrests'' _) ?_ hnow ?_)
    · exact .rest (hsimilar.with_timers o.playback.timers _) hrests hrests'' hqueue (hstands.trans hnow')
    · rw [Playback.others_of_rests hrests', Playback.others_of_rests hrests'', hpending]
  | wait run run' actors s t t' hsimilar halike hplays hplays' hqueue hown hdue hnowLe hnowLe' =>
    have hmem : t' ∈ o'.playback.timers.pending :=
      (List.mem_filter.mp (hown ▸ List.mem_singleton_self t')).1
    -- the first timer in the queue is due no later than the player's, so the clock does not run past that
    have hle : timers.now ≤ t.due := by
      rw [hnow, ← hdue]
      exact Nat.max_le.mpr ⟨hdue ▸ hnowLe', TimerQueue.due_le_of_mem hpending hmem⟩
    have hplays'' : ({ o'.playback with timers } : Playback σ).player.PlaysAt run' actors s t'.token := hplays'
    rw [hpending] at hown
    by_cases htoken : t'.token = u.token
    · -- both clocks now show when the player's timers are due
      rw [List.filter_cons_of_pos (by simpa using htoken)] at hown
      obtain ⟨rfl, hnone⟩ := List.cons.inj hown
      obtain ⟨timers₀, hqueue₀, hnow₀, hdrain⟩ := exists_drainFrom_succ hplays.isRunning_eq hqueue
      rw [Nat.max_eq_right hnowLe] at hnow₀
      rw [Nat.max_eq_right (hnowLe'.trans_eq hdue.symm)] at hnow
      have hgo := Playback.goOn_onTimer (hsimilar.with_timers timers₀ timers) halike hplays hplays''
      obtain ⟨hnext, hothers⟩ := h.of_goOn hgo hqueue₀ (hnow.trans (hdue.trans hnow₀.symm))
      refine .inr ⟨o.fire t timers₀, hdrain, rfl, hnext, ?_, ?_, by simp⟩
      · rw [hothers, Playback.others_of_playsAt hplays', hpending, List.filter_cons_of_neg (by simp)]
        refine List.filter_eq_self.mpr ?_
        intro v hv
        simpa using List.filter_eq_nil_iff.mp hnone v hv
      · rw [now_fire, hnow]
        exact hnowLe'.trans_eq hdue.symm
    · rw [List.filter_cons_of_neg (by simpa using htoken)] at hown
      refine .inl (h.ignore (Playback.onTimer_of_foreign hplays'' htoken) ?_ hnow ?_)
      · exact .wait run run' actors s t t' (hsimilar.with_timers o.playback.timers _) halike hplays hplays''
          hqueue hown hdue hnowLe hle
      · rw [Playback.others_of_playsAt hplays', Playback.others_of_playsAt hplays'', hpending,
          List.filter_cons_of_pos (by simpa using htoken)]

omit [Display σ] in
/-- A running player among others has a timer in the queue. -/
theorem exists_pending (h : o.Amid o') (hrunning : o'.playback.player.isRunning = true) :
    ∃ u us, o'.playback.timers.pending = u :: us := by
  cases h.playback with
  | rest hsimilar hrests hrests' =>
    exact absurd (hrests'.isRunning_eq.symm.trans hrunning) Bool.false_ne_true
  | wait run run' actors s t t' hsimilar halike hplays hplays' hqueue hown =>
    refine List.exists_cons_of_ne_nil fun hnil => ?_
    rw [hnil] at hown
    cases hown

end Amid

/-- Draining `o'`, which may fire `room` timers, comes to what draining `o` comes to with `n` timers, but for
the timers `popped` of others.  Unless it is cut short nothing that is due is left. -/
structure Follows (room : Nat) (o o' : Observed σ) (n : Nat) (popped : List Timer) : Prop where
  amid : (drainFrom n o).Amid (drainFrom room o')
  passes : o'.Passes (drainFrom room o') popped
  fired_eq : (drainFrom room o').fired + o.fired = o'.fired + (drainFrom n o).fired + popped.length
  popDue?_eq_none : (drainFrom room o').fired < o'.fired + room →
    (drainFrom room o').playback.timers.popDue? = none

namespace Amid

/-- A drain that fires nothing. -/
theorem follows_self {room : Nat} (h : o.Amid o') (hself : drainFrom room o' = o')
    (hdue : room ≠ 0 → o'.playback.timers.popDue? = none) : Follows room o o' 0 [] := by
  constructor
  · rw [hself]
    exact h
  · rw [hself]
    exact .refl o'
  · rw [hself, drainFrom, List.length_nil]
    omega
  · rw [hself]
    intro hlt
    exact hdue (by omega)

/-- A drain that fires one timer more. -/
theorem exists_follows_succ {room : Nat} (h : o.Amid o')
    (ih : ∀ {o o' : Observed σ}, o.Amid o' → ∃ n popped, Follows room o o' n popped)
    (hpending : o'.playback.timers.pending = u :: timers.pending)
    (hnow : timers.now = max o'.playback.timers.now u.due)
    (hlate : o'.playback.player.isRunning = false → u.due ≤ o'.playback.timers.now)
    (hdrain : drainFrom (room + 1) o' = drainFrom room (o'.fire u timers)) :
    ∃ n popped, Follows (room + 1) o o' n popped := by
  rcases h.fire hpending hnow hlate with ⟨hamid, hpasses⟩ | ⟨next, hnext, hfired, hamid, hpasses⟩
  · obtain ⟨n, popped, hfollows⟩ := ih hamid
    have hcount := hfollows.fired_eq
    have hdue := hfollows.popDue?_eq_none
    rw [fired_fire, ← hdrain] at hcount hdue
    refine ⟨n, u :: popped, hdrain ▸ hfollows.amid, hdrain ▸ hpasses.trans hfollows.passes, ?_, ?_⟩
    · rw [List.length_cons]
      omega
    · intro hlt
      exact hdue (by omega)
  · obtain ⟨n, popped, hfollows⟩ := ih hamid
    have hcount := hfollows.fired_eq
    have hdue := hfollows.popDue?_eq_none
    rw [fired_fire, ← hdrain] at hcount hdue
    rw [← hnext] at hcount
    refine ⟨n + 1, popped, ?_, hdrain ▸ hpasses.trans hfollows.passes, by omega, ?_⟩
    · rw [hnext, hdrain]
      exact hfollows.amid
    · intro hlt
      exact hdue (by omega)

/-- **Draining among others is draining alone, but for timers that are ignored.** -/
theorem exists_follows (room : Nat) (h : o.Amid o') : ∃ n popped, Follows room o o' n popped := by
  induction room generalizing o o' with
  | zero => exact ⟨0, [], h.follows_self rfl (absurd rfl)⟩
  | succ room ih =>
    rcases hpop : o'.playback.timers.popDue? with _ | ⟨u, timers⟩
    · rcases hrunning : o'.playback.player.isRunning with _ | _
      · refine ⟨0, [], h.follows_self ?_ fun _ => hpop⟩
        rw [drainFrom, hpop]
        simp [hrunning]
      · obtain ⟨u, us, hpending⟩ := h.exists_pending hrunning
        obtain ⟨timers, rfl, hnow, hdrain⟩ := exists_drainFrom_succ hrunning hpending
        have hlate : o'.playback.player.isRunning = false → u.due ≤ o'.playback.timers.now := by
          simp [hrunning]
        exact h.exists_follows_succ ih hpending hnow hlate (hdrain room)
    · obtain ⟨hdue, hpending, -⟩ := TimerQueue.le_of_popDue? hpop
      have hnow : timers.now = max o'.playback.timers.now u.due := by
        rw [(TimerQueue.now_of_popDue? hpop).1, Nat.max_eq_left hdue]
      refine h.exists_follows_succ ih hpending hnow (fun _ => hdue) ?_
      rw [drainFrom, hpop]

/-- When playback alone has ended, no timer is left. -/
theorem pending_drainFrom_of_idle (h : o.Amid o') {n : Nat}
    (hidle : (drainFrom n o).playback.player.isRunning = false) :
    (drainFrom n o).playback.timers.pending = [] := by
  obtain ⟨hself, hnone⟩ := h.playback.self
  have hlog : o.playback.player.log = [] := h.playback.similar.log_eq.symm.trans h.log_eq
  have hamid : o.Amid o := ⟨hself, rfl, hlog⟩
  -- whoever is alone is also the same playback among no others
  obtain ⟨m, popped, hfollows⟩ := hamid.exists_follows n
  have hplayback := hfollows.amid.playback
  have hrests := (hplayback.rests_of_idle (hplayback.similar.isRunning_eq.symm.trans hidle)).2.1
  have hothers := hfollows.passes.others_eq
  rw [hnone, Playback.others_of_rests hrests] at hothers
  exact (List.append_eq_nil_iff.mp hothers.symm).2

/-- When playback alone has ended, it makes no difference how many more timers may be fired. -/
theorem drainFrom_eq_of_idle (h : o.Amid o') {m n : Nat}
    (hm : (drainFrom m o).playback.player.isRunning = false)
    (hn : (drainFrom n o).playback.player.isRunning = false) : drainFrom m o = drainFrom n o := by
  have hmore : ∀ {m n : Nat}, (drainFrom m o).playback.player.isRunning = false → m ≤ n →
      drainFrom n o = drainFrom m o := by
    rintro m n hidle hle
    obtain ⟨k, rfl⟩ := Nat.exists_eq_add_of_le hle
    rw [drainFrom_add, drainFrom_of_isEmpty k (h.pending_drainFrom_of_idle hidle)]
  rcases Nat.le_total m n with hle | hle
  · exact (hmore hm hle).symm
  · exact hmore hn hle

/-- **Drains that come to an end, alone and among others, come to the same.** -/
theorem follows_of_idle (h : o.Amid o') {n room : Nat}
    (hidle : (drainFrom n o).playback.player.isRunning = false)
    (hidle' : (drainFrom room o').playback.player.isRunning = false) :
    ∃ popped, Follows room o o' n popped := by
  obtain ⟨m, popped, hfollows⟩ := h.exists_follows room
  have hm : (drainFrom m o).playback.player.isRunning = false :=
    hfollows.amid.playback.similar.isRunning_eq.symm.trans hidle'
  have heq : drainFrom m o = drainFrom n o := h.drainFrom_eq_of_idle hm hidle
  exact ⟨popped, heq ▸ hfollows.amid, hfollows.passes, heq ▸ hfollows.fired_eq, hfollows.popDue?_eq_none⟩

end Amid
end Observed

/-! ### Playing among others -/

namespace Playback

variable {σ : Type} [Display σ] {pb next : Playback σ} {flow : Flow}

omit [Display σ] in
theorem timers_disarm (h : pb.player.Rests) : pb.disarm.timers = pb.timers := by
  rw [disarm, h.pending_eq]
  rfl

/-- A start does not move the clock. -/
theorem Starts.now_eq (h : pb.Starts flow next) : next.timers.now = pb.timers.now := by
  obtain ⟨first, rfl, -⟩ := h.exists_playsAt
  rw [now_arm]
  rfl

/-- Whoever takes a flow rested before. -/
theorem rests_of_play (h : pb.player.Sound) {outcome : PlayOutcome}
    (hplay : pb.play flow = .ok (outcome, next)) : pb.player.Rests := by
  rcases h with ⟨hrests, -⟩ | ⟨run, actors, s, token, hplays, -⟩
  · exact hrests
  · rw [play, if_pos hplays.isRunning_eq] at hplay
    cases hplay

/-- **A flow starts among others as it does alone.**  The others wait on, and may set more timers. -/
theorem exists_play_amid (hrests : pb.player.Rests) (hqueue : pb.timers.pending = [])
    (hplay : pb.play flow = .ok (.started, next)) {crowd : TimerQueue} (hnow : crowd.now = pb.timers.now)
    (later : List (Wakeup × Nat)) :
    ∃ next', ({ pb with timers := crowd } : Playback σ).play flow = .ok (.started, next') ∧
      let full : Playback σ := { next' with timers := next'.timers.scheduleAll later }
      next.Amid full ∧ full.timers.now = next.timers.now ∧
        full.others.Perm (next'.timers.appointments later ++ crowd.pending) := by
  have hstarts : pb.Starts flow next := starts_of_play hplay
  have hrests' : ({ pb with timers := crowd } : Playback σ).player.Rests := hrests
  have hne : (({ pb with timers := crowd } : Playback σ).compile flow).1.isEmpty = false :=
    hstarts.isEmpty_eq
  obtain ⟨next', hplay', hstarts'⟩ := exists_starts hrests'.isRunning_eq hne
  have hgo := goOn_start ((Similar.refl pb).with_timers pb.timers crowd) (fun _ _ => rfl) hstarts hstarts'
  rw [timers_disarm hrests, timers_disarm hrests'] at hgo
  obtain ⟨hamid, hothers⟩ := amid_of_goOn hgo hqueue hnow
  obtain ⟨hfull, hperm⟩ := hamid.scheduleAll later
  refine ⟨next', hplay', hfull, ?_, hothers ▸ hperm⟩
  rw [TimerQueue.now_scheduleAll, hstarts'.now_eq, hstarts.now_eq]
  exact hnow

/-- **Timers of others are invisible.**  A flow is played on a queue where nothing else waits, and again on
one with the same clock where others have set any timers before, and set more after the start.  The second
time it starts as well.  If both come to an end, the observer was told the same at the same times, and the
display, the random source and the clock are left the same.  No timer of others was cancelled: some were
popped, in the order of their due times and each of them once, and the rest still wait.  What was popped was
due, and what was due was popped unless the allowance was used up. -/
theorem drain_among_others (hreach : pb.player.Reachable) (hqueue : pb.timers.pending = [])
    (hplay : pb.play flow = .ok (.started, next)) (crowd : TimerQueue) (hnow : crowd.now = pb.timers.now)
    (later : List (Wakeup × Nat)) :
    ∃ next', ({ pb with timers := crowd } : Playback σ).play flow = .ok (.started, next') ∧
      let full : Playback σ := { next' with timers := next'.timers.scheduleAll later }
      full.others.Perm (next'.timers.appointments later ++ crowd.pending) ∧
      ∀ limit limit', (next.drain limit).playback.player.isRunning = false →
        (full.drain limit').playback.player.isRunning = false →
        let o := next.drain limit
        let o' := full.drain limit'
        o'.seen = o.seen ∧ o'.playback.display = o.playback.display ∧
          o'.playback.player.source = o.playback.player.source ∧
          o'.playback.timers.now = o.playback.timers.now ∧
          ∃ popped, full.others = popped ++ o'.playback.timers.pending ∧
            o'.fired = o.fired + popped.length ∧
            (∀ t ∈ popped, t.due ≤ o'.playback.timers.now) ∧
            (o'.fired < limit' → ∀ t ∈ o'.playback.timers.pending, o'.playback.timers.now < t.due) := by
  have hrests : pb.player.Rests := rests_of_play (Player.sound_of_reachable hreach) hplay
  obtain ⟨next', hplay', hamid, hclock, hperm⟩ := exists_play_amid hrests hqueue hplay hnow later
  refine ⟨next', hplay', hperm, ?_⟩
  intro limit limit' hidle hidle'
  obtain ⟨first, -, hplays⟩ := (starts_of_play hplay).exists_playsAt
  have hrunning := hplays.isRunning_eq
  have hdrain := drain_eq_drainFrom hrunning limit
  have hdrain' := drain_eq_drainFrom (hamid.similar.isRunning_eq.trans hrunning) limit'
  have hflush : (Observed.flush { playback := next }).Amid (Observed.flush { playback := _ }) :=
    ⟨hamid.takeEvents, Observed.seen_flush_eq hamid.similar.log_eq hclock rfl, rfl⟩
  obtain ⟨popped, hfollows⟩ := hflush.follows_of_idle (hdrain ▸ hidle) (hdrain' ▸ hidle')
  have hsimilar := hfollows.amid.playback.similar
  obtain ⟨-, hrests', hnow'⟩ := hfollows.amid.playback.rests_of_idle (hdrain ▸ hidle)
  have hothers := hfollows.passes.others_eq
  have hfired := hfollows.fired_eq
  rw [others_of_rests hrests'] at hothers
  rw [hdrain, hdrain']
  refine ⟨hfollows.amid.seen_eq, hsimilar.display_eq, hsimilar.source_eq, hnow', popped, hothers, ?_,
    hfollows.passes.due_le, ?_⟩
  · simpa [Observed.flush, Nat.add_assoc] using hfired
  · intro hroom t ht
    refine TimerQueue.lt_due_of_popDue?_eq_none (hfollows.popDue?_eq_none ?_) ht
    simpa [Observed.flush] using hroom

end Playback
namespace Sample

/-- A queue on which others have set two timers. -/
def crowd : TimerQueue := TimerQueue.empty.scheduleAll [(.advance, 700), (.restart, 0)]

/-- What others set after the start: a timer that is due with the player's first one, and one that is due
when the sample is over. -/
def latecomers : List (Wakeup × Nat) := [(.restart, 500), (.advance, 99999)]

/-- The sample, started among others. -/
def crowded : Playback Stage :=
  let pb := ({ idle (some 1) with timers := crowd } : Playback Stage).call (.play flow)
  { pb with timers := pb.timers.scheduleAll latecomers }

end Sample

/-- Three timers of others are popped while the sample is played, and one still waits when it is over. -/
theorem Playback.drain_among_others_sample :
    (Sample.idle (some 1)).player.Reachable ∧
      let alone := ((Sample.idle (some 1)).call (.play Sample.flow)).drain 9
      let crowded := Sample.crowded.drain 9
      crowded.seen = alone.seen ∧ crowded.playback.display = alone.playback.display ∧
        alone.fired = 5 ∧ crowded.fired = 8 ∧
        crowded.playback.timers.pending = [⟨99999, ⟨4⟩, .advance⟩] := by
  have hreach : (Sample.idle (some 1)).player.Reachable := ⟨_, _, _, .refl⟩
  have halone : (Sample.idle (some 1)).play Sample.flow =
      .ok (.started, (Sample.idle (some 1)).call (.play Sample.flow)) := rfl
  obtain ⟨next, hplay, -, hdrain⟩ :=
    drain_among_others hreach rfl halone Sample.crowd rfl Sample.latecomers
  have hcrowded : Sample.crowded =
      ({ next with timers := next.timers.scheduleAll Sample.latecomers } : Playback Stage) := by
    rw [Sample.crowded, call, hplay]
  rw [← hcrowded] at hdrain
  obtain ⟨hseen, hdisplay, -⟩ := hdrain 9 9 rfl rfl
  exact ⟨hreach, hseen, hdisplay, rfl, rfl, rfl⟩

end Marionette

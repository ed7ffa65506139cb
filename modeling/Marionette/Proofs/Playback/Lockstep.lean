import Marionette.Proofs.Playback.Drain
import Marionette.Proofs.StepTable.Columns

/-!
# Two plays in lockstep

What a player does next depends on the snapshots of its run, on the lanes of the actors in them, and on what
it is tuned to and has drawn so far.  So two players that have these in common go on alike: both rest, or both
wait at the same snapshot for timers that are set with the same delay.  The blocks of other actors, the way in
which the lanes are interleaved, and the names of the timers may differ.

In particular a flow may be written down in any order that keeps its lanes.  It is then told in the same way,
through every repeat run.

## Main definitions

* `Run.Alike`, `Playback.Similar` — what two runs and two playbacks have in common.
* `Playback.GoOn` — what two wakeups in lockstep lead to.
* `Playback.Twins`, `Observed.Twins` — two plays in lockstep on the same timers.

## Main results

* `Playback.goOn_onTimer`, `goOn_start` — pending timers and starts lead on in lockstep.
* `Observed.Twins.drainFrom` — twins drain in the same way.
* `Playback.agrees_of_laneOf_eq` — flows of the same lanes compile and play in the same way.
-/

namespace Marionette

/-! ### What two plays have in common -/

/-- Two runs show the same snapshots, are at the same step, and have the same lanes for the actors. -/
structure Run.Alike (run run' : Run) (actors : List ActorId) : Prop where
  step_eq : run'.step = run.step
  snapshots_eq : run'.table.snapshots = run.table.snapshots
  laneOf_eq : ∀ a ∈ actors, laneOf run.blocks a = laneOf run'.blocks a

namespace Run.Alike

variable {run run' : Run} {actors : List ActorId}

theorem next (h : run.Alike run' actors) : run.next.Alike run'.next actors :=
  ⟨congrArg (· + 1) h.step_eq, h.snapshots_eq, h.laneOf_eq⟩

theorem snapshot?_eq (h : run.Alike run' actors) : run'.snapshot? = run.snapshot? := by
  show run'.table.snapshots[run'.step]? = run.table.snapshots[run.step]?
  rw [h.step_eq, h.snapshots_eq]

/-- The blocks that are kept for a repeat run have the same lanes, too. -/
theorem laneOf_blocksOf_eq (h : run.Alike run' actors) {set : ActorSet} (hset : ∀ a ∈ set.keys, a ∈ actors) :
    ∀ a ∈ set.keys, laneOf (Playback.blocksOf set run.blocks) a =
      laneOf (Playback.blocksOf set run'.blocks) a := by
  intro a ha
  rw [laneOf_blocksOf ha, laneOf_blocksOf ha]
  exact h.laneOf_eq a (hset a ha)

end Run.Alike

theorem StepTable.size_congr {t t' : StepTable} (h : t'.snapshots = t.snapshots) : t'.size = t.size := by
  rw [size, size, h]

theorem StepTable.last_congr {t t' : StepTable} (h : t'.snapshots = t.snapshots) : t'.last = t.last := by
  rw [last_eq, last_eq, size_congr h]

/-- Who takes the events does not disturb the player. -/
theorem Player.Rests.takeEvents {p : Player} (h : p.Rests) : p.takeEvents.2.Rests :=
  ⟨h.status_eq, h.run_eq, h.pending_eq⟩

theorem Player.PlaysAt.takeEvents {p : Player} {run : Run} {actors : List ActorId} {s : Snapshot}
    {token : TimerToken} (h : p.PlaysAt run actors s token) : p.takeEvents.2.PlaysAt run actors s token :=
  ⟨h.status_eq, h.run_eq, h.pending_eq, h.fits, h.snapshot_eq, h.step_lt⟩

/-- The player without its run and its timer. -/
def Player.bare (p : Player) : Player := { p with run? := none, pending? := none }

namespace Playback

variable {σ : Type}

/-- Two playbacks have everything in common but their runs and their timers. -/
structure Similar (pb pb' : Playback σ) : Prop where
  bare_eq : pb'.player.bare = pb.player.bare
  display_eq : pb'.display = pb.display

namespace Similar

variable {pb pb' : Playback σ} {run run' : Run} {actors : List ActorId}

theorem refl (pb : Playback σ) : pb.Similar pb := ⟨rfl, rfl⟩

/-- What looks neither at the run nor at the timer is the same for both. -/
theorem congr {α : Type} (h : pb.Similar pb') (f : Player → α) (hf : ∀ p : Player, f p.bare = f p) :
    f pb'.player = f pb.player := by
  rw [← hf, h.bare_eq, hf]

theorem registry_eq (h : pb.Similar pb') : pb'.player.registry = pb.player.registry :=
  h.congr Player.registry fun _ => rfl

theorem config_eq (h : pb.Similar pb') : pb'.player.config = pb.player.config :=
  h.congr Player.config fun _ => rfl

theorem source_eq (h : pb.Similar pb') : pb'.player.source = pb.player.source :=
  h.congr Player.source fun _ => rfl

theorem repeats_eq (h : pb.Similar pb') : pb'.player.repeats = pb.player.repeats :=
  h.congr Player.repeats fun _ => rfl

theorem log_eq (h : pb.Similar pb') : pb'.player.log = pb.player.log := h.congr Player.log fun _ => rfl

theorem isRunning_eq (h : pb.Similar pb') : pb'.player.isRunning = pb.player.isRunning :=
  h.congr Player.isRunning fun _ => rfl

theorem isCapped_eq (h : pb.Similar pb') : pb'.player.isCapped = pb.player.isCapped :=
  h.congr Player.isCapped fun _ => rfl

theorem hold_eq (h : pb.Similar pb') (s : Snapshot) : pb'.player.hold s = pb.player.hold s :=
  h.congr (Player.hold · s) fun _ => rfl

theorem stepDelay_eq (h : pb.Similar pb') : pb'.player.stepDelay = pb.player.stepDelay :=
  h.congr Player.stepDelay fun _ => rfl

theorem repeatDelay_eq (h : pb.Similar pb') : pb'.player.repeatDelay = pb.player.repeatDelay :=
  h.congr Player.repeatDelay fun _ => rfl

theorem note (h : pb.Similar pb') (e : Event) : (pb.note e).Similar (pb'.note e) :=
  ⟨congrArg (Player.note · e) h.bare_eq, h.display_eq⟩

theorem arm (h : pb.Similar pb') (wakeup : Wakeup) (delay : Nat) :
    (pb.arm wakeup delay).Similar (pb'.arm wakeup delay) := by
  constructor
  · rw [player_arm, player_arm]
    exact h.bare_eq
  · exact h.display_eq

/-- Who looks at the timers alone cannot tell. -/
theorem with_timers (h : pb.Similar pb') (timers timers' : TimerQueue) :
    ({ pb with timers } : Playback σ).Similar { pb' with timers := timers' } :=
  ⟨h.bare_eq, h.display_eq⟩

/-- Both have drawn the same. -/
theorem with_source (h : pb.Similar pb') (source : RandomSource) :
    ({ pb with player := { pb.player with source } } : Playback σ).Similar
      { pb' with player := { pb'.player with source } } :=
  ⟨congrArg (fun p : Player => { p with source }) h.bare_eq, h.display_eq⟩

/-- Both hand out the same events. -/
theorem takeEvents (h : pb.Similar pb') : pb.takeEvents.2.Similar pb'.takeEvents.2 :=
  ⟨congrArg (fun p : Player => { p with log := [] }) h.bare_eq, h.display_eq⟩

variable [Display σ]

theorem finish (h : pb.Similar pb') (e : Event) : (pb.finish e).Similar (pb'.finish e) :=
  ⟨congrArg (fun p : Player => { p with status := .idle }.note e) h.bare_eq,
    congrArg Display.finished h.display_eq⟩

theorem shown (h : pb.Similar pb') (hrun : run.Alike run' actors) (s : Snapshot) :
    (pb.shown run s).Similar (pb'.shown run' s) := by
  constructor
  · show pb'.player.bare.note (.stepApplied pb'.player.repeats run'.next.step run'.table.last _ _) =
      pb.player.bare.note (.stepApplied pb.player.repeats run.next.step run.table.last _ _)
    rw [h.bare_eq, h.repeats_eq, hrun.next.step_eq, StepTable.last_congr hrun.snapshots_eq]
  · show Display.applyBatch pb'.display s.batch = Display.applyBatch pb.display s.batch
    rw [h.display_eq]

theorem begun (h : pb.Similar pb') {flow flow' : Flow} {table table' : StepTable}
    (htable : table'.snapshots = table.snapshots) (first : Snapshot) :
    (pb.begun flow table first).Similar (pb'.begun flow' table' first) := by
  constructor
  · show ({ pb'.player.bare with status := .running, repeats := 0 }.note (.started table'.size)).note
        (.stepApplied 0 0 table'.last _ _) =
      ({ pb.player.bare with status := .running, repeats := 0 }.note (.started table.size)).note
        (.stepApplied 0 0 table.last _ _)
    rw [h.bare_eq, StepTable.size_congr htable, StepTable.last_congr htable]
  · show Display.applyBatch (Display.started pb'.display) first.batch =
      Display.applyBatch (Display.started pb.display) first.batch
    rw [h.display_eq]

omit [Display σ] in
/-- The same table starts for both. -/
theorem restarted (h : pb.Similar pb') (run run' : Run) (s : Snapshot) (out : StepTable × RandomSource) :
    (pb.restarted run s out).Similar (pb'.restarted run' s out) := by
  constructor
  · show { pb'.player.bare with source := out.2, repeats := pb'.player.repeats + 1 }.note
        (.repeatStarted (pb'.player.repeats + 1) s.repeaters out.1.size) =
      { pb.player.bare with source := out.2, repeats := pb.player.repeats + 1 }.note
        (.repeatStarted (pb.player.repeats + 1) s.repeaters out.1.size)
    rw [h.bare_eq, h.repeats_eq]
  · exact h.display_eq

/-- Both compile the same snapshots, and draw the same for it. -/
theorem compile (h : pb.Similar pb') {flow flow' : Flow}
    (hlanes : ∀ a ∈ Display.actorIds pb.display, laneOf flow.blocks a = laneOf flow'.blocks a) :
    (pb'.compile flow').1.snapshots = (pb.compile flow).1.snapshots ∧
      (pb.compile flow).2.Similar (pb'.compile flow').2 := by
  obtain ⟨htable, hsource, -⟩ := StepTable.run_compile_congr hlanes pb.player.registry
    pb.player.config.surroundings (Display.currentStates pb.display) pb.player.source
  rw [Playback.compile, Playback.compile, h.registry_eq, h.config_eq, h.display_eq]
  dsimp only [Player.draw]
  rw [h.source_eq, hsource]
  exact ⟨htable, (h.with_source _).bare_eq, rfl⟩

end Similar

/-! ### Going on in lockstep -/

variable [Display σ]

/-- What two wakeups, or two starts, in lockstep lead to where `q` and `q'` were the timers.  Either both
rest, or both wait at one snapshot for timers that were set with one delay just now. -/
inductive GoOn (q q' : TimerQueue) (next next' : Playback σ) : Prop
  | rest (hsimilar : next.Similar next') (hrests : next.player.Rests) (hrests' : next'.player.Rests)
      (htimers : next.timers = q) (htimers' : next'.timers = q')
  | wait (run run' : Run) (actors : List ActorId) (s : Snapshot) (delay : Nat)
      (hsimilar : next.Similar next') (halike : run.Alike run' actors)
      (hplays : next.player.PlaysAt run actors s q.nextToken)
      (hplays' : next'.player.PlaysAt run' actors s q'.nextToken)
      (htimers : next.timers = (q.schedule s.wakeup delay).2)
      (htimers' : next'.timers = (q'.schedule s.wakeup delay).2)

variable {pb pb' : Playback σ} {run run' : Run} {actors : List ActorId} {s : Snapshot}
  {token token' : TimerToken}

omit [Display σ] in
/-- Players that wait at one snapshot of alike runs compile the same repeat run. -/
theorem nextTable_eq (hsimilar : pb.Similar pb') (halike : run.Alike run' actors)
    (hplays : pb.player.PlaysAt run actors s token) :
    pb'.player.nextTable run' s = pb.player.nextTable run s := by
  rw [Player.nextTable, Player.nextTable, hsimilar.registry_eq, hsimilar.config_eq]
  exact (StepTable.recompile_congr (halike.laneOf_blocksOf_eq fun _ ha =>
    hplays.fits.mem_of_mem_repeaters hplays.snapshot_eq ha)).symm

/-- Two players start repeat runs in lockstep. -/
theorem goOn_repeated (hsimilar : pb.Similar pb') (halike : run.Alike run' actors)
    (hplays : pb.player.PlaysAt run actors s token) (hplays' : pb'.player.PlaysAt run' actors s token')
    (hs : s.repeaters.isEmpty = false) :
    GoOn pb.timers pb'.timers (pb.onTimer token).2 (pb'.onTimer token').2 := by
  obtain ⟨out, hout⟩ : ∃ out, (pb.player.nextTable run s).run pb.player.source = out := ⟨_, rfl⟩
  have hout' : (pb'.player.nextTable run' s).run pb'.player.source = out := by
    rw [nextTable_eq hsimilar halike hplays, hsimilar.source_eq, hout]
  rw [onTimer_of_restart hplays hs hout, onTimer_of_restart hplays' hs hout']
  obtain ⟨first, hfirst, hnext⟩ := exists_playsAt_restarted hplays hs hout
  obtain ⟨first', -, hnext'⟩ := exists_playsAt_restarted hplays' hs hout'
  -- both have the same table, so they wait at the same first snapshot
  obtain rfl : first' = first := Option.some.inj (hnext'.snapshot_eq.symm.trans hnext.snapshot_eq)
  have hlanes := halike.laneOf_blocksOf_eq fun _ ha =>
    hplays.fits.mem_of_mem_repeaters hplays.snapshot_eq ha
  refine .wait { blocks := blocksOf s.repeaters run.blocks, table := out.1 }
    { blocks := blocksOf s.repeaters run'.blocks, table := out.1 } s.repeaters.keys first'
    pb.player.stepDelay (hsimilar.restarted run run' s out) ⟨rfl, rfl, hlanes⟩ hnext hnext' ?_ ?_
  · rw [hfirst]
    rfl
  · rw [hfirst, ← hsimilar.stepDelay_eq]
    rfl

/-- Two players come to their end in lockstep. -/
theorem goOn_finish (hsimilar : pb.Similar pb') (e : Event) :
    GoOn pb.timers pb'.timers (pb.finish e) (pb'.finish e) :=
  .rest (hsimilar.finish e) ⟨rfl, rfl, rfl⟩ ⟨rfl, rfl, rfl⟩ rfl rfl

omit [Display σ] in
@[simp] theorem nextToken_disarm (pb : Playback σ) :
    pb.disarm.timers.nextToken = pb.timers.nextToken := by
  rcases h : pb.player.pending? with _ | ⟨old, _⟩ <;>
    simp [disarm, h, TimerQueue.nextToken, TimerQueue.cancel]

omit [Display σ] in
/-- Two players set their timers in lockstep, in place of earlier ones. -/
theorem goOn_arm (hsimilar : pb.Similar pb') (halike : run.Alike run' actors) {delay : Nat}
    (hplays : (pb.arm s.wakeup delay).player.PlaysAt run actors s pb.timers.nextToken)
    (hplays' : (pb'.arm s.wakeup delay).player.PlaysAt run' actors s pb'.timers.nextToken) :
    GoOn pb.disarm.timers pb'.disarm.timers (pb.arm s.wakeup delay) (pb'.arm s.wakeup delay) := by
  rw [← nextToken_disarm] at hplays hplays'
  exact .wait run run' actors s delay (hsimilar.arm s.wakeup delay) halike hplays hplays' rfl rfl

/-- Two players show the next snapshot in lockstep.  Where one ends so does the other, and else both set a
timer with the same delay. -/
theorem goOn_advanced (hsimilar : pb.Similar pb') (halike : run.Alike run' actors)
    (hplays : pb.player.PlaysAt run actors s token) (hplays' : pb'.player.PlaysAt run' actors s token')
    (hs : s.repeaters.isEmpty = true) :
    GoOn pb.timers pb'.timers (pb.onTimer token).2 (pb'.onTimer token').2 := by
  have hwakeup : s.wakeup = .advance := s.wakeup_eq_advance_iff.mpr hs
  obtain ⟨s', hs'⟩ := hplays.exists_next hs
  have hnext' : run'.next.snapshot? = some s' := halike.next.snapshot?_eq.trans hs'
  have hstep : run'.next.step = run.next.step := halike.next.step_eq
  have hlast : run'.last = run.last := StepTable.last_congr halike.snapshots_eq
  have hshown : (pb.shown run s').Similar (pb'.shown run' s') := hsimilar.shown halike s'
  rw [onTimer_of_advance (hwakeup ▸ hplays.pending_eq) hplays.run_eq hs',
    onTimer_of_advance (hwakeup ▸ hplays'.pending_eq) hplays'.run_eq hnext']
  rcases hrep : s'.repeaters.isEmpty with _ | _
  · have hcapped := hshown.isCapped_eq
    rcases hcap : (pb.shown run s').player.isCapped with _ | _
    · have hlt : ∀ {r : Run}, s'.repeaters.isEmpty = true → r.next.step < r.last := by simp [hrep]
      rw [goOn_of_repeat _ _ hrep hcap, goOn_of_repeat _ _ hrep (hcapped.trans hcap), hshown.hold_eq,
        hshown.repeatDelay_eq, ← s'.wakeup_eq_restart_iff.mpr hrep]
      exact goOn_arm (hshown.note _) halike.next
        (playsAt_arm hplays ((pb.shown run s').note _) rfl rfl rfl hs' hlt _)
        (playsAt_arm hplays' ((pb'.shown run' s').note _) rfl rfl rfl hnext' hlt _)
    · rw [goOn_of_isCapped _ _ hrep hcap, goOn_of_isCapped _ _ hrep (hcapped.trans hcap)]
      exact goOn_finish hshown .finished
  · rcases Nat.lt_or_ge run.next.step run.last with hlt | hge
    · have hlt' : run'.next.step < run'.last := by rwa [hstep, hlast]
      rw [goOn_of_lt _ _ hrep hlt, goOn_of_lt _ _ hrep hlt', hshown.hold_eq, hshown.stepDelay_eq,
        ← s'.wakeup_eq_advance_iff.mpr hrep]
      exact goOn_arm hshown halike.next
        (playsAt_arm hplays (pb.shown run s') rfl rfl rfl hs' (fun _ => hlt) _)
        (playsAt_arm hplays' (pb'.shown run' s') rfl rfl rfl hnext' (fun _ => hlt') _)
    · have hge' : run'.last ≤ run'.next.step := by rwa [hstep, hlast]
      rw [goOn_of_le _ _ hrep hge, goOn_of_le _ _ hrep hge']
      exact goOn_finish hshown .finished

/-- **The pending timers of two players lead on in lockstep**, whatever these are called and whichever other
timers wait. -/
theorem goOn_onTimer (hsimilar : pb.Similar pb') (halike : run.Alike run' actors)
    (hplays : pb.player.PlaysAt run actors s token) (hplays' : pb'.player.PlaysAt run' actors s token') :
    GoOn pb.timers pb'.timers (pb.onTimer token).2 (pb'.onTimer token').2 := by
  rcases hs : s.repeaters.isEmpty with _ | _
  · exact goOn_repeated hsimilar halike hplays hplays' hs
  · exact goOn_advanced hsimilar halike hplays hplays' hs

/-! ### Starting in lockstep -/

variable {flow flow' : Flow} {started started' : Playback σ}

/-- **Flows of the same lanes start in lockstep.** -/
theorem goOn_start (hsimilar : pb.Similar pb')
    (hlanes : ∀ a ∈ Display.actorIds pb.display, laneOf flow.blocks a = laneOf flow'.blocks a)
    (hstarts : pb.Starts flow started) (hstarts' : pb'.Starts flow' started') :
    GoOn pb.disarm.timers pb'.disarm.timers started started' := by
  obtain ⟨htable, hcompile⟩ := hsimilar.compile hlanes
  obtain ⟨first, hstarted, hplays⟩ := hstarts.exists_playsAt
  obtain ⟨first', hstarted', hplays'⟩ := hstarts'.exists_playsAt
  have halike : Run.Alike { blocks := flow.blocks, table := (pb.compile flow).1 }
      { blocks := flow'.blocks, table := (pb'.compile flow').1 } (Display.actorIds pb.display) :=
    ⟨rfl, htable, hlanes⟩
  obtain rfl : first' = first :=
    Option.some.inj (hplays'.snapshot_eq.symm.trans (halike.snapshot?_eq.trans hplays.snapshot_eq))
  have hwakeup : first'.wakeup = .advance := by
    have hpending := hplays.pending_eq
    rw [hstarted, player_arm] at hpending
    exact (Prod.mk.inj (Option.some.inj hpending)).2.symm
  rw [hsimilar.display_eq] at hplays'
  rw [hstarted, ← hwakeup] at hplays ⊢
  rw [hstarted', hsimilar.stepDelay_eq, ← hwakeup] at hplays' ⊢
  exact goOn_arm (hcompile.begun htable first') halike hplays hplays'

/-! ### Twins -/

/-- Two playbacks in lockstep on the same timers. -/
inductive Twins (pb pb' : Playback σ) : Prop
  | rest (hsimilar : pb.Similar pb') (hrests : pb.player.Rests) (hrests' : pb'.player.Rests)
      (htimers : pb'.timers = pb.timers)
  | wait (run run' : Run) (actors : List ActorId) (s : Snapshot) (token : TimerToken)
      (hsimilar : pb.Similar pb') (halike : run.Alike run' actors)
      (hplays : pb.player.PlaysAt run actors s token) (hplays' : pb'.player.PlaysAt run' actors s token)
      (htimers : pb'.timers = pb.timers)

omit [Display σ] in
/-- Who goes on in lockstep from the same timers has the same timers. -/
theorem GoOn.twins {q : TimerQueue} (h : GoOn q q pb pb') : Twins pb pb' := by
  cases h with
  | rest hsimilar hrests hrests' htimers htimers' =>
    exact .rest hsimilar hrests hrests' (htimers'.trans htimers.symm)
  | wait run run' actors s delay hsimilar halike hplays hplays' htimers htimers' =>
    exact .wait run run' actors s _ hsimilar halike hplays hplays' (htimers'.trans htimers.symm)

namespace Twins

omit [Display σ] in
theorem similar (h : Twins pb pb') : pb.Similar pb' := by
  cases h with
  | rest hsimilar => exact hsimilar
  | wait _ _ _ _ _ hsimilar => exact hsimilar

omit [Display σ] in
theorem timers_eq (h : Twins pb pb') : pb'.timers = pb.timers := by
  cases h with
  | rest _ _ _ htimers => exact htimers
  | wait _ _ _ _ _ _ _ _ _ htimers => exact htimers

omit [Display σ] in
/-- Twins may be put on other timers. -/
theorem with_timers (h : Twins pb pb') (timers : TimerQueue) :
    Twins { pb with timers } { pb' with timers } := by
  cases h with
  | rest hsimilar hrests hrests' _ => exact .rest (hsimilar.with_timers _ _) hrests hrests' rfl
  | wait run run' actors s token hsimilar halike hplays hplays' _ =>
    exact .wait run run' actors s token (hsimilar.with_timers _ _) halike hplays hplays' rfl

omit [Display σ] in
theorem takeEvents (h : Twins pb pb') : Twins pb.takeEvents.2 pb'.takeEvents.2 := by
  cases h with
  | rest hsimilar hrests hrests' htimers =>
    exact .rest hsimilar.takeEvents hrests.takeEvents hrests'.takeEvents htimers
  | wait run run' actors s token hsimilar halike hplays hplays' htimers =>
    exact .wait run run' actors s token hsimilar.takeEvents halike hplays.takeEvents hplays'.takeEvents
      htimers

/-- Twins stay twins, whichever timer fires. -/
theorem onTimer (h : Twins pb pb') (token : TimerToken) :
    Twins (pb.onTimer token).2 (pb'.onTimer token).2 := by
  cases h with
  | rest hsimilar hrests hrests' htimers =>
    rw [onTimer_of_rests hrests, onTimer_of_rests hrests']
    exact .rest hsimilar hrests hrests' htimers
  | wait run run' actors s own hsimilar halike hplays hplays' htimers =>
    by_cases hown : own = token
    · subst hown
      have hgo := goOn_onTimer hsimilar halike hplays hplays'
      rw [htimers] at hgo
      exact hgo.twins
    · rw [onTimer_of_foreign hplays hown, onTimer_of_foreign hplays' hown]
      exact .wait run run' actors s own hsimilar halike hplays hplays' htimers

end Twins
end Playback

namespace Observed

variable {σ : Type} [Display σ] {o o' : Observed σ}

/-- The observer was told the same at the same times, as many timers were fired, and what is left on the
display, in the queue and in the random source is the same. -/
structure Agrees (o o' : Observed σ) : Prop where
  seen_eq : o'.seen = o.seen
  fired_eq : o'.fired = o.fired
  display_eq : o'.playback.display = o.playback.display
  timers_eq : o'.playback.timers = o.playback.timers
  source_eq : o'.playback.player.source = o.playback.player.source

/-- Twins of which the observer was told the same. -/
structure Twins (o o' : Observed σ) : Prop where
  playback : o.playback.Twins o'.playback
  seen_eq : o'.seen = o.seen
  fired_eq : o'.fired = o.fired

omit [Display σ] in
/-- Playbacks with the same log tell the observer the same. -/
theorem seen_flush_eq (hlog : o'.playback.player.log = o.playback.player.log)
    (hnow : o'.playback.timers.now = o.playback.timers.now) (hseen : o'.seen = o.seen) :
    o'.flush.seen = o.flush.seen := by
  rw [← Array.toList_inj, seen_flush, seen_flush, hlog, hnow, hseen]

namespace Twins

omit [Display σ] in
theorem agrees (h : Twins o o') : o.Agrees o' :=
  ⟨h.seen_eq, h.fired_eq, h.playback.similar.display_eq, h.playback.timers_eq, h.playback.similar.source_eq⟩

omit [Display σ] in
theorem flush (h : Twins o o') : Twins o.flush o'.flush :=
  ⟨h.playback.takeEvents, seen_flush_eq h.playback.similar.log_eq
    (congrArg TimerQueue.now h.playback.timers_eq) h.seen_eq, h.fired_eq⟩

theorem fire (h : Twins o o') (t : Timer) (timers : TimerQueue) :
    Twins (o.fire t timers) (o'.fire t timers) := by
  have hfired : Twins
      { o with playback := ({ o.playback with timers }.onTimer t.token).2, fired := o.fired + 1 }
      { o' with playback := ({ o'.playback with timers }.onTimer t.token).2, fired := o'.fired + 1 } :=
    ⟨(h.playback.with_timers timers).onTimer t.token, h.seen_eq, congrArg (· + 1) h.fired_eq⟩
  exact hfired.flush

/-- **Twins drain in the same way.** -/
theorem drainFrom (room : Nat) (h : Twins o o') :
    Twins (Observed.drainFrom room o) (Observed.drainFrom room o') := by
  induction room generalizing o o' with
  | zero => exact h
  | succ room ih =>
    rw [Observed.drainFrom, Observed.drainFrom, h.playback.timers_eq, h.playback.similar.isRunning_eq]
    rcases o.playback.timers.popDue? with _ | ⟨t, timers⟩
    · rcases o.playback.player.isRunning with _ | _
      · exact h
      · rcases o.playback.timers.nextDue? with _ | due
        · exact h
        · dsimp only
          rcases (o.playback.timers.advanceTo due).popDue? with _ | ⟨t, timers⟩
          · exact h
          · exact ih (h.fire t timers)
    · exact ih (h.fire t timers)

end Twins
end Observed

namespace Playback

variable {σ : Type} [Display σ] {pb pb' : Playback σ}

theorem Twins.drain (h : Twins pb pb') (limit : Nat) : (pb.drain limit).Twins (pb'.drain limit) := by
  have hflush : Observed.Twins (Observed.flush { playback := pb }) (Observed.flush { playback := pb' }) :=
    Observed.Twins.flush ⟨h, rfl, rfl⟩
  rw [Playback.drain, Playback.drain, hflush.playback.similar.isRunning_eq]
  split
  · exact hflush.drainFrom limit
  · exact hflush

/-! ### Flows of the same lanes -/

/-- What comes of playing flows of the same lanes: both are refused, or both have nothing to play, or both
start and go on as twins. -/
theorem agrees_play (pb : Playback σ) {flow flow' : Flow}
    (hlanes : ∀ a ∈ Display.actorIds pb.display, laneOf flow.blocks a = laneOf flow'.blocks a)
    {outcome : PlayOutcome} {next : Playback σ} (hplay : pb.play flow = .ok (outcome, next)) :
    ∃ next', pb.play flow' = .ok (outcome, next') ∧ ∀ limit, (next.drain limit).Agrees (next'.drain limit) := by
  obtain ⟨htable, hcompile⟩ := (Similar.refl pb).compile hlanes
  have hempty : (pb.compile flow').1.isEmpty = (pb.compile flow).1.isEmpty :=
    congrArg List.isEmpty htable
  rcases hrunning : pb.player.isRunning with _ | _
  · rcases hne : (pb.compile flow).1.isEmpty with _ | _
    · obtain ⟨started, hplays, hstarts⟩ := exists_starts hrunning hne
      obtain ⟨started', hplays', hstarts'⟩ := exists_starts hrunning (hempty.trans hne)
      rw [hplays] at hplay
      cases hplay
      have htwins : Twins next started' := (goOn_start (.refl pb) hlanes hstarts hstarts').twins
      exact ⟨started', hplays', fun limit => (htwins.drain limit).agrees⟩
    · rw [play_of_isEmpty hrunning hne] at hplay
      cases hplay
      have hidle : (pb.compile flow).2.player.isRunning = false := hrunning
      have hidle' : (pb.compile flow').2.player.isRunning = false := hrunning
      refine ⟨_, play_of_isEmpty hrunning (hempty.trans hne), fun limit => ?_⟩
      rw [drain_eq_flush hidle, drain_eq_flush hidle']
      exact ⟨rfl, rfl, rfl, rfl, hcompile.source_eq⟩
  · rw [play, if_pos hrunning] at hplay
    cases hplay

/-- Whether a flow is refused does not depend on the flow. -/
theorem play_eq_error_iff (pb : Playback σ) (flow : Flow) (refusal : Refusal) :
    pb.play flow = .error refusal ↔ pb.player.isRunning = true ∧ refusal = .alreadyPlaying := by
  rcases hrunning : pb.player.isRunning with _ | _
  · rcases hne : (pb.compile flow).1.isEmpty with _ | _
    · rw [play_of_idle hrunning hne]
      simp
    · rw [play_of_isEmpty hrunning hne]
      simp
  · rw [play, if_pos hrunning]
    constructor
    · intro heq
      exact ⟨rfl, (Except.error.inj heq).symm⟩
    · rintro ⟨-, rfl⟩
      rfl

/-- **Only the lanes count, and not how they are interleaved.**  Blocks that have the same lanes for the
listed actors are compiled to the same snapshots, have drawn the same and note the same unknown kinds,
whichever kinds draw.  Played as flows they are refused alike, have nothing to play alike, or go on alike
through every repeat run, under any allowance. -/
theorem agrees_of_laneOf_eq {blocks blocks' : List ActionBlock} {actors : List ActorId}
    (h : ∀ a ∈ actors, laneOf blocks a = laneOf blocks' a) :
    (∀ (r : Registry) (around : Surroundings) (seed : StateMap) (source : RandomSource),
      let out := (StepTable.compile r around blocks actors seed).run source
      let out' := (StepTable.compile r around blocks' actors seed).run source
      out'.1.snapshots = out.1.snapshots ∧ out'.2 = out.2 ∧ out'.1.unknownNotes = out.1.unknownNotes) ∧
    ∀ {σ : Type} [Display σ] (pb : Playback σ) (flow flow' : Flow), flow.blocks = blocks →
      flow'.blocks = blocks' → Display.actorIds pb.display = actors →
      (∀ refusal, pb.play flow = .error refusal ↔ pb.play flow' = .error refusal) ∧
      ∀ outcome next, pb.play flow = .ok (outcome, next) →
        ∃ next', pb.play flow' = .ok (outcome, next') ∧
          ∀ limit, (next.drain limit).Agrees (next'.drain limit) := by
  constructor
  · intro r around seed source
    exact StepTable.run_compile_congr h r around seed source
  · rintro σ _ pb flow flow' rfl rfl rfl
    constructor
    · intro refusal
      rw [play_eq_error_iff, play_eq_error_iff]
    · intro outcome next hplay
      exact agrees_play pb h hplay

end Playback

namespace Sample

/-- The sample with its lanes interleaved in another way, and with a block for somebody who is not there. -/
def shuffled : Flow :=
  { flow with
    blocks := [2, 0, 3, 1, 4].filterMap (flow.blocks[·]?) ++
      [{ id := ⟨"6"⟩, action := "step", target := some ⟨"c"⟩ }] }

end Sample

/-- Either way the sample is over after five timers. -/
theorem Playback.agrees_of_laneOf_eq_sample :
    let next := (Sample.idle (some 1)).call (.play Sample.flow)
    (next.drain 9).fired = 5 ∧ (next.drain 9).playback.player.isRunning = false ∧
      ∃ next', (Sample.idle (some 1)).play Sample.shuffled = .ok (.started, next') ∧
        (next.drain 9).Agrees (next'.drain 9) := by
  have hlanes : ∀ a ∈ [⟨"a"⟩, ⟨"b"⟩], laneOf Sample.flow.blocks a = laneOf Sample.shuffled.blocks a := by
    decide
  have hplays := ((agrees_of_laneOf_eq hlanes).2 (Sample.idle (some 1)) Sample.flow Sample.shuffled rfl rfl
    rfl).2
  obtain ⟨next', hplay', hagrees⟩ := hplays .started ((Sample.idle (some 1)).call (.play Sample.flow)) rfl
  exact ⟨rfl, rfl, next', hplay', hagrees 9⟩

end Marionette

import Marionette.Proofs.Playback.Drain

/-!
# Playback against a plain recursion

Playback is a machine that goes from timer to timer.  What it tells can be computed by a recursion that
knows no timers: show the snapshots of a table up to the first that sends actors back; then compile the
blocks of these actors, out of all the blocks of the flow, from the states that this snapshot has for them,
and do the same with the new table from its second snapshot on.

The recursion need not end.  It takes the number of repeat runs that it may start, and what it gives is a
beginning of the events.  Draining gives a beginning of them too, and all of them when playback ends.

## Main definitions

* `Score` — what stays the same while a flow is played.
* `Score.passage`, `Score.resume` — the events of one run, and of the repeat runs after it.
* `Playback.reference` — the events of a flow.

## Main results

* `Score.woken` — told events and events still to come are the same before and after a wakeup.
* `Playback.events_drain_prefix` — draining tells a beginning of the reference, or all of it.
-/

namespace Marionette

/-- What stays the same while a flow is played: the actions, the tuning and the blocks. -/
structure Score where
  registry : Registry
  config : Config
  blocks : List ActionBlock

namespace Score

/-! ### The recursion -/

/-- Whether no repeat run may follow after so many. -/
def isCapped (sc : Score) (repeats : Nat) : Bool :=
  sc.config.playback.maxRepeats.any fun most => most.toNat ≤ repeats

/-- The delay before the repeat run that a snapshot asks for, in milliseconds. -/
def delay (sc : Score) (s : Snapshot) : Nat :=
  (if sc.config.playback.holdForMessages then s.hold else 0) + sc.config.playback.repeatDelay.toNat

/-- The table of the repeat run that a snapshot asks for. -/
def nextTable (sc : Score) (s : Snapshot) : Chance StepTable :=
  StepTable.recompile sc.registry sc.config.surroundings sc.blocks (s.statesOf s.repeaters) s.repeaters

/-- Show snapshots, the first of which has index `step`, up to and including the first that sends actors
back.  The result is what this tells, and that snapshot. -/
def shown (run last : Nat) : (step : Nat) → List Snapshot → List Event × Option Snapshot
  | _, [] => ([], none)
  | step, s :: rest =>
    let e := Event.stepApplied run step last s.states s.repeaters
    if s.repeaters.isEmpty then
      let (events, trigger?) := shown run last (step + 1) rest
      (e :: events, trigger?)
    else ([e], some s)

/-- The events of run number `run` from snapshot `step` on, where `sequel` tells what comes after a repeat
that was scheduled. -/
def passage (sc : Score) (run : Nat) (t : StepTable) (step : Nat) (sequel : Snapshot → List Event) :
    List Event :=
  let (events, trigger?) := shown run t.last step (t.snapshots.drop step)
  events ++
    match trigger? with
    | none => [.finished]
    | some s =>
      if sc.isCapped run then [.finished]
      else .repeatScheduled s.repeaters (.ofNat (sc.delay s)) :: sequel s

/-- The events of at most `fuel` repeat runs, the first of which snapshot `s` of run number `run` has asked
for.  What is drawn is drawn from `source`.  The snapshot that a repeat run starts from is not shown again. -/
def resume (sc : Score) : (fuel run : Nat) → RandomSource → Snapshot → List Event
  | 0, _, _, _ => []
  | fuel + 1, run, source, s =>
    let (t, source) := (sc.nextTable s).run source
    .repeatStarted (run + 1) s.repeaters t.size ::
      sc.passage (run + 1) t 1 (sc.resume fuel (run + 1) source)

/-! ### Its equations -/

variable {sc : Score} {run step : Nat} {t : StepTable} {s : Snapshot} {sequel : Snapshot → List Event}

theorem drop_snapshots (hs : t.snapshot? step = some s) :
    t.snapshots.drop step = s :: t.snapshots.drop (step + 1) := by
  obtain ⟨hlt, rfl⟩ := List.getElem?_eq_some_iff.mp hs
  exact List.drop_eq_getElem_cons hlt

/-- A snapshot that sends nobody back is followed by the next one. -/
theorem passage_of_isEmpty (hs : t.snapshot? step = some s) (hempty : s.repeaters.isEmpty = true) :
    sc.passage run t step sequel =
      .stepApplied run step t.last s.states s.repeaters :: sc.passage run t (step + 1) sequel := by
  rw [passage, passage, drop_snapshots hs, shown, if_pos hempty]
  rfl

/-- A snapshot that sends actors back is the last one of its run. -/
theorem passage_of_repeat (hs : t.snapshot? step = some s) (hrep : s.repeaters.isEmpty = false) :
    sc.passage run t step sequel =
      .stepApplied run step t.last s.states s.repeaters ::
        if sc.isCapped run then [.finished]
        else .repeatScheduled s.repeaters (.ofNat (sc.delay s)) :: sequel s := by
  rw [passage, drop_snapshots hs, shown, if_neg (by simp [hrep])]
  rfl

theorem passage_of_size_le (h : t.size ≤ step) : sc.passage run t step sequel = [.finished] := by
  rw [passage, List.drop_eq_nil_of_le h]
  rfl

end Score

/-- What stays the same while a player plays a flow. -/
def Playback.score {σ : Type} (pb : Playback σ) (flow : Flow) : Score :=
  { registry := pb.player.registry, config := pb.player.config, blocks := flow.blocks }

/-- The events of a flow, as far as `fuel` repeat runs go. -/
def Playback.reference {σ : Type} [Display σ] (pb : Playback σ) (flow : Flow) (fuel : Nat) : List Event :=
  let sc := pb.score flow
  let (t, source) := (StepTable.compile sc.registry sc.config.surroundings flow.blocks
    (Display.actorIds pb.display) (Display.currentStates pb.display)).run pb.player.source
  .started t.size :: sc.passage 0 t 0 (sc.resume fuel 0 source)

/-! ### Wakeups follow the recursion -/

namespace Score

/-- What a player that waits at snapshot `s` of `run` has yet to tell. -/
def ahead (sc : Score) (fuel : Nat) (p : Player) (run : Run) (s : Snapshot) : List Event :=
  if s.repeaters.isEmpty then
    sc.passage p.repeats run.table (run.step + 1) (sc.resume fuel p.repeats p.source)
  else sc.resume fuel p.repeats p.source s

/-- A player at rest has told everything, however many more repeat runs there may be. -/
def Told (whole : Nat → List Event) (n : Nat) (p : Player) : Prop :=
  p.repeats ≤ n ∧ ∀ fuel, p.log = whole (fuel + p.repeats)

/-- A player that waits has the actions and the tuning of the score, and the actors of its run have the lanes
that the score gives them. -/
structure Performs (sc : Score) (p : Player) (run : Run) (s : Snapshot) : Prop where
  registry_eq : p.registry = sc.registry
  config_eq : p.config = sc.config
  laneOf_eq : ∀ a, (s.state? a).isSome → laneOf run.blocks a = laneOf sc.blocks a

/-- What a player that waits has told and what is ahead of it is everything. -/
structure Telling (sc : Score) (whole : Nat → List Event) (n : Nat) (p : Player) (run : Run)
    (s : Snapshot) : Prop where
  performs : sc.Performs p run s
  repeats_le : p.repeats ≤ n
  log_append : ∀ fuel, p.log ++ sc.ahead fuel p run s = whole (fuel + p.repeats)

variable {sc : Score} {whole : Nat → List Event} {n : Nat} {p : Player} {run : Run}
  {actors : List ActorId} {s : Snapshot} {token : TimerToken}

theorem Performs.isCapped_eq (h : sc.Performs p run s) : sc.isCapped p.repeats = p.isCapped := by
  rw [isCapped, Player.isCapped, h.config_eq]

theorem Performs.delay_eq (h : sc.Performs p run s) (s' : Snapshot) :
    sc.delay s' = p.hold s' + p.repeatDelay := by
  rw [delay, Player.hold, Player.repeatDelay, h.config_eq]

/-- A run that goes one step on keeps to the score. -/
theorem Performs.next {p' : Player} (h : sc.Performs p run s) (hplays : p.PlaysAt run actors s token)
    {s' : Snapshot} (hs' : run.next.snapshot? = some s') (hregistry : p'.registry = p.registry)
    (hconfig : p'.config = p.config) : sc.Performs p' run.next s' :=
  ⟨hregistry.trans h.registry_eq, hconfig.trans h.config_eq, fun a ha =>
    h.laneOf_eq a ((hplays.isSome_state?_next_iff hs' a).mp ha)⟩

/-- A repeat run keeps to the score. -/
theorem Performs.again {p' : Player} {t : StepTable} {first : Snapshot} {token' : TimerToken}
    (h : sc.Performs p run s) (hplays : p.PlaysAt run actors s token)
    (hplays' : p'.PlaysAt { blocks := Playback.blocksOf s.repeaters run.blocks, table := t }
      s.repeaters.keys first token') (hregistry : p'.registry = p.registry)
    (hconfig : p'.config = p.config) :
    sc.Performs p' { blocks := Playback.blocksOf s.repeaters run.blocks, table := t } first := by
  refine ⟨hregistry.trans h.registry_eq, hconfig.trans h.config_eq, ?_⟩
  intro a ha
  have ha' := (hplays'.isSome_state?_iff a).mp ha
  rw [laneOf_blocksOf ha', h.laneOf_eq a (hplays.isSome_state? ha')]

/-- The table is the same whether it is compiled from the blocks of the flow or from those of the run. -/
theorem Performs.nextTable_eq (h : sc.Performs p run s)
    (hplays : p.PlaysAt run actors s token) : sc.nextTable s = p.nextTable run s := by
  rw [nextTable, Player.nextTable, h.registry_eq, h.config_eq]
  refine StepTable.recompile_congr ?_
  intro a ha
  rw [laneOf_blocksOf ha, h.laneOf_eq a (hplays.isSome_state? ha)]

/-- What is ahead of a player that has shown a snapshot which repeats nobody begins with the next one. -/
theorem Telling.log_append_passage (h : sc.Telling whole n p run s)
    (hs : s.repeaters.isEmpty = true) (fuel : Nat) :
    p.log ++ sc.passage p.repeats run.next.table run.next.step (sc.resume fuel p.repeats p.source) =
      whole (fuel + p.repeats) := by
  rw [← h.log_append fuel, ahead, if_pos hs]
  rfl

variable {σ : Type} [Display σ] {pb pb' : Playback σ}

/-- **What was told and what is ahead stay the same together** when the timer fires. -/
theorem woken (hplays : pb.player.PlaysAt run actors s token)
    (h : sc.Telling whole n pb.player run s) (hwoken : Playback.Woken pb run actors s pb') :
    pb'.player.Stands (Told whole (n + 1) pb'.player) (sc.Telling whole (n + 1) pb'.player) := by
  cases hwoken with
  | moved s' hs hs' heq hplays' =>
    subst heq
    refine .plays _ _ _ _ hplays' ⟨h.performs.next hplays hplays'.snapshot_eq rfl rfl,
      Nat.le_succ_of_le h.repeats_le, ?_⟩
    intro fuel
    have := h.log_append_passage hs fuel
    rw [passage_of_isEmpty hplays'.snapshot_eq hs', List.append_cons] at this
    rw [ahead, if_pos hs']
    exact this
  | asked s' hs hs' hcap heq hplays' =>
    subst heq
    refine .plays _ _ _ _ hplays' ⟨h.performs.next hplays hplays'.snapshot_eq rfl rfl,
      Nat.le_succ_of_le h.repeats_le, ?_⟩
    intro fuel
    have := h.log_append_passage hs fuel
    rw [passage_of_repeat hplays'.snapshot_eq hs', h.performs.isCapped_eq, hcap,
      if_neg Bool.false_ne_true, h.performs.delay_eq, List.append_cons, List.append_cons] at this
    rw [ahead, if_neg (by simp [hs'])]
    exact this
  | ended s' hs hsnap hend heq hrests =>
    subst heq
    refine .rests hrests ⟨Nat.le_succ_of_le h.repeats_le, ?_⟩
    intro fuel
    have := h.log_append_passage hs fuel
    rcases hend with ⟨hs', hlast⟩ | ⟨hs', hcap⟩
    · have hsize : run.next.table.size ≤ run.next.step + 1 := by
        have hlast' : run.next.step = run.next.table.last := hlast
        rw [StepTable.last_eq] at hlast'
        omega
      rw [passage_of_isEmpty hsnap hs', passage_of_size_le hsize, List.append_cons] at this
      exact this
    · rw [passage_of_repeat hsnap hs', h.performs.isCapped_eq, hcap, if_pos rfl, List.append_cons] at this
      exact this
  | repeated out first hs hout heq hplays' =>
    have hempty := hplays'.fits.repeaters_zero hplays'.snapshot_eq
    subst heq
    refine .plays _ _ _ _ hplays' ⟨h.performs.again hplays hplays' rfl rfl,
      Nat.succ_le_succ h.repeats_le, ?_⟩
    intro fuel
    have := h.log_append (fuel + 1)
    rw [ahead, if_neg (by simp [hs]), resume, h.performs.nextTable_eq hplays, hout, List.append_cons,
      show fuel + 1 + pb.player.repeats = fuel + (pb.player.repeats + 1) by omega] at this
    rw [ahead, if_pos hempty]
    exact this

end Score

/-! ### The whole playback -/

namespace Playback

variable {σ : Type} [Display σ]

theorem reference_eq (pb : Playback σ) (flow : Flow) (fuel : Nat) :
    pb.reference flow fuel = .started (pb.compile flow).1.size ::
      (pb.score flow).passage 0 (pb.compile flow).1 0
        ((pb.score flow).resume fuel 0 (pb.compile flow).2.player.source) := rfl

/-- A flow that starts has told its first two events. -/
theorem stands_start {pb pb' : Playback σ} {flow : Flow} (hlog : pb.player.log = [])
    (hstarts : pb.Starts flow pb') :
    pb'.player.Stands (Score.Told (pb.reference flow) 0 pb'.player)
      ((pb.score flow).Telling (pb.reference flow) 0 pb'.player) := by
  obtain ⟨first, hstart, hplays⟩ := hstarts.exists_playsAt
  have hempty := hplays.fits.repeaters_zero hplays.snapshot_eq
  refine .plays _ _ _ _ hplays ?_
  rw [hstart]
  refine ⟨⟨rfl, rfl, fun a _ => rfl⟩, Nat.le_refl 0, ?_⟩
  intro fuel
  have htold : pb.player.log ++ [.started (pb.compile flow).1.size] ++
      [.stepApplied 0 0 (pb.compile flow).1.last first.states first.repeaters] ++
      (pb.score flow).passage 0 (pb.compile flow).1 1
        ((pb.score flow).resume fuel 0 (pb.compile flow).2.player.source) =
      pb.reference flow fuel := by
    rw [reference_eq, Score.passage_of_isEmpty hplays.snapshot_eq hempty, hlog]
    rfl
  rw [Score.ahead, if_pos hempty]
  exact htold

/-- **Draining tells a beginning of the reference, and all of it when playback ends.**  While playback goes
on, as many timers were fired as the caller allowed. -/
theorem events_drain_prefix (pb : Playback σ) (flow : Flow) (hidle : pb.player.isRunning = false)
    (hlog : pb.player.log = []) (hqueue : pb.timers.pending = [])
    (hne : ((StepTable.compile pb.player.registry pb.player.config.surroundings flow.blocks
      (Display.actorIds pb.display) (Display.currentStates pb.display)).run
        pb.player.source).1.isEmpty = false) :
    ∃ pb', pb.play flow = .ok (.started, pb') ∧ ∀ limit fuel, limit ≤ fuel →
      (pb'.drain limit).events <+: pb.reference flow fuel ∧
      ((pb'.drain limit).playback.player.isRunning = false →
        (pb'.drain limit).events = pb.reference flow fuel) ∧
      ((pb'.drain limit).playback.player.isRunning = true → (pb'.drain limit).fired = limit) := by
  obtain ⟨pb', hplay, hstarts⟩ := exists_starts hidle hne
  refine ⟨pb', hplay, ?_⟩
  intro limit fuel hfuel
  have hlone : pb'.Lone := hstarts.lone hqueue
  have hstart := stands_start hlog hstarts
  have hstands := stands_drain_of_lone (fun n pb pb' run actors s token hplays htell hwoken =>
    Score.woken hplays htell hwoken) limit hlone hstart
  -- the allowance bounds the repeat runs, so the rest of the fuel is what is ahead
  have hrest : ∀ repeats, repeats ≤ (pb'.drain limit).fired → fuel - repeats + repeats = fuel := by
    intro repeats hrepeats
    have := pb'.drain_fired_le limit
    omega
  rw [← log_whole_drain]
  rcases hstands with ⟨hrests, hrepeats, htold⟩ | ⟨run, actors, s, token, hplays, htell⟩
  · have heq := htold (fuel - (pb'.drain limit).whole.player.repeats)
    rw [hrest _ hrepeats] at heq
    refine ⟨heq ▸ List.prefix_refl _, fun _ => heq, ?_⟩
    intro hrunning
    exact absurd (hrests.isRunning_eq.symm.trans hrunning) Bool.false_ne_true
  · have heq := htell.log_append (fuel - (pb'.drain limit).whole.player.repeats)
    rw [hrest _ htell.repeats_le] at heq
    refine ⟨⟨_, heq⟩, ?_, fired_drain_of_running hlone hstart.sound⟩
    intro hidle
    exact absurd (hidle.symm.trans hplays.isRunning_eq) Bool.false_ne_true

/-- The sample has something to play, and may repeat once. -/
theorem events_drain_prefix_sample :
    let pb := Sample.idle (some 1)
    pb.player.isRunning = false ∧ pb.player.log = [] ∧ pb.timers.pending = [] ∧
      (pb.compile Sample.flow).1.isEmpty = false ∧
      ∃ pb', pb.play Sample.flow = .ok (.started, pb') ∧ ∀ limit fuel, limit ≤ fuel →
        (pb'.drain limit).events <+: pb.reference Sample.flow fuel ∧
        ((pb'.drain limit).playback.player.isRunning = false →
          (pb'.drain limit).events = pb.reference Sample.flow fuel) ∧
        ((pb'.drain limit).playback.player.isRunning = true → (pb'.drain limit).fired = limit) :=
  ⟨rfl, rfl, rfl, rfl, events_drain_prefix (Sample.idle (some 1)) Sample.flow rfl rfl rfl rfl⟩

end Playback

end Marionette

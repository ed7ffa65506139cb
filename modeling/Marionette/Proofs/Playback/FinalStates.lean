import Marionette.Proofs.Playback.Laps
import Marionette.Proofs.Playback.Mirror
import Marionette.Proofs.Playback.Reference
import Marionette.Proofs.Stage
import Mathlib.Logic.Function.Iterate

/-!
# The stage after playback

Where no block draws, what an actor does in a run depends on its own blocks and on its state alone.  An actor
that is sent back at step `k` does its first `k` blocks again and again, once in each run.  Every other actor
does them once, and from then on nobody writes to it.  So the stage at the end has a closed form, and so has
the stage after every step.

## Main definitions

* `Score.pass` — what the first blocks of an actor make of its state.
* `Score.pose` — the state of an actor after some steps of some run.
* `Score.Shows` — the stage shows these states, and the table of the run has those that are still to come.
* `Score.Ended` — the stage shows those at the end of the last run.

## Main results

* `Score.Shows.woken` — every wakeup keeps the closed form.
* `Playback.actors_drain_eq` — the stage after playback.
-/

namespace Marionette

namespace Score

/-- What the first `k` blocks of an actor make of its state. -/
def pass (sc : Score) (k : Nat) (a : ActorId) (s : ActorState) : ActorState :=
  sc.registry.after sc.config.surroundings a ((laneOf sc.blocks a).take k) s

/-- The state of an actor after `step` steps of run number `run`, where the actors in `set` are sent back at
step `k`. -/
def pose (sc : Score) (k : Nat) (set : ActorSet) (run step : Nat) (a : Actor) : ActorState :=
  if set.contains a.id then sc.pass step a.id ((sc.pass k a.id)^[run] a.state)
  else if run = 0 then sc.pass step a.id a.state
  else sc.pass k a.id a.state

variable {sc : Score} {k : Nat} {set : ActorSet}

theorem pass_zero (sc : Score) (a : ActorId) (s : ActorState) : sc.pass 0 a s = s := rfl

theorem pose_zero (sc : Score) (k : Nat) (set : ActorSet) (step : Nat) (a : Actor) :
    sc.pose k set 0 step a = sc.pass step a.id a.state := by
  rw [pose]
  split <;> rfl

/-- Actors in the set are where their laps have led them. -/
theorem pose_of_contains {a : Actor} (h : set.contains a.id = true) (run step : Nat) :
    sc.pose k set run step a = sc.pass step a.id ((sc.pass k a.id)^[run] a.state) := if_pos h

/-- Others stay where the first run has left them. -/
theorem pose_of_not_contains {a : Actor} (h : ¬ set.contains a.id = true) {run : Nat} (hrun : run ≠ 0)
    (step : Nat) : sc.pose k set run step a = sc.pass k a.id a.state := by
  rw [pose, if_neg h, if_neg hrun]

/-- At the end of a run, others are where the first run has left them, whether or not it was the first. -/
theorem pose_end_of_not_contains {a : Actor} (h : ¬ set.contains a.id = true) (run : Nat) :
    sc.pose k set run k a = sc.pass k a.id a.state := by
  rcases Nat.eq_zero_or_pos run with rfl | hpos
  · exact pose_zero sc k set k a
  · exact pose_of_not_contains h (Nat.ne_of_gt hpos) k

/-- A run begins where the run before it has ended. -/
theorem pose_succ_zero (sc : Score) (k : Nat) (set : ActorSet) (run : Nat) (a : Actor) :
    sc.pose k set (run + 1) 0 a = sc.pose k set run k a := by
  by_cases h : set.contains a.id = true
  · rw [pose_of_contains h, pose_of_contains h, pass_zero, Function.iterate_succ_apply']
  · rw [pose_of_not_contains h (Nat.succ_ne_zero run), pose_end_of_not_contains h]

/-- Where a playback ends, an actor that was sent back has gone once more around than it was sent back. -/
theorem pose_end_of_contains {a : Actor} (h : set.contains a.id = true) (run : Nat) :
    sc.pose k set run k a = (sc.pass k a.id)^[run + 1] a.state := by
  rw [pose_of_contains h, Function.iterate_succ_apply']

/-- The stage shows the actors in their poses, and every snapshot of the table has the pose of each actor
that it has. -/
structure Shows (sc : Score) (k : Nat) (set : ActorSet) (cast : List Actor) (p : Player) (stage : Stage)
    (run : Run) (s : Snapshot) : Prop where
  performs : sc.Performs p run s
  still : sc.registry.Still sc.config.surroundings run.blocks
  state?_eq : ∀ j s', run.table.snapshot? j = some s' → ∀ a ∈ cast, (s'.state? a.id).isSome →
    s'.state? a.id = some (sc.pass j a.id ((sc.pass k a.id)^[p.repeats] a.state))
  actors_eq : stage.actors = Stage.posed cast (sc.pose k set p.repeats run.step)

/-- Everyone is in the pose of step `k` of the last run, and the stage can be edited again. -/
structure Ended (sc : Score) (k : Nat) (set : ActorSet) (cast : List Actor) (p : Player) (stage : Stage) :
    Prop where
  actors_eq : stage.actors = Stage.posed cast (sc.pose k set p.repeats k)
  locked_eq : stage.locked = false

/-- Where a run may end, and who takes part in it. -/
structure Bounds (k : Nat) (set : ActorSet) (cast : List Actor) (p : Player) (run : Run) (s : Snapshot) :
    Prop where
  isSome_state?_iff : ∀ a ∈ cast, (s.state? a.id).isSome ↔ p.repeats = 0 ∨ set.contains a.id = true
  back : s.repeaters.isEmpty = false → run.step = k ∧ s.repeaters = set
  last : s.repeaters.isEmpty = true → ∀ s', run.next.snapshot? = some s' →
    s'.repeaters.isEmpty = true ∧ run.next.step = run.last ∨ s'.repeaters.isEmpty = false →
    run.next.step = k

variable {cast : List Actor} {pb pb' : Playback Stage} {run : Run} {actors : List ActorId} {s : Snapshot}
  {token : TimerToken}

/-- The next snapshot puts the actors into their next poses. -/
theorem Shows.actors_shown (h : sc.Shows k set cast pb.player pb.display run s)
    (hbounds : Bounds k set cast pb.player run s) (hids : (cast.map (·.id)).Nodup)
    (hplays : pb.player.PlaysAt run actors s token) {s' : Snapshot}
    (hs' : run.next.snapshot? = some s') :
    (pb.shown run s').display.actors = Stage.posed cast (sc.pose k set pb.player.repeats run.next.step) := by
  have hids' : (pb.display.actors.map (·.id)).Nodup := by
    rw [h.actors_eq, Stage.map_id_posed]
    exact hids
  change (Display.applyBatch pb.display s'.batch).actors = _
  rw [Stage.actors_applyBatch hids', h.actors_eq, Stage.posed_posed]
  refine Stage.posed_congr ?_
  intro a ha
  dsimp only
  have hwho := (hplays.isSome_state?_next_iff hs' a.id).trans (hbounds.isSome_state?_iff a ha)
  rcases hstate : (s'.state? a.id) with _ | state
  · -- an actor that takes no part keeps the pose that it had at the end of the first run
    rw [hstate] at hwho
    have hnot := not_or.mp (mt hwho.mpr (by simp))
    rw [Option.getD_none, pose_of_not_contains hnot.2 hnot.1, pose_of_not_contains hnot.2 hnot.1]
  · have hsome : (s'.state? a.id).isSome := by rw [hstate]; rfl
    have hpass := h.state?_eq _ s' hs' a ha hsome
    rw [hstate] at hpass
    rw [Option.getD_some, Option.some.inj hpass]
    rcases hwho.mp hsome with hzero | hset
    · rw [hzero, pose_zero]
      rfl
    · rw [pose_of_contains hset]

/-- A run that goes one step on shows the next poses. -/
theorem Shows.next {p' : Player} (h : sc.Shows k set cast pb.player pb.display run s)
    (hbounds : Bounds k set cast pb.player run s) (hids : (cast.map (·.id)).Nodup)
    (hplays : pb.player.PlaysAt run actors s token) {s' : Snapshot}
    (hs' : run.next.snapshot? = some s') (hregistry : p'.registry = pb.player.registry)
    (hconfig : p'.config = pb.player.config) (hrepeats : p'.repeats = pb.player.repeats) :
    sc.Shows k set cast p' (pb.shown run s').display run.next s' :=
  { performs := h.performs.next hplays hs' hregistry hconfig
    still := h.still
    state?_eq := hrepeats ▸ h.state?_eq
    actors_eq := hrepeats ▸ h.actors_shown hbounds hids hplays hs' }

/-- The table of a repeat run has the poses of the actors that it has. -/
theorem Shows.state?_nextTable (h : sc.Shows k set cast pb.player pb.display run s)
    (hplays : pb.player.PlaysAt run actors s token) (hstep : run.step = k) {t : StepTable}
    (ht : (pb.player.nextTable run s).Yields t) {j : Nat} {s' : Snapshot} (hs' : t.snapshot? j = some s')
    {a : Actor} (ha : a ∈ cast) (hsome : (s'.state? a.id).isSome) :
    s'.state? a.id = some (sc.pass j a.id ((sc.pass k a.id)^[pb.player.repeats + 1] a.state)) := by
  have hplays' := StepTable.plays_of_yields_recompile ht
  have hin : a.id ∈ s.repeaters.keys := (hplays'.fits.isSome_state?_iff j s' hs' a.id).mp hsome
  have hseed : (s.statesOf s.repeaters).get? a.id = s.state? a.id := by
    rw [Snapshot.statesOf, SortedMap.get?_ofList_filterMap, if_pos hin]
  have hfrom := h.state?_eq _ s hplays.snapshot_eq a ha (hplays.isSome_state? hin)
  have hstill : pb.player.registry.Still pb.player.config.surroundings
      (Playback.blocksOf s.repeaters run.blocks) := by
    rw [h.performs.registry_eq, h.performs.config_eq]
    exact fun b hb => h.still b (List.mem_filter.mp hb).1
  rw [hplays'.state?_eq_after hstill hs' hin, hseed, hfrom, Option.getD_some, hstep, laneOf_blocksOf hin,
    h.performs.laneOf_eq a.id (hplays.isSome_state? hin), h.performs.registry_eq, h.performs.config_eq,
    Function.iterate_succ_apply']
  rfl

/-- **Every wakeup keeps the closed form.**  In the end everyone is in the pose of step `k`. -/
theorem Shows.woken (h : sc.Shows k set cast pb.player pb.display run s)
    (hbounds : Bounds k set cast pb.player run s) (hids : (cast.map (·.id)).Nodup)
    (hplays : pb.player.PlaysAt run actors s token) (hwoken : Playback.Woken pb run actors s pb') :
    pb'.player.Stands (sc.Ended k set cast pb'.player pb'.display)
      (sc.Shows k set cast pb'.player pb'.display) := by
  cases hwoken with
  | moved s' hs hs' heq hplays' =>
    subst heq
    exact .plays _ _ _ _ hplays' (h.next hbounds hids hplays hplays'.snapshot_eq rfl rfl rfl)
  | asked s' hs hs' hcap heq hplays' =>
    subst heq
    exact .plays _ _ _ _ hplays' (h.next hbounds hids hplays hplays'.snapshot_eq rfl rfl rfl)
  | ended s' hs hsnap hend heq hrests =>
    subst heq
    have hactors := h.actors_shown hbounds hids hplays hsnap
    rw [hbounds.last hs s' hsnap (hend.imp_right And.left)] at hactors
    exact .rests hrests ⟨hactors, rfl⟩
  | repeated out first hs hout heq hplays' =>
    subst heq
    obtain ⟨hstep, hset⟩ := hbounds.back hs
    have hyields : (pb.player.nextTable run s).Yields out.1 := hout ▸ Chance.yields_run _ _
    refine .plays _ _ _ _ hplays'
      { performs := h.performs.again hplays hplays' rfl rfl
        still := fun b hb => h.still b (List.mem_filter.mp hb).1
        state?_eq := fun j s' hs' a ha => h.state?_nextTable hplays hstep hyields hs' ha
        actors_eq := ?_ }
    change pb.display.actors = Stage.posed cast (sc.pose k set (pb.player.repeats + 1) 0)
    rw [h.actors_eq, hstep]
    exact Stage.posed_congr fun a _ => (pose_succ_zero sc k set pb.player.repeats a).symm

end Score

/-! ### Where runs end -/

variable {cast : List Actor} {p : Player} {run : Run} {actors : List ActorId} {s : Snapshot}
  {token : TimerToken} {past : List Event} {n : Nat}

/-- A way around ends at the step that sends actors back. -/
theorem Lap.Around.bounds {l : Lap} {most? : Option UInt32} (h : l.Around most? past n p run s)
    (hplays : p.PlaysAt run actors s token) (hcast : ∀ a ∈ cast, l.cast.contains a.id = true) :
    Score.Bounds l.turn l.set cast p run s := by
  constructor
  · intro a ha
    rw [h.isSome_state?_iff, Lap.actors]
    split
    · next hzero => simp [hcast a ha, hzero]
    · next hne => simp [hne]
  · intro hs
    exact ⟨h.circles.step_eq hplays.snapshot_eq hs, h.circles.repeaters_eq hplays.snapshot_eq hs⟩
  · intro hs s' hs' hend
    have hnext := h.circles.next hplays.snapshot_eq hs
    rcases hend with ⟨hempty, hlast⟩ | hrep
    · exact absurd hlast (Nat.ne_of_lt (hnext.step_lt_last hs' hempty))
    · exact hnext.step_eq hs' hrep

/-- A table that sends nobody back ends at its last step. -/
theorem Straight.bounds {castSet : ActorSet} {last : Nat} (h : Straight castSet last past n p run s)
    (hplays : p.PlaysAt run actors s token) (hcast : ∀ a ∈ cast, castSet.contains a.id = true) :
    Score.Bounds last .empty cast p run s := by
  constructor
  · intro a ha
    rw [h.isSome_state?_iff]
    simp [hcast a ha, h.repeats_eq]
  · intro hs
    exact absurd (hs.symm.trans (h.isEmpty _ s hplays.snapshot_eq)) Bool.false_ne_true
  · intro _ s' hs' hend
    rcases hend with ⟨-, hlast⟩ | hrep
    · exact hlast.trans h.last_eq
    · exact absurd (hrep.symm.trans (h.isEmpty _ s' hs')) Bool.false_ne_true

namespace Lap

variable {l : Lap} {runs step : Nat} {who back : ActorSet}

theorem eq_set_of_mem_steps {count : Nat} {run : Nat} (hrun : 0 < run)
    (h : .applied run step who back ∈ l.steps runs count) : who = l.set := by
  obtain ⟨j, -, heq⟩ := List.mem_map.mp h
  cases heq
  exact if_neg (Nat.ne_of_gt hrun)

/-- What is told after the first run is told of the actors that are sent back. -/
theorem eq_set_of_mem_upTo {run : Nat} (hrun : 0 < run)
    (h : .applied run step who back ∈ l.upTo runs) : who = l.set := by
  induction runs with
  | zero =>
    rw [upTo, List.mem_pair] at h
    rcases h with h | h
    · cases h
    · cases h
      exact absurd hrun (Nat.lt_irrefl 0)
  | succ runs ih =>
    rw [upTo, List.mem_append, List.mem_append] at h
    rcases h with (h | h) | h
    · exact ih h
    · exact eq_set_of_mem_steps hrun h
    · simp at h

end Lap

/-! ### The whole playback -/

namespace Playback

variable {pb pb' : Playback Stage} {flow : Flow}

/-- A flow is compiled into the poses of its first run. -/
theorem state?_compile (hids : (pb.display.actors.map (·.id)).Nodup)
    (hstill : pb.player.registry.Still pb.player.config.surroundings flow.blocks) {j : Nat} {s : Snapshot}
    (hs : (pb.compile flow).1.snapshot? j = some s) {a : Actor} (ha : a ∈ pb.display.actors) :
    s.state? a.id = some ((pb.score flow).pass j a.id a.state) := by
  rw [(pb.plays_compile flow).state?_eq_after hstill hs (List.mem_map_of_mem ha),
    Stage.get?_currentStates_of_mem hids ha]
  rfl

/-- A flow that starts shows every actor as it was. -/
theorem shows_start (hstarts : pb.Starts flow pb')
    (hids : (pb.display.actors.map (·.id)).Nodup)
    (hstill : pb.player.registry.Still pb.player.config.surroundings flow.blocks) (k : Nat)
    (set : ActorSet) :
    pb'.player.Stands ((pb.score flow).Ended k set pb.display.actors pb'.player pb'.display)
      ((pb.score flow).Shows k set pb.display.actors pb'.player pb'.display) := by
  obtain ⟨first, hstart, hplays⟩ := hstarts.exists_playsAt
  have hrepeats := hstarts.repeats_eq
  have hactors : pb'.display.actors = pb.display.actors := by
    rw [hstart]
    have hids' : ((Display.started pb.display).actors.map (·.id)).Nodup := hids
    change (Display.applyBatch (Display.started pb.display) first.batch).actors = _
    rw [Stage.actors_applyBatch hids']
    refine (Stage.posed_congr ?_).trans (List.map_id _)
    intro a ha
    rw [state?_compile hids hstill hplays.snapshot_eq ha]
    rfl
  refine .plays _ _ _ _ hplays
    { performs := by rw [hstart]; exact ⟨rfl, rfl, fun _ _ => rfl⟩
      still := hstill
      state?_eq := fun j s' hs' a ha _ => by rw [hrepeats]; exact state?_compile hids hstill hs' ha
      actors_eq := ?_ }
  rw [hactors, hrepeats]
  exact ((Stage.posed_congr fun a _ => Score.pose_zero _ k set 0 a).trans (List.map_id _)).symm

/-- The closed form holds after draining, next to anything else that keeps to where runs end. -/
theorem shows_drain {sc : Score} {k : Nat} {set : ActorSet} {A : Player → Prop}
    {B : Player → Run → Snapshot → Prop} (hids : (cast.map (·.id)).Nodup)
    (hstep : ∀ (pb pb' : Playback Stage) run actors s token, pb.player.PlaysAt run actors s token →
      B pb.player run s → Woken pb run actors s pb' → pb'.player.Stands (A pb'.player) (B pb'.player))
    (hbounds : ∀ (p : Player) run actors s token, p.PlaysAt run actors s token → B p run s →
      Score.Bounds k set cast p run s)
    (h : pb.player.Stands (A pb.player) (B pb.player))
    (hshows : pb.player.Stands (sc.Ended k set cast pb.player pb.display)
      (sc.Shows k set cast pb.player pb.display))
    (limit : Nat) (hidle : (pb.drain limit).playback.player.isRunning = false) :
    A (pb.drain limit).whole.player ∧
      sc.Ended k set cast (pb.drain limit).whole.player (pb.drain limit).playback.display := by
  have hdrain := stands_drain
    (A := fun p stage => A p ∧ sc.Ended k set cast p stage)
    (B := fun p stage run s => B p run s ∧ sc.Shows k set cast p stage run s)
    (fun pb pb' run actors s token hplays hB hwoken =>
      (hstep pb pb' run actors s token hplays hB.1 hwoken).and
        (hB.2.woken (hbounds _ _ _ _ _ hplays hB.1) hids hplays hwoken))
    limit (h.and hshows)
  rcases hdrain with ⟨-, hend⟩ | ⟨run, actors, s, token, hplays, -⟩
  · exact hend
  · exact absurd (hidle.symm.trans hplays.isRunning_eq) Bool.false_ne_true

/-- The stage after a way around. -/
theorem actors_drain_of_capped (hstarts : pb.Starts flow pb')
    (hids : (pb.display.actors.map (·.id)).Nodup)
    (hstill : pb.player.registry.Still pb.player.config.surroundings flow.blocks)
    {most : UInt32} (hmost : pb.player.config.playback.maxRepeats = some most) {k : Nat}
    {set : ActorSet} (hturn : (pb.compile flow).1.TurnsAt k set) {limit : Nat}
    (hidle : (pb'.drain limit).playback.player.isRunning = false) :
    (pb'.drain limit).playback.display.actors = Stage.posed pb.display.actors (fun a =>
        if set.contains a.id then ((pb.score flow).pass k a.id)^[most.toNat + 1] a.state
        else (pb.score flow).pass k a.id a.state) ∧
      (pb'.drain limit).playback.display.locked = false ∧
      Tells pb.player.log (pb'.drain limit).events
        (Lap.upTo ⟨pb.cast, set, k⟩ most.toNat ++ Lap.steps ⟨pb.cast, set, k⟩ most.toNat k ++
          [.finished]) := by
  have hcast : ∀ a ∈ pb.display.actors, pb.cast.contains a.id = true := fun a ha =>
    (KeySet.contains_ofKeys_iff _ _).mpr (List.mem_map_of_mem ha)
  have hstart := around_start hstarts hturn
  obtain ⟨⟨n, hdone⟩, hended⟩ := shows_drain
    (A := fun p => ∃ n, Lap.Done ⟨pb.cast, set, k⟩ (some most) pb.player.log n p)
    (B := fun p run s => ∃ n, Lap.Around ⟨pb.cast, set, k⟩ (some most) pb.player.log n p run s) hids
    (fun pb pb' run actors s token hplays hB hwoken =>
      hB.elim fun n h => (h.woken hplays hwoken).imp (⟨n + 1, ·⟩) fun _ _ h => ⟨n + 1, h⟩)
    (fun p run actors s token hplays hB => hB.elim fun n h => h.bounds hplays hcast)
    (hmost ▸ hstart.imp (⟨0, ·⟩) fun _ _ h => ⟨0, h⟩)
    (shows_start hstarts hids hstill k set) limit hidle
  obtain ⟨most', hmost', hrepeats⟩ := hdone.most?_eq
  obtain rfl : most = most' := Option.some.inj hmost'
  have htells := hdone.tells
  rw [hrepeats, log_whole_drain] at htells
  refine ⟨?_, hended.locked_eq, htells⟩
  rw [hended.actors_eq, hrepeats]
  refine Stage.posed_congr ?_
  intro a _
  by_cases h : set.contains a.id = true
  · rw [if_pos h, Score.pose_end_of_contains h]
  · rw [if_neg h, Score.pose_end_of_not_contains h]

/-- The stage after a table that sends nobody back. -/
theorem actors_drain_of_straight (hstarts : pb.Starts flow pb')
    (hids : (pb.display.actors.map (·.id)).Nodup)
    (hstill : pb.player.registry.Still pb.player.config.surroundings flow.blocks)
    (hempty : ∀ j s, (pb.compile flow).1.snapshot? j = some s → s.repeaters.isEmpty = true)
    {limit : Nat} (hidle : (pb'.drain limit).playback.player.isRunning = false) :
    (pb'.drain limit).playback.display.actors = Stage.posed pb.display.actors (fun a =>
        (pb.score flow).pass (pb.compile flow).1.last a.id a.state) ∧
      (pb'.drain limit).playback.display.locked = false := by
  have hcast : ∀ a ∈ pb.display.actors, pb.cast.contains a.id = true := fun a ha =>
    (KeySet.contains_ofKeys_iff _ _).mpr (List.mem_map_of_mem ha)
  obtain ⟨-, hended⟩ := shows_drain
    (A := fun p => ∃ n, Straight.Done pb.cast (pb.compile flow).1.last pb.player.log n p)
    (B := fun p run s => ∃ n, Straight pb.cast (pb.compile flow).1.last pb.player.log n p run s) hids
    (fun pb pb' run actors s token hplays hB hwoken =>
      hB.elim fun n h => (h.woken hplays hwoken).imp (⟨n + 1, ·⟩) fun _ _ h => ⟨n + 1, h⟩)
    (fun p run actors s token hplays hB => hB.elim fun n h => h.bounds hplays hcast)
    ((straight_start hstarts hempty).imp (⟨0, ·⟩) fun _ _ h => ⟨0, h⟩)
    (shows_start hstarts hids hstill _ .empty) limit hidle
  refine ⟨hended.actors_eq.trans (Stage.posed_congr ?_), hended.locked_eq⟩
  intro a _
  exact Score.pose_end_of_not_contains (by simp [SortedMap.contains]) _

/-- An idle player has nothing to drain. -/
theorem drain_of_idle (pb : Playback Stage) (hidle : pb.player.isRunning = false) (limit : Nat) :
    (pb.drain limit).playback.display = pb.display ∧
      (pb.drain limit).playback.player.isRunning = false := by
  rw [drain_eq_flush hidle]
  exact ⟨rfl, hidle⟩

/-- A flow that starts and is capped comes to an end. -/
theorem exists_isRunning_drain_eq_false (hstarts : pb.Starts flow pb')
    (hqueue : pb.timers.pending = []) {most : UInt32}
    (hmost : pb.player.config.playback.maxRepeats = some most) :
    ∃ enough, ∀ limit, enough ≤ limit → (pb'.drain limit).playback.player.isRunning = false := by
  rcases (pb.compile flow).1.exists_turnsAt_or with ⟨k, set, hturn⟩ | hempty
  · exact ⟨_, fun limit hlimit => (drain_of_capped hstarts hqueue hturn hmost hlimit).2.1⟩
  · exact ⟨_, fun limit hlimit => (drain_of_straight hstarts hqueue hempty hlimit).2.1⟩

/-- The events of later runs are of those whose block is the repeat marker. -/
theorem repeatsAt_of_mem_later {k : Nat} {set : ActorSet}
    (hset : ∀ a, set.contains a = true ↔ a ∈ Display.actorIds pb.display ∧
      pb.player.registry.repeatsAt flow.blocks a k = true)
    {es : List Event} {runs : Nat}
    (hes : es.map Event.milestone =
      Lap.upTo ⟨pb.cast, set, k⟩ runs ++ Lap.steps ⟨pb.cast, set, k⟩ runs k ++ [.finished])
    {run step last : Nat} {states : StateMap} {back : ActorSet}
    (hmem : .stepApplied run step last states back ∈ es) (hrun : 0 < run) {a : ActorId}
    (ha : a ∈ states.keys) : pb.player.registry.repeatsAt flow.blocks a k = true := by
  have hmilestone := List.mem_map_of_mem (f := Event.milestone) hmem
  rw [hes, List.mem_append, List.mem_append] at hmilestone
  have hwho : KeySet.ofKeys states.keys = set := by
    rcases hmilestone with (hupTo | hsteps) | hfinished
    · exact Lap.eq_set_of_mem_upTo hrun hupTo
    · exact Lap.eq_set_of_mem_steps hrun hsteps
    · simp [Event.milestone] at hfinished
  exact ((hset a).mp (hwho ▸ (KeySet.contains_ofKeys_iff _ a).mpr ha)).2

/-- **The stage after playback.**  No block draws, and repeat runs are capped.  Let step `k` be the first at
which an actor's own block is a repeat marker.  Each actor for which it is does its first `k` blocks once in
the first run and once in each repeat run.  Every other actor does them once, and later runs write to no
other.  If there is no such step, every actor does all its blocks once. -/
theorem actors_drain_eq (pb : Playback Stage) (flow : Flow) {most : UInt32}
    (hidle : pb.player.isRunning = false) (hunlocked : pb.display.locked = false)
    (hids : (pb.display.actors.map (·.id)).Nodup)
    (hmost : pb.player.config.playback.maxRepeats = some most)
    (hstill : pb.player.registry.Still pb.player.config.surroundings flow.blocks) :
    ∃ outcome pb', pb.play flow = .ok (outcome, pb') ∧
      (pb.timers.pending = [] → ∃ enough, ∀ limit, enough ≤ limit →
        (pb'.drain limit).playback.player.isRunning = false) ∧
      ∀ limit, (pb'.drain limit).playback.player.isRunning = false →
        (pb'.drain limit).playback.display.locked = false ∧
        (∀ k, pb.player.registry.RepeatsFirst flow.blocks (Display.actorIds pb.display) k →
          (pb'.drain limit).playback.display.actors = Stage.posed pb.display.actors (fun a =>
            if pb.player.registry.repeatsAt flow.blocks a.id k then
              ((pb.score flow).pass k a.id)^[most.toNat + 1] a.state
            else (pb.score flow).pass k a.id a.state) ∧
          ∃ es, (pb'.drain limit).events = pb.player.log ++ es ∧
            (pb'.drain limit).playback.display = es.foldl Event.onDisplay pb.display ∧
            ∀ run step last states back, .stepApplied run step last states back ∈ es → 0 < run →
              ∀ a ∈ states.keys, pb.player.registry.repeatsAt flow.blocks a k = true) ∧
        ((∀ k, ∀ a ∈ Display.actorIds pb.display,
            pb.player.registry.repeatsAt flow.blocks a k = false) →
          (pb'.drain limit).playback.display.actors = Stage.posed pb.display.actors fun a =>
            pb.player.registry.after pb.player.config.surroundings a.id (laneOf flow.blocks a.id)
              a.state) := by
  have hfits : (pb.compile flow).1.Fits pb.player.registry flow.blocks (Display.actorIds pb.display) :=
    pb.fits_compile flow
  have hmem : ∀ a ∈ pb.display.actors, a.id ∈ Display.actorIds pb.display := fun a ha =>
    List.mem_map_of_mem ha
  -- the blocks up to the last snapshot are all blocks
  have hpass : ∀ a ∈ pb.display.actors, (pb.score flow).pass (pb.compile flow).1.last a.id a.state =
      pb.player.registry.after pb.player.config.surroundings a.id (laneOf flow.blocks a.id) a.state := by
    intro a ha
    rw [Score.pass]
    exact congrArg (Registry.after _ _ _ · _)
      (List.take_of_length_le (hfits.length_laneOf_le_last (hmem a ha)))
  rcases hne : (pb.compile flow).1.isEmpty with _ | _
  · obtain ⟨pb', hplay, hstarts⟩ := exists_starts hidle hne
    refine ⟨.started, pb', hplay, fun hqueue => exists_isRunning_drain_eq_false hstarts hqueue hmost,
      fun limit hend => ⟨?_, fun k hk => ?_, fun hnone => ?_⟩⟩
    · rcases (pb.compile flow).1.exists_turnsAt_or with ⟨k, set, hturn⟩ | hempty
      · exact (actors_drain_of_capped hstarts hids hstill hmost hturn hend).2.1
      · exact (actors_drain_of_straight hstarts hids hstill hempty hend).2
    · obtain ⟨set, hturn, hset⟩ := hfits.exists_turnsAt hk
      obtain ⟨hactors, -, es, hes, htells⟩ :=
        actors_drain_of_capped hstarts hids hstill hmost hturn hend
      obtain ⟨es', hes', hdisplay⟩ := display_drain_eq hplay limit
      obtain rfl : es = es' := List.append_cancel_left (hes.symm.trans hes')
      refine ⟨hactors.trans (Stage.posed_congr ?_), es, hes, hdisplay,
        fun run step last states back hin hrun a ha => repeatsAt_of_mem_later hset htells hin hrun ha⟩
      intro a ha
      have hcontains : set.contains a.id = pb.player.registry.repeatsAt flow.blocks a.id k := by
        rw [Bool.eq_iff_iff, hset]
        exact and_iff_right (hmem a ha)
      rw [hcontains]
    · have hempty : ∀ j s, (pb.compile flow).1.snapshot? j = some s → s.repeaters.isEmpty = true :=
        fun j s hs => hfits.isEmpty_repeaters (hnone j) hs
      exact (actors_drain_of_straight hstarts hids hstill hempty hend).1.trans (Stage.posed_congr hpass)
  · have hsize : (pb.compile flow).1.size = 0 := by
      rw [StepTable.size, List.length_eq_zero_iff]
      exact List.isEmpty_iff.mp hne
    have hdrain := drain_of_idle (pb.compile flow).2 hidle
    refine ⟨.empty, (pb.compile flow).2, play_of_isEmpty hidle hne, fun _ => ⟨0, fun limit _ =>
      (hdrain limit).2⟩, fun limit _ => ?_⟩
    rw [(hdrain limit).1]
    refine ⟨hunlocked, ?_, ?_⟩
    · intro k hk
      obtain ⟨set, hturn, -⟩ := hfits.exists_turnsAt hk
      obtain ⟨s, hs, -⟩ := hturn.trigger
      exact absurd (StepTable.lt_size_of_snapshot? hs) (hsize ▸ Nat.not_lt_zero k)
    · intro _
      refine (List.map_id _).symm.trans (Stage.posed_congr ?_)
      intro a ha
      rw [← hpass a ha, StepTable.last_eq, hsize]
      rfl

/-- In the sample the first actor goes around once more, one step to the right each time, and the second one
has been stopped after two of its three steps. -/
theorem actors_drain_eq_sample :
    let pb := Sample.idle (some 1)
    pb.player.isRunning = false ∧ pb.display.locked = false ∧
      (pb.display.actors.map (·.id)).Nodup ∧ pb.player.config.playback.maxRepeats = some 1 ∧
      pb.player.registry.Still pb.player.config.surroundings Sample.flow.blocks ∧
      pb.player.registry.RepeatsFirst Sample.flow.blocks (Display.actorIds pb.display) 2 ∧
      ∃ outcome pb', pb.play Sample.flow = .ok (outcome, pb') ∧ ∃ enough, ∀ limit, enough ≤ limit →
        (pb'.drain limit).playback.player.isRunning = false ∧
        (pb'.drain limit).playback.display.actors = Stage.posed Sample.stage.actors fun a =>
          { a.state with x := a.state.x + 1.0 + 1.0 } := by
  have hids : ((Sample.idle (some 1)).display.actors.map (·.id)).Nodup := by decide
  have hstill : Sample.registry.Still (Sample.idle (some 1)).player.config.surroundings
      Sample.flow.blocks := by
    intro b _ action haction actor s
    rw [Sample.registry, Registry.registerRepeat, Registry.find?_add, Registry.find?_add] at haction
    split at haction
    · cases haction
      exact ⟨s, rfl⟩
    · split at haction
      · cases haction
        exact ⟨_, rfl⟩
      · cases haction
  have hfirst : Sample.registry.RepeatsFirst Sample.flow.blocks [⟨"a"⟩, ⟨"b"⟩] 2 := by
    refine ⟨⟨⟨"a"⟩, by simp, rfl⟩, ?_⟩
    rintro (_ | _ | j) hj a ha
    · rfl
    · rcases List.mem_pair.mp ha with rfl | rfl
      · rfl
      · rfl
    · omega
  obtain ⟨outcome, pb', hplay, henough, hend⟩ :=
    actors_drain_eq (Sample.idle (some 1)) Sample.flow rfl rfl hids rfl hstill
  obtain ⟨enough, henough⟩ := henough rfl
  refine ⟨rfl, rfl, hids, rfl, hstill, hfirst, outcome, pb', hplay, enough, ?_⟩
  intro limit hlimit
  refine ⟨henough limit hlimit, ?_⟩
  rw [((hend limit (henough limit hlimit)).2.1 2 hfirst).1]
  rfl

end Playback

end Marionette

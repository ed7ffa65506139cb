import Marionette.Proofs.Playback.Reference
import Marionette.Proofs.StepTable.Accounts

/-!
# Repeat runs are compiled from the flow

To compile for a set of actors is to compile for its members in their order, with nothing said of anybody
else.  Neither the blocks nor the seeds of others are looked at.  So it does no harm that playback keeps only
the blocks of the actors that start over, and cuts these down again for every repeat run: its tables are
those that all the blocks of the flow would give.

## Main definitions

* `Playback.cutDown` — blocks after a number of such cuts; `seedsOf` — the seeds of the actors in a set.
* `Player.GoesOn` — the players that calls lead to while a run is never over.
* `Run.CutFrom` — what a repeat run plays was cut out of some blocks.

## Main results

* `StepTable.run_compile_keys` — compiling for a set and for its members, but for the notes on others.
* `StepTable.recompile_cutDown`, `recompile_seedsOf` — blocks and seeds of others do not matter.
* `Player.GoesOn.stands` — what a wakeup keeps of a run holds while the run goes on.
* `Playback.cutFrom_woken` — a wakeup keeps to the blocks of the flow.
* `Playback.recompile_eq_restricted` — compiling for a set is compiling restricted, at any depth of repeats.
-/

namespace Marionette

/-- The blocks that are left when, for one set after the other, only those of its actors are kept. -/
def Playback.cutDown (sets : List ActorSet) (blocks : List ActionBlock) : List ActionBlock :=
  sets.foldl (fun blocks set => blocksOf set blocks) blocks

/-- The seeds of the actors in a set. -/
def seedsOf (set : ActorSet) (seed : StateMap) : StateMap :=
  .ofList (set.keys.filterMap fun a => (seed.get? a).map (a, ·))

/-! ### Tables -/

theorem Playback.cutDown_concat (sets : List ActorSet) (set : ActorSet) (blocks : List ActionBlock) :
    cutDown (sets ++ [set]) blocks = blocksOf set (cutDown sets blocks) :=
  List.foldl_append

/-- Whoever is in all the sets has the lane it had. -/
theorem laneOf_cutDown {sets : List ActorSet} {blocks : List ActionBlock} {a : ActorId}
    (h : ∀ set ∈ sets, a ∈ set.keys) : laneOf (Playback.cutDown sets blocks) a = laneOf blocks a := by
  induction sets generalizing blocks with
  | nil => rfl
  | cons set sets ih =>
    rw [List.forall_mem_cons] at h
    rw [Playback.cutDown, List.foldl_cons, ← Playback.cutDown, ih h.2, laneOf_blocksOf h.1]

theorem get?_seedsOf {set : ActorSet} {a : ActorId} (ha : a ∈ set.keys) (seed : StateMap) :
    (seedsOf set seed).get? a = seed.get? a := by
  rw [seedsOf, SortedMap.get?_ofList_filterMap, if_pos ha]

theorem Snapshot.statesOf_eq (s : Snapshot) (set : ActorSet) : s.statesOf set = seedsOf set s.states := rfl

/-- Only the seeds of the lanes' own actors are looked at. -/
theorem Snapshot.start_congr {lanes : List Lane} {seed seed' : StateMap}
    (h : ∀ l ∈ lanes, seed.get? l.actor = seed'.get? l.actor) : start lanes seed = start lanes seed' := by
  rw [start, start]
  refine congrArg (fun bindings => ({ states := .ofList bindings } : Snapshot)) (List.map_congr_left ?_)
  intro l hl
  rw [h l hl]

namespace StepTable

variable {set : ActorSet}

/-- Recompiling looks at no seed of another actor. -/
theorem recompile_congr_seed {seed seed' : StateMap} (h : ∀ a ∈ set.keys, seed.get? a = seed'.get? a)
    (r : Registry) (around : Surroundings) (blocks : List ActionBlock) :
    recompile r around blocks seed set = recompile r around blocks seed' set := by
  have hstart : Snapshot.start (lanesOf blocks set.keys) seed =
      Snapshot.start (lanesOf blocks set.keys) seed' := by
    refine Snapshot.start_congr ?_
    intro l hl
    obtain ⟨a, ha, rfl⟩ := mem_lanesOf_iff.mp hl
    exact h a ha
  rw [recompile, recompile, ofLanes, ofLanes, hstart]

theorem recompile_seedsOf (r : Registry) (around : Surroundings) (blocks : List ActionBlock)
    (seed : StateMap) (set : ActorSet) :
    recompile r around blocks (seedsOf set seed) set = recompile r around blocks seed set :=
  recompile_congr_seed (fun _ ha => get?_seedsOf ha seed) r around blocks

/-- Recompiling does not mind that blocks were cut down before, as long as its own actors were kept. -/
theorem recompile_cutDown {sets : List ActorSet} (h : ∀ kept ∈ sets, ∀ a ∈ set.keys, a ∈ kept.keys)
    (r : Registry) (around : Surroundings) (blocks : List ActionBlock) (seed : StateMap) :
    recompile r around (Playback.cutDown sets blocks) seed set = recompile r around blocks seed set :=
  recompile_congr fun a ha => laneOf_cutDown fun kept hkept => h kept hkept a ha

/-- What lanes leave undone is of unknown kinds. -/
theorem reason_eq_of_mem_skipped {r : Registry} {around : Surroundings} {lanes : List Lane}
    (hnodup : (lanes.map (·.actor)).Nodup) {seed : StateMap} {source : RandomSource} {note : SkippedBlock}
    (h : note ∈ ((ofLanes r around lanes seed).run source).1.skipped) : note.reason = .unknownAction := by
  rw [(run_ofLanes r around hnodup seed source).1] at h
  obtain ⟨c, -, rfl⟩ := List.mem_map.mp h
  rfl

/-- To compile for the members of a set and for the set is the same, but for the notes on others. -/
theorem run_compile_keys (r : Registry) (around : Surroundings) (blocks : List ActionBlock)
    (seed : StateMap) (set : ActorSet) (source : RandomSource) :
    let listed := (compile r around blocks set.keys seed).run source
    let alone := (recompile r around blocks seed set).run source
    alone.1.snapshots = listed.1.snapshots ∧ alone.2 = listed.2 ∧
      alone.1.skipped = listed.1.unknownNotes := by
  intro listed alone
  have hlisted : listed = ({ alone.1 with
      skipped := blocks.filterMap (foreignNote? set.keys) ++ alone.1.skipped }, alone.2) :=
    run_compile r around blocks set.keys seed source
  refine ⟨by rw [hlisted], by rw [hlisted], ?_⟩
  have hown : alone.1.skipped.filter (fun note => note.reason = .unknownAction) = alone.1.skipped := by
    refine List.filter_eq_self.mpr ?_
    intro note hnote
    simpa using reason_eq_of_mem_skipped (nodup_actor_lanesOf blocks set.keys) hnote
  rw [hlisted, unknownNotes, List.filter_append, filter_foreignNotes, hown, List.nil_append]

end StepTable

/-! ### A run that goes on -/

/-- The players that calls on `p` lead to without its run being over in between.  Each call may come with
another display and another queue. -/
inductive Player.GoesOn (p : Player) : Player → Prop
  | refl : GoesOn p p
  | call {σ : Type} [Display σ] (pb : Playback σ) (c : Call) (h : GoesOn p pb.player)
      (hruns : (pb.call c).player.isRunning = true) : GoesOn p (pb.call c).player

theorem Player.GoesOn.isRunning {p q : Player} (h : p.GoesOn q) (hp : p.isRunning = true) :
    q.isRunning = true := by
  cases h with
  | refl => exact hp
  | call pb c h hruns => exact hruns

/-- What a wakeup keeps of a run, calls keep while the run goes on: no other flow is started meanwhile. -/
theorem Playback.stands_call_of_runs {σ : Type} [Display σ] {B : Player → Run → Snapshot → Prop}
    (hstep : ∀ (pb pb' : Playback σ) run actors s token, pb.player.PlaysAt run actors s token →
      B pb.player run s → Woken pb run actors s pb' → pb'.player.Stands True (B pb'.player))
    (hcongr : ∀ p p' run s, p'.registry = p.registry → p'.config = p.config → B p run s → B p' run s)
    {pb : Playback σ} (hrunning : pb.player.isRunning = true) (h : pb.player.Stands True (B pb.player))
    (c : Call) (hruns : (pb.call c).player.isRunning = true) :
    (pb.call c).player.Stands True (B (pb.call c).player) := by
  have hkept : ∀ p, p.registry = pb.player.registry → p.config = pb.player.config →
      pb.player.Stands True (B p) := fun p hregistry hconfig =>
    h.imp id fun run s => hcongr _ p run s hregistry hconfig
  cases c with
  | play flow =>
    rw [call, play, if_pos hrunning]
    exact h
  | stop =>
    rw [call, stop, if_pos hrunning] at hruns
    cases hruns
  | onTimer token =>
    exact stands_onTimer (A := fun _ _ => True) (B := fun p _ => B p) hstep pb token h
  | compile flow => exact (hkept (pb.call (.compile flow)).player rfl rfl).congr rfl rfl rfl rfl
  | takeEvents => exact (hkept (pb.call .takeEvents).player rfl rfl).congr rfl rfl rfl rfl

theorem Player.GoesOn.stands {p q : Player} {B : Player → Run → Snapshot → Prop} (h : p.GoesOn q)
    (hstep : ∀ {σ : Type} [Display σ] (pb pb' : Playback σ) run actors s token,
      pb.player.PlaysAt run actors s token → B pb.player run s → Playback.Woken pb run actors s pb' →
        pb'.player.Stands True (B pb'.player))
    (hcongr : ∀ p p' run s, p'.registry = p.registry → p'.config = p.config → B p run s → B p' run s)
    (hp : p.isRunning = true) (hstands : p.Stands True (B p)) : q.Stands True (B q) := by
  induction h with
  | refl => exact hstands
  | call pb c h hruns ih => exact Playback.stands_call_of_runs hstep hcongr (h.isRunning hp) ih c hruns

/-! ### What a run was cut from -/

/-- The run plays what is left of some blocks after a number of cuts, and whoever takes part was kept in all
of them. -/
def Run.CutFrom (blocks : List ActionBlock) (run : Run) (s : Snapshot) : Prop :=
  ∃ sets, run.blocks = Playback.cutDown sets blocks ∧
    ∀ kept ∈ sets, ∀ a, (s.state? a).isSome → a ∈ kept.keys

namespace Playback

variable {σ : Type} [Display σ] {pb pb' : Playback σ} {run : Run} {actors : List ActorId} {s : Snapshot}
  {token : TimerToken} {blocks : List ActionBlock}

/-- **A wakeup keeps to the blocks that the run was cut from.**  A repeat run makes one more cut. -/
theorem cutFrom_woken (hplays : pb.player.PlaysAt run actors s token) (h : run.CutFrom blocks s)
    (hwoken : Woken pb run actors s pb') : pb'.player.Stands True (Run.CutFrom blocks) := by
  obtain ⟨sets, hblocks, hkept⟩ := h
  have hnext : ∀ s', run.next.snapshot? = some s' → run.next.CutFrom blocks s' := fun s' hs' =>
    ⟨sets, hblocks, fun kept hmem a ha =>
      hkept kept hmem a ((hplays.isSome_state?_next_iff hs' a).mp ha)⟩
  cases hwoken with
  | moved s' hs hs' heq hplays' => exact .plays _ _ _ _ hplays' (hnext s' hplays'.snapshot_eq)
  | asked s' hs hs' hcap heq hplays' => exact .plays _ _ _ _ hplays' (hnext s' hplays'.snapshot_eq)
  | ended s' hs hsnap hend heq hrests => exact .rests hrests trivial
  | repeated out first hs hout heq hplays' =>
    refine .plays _ _ _ _ hplays' ⟨sets ++ [s.repeaters], ?_, ?_⟩
    · rw [cutDown_concat, ← hblocks]
    · intro kept hmem a ha
      have ha' := (hplays'.isSome_state?_iff a).mp ha
      rcases List.mem_append.mp hmem with hmem | hmem
      · exact hkept kept hmem a (hplays.isSome_state? ha')
      · rwa [List.mem_singleton.mp hmem]

/-- A flow that was started is played as it is. -/
theorem Starts.cutFrom {flow : Flow} (h : pb.Starts flow pb') :
    pb'.player.isRunning = true ∧ pb'.player.Stands True (Run.CutFrom flow.blocks) := by
  obtain ⟨first, -, hplays⟩ := h.exists_playsAt
  exact ⟨hplays.isRunning_eq, .plays _ _ _ _ hplays ⟨[], rfl, by simp⟩⟩

end Playback

theorem Player.GoesOn.cutFrom {p q : Player} {blocks : List ActionBlock} (h : p.GoesOn q)
    (hp : p.isRunning = true) (hcut : p.Stands True (Run.CutFrom blocks)) :
    q.Stands True (Run.CutFrom blocks) :=
  h.stands (B := fun _ => Run.CutFrom blocks)
    (fun _ _ _ _ _ _ hplays hcut hwoken => Playback.cutFrom_woken hplays hcut hwoken)
    (fun _ _ _ _ _ _ hcut => hcut) hp hcut

/-! ### Repeat runs -/

namespace Playback

/-- A repeat run is compiled from the blocks of the flow and the states of the snapshot that asked for it. -/
theorem nextTable_of_cutFrom {p : Player} {run : Run} {actors : List ActorId} {s : Snapshot}
    {token : TimerToken} {blocks : List ActionBlock} (hplays : p.PlaysAt run actors s token)
    (h : run.CutFrom blocks s) : p.nextTable run s =
      StepTable.recompile p.registry p.config.surroundings blocks s.states s.repeaters := by
  obtain ⟨sets, hblocks, hkept⟩ := h
  rw [Player.nextTable, Snapshot.statesOf_eq, StepTable.recompile_seedsOf, hblocks, ← cutDown_concat]
  refine StepTable.recompile_cutDown ?_ p.registry p.config.surroundings blocks s.states
  intro kept hmem a ha
  rcases List.mem_append.mp hmem with hmem | hmem
  · exact hkept kept hmem a (hplays.isSome_state? ha)
  · rwa [List.mem_singleton.mp hmem]

/-- **To compile for a set of actors is to compile restricted to them.**  The snapshots, and what is drawn,
are those of compiling for its members in their order, and of the notes those on unknown kinds remain.  It
makes no difference if blocks and seeds of others were left out before.  Therefore, as long as the run of a
flow goes on, each of its repeat runs has the table that all the blocks of the flow give, although playback
has cut them down for every repeat run before. -/
theorem recompile_eq_restricted (r : Registry) (around : Surroundings) (blocks : List ActionBlock)
    (seed : StateMap) (set : ActorSet) :
    (∀ source,
      let listed := (StepTable.compile r around blocks set.keys seed).run source
      let alone := (StepTable.recompile r around blocks seed set).run source
      alone.1.snapshots = listed.1.snapshots ∧ alone.2 = listed.2 ∧
        alone.1.skipped = listed.1.unknownNotes) ∧
    (∀ sets : List ActorSet, (∀ kept ∈ sets, ∀ a ∈ set.keys, a ∈ kept.keys) →
      StepTable.recompile r around (cutDown sets blocks) seed set =
        StepTable.recompile r around blocks seed set) ∧
    StepTable.recompile r around blocks (seedsOf set seed) set =
      StepTable.recompile r around blocks seed set ∧
    ∀ {σ τ : Type} [Display σ] [Display τ] (pb pb' : Playback σ) (flow : Flow) (now : Playback τ)
      (run : Run) (s : Snapshot) (token : TimerToken), pb.play flow = .ok (.started, pb') →
      pb'.player.GoesOn now.player → now.player.run? = some run → run.snapshot? = some s →
      now.player.pending? = some (token, .restart) →
        let out := (StepTable.recompile now.player.registry now.player.config.surroundings flow.blocks
          s.states s.repeaters).run now.player.source
        (∃ sets, run.blocks = cutDown sets flow.blocks ∧
          ∀ kept ∈ sets, ∀ a ∈ s.repeaters.keys, a ∈ kept.keys) ∧
        (now.onTimer token).2.player.run? =
          some { blocks := blocksOf s.repeaters run.blocks, table := out.1 } ∧
        (now.onTimer token).2.player.source = out.2 := by
  refine ⟨StepTable.run_compile_keys r around blocks seed set, ?_,
    StepTable.recompile_seedsOf r around blocks seed set, ?_⟩
  · intro sets hkept
    exact StepTable.recompile_cutDown hkept r around blocks seed
  · intro σ τ _ _ pb pb' flow now run s token hplay hgoes hrun hs hpending out
    obtain ⟨hrunning, hcut⟩ := (starts_of_play hplay).cutFrom
    rcases hgoes.cutFrom hrunning hcut with ⟨hrests, -⟩ | ⟨run', actors, s', token', hplays, hcut'⟩
    · rw [hrests.run_eq] at hrun
      cases hrun
    · obtain rfl : run' = run := Option.some.inj (hplays.run_eq.symm.trans hrun)
      obtain rfl : s' = s := Option.some.inj (hplays.snapshot_eq.symm.trans hs)
      obtain ⟨rfl, hwakeup⟩ := Prod.mk.inj (Option.some.inj (hplays.pending_eq.symm.trans hpending))
      have hout : (now.player.nextTable run' s').run now.player.source = out := by
        rw [nextTable_of_cutFrom hplays hcut']
      rw [onTimer_of_restart hplays (s'.wakeup_eq_restart_iff.mp hwakeup) hout]
      obtain ⟨sets, hblocks, hkept⟩ := hcut'
      exact ⟨⟨sets, hblocks, fun kept hmem a ha => hkept kept hmem a (hplays.isSome_state? ha)⟩, rfl, rfl⟩

end Playback

/-- One actor starts over at once, and the other takes a step. -/
def Sample.encore : Flow :=
  { Sample.flow with blocks := [⟨⟨"1"⟩, "again", some ⟨"a"⟩⟩, ⟨⟨"2"⟩, "step", some ⟨"b"⟩⟩] }

/-- The second repeat run of the encore is compiled from one block and has the table that both give. -/
theorem Playback.recompile_eq_restricted_sample :
    let begun := (Sample.idle none).call (.play Sample.encore)
    let now := ((begun.call (.onTimer ⟨0⟩)).call (.onTimer ⟨1⟩)).call (.onTimer ⟨2⟩)
    now.player.pending? = some (⟨3⟩, .restart) ∧
      ∃ run s, now.player.run? = some run ∧ run.snapshot? = some s ∧ run.blocks.length = 1 ∧
        (now.onTimer ⟨3⟩).2.player.currentTable? = some ((StepTable.recompile now.player.registry
          now.player.config.surroundings Sample.encore.blocks s.states s.repeaters).run
            now.player.source).1 := by
  intro begun now
  have hgoes : begun.player.GoesOn now.player :=
    .call _ (.onTimer ⟨2⟩) (.call _ (.onTimer ⟨1⟩) (.call _ (.onTimer ⟨0⟩) .refl rfl) rfl) rfl
  obtain ⟨run, hrun, hlength⟩ : ∃ run, now.player.run? = some run ∧ run.blocks.length = 1 := ⟨_, rfl, rfl⟩
  obtain ⟨s, hs⟩ : ∃ s, run.snapshot? = some s := by
    cases hrun
    exact ⟨_, rfl⟩
  obtain ⟨-, -, -, hrepeat⟩ := recompile_eq_restricted Sample.registry {} [] .empty .empty
  obtain ⟨-, htable, -⟩ := hrepeat (Sample.idle none) begun Sample.encore now run s ⟨3⟩ rfl hgoes hrun hs rfl
  refine ⟨rfl, run, s, hrun, hs, hlength, ?_⟩
  rw [Player.currentTable?, htable]
  rfl

end Marionette

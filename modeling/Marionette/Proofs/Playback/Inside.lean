import Marionette.Proofs.BuiltIn
import Marionette.Proofs.Playback.Laps
import Marionette.Proofs.Playback.Restriction

/-!
# Actors stay inside the stage

A step along an axis wraps to 0 where it would take the actor over the margin at the end of the stage.  Three
moves do so, each with a test of its own, and the diagonal one sends both coordinates back when either would
leave.  So whoever begins inside the stage stays inside, on each axis by itself, in all that a flow shows
without a random place: in its own table, and in those of the repeat runs, which begin where a snapshot stands.
Nothing is used of the arithmetic of floating-point numbers but that 0 equals itself.

## Main definitions

* `Inside` — a coordinate is 0, or an actor there does not reach over the end.
* `ActorState.StaysInside` — what is inside stays inside, axis by axis.
* `ActionBlock.Wraps` — a block does not take its actor to a random place.

## Main results

* `BuiltIn.staysInside` — of one action.
* `StepTable.Plays.staysInside` — of a table.
* `Playback.staysInside_woken` — of what a wakeup leads to.
* `Playback.actors_stay_inside` — of a flow and all its repeat runs.
-/

namespace Marionette

/-- The coordinate is 0, or an actor there does not reach over the end of the extent. -/
def Inside (margin extent coordinate : Float) : Prop := coordinate == 0.0 ∨ ¬ coordinate + margin > extent

theorem inside_zero (margin extent : Float) : Inside margin extent 0.0 := .inl (by decide)

theorem inside_of_leaves {coordinate step margin extent : Float}
    (h : leaves coordinate step margin extent = false) : Inside margin extent (coordinate + step) :=
  .inr (of_decide_eq_false h)

theorem inside_advanceWrapped (coordinate step margin extent : Float) :
    Inside margin extent (advanceWrapped coordinate step margin extent) := by
  rw [advanceWrapped]
  split
  · exact inside_zero margin extent
  · next hstays => exact inside_of_leaves (Bool.eq_false_iff.mpr hstays)

/-! ### One action -/

namespace ActorState

/-- On each axis, `s'` is inside the stage if `s` is. -/
structure StaysInside (v : Viewport) (s s' : ActorState) : Prop where
  x : Inside v.marginX v.width s.x → Inside v.marginX v.width s'.x
  y : Inside v.marginY v.height s.y → Inside v.marginY v.height s'.y

variable {v : Viewport} {s s' s'' : ActorState}

theorem StaysInside.refl (v : Viewport) (s : ActorState) : s.StaysInside v s := ⟨id, id⟩

theorem StaysInside.trans (h : s.StaysInside v s') (h' : s'.StaysInside v s'') : s.StaysInside v s'' :=
  ⟨h'.x ∘ h.x, h'.y ∘ h.y⟩

theorem staysInside_moveXY (around : Surroundings) (s : ActorState) :
    s.StaysInside around.viewport (s.moveXY around) := by
  simp only [moveXY]
  split
  · exact ⟨fun _ => inside_zero _ _, fun _ => inside_zero _ _⟩
  · next hstays =>
    simp only [Bool.or_eq_true, not_or, Bool.not_eq_true] at hstays
    exact ⟨fun _ => inside_of_leaves hstays.1, fun _ => inside_of_leaves hstays.2⟩

end ActorState

variable {around : Surroundings} {actor : ActorId} {s s' : ActorState}

/-- **Every action but going to a random place keeps its actor inside the stage.** -/
theorem BuiltIn.staysInside {b : BuiltIn} (hb : b ≠ .goToRandomPlace)
    (h : (b.action.transition around actor s).Yields s') : s.StaysInside around.viewport s' := by
  cases b with
  | goToRandomPlace => exact absurd rfl hb
  | moveX =>
    obtain rfl := h
    exact ⟨fun _ => inside_advanceWrapped _ _ _ _, id⟩
  | moveY =>
    obtain rfl := h
    exact ⟨id, fun _ => inside_advanceWrapped _ _ _ _⟩
  | moveXY =>
    obtain rfl := h
    exact ActorState.staysInside_moveXY around s
  | goToOrigin =>
    obtain rfl := h
    exact ⟨fun _ => inside_zero _ _, fun _ => inside_zero _ _⟩
  | _ =>
    obtain rfl := h
    exact ⟨id, id⟩

/-- The block does not take its actor to a random place. -/
def ActionBlock.Wraps (b : ActionBlock) : Prop := b.action ≠ BuiltIn.goToRandomPlace.kind

theorem Registry.staysInside_turn {b? : Option ActionBlock} (hb : ∀ b ∈ b?, b.Wraps)
    (h : (builtIn.turn around actor s b?).Yields s') : s.StaysInside around.viewport s' := by
  rcases b? with _ | b
  · obtain rfl : s' = s := h
    exact .refl _ s'
  · rw [turn_builtIn] at h
    rcases hnamed : BuiltIn.named? b.action with _ | act
    · rw [hnamed] at h
      obtain rfl : s' = s := h
      exact .refl _ s'
    · rw [hnamed] at h
      refine BuiltIn.staysInside ?_ h
      rintro rfl
      exact hb b rfl (BuiltIn.kind_of_named? hnamed).symm

/-! ### Tables -/

/-- In every snapshot of a table, whoever began inside the stage is inside. -/
theorem StepTable.Plays.staysInside {blocks : List ActionBlock} {actors : List ActorId} {seed : StateMap}
    {t : StepTable} (h : t.Plays .builtIn around (lanesOf blocks actors) seed) (hwraps : ∀ b ∈ blocks, b.Wraps)
    {k : Nat} {s : Snapshot} (hs : t.snapshot? k = some s) {a : ActorId} {state : ActorState}
    (hstate : s.state? a = some state) :
    ((seed.get? a).getD default).StaysInside around.viewport state := by
  have ha : a ∈ actors := (h.fits.isSome_state?_iff k s hs a).mp (Option.isSome_of_eq_some hstate)
  obtain ⟨state', hstate', hinside⟩ := h.exists_of_turns ha
    (I := fun _ state => ((seed.get? a).getD default).StaysInside around.viewport state) (.refl _ _)
    (fun k before after hbefore hyields => hbefore.trans (Registry.staysInside_turn
      (fun b hb => hwraps b (List.mem_filter.mp (List.mem_of_getElem? hb)).1) hyields)) hs
  obtain rfl : state' = state := Option.some.inj (hstate'.symm.trans hstate)
  exact hinside

/-! ### Runs -/

/-- The player does the built-in actions, and in all that its run shows, whoever began inside the stage is
inside. -/
structure Player.KeepsInside (around : Surroundings) (first : ActorId → ActorState) (p : Player) (run : Run) :
    Prop where
  registry_eq : p.registry = .builtIn
  surroundings_eq : p.config.surroundings = around
  wraps : ∀ b ∈ run.blocks, b.Wraps
  inside : ∀ k s a state, run.table.snapshot? k = some s → s.state? a = some state →
    (first a).StaysInside around.viewport state

namespace Playback

variable {σ : Type} [Display σ] {pb pb' : Playback σ} {run : Run} {actors : List ActorId} {s : Snapshot}
  {token : TimerToken} {first : ActorId → ActorState}

/-- **A wakeup keeps actors inside the stage.** -/
theorem staysInside_woken (hplays : pb.player.PlaysAt run actors s token)
    (h : pb.player.KeepsInside around first run) (hwoken : Woken pb run actors s pb') :
    pb'.player.Stands True fun run _ => pb'.player.KeepsInside around first run := by
  have hregistry : pb'.player.registry = .builtIn := hwoken.registry_eq.trans h.registry_eq
  have hsurroundings : pb'.player.config.surroundings = around := by
    rw [hwoken.config_eq, h.surroundings_eq]
  cases hwoken with
  | moved s' hs hs' heq hplays' =>
    exact .plays _ _ _ _ hplays' ⟨hregistry, hsurroundings, h.wraps, h.inside⟩
  | asked s' hs hs' hcap heq hplays' =>
    exact .plays _ _ _ _ hplays' ⟨hregistry, hsurroundings, h.wraps, h.inside⟩
  | ended s' hs hsnap hend heq hrests => exact .rests hrests trivial
  | repeated out first' hs hout heq hplays' =>
    have hwraps : ∀ b ∈ blocksOf s.repeaters run.blocks, b.Wraps := fun b hb =>
      h.wraps b (List.mem_filter.mp hb).1
    have hyields : (pb.player.nextTable run s).Yields out.1 := hout ▸ Chance.yields_run _ _
    rw [Player.nextTable, h.registry_eq, h.surroundings_eq] at hyields
    have htable := StepTable.plays_of_yields_recompile hyields
    refine .plays _ _ _ _ hplays' ⟨hregistry, hsurroundings, hwraps, fun k s' a state hs' hstate => ?_⟩
    have ha : a ∈ s.repeaters.keys :=
      (htable.fits.isSome_state?_iff k s' hs' a).mp (Option.isSome_of_eq_some hstate)
    obtain ⟨before, hbefore⟩ := Option.isSome_iff_exists.mp (hplays.isSome_state? ha)
    have hfirst : ((s.statesOf s.repeaters).get? a).getD default = before := by
      rw [Snapshot.statesOf_eq, get?_seedsOf ha]
      exact congrArg (·.getD default) hbefore
    have hlater := htable.staysInside hwraps hs' hstate
    rw [hfirst] at hlater
    exact (h.inside _ s a before hplays.snapshot_eq hbefore).trans hlater

/-- A flow that was started shows its actors inside the stage. -/
theorem Starts.keepsInside {flow : Flow} (h : pb.Starts flow pb') (hregistry : pb.player.registry = .builtIn)
    (hwraps : ∀ b ∈ flow.blocks, b.Wraps) :
    pb'.player.isRunning = true ∧ pb'.player.Stands True fun run _ =>
      pb'.player.KeepsInside pb.player.config.surroundings
        (fun a => ((Display.currentStates pb.display).get? a).getD default) run := by
  obtain ⟨s, heq, hplays⟩ := h.exists_playsAt
  have htable := pb.plays_compile flow
  rw [hregistry] at htable
  refine ⟨hplays.isRunning_eq, .plays _ _ _ _ hplays ⟨?_, ?_, hwraps, fun k s a state hs hstate =>
    htable.staysInside hwraps hs hstate⟩⟩
  · rw [heq, player_arm]
    exact hregistry
  · rw [heq, player_arm]
    rfl

/-- **Whoever begins inside the stage stays inside**, on each axis by itself, in every snapshot of a flow of
built-in and unknown kinds that takes nobody to a random place, and in those of all its repeat runs. -/
theorem actors_stay_inside :
    (∀ (around : Surroundings) (blocks : List ActionBlock) (actors : List ActorId) (seed : StateMap)
      (source : RandomSource), (∀ b ∈ blocks, b.action ≠ BuiltIn.goToRandomPlace.kind) →
        ∀ k s a state, ((StepTable.compile .builtIn around blocks actors seed).run source).1.snapshot? k =
          some s → s.state? a = some state →
          ((seed.get? a).getD default).StaysInside around.viewport state) ∧
    ∀ {σ : Type} [Display σ] (pb pb' : Playback σ) (flow : Flow), pb.player.registry = .builtIn →
      (∀ b ∈ flow.blocks, b.action ≠ BuiltIn.goToRandomPlace.kind) → pb.play flow = .ok (.started, pb') →
      ∀ p, pb'.player.GoesOn p → ∀ run, p.run? = some run →
        ∀ k s a state, run.table.snapshot? k = some s → s.state? a = some state →
          (((Display.currentStates pb.display).get? a).getD default).StaysInside
            pb.player.config.viewport state := by
  refine ⟨fun around blocks actors seed source hwraps k s a state hs hstate => ?_,
    fun pb pb' flow hregistry hwraps hplay p hgoes run hrun k s a state hs hstate => ?_⟩
  · have htable := StepTable.plays_of_yields_compile (Chance.yields_run
      (StepTable.compile .builtIn around blocks actors seed) source)
    exact htable.staysInside hwraps hs hstate
  · obtain ⟨hrunning, hstands⟩ := (starts_of_play hplay).keepsInside hregistry hwraps
    have hlater := hgoes.stands
      (B := fun p run _ => p.KeepsInside pb.player.config.surroundings
        (fun a => ((Display.currentStates pb.display).get? a).getD default) run)
      (fun _ _ _ _ _ _ hplays h hwoken => staysInside_woken hplays h hwoken)
      (fun _ _ _ _ hregistry hconfig h =>
        ⟨hregistry.trans h.registry_eq, hconfig ▸ h.surroundings_eq, h.wraps, h.inside⟩)
      hrunning hstands
    rcases hlater with ⟨hrests, -⟩ | ⟨run', actors, s', token, hplays, h⟩
    · rw [hrests.run_eq] at hrun
      cases hrun
    · obtain rfl : run' = run := Option.some.inj (hplays.run_eq.symm.trans hrun)
      exact h.inside k s a state hs hstate

end Playback

namespace Sample

/-- One actor takes a step along the diagonal, and starts over. -/
def stride : Flow :=
  { flow with blocks :=
      [⟨⟨"1"⟩, "moveXY50", some ⟨"a"⟩⟩, ⟨⟨"2"⟩, "repeatWholeAnimation", some ⟨"a"⟩⟩] }

/-- The built-in actions, in front of the two. -/
def strolling : Playback Stage :=
  { player := { registry := .builtIn, config := {}, source := .scripted [] }, display := stage }

end Sample

/-- In the repeat run of the stride the actor has moved on from where it stood, and is inside the stage. -/
theorem Playback.actors_stay_inside_sample :
    let begun := Sample.strolling.call (.play Sample.stride)
    let now := ((begun.call (.onTimer ⟨0⟩)).call (.onTimer ⟨1⟩)).call (.onTimer ⟨2⟩)
    ∃ run s state, now.player.run? = some run ∧ run.table.snapshot? 1 = some s ∧
      s.state? ⟨"a"⟩ = some state ∧ state.x = 100.0 ∧ Inside 100.0 768.0 state.x := by
  intro begun now
  have hgoes : begun.player.GoesOn now.player :=
    .call _ (.onTimer ⟨2⟩) (.call _ (.onTimer ⟨1⟩) (.call _ (.onTimer ⟨0⟩) .refl rfl) rfl) rfl
  have hx : ((now.player.run?.bind (·.table.snapshot? 1)).bind (·.state? ⟨"a"⟩)).map (·.x) = some 100.0 := by
    decide +kernel
  obtain ⟨state, hstate, hx⟩ := Option.map_eq_some_iff.mp hx
  obtain ⟨s, hs, hstate⟩ := Option.bind_eq_some_iff.mp hstate
  obtain ⟨run, hrun, hs⟩ := Option.bind_eq_some_iff.mp hs
  have hstays := actors_stay_inside.2 Sample.strolling begun Sample.stride rfl (by decide) rfl now.player hgoes
    run hrun 1 s _ state hs hstate
  exact ⟨run, s, state, hrun, hs, hstate, hx, hstays.x (inside_zero _ _)⟩

end Marionette

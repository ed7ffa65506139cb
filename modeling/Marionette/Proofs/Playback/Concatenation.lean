import Marionette.Proofs.Playback.FinalStates
import Marionette.Proofs.StepTable.Columns

/-!
# One flow after another

Where nothing is drawn, two flows one after the other lead to where both lead as one.  The tables in between
differ.  Whoever is done early with the first flow waits there until all are done, and goes on at once where
the flows are one.  Only the states at the end are the same, for at the end every lane has been carried out.

The states in which a table leaves the actors are those that the stage shows when the table has been played,
and those from which the next flow is compiled.  So what holds of tables holds of a stage on which one flow is
played after another, as long as nobody starts over.

## Main definitions

* `StepTable.closing` — the states in which a table leaves its actors.
* `Playback.PlaysOut` — a flow is played until playback is over.

## Main results

* `StepTable.Plays.closing_append` — the closing states of two flows, one after the other and as one.
* `Playback.PlaysOut.currentStates_eq` — after a flow the stage shows the closing states of its table.
* `Playback.exists_playsOut` — a flow in which nobody starts over comes to its end.
* `Playback.two_flows_end_as_one` — two flows, one after the other and as one.
-/

namespace Marionette

/-! ### Blocks in a row -/

namespace Registry

theorem after_append (r : Registry) (around : Surroundings) (actor : ActorId)
    (blocks blocks' : List ActionBlock) (s : ActorState) :
    r.after around actor (blocks ++ blocks') s =
      r.after around actor blocks' (r.after around actor blocks s) :=
  List.foldl_append

variable {r : Registry} {around : Surroundings} {blocks blocks' : List ActionBlock}

theorem Still.mono (h : r.Still around blocks) (hsub : blocks' ⊆ blocks) : r.Still around blocks' :=
  fun b hb => h b (hsub hb)

/-- Without a repeat marker nobody is sent back. -/
theorem repeatsAt_eq_false (h : ∀ b ∈ blocks, r.isRepeat b.action = false) (a : ActorId) (step : Nat) :
    r.repeatsAt blocks a step = false := by
  rcases step with _ | k
  · rfl
  · rw [repeatsAt, Option.any_eq_false]
    intro b hb
    exact h b (List.mem_filter.mp (List.mem_of_getElem? hb)).1

end Registry

/-! ### Closing states -/

namespace StepTable

/-- The states in which a table leaves the listed actors: those of its last snapshot.  A table without a
snapshot leaves everyone as it was, and in the default state if nothing is known. -/
def closing (t : StepTable) (actors : List ActorId) (seed : StateMap) : StateMap :=
  match t.snapshots.getLast? with
  | some s => s.states
  | none => .ofList (actors.map fun a => (a, (seed.get? a).getD default))

variable {r : Registry} {around : Surroundings} {blocks blocks' : List ActionBlock}
  {actors : List ActorId} {seed : StateMap} {t : StepTable}

theorem get?_closing_of_isEmpty (h : t.isEmpty = true) {a : ActorId} (ha : a ∈ actors) :
    (t.closing actors seed).get? a = some ((seed.get? a).getD default) := by
  rw [closing, List.isEmpty_iff.mp h]
  exact (SortedMap.get?_ofList_map (fun a => (seed.get? a).getD default) actors a).trans (if_pos ha)

theorem exists_closing_eq (h : t.isEmpty = false) (actors : List ActorId) (seed : StateMap) :
    ∃ s, t.snapshot? t.last = some s ∧ t.closing actors seed = s.states := by
  have hlt : t.last < t.size := by
    rw [last_eq]
    exact Nat.sub_one_lt (Nat.ne_of_gt (isEmpty_eq_false_iff.mp h))
  obtain ⟨s, hs⟩ := lt_size_iff.mp hlt
  refine ⟨s, hs, ?_⟩
  rw [last_eq, snapshot?, size, ← List.getLast?_eq_getElem?] at hs
  rw [closing, hs]

/-- Everybody on the list is left in the state to which its own lane leads. -/
theorem Plays.get?_closing (h : t.Plays r around (lanesOf blocks actors) seed)
    (hstill : r.Still around blocks) (a : ActorId) :
    (t.closing actors seed).get? a =
      if a ∈ actors then some (r.after around a (laneOf blocks a) ((seed.get? a).getD default))
      else none := by
  have hcolumns := h.columns hstill
  have hlane : ∀ a ∈ actors, (laneOf blocks a).length ≤ t.last := fun a ha =>
    h.fits.length_laneOf_le_last ha
  rcases hne : t.isEmpty with _ | _
  · obtain ⟨s, hs, hclosing⟩ := exists_closing_eq hne actors seed
    rw [hclosing]
    by_cases ha : a ∈ actors
    · rw [if_pos ha, ← List.take_of_length_le (hlane a ha)]
      exact hcolumns.state?_eq _ s hs a ha
    · rw [if_neg ha, ← Option.not_isSome_iff_eq_none, ← SortedMap.mem_keys_iff,
        hcolumns.mem_keys_iff _ s hs]
      exact ha
  · by_cases ha : a ∈ actors
    · have hnil : laneOf blocks a = [] := by
        have := hlane a ha
        rw [last_eq, size, List.isEmpty_iff.mp hne] at this
        exact List.eq_nil_of_length_eq_zero (Nat.le_zero.mp this)
      rw [if_pos ha, hnil, get?_closing_of_isEmpty hne ha]
      rfl
    · rw [if_neg ha, closing, List.isEmpty_iff.mp hne]
      exact (SortedMap.get?_ofList_map (fun a => (seed.get? a).getD default) actors a).trans (if_neg ha)

/-- **Two flows close as one**, if the second begins where the first has closed. -/
theorem Plays.closing_append {first second whole : StepTable}
    (hfirst : first.Plays r around (lanesOf blocks actors) seed)
    (hsecond : second.Plays r around (lanesOf blocks' actors) (first.closing actors seed))
    (hwhole : whole.Plays r around (lanesOf (blocks ++ blocks') actors) seed)
    (hstill : r.Still around (blocks ++ blocks')) :
    whole.closing actors seed = second.closing actors (first.closing actors seed) := by
  refine SortedMap.ext_get? ?_
  intro a
  rw [hwhole.get?_closing hstill, hsecond.get?_closing (hstill.mono (List.subset_append_right _ _)),
    hfirst.get?_closing (hstill.mono (List.subset_append_left _ _))]
  by_cases ha : a ∈ actors
  · rw [if_pos ha, if_pos ha, if_pos ha, Option.getD_some, laneOf_append, Registry.after_append]
  · rw [if_neg ha, if_neg ha]

end StepTable

/-! ### Playing to the end -/

namespace Playback

section

variable {σ : Type} [Display σ] {pb pb' : Playback σ} {flow : Flow}

/-- To play a flow until playback is over leads from `pb` to `pb'`. -/
structure PlaysOut (pb : Playback σ) (flow : Flow) (pb' : Playback σ) : Prop where
  exists_drain : ∃ outcome next limit, pb.play flow = .ok (outcome, next) ∧
    (next.drain limit).playback = pb'
  isRunning_eq : pb'.player.isRunning = false

/-- What a player has started with, it ends with: its actions and its tuning. -/
theorem kept_drain (h : pb.player.Sound) (limit : Nat) :
    (pb.drain limit).playback.player.registry = pb.player.registry ∧
      (pb.drain limit).playback.player.config = pb.player.config := by
  have hkept := stands_drain
    (A := fun p _ => p.registry = pb.player.registry ∧ p.config = pb.player.config)
    (B := fun p _ _ _ => p.registry = pb.player.registry ∧ p.config = pb.player.config)
    (fun _ _ _ _ _ _ _ hkept hwoken =>
      have hkept' := ⟨hwoken.registry_eq.trans hkept.1, hwoken.config_eq.trans hkept.2⟩
      hwoken.sound.imp (fun _ => hkept') fun _ _ _ => hkept')
    limit (h.imp (fun _ => ⟨rfl, rfl⟩) fun _ _ _ => ⟨rfl, rfl⟩)
  rcases hkept with ⟨-, h⟩ | ⟨_, _, _, _, -, h⟩
  · exact h
  · exact h

/-- An idle player plays a flow that has something to play, or does nothing. -/
theorem PlaysOut.cases (h : pb.PlaysOut flow pb') (hidle : pb.player.isRunning = false) :
    (pb.compile flow).1.isEmpty = true ∧
        pb' = (Observed.flush { playback := (pb.compile flow).2 }).playback ∨
      ∃ next limit, pb.Starts flow next ∧ (next.drain limit).playback = pb' := by
  obtain ⟨outcome, next, limit, hplay, hdrain⟩ := h.exists_drain
  rcases hne : (pb.compile flow).1.isEmpty with _ | _
  · rw [play_of_idle hidle hne] at hplay
    obtain ⟨rfl, rfl⟩ := Prod.mk.inj (Except.ok.inj hplay)
    exact .inr ⟨_, limit, ⟨hne, rfl⟩, hdrain⟩
  · rw [play_of_isEmpty hidle hne] at hplay
    obtain ⟨rfl, rfl⟩ := Prod.mk.inj (Except.ok.inj hplay)
    have hcompiled : (pb.compile flow).2.player.isRunning = false := hidle
    rw [drain_eq_flush hcompiled] at hdrain
    exact .inl ⟨rfl, hdrain.symm⟩

theorem PlaysOut.kept (h : pb.PlaysOut flow pb') (hidle : pb.player.isRunning = false) :
    pb'.player.registry = pb.player.registry ∧ pb'.player.config = pb.player.config := by
  rcases h.cases hidle with ⟨-, rfl⟩ | ⟨next, limit, hstarts, rfl⟩
  · exact ⟨rfl, rfl⟩
  · have hkept := kept_drain hstarts.sound limit
    obtain ⟨first, rfl, -⟩ := hstarts.exists_playsAt
    rwa [player_arm] at hkept

/-- Playing leaves no timer behind. -/
theorem PlaysOut.pending_eq_nil (h : pb.PlaysOut flow pb') (hidle : pb.player.isRunning = false)
    (hqueue : pb.timers.pending = []) : pb'.timers.pending = [] := by
  have hend := h.isRunning_eq
  rcases h.cases hidle with ⟨-, rfl⟩ | ⟨next, limit, hstarts, rfl⟩
  · exact hqueue
  · exact (lone_drain (hstarts.lone hqueue) hstarts.sound limit).pending_eq_nil
      ((sound_drain hstarts.sound limit).rests_of_idle hend)

/-- In a flow without repeat markers no snapshot sends anybody back. -/
theorem isEmpty_repeaters_compile
    (hstraight : ∀ b ∈ flow.blocks, pb.player.registry.isRepeat b.action = false) (j : Nat) (s : Snapshot)
    (hs : (pb.compile flow).1.snapshot? j = some s) : s.repeaters.isEmpty = true :=
  (pb.fits_compile flow).isEmpty_repeaters (fun a _ => Registry.repeatsAt_eq_false hstraight a j) hs

/-- A flow in which nobody starts over comes to its end. -/
theorem exists_playsOut (hidle : pb.player.isRunning = false) (hqueue : pb.timers.pending = [])
    (hstraight : ∀ b ∈ flow.blocks, pb.player.registry.isRepeat b.action = false) :
    ∃ pb', pb.PlaysOut flow pb' := by
  rcases hne : (pb.compile flow).1.isEmpty with _ | _
  · obtain ⟨next, hplay, hstarts⟩ := exists_starts hidle hne
    exact ⟨_, ⟨_, next, _, hplay, rfl⟩,
      (drain_of_straight hstarts hqueue (isEmpty_repeaters_compile hstraight) (Nat.le_refl _)).2.1⟩
  · have hcompiled : (pb.compile flow).2.player.isRunning = false := hidle
    refine ⟨_, ⟨_, _, 0, play_of_isEmpty hidle hne, rfl⟩, ?_⟩
    rw [drain_eq_flush hcompiled]
    exact hidle

end

/-! ### The stage -/

/-- Nothing is played, the stage can be edited and names nobody twice, and of some blocks none draws and none
sends anybody back. -/
structure Ready (pb : Playback Stage) (blocks : List ActionBlock) : Prop where
  isRunning_eq : pb.player.isRunning = false
  locked_eq : pb.display.locked = false
  nodup : (pb.display.actors.map (·.id)).Nodup
  still : pb.player.registry.Still pb.player.config.surroundings blocks
  straight : ∀ b ∈ blocks, pb.player.registry.isRepeat b.action = false

variable {pb pb' : Playback Stage} {flow : Flow}

theorem Ready.mono {blocks blocks' : List ActionBlock} (h : pb.Ready blocks) (hsub : blocks' ⊆ blocks) :
    pb.Ready blocks' :=
  { h with
    still := h.still.mono hsub
    straight := fun b hb => h.straight b (hsub hb) }

/-- The states in which the table of a flow leaves the actors of the stage. -/
def closing (pb : Playback Stage) (flow : Flow) : StateMap :=
  (pb.compile flow).1.closing (Display.actorIds pb.display) (Display.currentStates pb.display)

/-- **The stage shows the closing states of the table** when a flow has been played in which nobody starts
over, and it can be edited again. -/
theorem PlaysOut.actors_eq (h : pb.PlaysOut flow pb') (hready : pb.Ready flow.blocks) :
    pb'.display.actors =
        Stage.posed pb.display.actors (fun a => ((pb.closing flow).get? a.id).getD default) ∧
      pb'.display.locked = false := by
  have hend := h.isRunning_eq
  rcases h.cases hready.isRunning_eq with ⟨hempty, rfl⟩ | ⟨next, limit, hstarts, rfl⟩
  · refine ⟨((Stage.posed_congr fun a ha => ?_).trans (List.map_id pb.display.actors)).symm,
      hready.locked_eq⟩
    have hmem : a.id ∈ Display.actorIds pb.display := List.mem_map_of_mem ha
    rw [closing, StepTable.get?_closing_of_isEmpty hempty hmem,
      Stage.get?_currentStates_of_mem hready.nodup ha]
    rfl
  · obtain ⟨hactors, hlocked⟩ := actors_drain_of_straight hstarts hready.nodup hready.still
      (isEmpty_repeaters_compile hready.straight) hend
    refine ⟨hactors.trans (Stage.posed_congr ?_), hlocked⟩
    intro a ha
    obtain ⟨s, hs, hclosing⟩ := StepTable.exists_closing_eq hstarts.isEmpty_eq
      (Display.actorIds pb.display) (Display.currentStates pb.display)
    have hstate : s.states.get? a.id = _ := state?_compile hready.nodup hready.still hs ha
    rw [closing, hclosing, hstate]
    rfl

/-- The same actors are on the stage as before. -/
theorem PlaysOut.map_id_eq (h : pb.PlaysOut flow pb') (hready : pb.Ready flow.blocks) :
    pb'.display.actors.map (·.id) = pb.display.actors.map (·.id) := by
  rw [(h.actors_eq hready).1, Stage.map_id_posed]

/-- The next flow is compiled from the closing states of the one before. -/
theorem PlaysOut.currentStates_eq (h : pb.PlaysOut flow pb') (hready : pb.Ready flow.blocks) :
    Display.currentStates pb'.display = pb.closing flow := by
  refine SortedMap.ext_get? ?_
  intro id
  have hclosing := (pb.plays_compile flow).get?_closing hready.still id
  by_cases hid : id ∈ Display.actorIds pb.display
  · obtain ⟨a, ha, rfl⟩ := List.mem_map.mp hid
    have hmem : { a with state := ((pb.closing flow).get? a.id).getD default } ∈ pb'.display.actors := by
      rw [(h.actors_eq hready).1]
      exact List.mem_map_of_mem ha
    have hids : (pb'.display.actors.map (·.id)).Nodup := (h.map_id_eq hready).symm ▸ hready.nodup
    have hstate : (Display.currentStates pb'.display).get? a.id =
        some (((pb.closing flow).get? a.id).getD default) := Stage.get?_currentStates_of_mem hids hmem
    rw [if_pos hid] at hclosing
    rw [hstate, closing, hclosing, Option.getD_some]
  · rw [if_neg hid] at hclosing
    rw [closing, hclosing]
    refine Stage.get?_currentStates_of_notMem ?_
    rw [h.map_id_eq hready]
    exact hid

/-- After a flow the player is ready for what the flow was followed by. -/
theorem PlaysOut.ready {blocks : List ActionBlock} (h : pb.PlaysOut flow pb')
    (hready : pb.Ready (flow.blocks ++ blocks)) : pb'.Ready blocks := by
  have hflow := hready.mono (List.subset_append_left flow.blocks blocks)
  have hblocks := hready.mono (List.subset_append_right flow.blocks blocks)
  obtain ⟨hregistry, hconfig⟩ := h.kept hready.isRunning_eq
  constructor
  · exact h.isRunning_eq
  · exact (h.actors_eq hflow).2
  · rw [h.map_id_eq hflow]
    exact hready.nodup
  · rw [hregistry, hconfig]
    exact hblocks.still
  · rw [hregistry]
    exact hblocks.straight

/-- Where the second flow closes is where both close as one. -/
theorem PlaysOut.closing_eq {first second whole : Flow} (h : pb.PlaysOut first pb')
    (hready : pb.Ready (first.blocks ++ second.blocks))
    (hwhole : whole.blocks = first.blocks ++ second.blocks) : pb.closing whole = pb'.closing second := by
  have hfirst := hready.mono (List.subset_append_left first.blocks second.blocks)
  obtain ⟨hregistry, hconfig⟩ := h.kept hready.isRunning_eq
  have hactors : Display.actorIds pb'.display = Display.actorIds pb.display := h.map_id_eq hfirst
  have hsecond := pb'.plays_compile second
  rw [hregistry, hconfig, hactors, h.currentStates_eq hfirst] at hsecond
  rw [closing, closing, hactors, h.currentStates_eq hfirst]
  exact (pb.plays_compile first).closing_append hsecond (hwhole ▸ pb.plays_compile whole) hready.still

/-- **Two flows one after the other lead to where both lead as one.**  No block draws.  The states in which
the table of all blocks leaves the listed actors are those in which the table of the second blocks leaves
them, compiled from where the table of the first has left them.  Where moreover no block is a repeat marker,
an unlocked stage shows the same actors after both flows were played to their ends as after one flow with the
blocks of both, and on a queue without timers all of them come to their ends. -/
theorem two_flows_end_as_one {r : Registry} {around : Surroundings} {f g : List ActionBlock}
    (hstill : r.Still around (f ++ g)) :
    (∀ actors seed source source₁ source₂,
      let first := ((StepTable.compile r around f actors seed).run source₁).1
      let middle := first.closing actors seed
      let second := ((StepTable.compile r around g actors middle).run source₂).1
      let whole := ((StepTable.compile r around (f ++ g) actors seed).run source).1
      whole.closing actors seed = second.closing actors middle) ∧
    ∀ (pb : Playback Stage) (first second whole : Flow), pb.player.registry = r →
      pb.player.config.surroundings = around → pb.player.isRunning = false → pb.display.locked = false →
      (pb.display.actors.map (·.id)).Nodup → first.blocks = f → second.blocks = g → whole.blocks = f ++ g →
      (∀ b ∈ f ++ g, r.isRepeat b.action = false) →
        (pb.timers.pending = [] → ∃ pb₁ pb₂ pb₃, pb.PlaysOut first pb₁ ∧ pb₁.PlaysOut second pb₂ ∧
          pb.PlaysOut whole pb₃) ∧
        ∀ pb₁ pb₂ pb₃, pb.PlaysOut first pb₁ → pb₁.PlaysOut second pb₂ → pb.PlaysOut whole pb₃ →
          pb₂.display.actors = pb₃.display.actors ∧
            pb₂.display.locked = false ∧ pb₃.display.locked = false := by
  refine ⟨?_, ?_⟩
  · intro actors seed source source₁ source₂ first middle second whole
    have hplays : ∀ blocks seed source, StepTable.Plays r around (lanesOf blocks actors) seed
        ((StepTable.compile r around blocks actors seed).run source).1 :=
      fun _ _ source => StepTable.plays_of_yields_compile (Chance.yields_run _ source)
    exact (hplays f seed source₁).closing_append (hplays g middle source₂) (hplays (f ++ g) seed source)
      hstill
  · rintro pb first second whole rfl rfl hidle hunlocked hids rfl rfl hwhole hstraight
    have hready : pb.Ready (first.blocks ++ second.blocks) := ⟨hidle, hunlocked, hids, hstill, hstraight⟩
    have hfirst := hready.mono (List.subset_append_left first.blocks second.blocks)
    have hready' : pb.Ready whole.blocks := hwhole ▸ hready
    refine ⟨?_, ?_⟩
    · intro hqueue
      obtain ⟨pb₁, h₁⟩ := exists_playsOut hidle hqueue hfirst.straight
      have hqueue₁ : pb₁.timers.pending = [] := h₁.pending_eq_nil hidle hqueue
      obtain ⟨pb₂, h₂⟩ := exists_playsOut h₁.isRunning_eq hqueue₁ (h₁.ready hready).straight
      obtain ⟨pb₃, h₃⟩ := exists_playsOut hidle hqueue hready'.straight
      exact ⟨pb₁, pb₂, pb₃, h₁, h₂, h₃⟩
    · intro pb₁ pb₂ pb₃ h₁ h₂ h₃
      obtain ⟨hactors₁, -⟩ := h₁.actors_eq hfirst
      obtain ⟨hactors₂, hlocked₂⟩ := h₂.actors_eq (h₁.ready hready)
      obtain ⟨hactors₃, hlocked₃⟩ := h₃.actors_eq hready'
      refine ⟨?_, hlocked₂, hlocked₃⟩
      rw [hactors₂, hactors₁, Stage.posed_posed, ← h₁.closing_eq hready hwhole]
      exact hactors₃.symm

end Playback

/-! ### A sample -/

/-- Neither the steps of the sample nor its repeat markers draw. -/
theorem Sample.still_registry (around : Surroundings) (blocks : List ActionBlock) :
    registry.Still around blocks := by
  intro b _ action haction actor s
  rw [registry, Registry.registerRepeat, Registry.find?_add, Registry.find?_add] at haction
  split at haction
  · cases haction
    exact ⟨s, rfl⟩
  · split at haction
    · cases haction
      exact ⟨_, rfl⟩
    · cases haction

/-- The second actor has only the first of its two steps in the first flow, and waits there while the first
actor takes its second one. -/
theorem Playback.two_flows_end_as_one_sample :
    let block (id actor : String) : ActionBlock := ⟨⟨id⟩, "step", some ⟨actor⟩⟩
    let f := [block "1" "a", block "2" "a", block "3" "b"]
    let g := [block "4" "b"]
    let pb := Sample.idle none
    let flow (blocks : List ActionBlock) : Flow := { Sample.flow with blocks }
    Sample.registry.Still pb.player.config.surroundings (f ++ g) ∧
      (∀ b ∈ f ++ g, Sample.registry.isRepeat b.action = false) ∧
      ∃ pb₁ pb₂ pb₃, pb.PlaysOut (flow f) pb₁ ∧ pb₁.PlaysOut (flow g) pb₂ ∧ pb.PlaysOut (flow (f ++ g)) pb₃ ∧
        pb₂.display.actors = pb₃.display.actors := by
  intro block f g pb flow
  have hstill : Sample.registry.Still pb.player.config.surroundings (f ++ g) := Sample.still_registry _ _
  have hstraight : ∀ b ∈ f ++ g, Sample.registry.isRepeat b.action = false := by
    have hstep : Sample.registry.isRepeat "step" = false := rfl
    simp [f, g, block, hstep]
  obtain ⟨hexists, hequal⟩ := (two_flows_end_as_one hstill).2 pb (flow f) (flow g) (flow (f ++ g)) rfl rfl
    rfl rfl (by decide) rfl rfl rfl hstraight
  obtain ⟨pb₁, pb₂, pb₃, h₁, h₂, h₃⟩ := hexists rfl
  exact ⟨hstill, hstraight, pb₁, pb₂, pb₃, h₁, h₂, h₃, (hequal pb₁ pb₂ pb₃ h₁ h₂ h₃).1⟩

end Marionette

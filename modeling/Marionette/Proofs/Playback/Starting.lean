import Marionette.Proofs.Playback.Bystanders
import Marionette.Proofs.Playback.Horizon

/-!
# Starting a flow

Starting a flow is refused, does nothing, or begins a play.  It is refused while a play goes on.  It does
nothing when no block of the flow has a target among the actors of the display; whether the kinds of the blocks
are registered makes no difference.  In both cases all is as it was before.  That holds for the random source
too, although a flow is compiled before it is known that there is nothing to play, because such a flow draws
nothing.

A play begins with one sum of times.  On a clock that is too close to its horizon the sum is out of range, and
then starting a flow has no answer at all.

## Main definitions

* `Playback.HasTarget` — a flow has something to play.
* `Playback.firstSnapshot` — what a flow shows first.
* `Playback.Begins` — what the beginning of a play does to player, display and timers.

## Main results

* `Playback.isEmpty_compile_iff` — when there is nothing to play.
* `Playback.compile_of_isEmpty` — where there is nothing to play, nothing is drawn.
* `Playback.starts_or_keeps` — which of these it is, and what is different afterwards.
-/

namespace Marionette

/-! ### Nothing to play -/

namespace StepTable

/-- Lanes without a block draw nothing. -/
theorem ofLanes_of_longest_eq_zero {r : Registry} {around : Surroundings} {lanes : List Lane}
    {seed : StateMap} (h : longest lanes = 0) : ofLanes r around lanes seed = .done {} := by
  rw [ofLanes, h]
  rfl

end StepTable

namespace Playback

variable {σ : Type} [Display σ] {pb pb' : Playback σ} {flow : Flow}

/-- There is nothing to play when no block has a target on the display. -/
theorem isEmpty_compile_iff (pb : Playback σ) (flow : Flow) : (pb.compile flow).1.isEmpty = true ↔
    ∀ b ∈ flow.blocks, ∀ a ∈ Display.actorIds pb.display, b.target ≠ some a := by
  rw [(pb.plays_compile flow).isEmpty_iff, longest_lanesOf_eq_zero_iff]

/-- Some block of the flow has a target on the display. -/
def HasTarget (pb : Playback σ) (flow : Flow) : Prop :=
  ∃ b ∈ flow.blocks, ∃ a ∈ Display.actorIds pb.display, b.target = some a

theorem hasTarget_iff : pb.HasTarget flow ↔ (pb.compile flow).1.isEmpty = false := by
  rw [← Bool.not_eq_true, pb.isEmpty_compile_iff flow, HasTarget]
  simp

/-- Where there is nothing to play, nothing is drawn. -/
theorem compile_of_isEmpty (h : (pb.compile flow).1.isEmpty = true) : (pb.compile flow).2 = pb := by
  have hsource : (pb.compile flow).2.player.source = pb.player.source := by
    change ((StepTable.compile pb.player.registry pb.player.config.surroundings flow.blocks
      (Display.actorIds pb.display) (Display.currentStates pb.display)).run pb.player.source).2 = _
    rw [StepTable.run_compile,
      StepTable.ofLanes_of_longest_eq_zero ((pb.plays_compile flow).isEmpty_iff.mp h)]
    rfl
  change { pb with player := { pb.player with source := (pb.compile flow).2.player.source } } = pb
  rw [hsource]

/-- A flow that does not start leaves everything as it was. -/
theorem call_play_of_not_started (h : ∀ pb', pb.play flow ≠ .ok (.started, pb')) :
    pb.call (.play flow) = pb := by
  rw [call]
  rcases hrunning : pb.player.isRunning with _ | _
  · rcases hne : (pb.compile flow).1.isEmpty with _ | _
    · exact absurd (play_of_idle hrunning hne) (h _)
    · rw [play_of_isEmpty hrunning hne]
      exact compile_of_isEmpty hne
  · rw [play, hrunning]
    rfl

/-- An idle player finds nothing to play when no block has a target, and is left as it was. -/
theorem play_eq_empty_iff : pb.play flow = .ok (.empty, pb') ↔
    (pb.player.isRunning = false ∧ ¬ pb.HasTarget flow) ∧ pb' = pb := by
  rw [hasTarget_iff, Bool.not_eq_false]
  rcases hrunning : pb.player.isRunning with _ | _
  · rcases hne : (pb.compile flow).1.isEmpty with _ | _
    · rw [play_of_idle hrunning hne]
      simp
    · rw [play_of_isEmpty hrunning hne, compile_of_isEmpty hne]
      simp [eq_comm]
  · rw [play, hrunning]
    simp

/-- An idle player starts a flow that has something to play. -/
theorem exists_play_eq_started_iff : (∃ pb', pb.play flow = .ok (.started, pb')) ↔
    pb.player.isRunning = false ∧ pb.HasTarget flow := by
  rw [hasTarget_iff]
  rcases hrunning : pb.player.isRunning with _ | _
  · rcases hne : (pb.compile flow).1.isEmpty with _ | _
    · exact iff_of_true ⟨_, play_of_idle hrunning hne⟩ ⟨rfl, rfl⟩
    · rw [play_of_isEmpty hrunning hne]
      simp
  · rw [play, hrunning]
    simp

/-! ### A beginning -/

/-- What a flow shows first: the actors of the display as they are, and in the default where they have no
state. -/
def firstSnapshot (pb : Playback σ) (flow : Flow) : Snapshot :=
  .start (lanesOf flow.blocks (Display.actorIds pb.display)) (Display.currentStates pb.display)

/-- The play of a flow has begun, and nothing else has happened. -/
structure Begins (pb : Playback σ) (flow : Flow) (pb' : Playback σ) : Prop where
  status_eq : pb'.player.status = .running
  repeats_eq : pb'.player.repeats = 0
  run_eq : pb'.player.run? = some { blocks := flow.blocks, table := (pb.compile flow).1 }
  /-- Two events are noted. -/
  log_eq : pb'.player.log = pb.player.log ++ [.started (pb.compile flow).1.size,
    .stepApplied 0 0 (pb.compile flow).1.last (pb.firstSnapshot flow).states .empty]
  /-- One batch is on the display. -/
  display_eq : pb'.display = Display.applyBatch (Display.started pb.display) (pb.firstSnapshot flow).batch
  /-- One timer is set, and it is the one that goes on. -/
  timers_eq : pb'.timers = (pb.timers.schedule .advance pb.player.stepDelay).2
  pending_perm : pb'.timers.pending.Perm
    (⟨pb.timers.now + pb.player.stepDelay, pb.timers.nextToken, .advance⟩ :: pb.timers.pending)
  pending_eq : pb'.player.pending? = some (pb.timers.nextToken, .advance)

theorem Starts.begins (h : pb.Starts flow pb') (hrests : pb.player.Rests) : pb.Begins flow pb' := by
  obtain ⟨first, hstart, hplays⟩ := h.exists_playsAt
  obtain rfl : first = pb.firstSnapshot flow := (pb.plays_compile flow).first first hplays.snapshot_eq
  have hempty := hplays.fits.repeaters_zero hplays.snapshot_eq
  have hpending : ((pb.compile flow).2.begun flow (pb.compile flow).1 (pb.firstSnapshot flow)).player.pending? =
      none := hrests.pending_eq
  have htimers := congrArg Playback.timers hstart
  rw [timers_arm _ hpending] at htimers
  refine ⟨hplays.status_eq, ?_, hplays.run_eq, ?_, ?_, htimers, ?_, ?_⟩
  · rw [hstart, player_arm]
    rfl
  · rw [hstart, player_arm, ← SortedMap.eq_empty_of_isEmpty hempty]
    exact List.append_assoc _ _ _
  · rw [hstart]
    rfl
  · rw [htimers]
    exact TimerQueue.place_perm _ _
  · rw [hplays.pending_eq, (Snapshot.wakeup_eq_advance_iff _).mpr hempty]

/-- A play begins where its first timer is in range. -/
theorem exists_play?_eq_started_iff (hsound : pb.player.Sound) (hrange : pb.InRange) :
    (∃ pb', pb.play? flow = some (.ok (.started, pb'))) ↔
      (pb.player.isRunning = false ∧ pb.HasTarget flow) ∧
        pb.timers.now + pb.player.stepDelay < TimerQueue.horizon := by
  rw [← exists_play_eq_started_iff]
  constructor
  · rintro ⟨pb', h⟩
    obtain ⟨hplay, hnext⟩ := play?_eq_some_iff.mp h
    have hiff := (starts_of_play hplay).inRange_iff (rests_of_play hsound hplay) hrange
    exact ⟨⟨pb', hplay⟩, hiff.mp (hnext _ _ rfl)⟩
  · rintro ⟨⟨pb', hplay⟩, htime⟩
    refine ⟨pb', ?_⟩
    rw [(starts_of_play hplay).play?_eq (rests_of_play hsound hplay) hrange, if_pos htime]

/-- There is no answer where the first timer would be out of range. -/
theorem play?_eq_none_iff (hsound : pb.player.Sound) (hrange : pb.InRange) :
    pb.play? flow = none ↔
      (pb.player.isRunning = false ∧ pb.HasTarget flow) ∧
        TimerQueue.horizon ≤ pb.timers.now + pb.player.stepDelay := by
  rw [← exists_play_eq_started_iff]
  by_cases hstarted : ∃ pb', pb.play flow = .ok (.started, pb')
  · obtain ⟨pb', hplay⟩ := hstarted
    rw [(starts_of_play hplay).play?_eq (rests_of_play hsound hplay) hrange]
    simp [hplay]
  · rw [play?_of_not_started hrange fun pb' hplay => hstarted ⟨pb', hplay⟩]
    simp [hstarted]

/-- **Starting a flow does all or nothing, as long as the first timer is in range.**  It is refused exactly
while the player plays, and finds nothing to play exactly when no block has a target on the display; then
everything is as it was.  Otherwise a play begins, whether or not anybody knows the kinds of the blocks, or the
first timer would be due beyond the horizon and there is no answer. -/
theorem starts_or_keeps (pb : Playback σ) (flow : Flow) (hreach : pb.player.Reachable) (hrange : pb.InRange) :
    (∀ refusal, pb.play? flow = some (.error refusal) ↔
      pb.player.isRunning = true ∧ refusal = .alreadyPlaying) ∧
    Refusal.alreadyPlaying.error.kind = .invalidState ∧
    (∀ pb', pb.play? flow = some (.ok (.empty, pb')) ↔
      (pb.player.isRunning = false ∧ ¬ pb.HasTarget flow) ∧ pb' = pb) ∧
    ((∃ pb', pb.play? flow = some (.ok (.started, pb'))) ↔
      (pb.player.isRunning = false ∧ pb.HasTarget flow) ∧
        pb.timers.now + pb.player.stepDelay < TimerQueue.horizon) ∧
    (pb.play? flow = none ↔
      (pb.player.isRunning = false ∧ pb.HasTarget flow) ∧
        TimerQueue.horizon ≤ pb.timers.now + pb.player.stepDelay) ∧
    (∀ pb', pb.play? flow = some (.ok (.started, pb')) → pb.Begins flow pb') ∧
    ((∀ pb', pb.play flow ≠ .ok (.started, pb')) →
      pb.play? flow = some (pb.play flow) ∧ pb.call (.play flow) = pb) := by
  have hsound := Player.sound_of_reachable hreach
  refine ⟨fun refusal => ?_, rfl, fun pb' => ?_, exists_play?_eq_started_iff hsound hrange,
    play?_eq_none_iff hsound hrange, fun pb' h => ?_, fun h => ?_⟩
  · rw [play?_eq_some_iff, pb.play_eq_error_iff flow]
    exact ⟨And.left, fun h => ⟨h, nofun⟩⟩
  · rw [play?_eq_some_iff, play_eq_empty_iff]
    refine ⟨And.left, fun h => ⟨h, fun outcome next hnext => ?_⟩⟩
    obtain ⟨-, rfl⟩ := Prod.mk.inj (Except.ok.inj hnext)
    exact h.2 ▸ hrange
  · have hplay := (play?_eq_some_iff.mp h).1
    exact (starts_of_play hplay).begins (rests_of_play hsound hplay)
  · exact ⟨play?_of_not_started hrange h, call_play_of_not_started h⟩

end Playback

namespace Sample

/-- A new player that knows no kind at all. -/
def ignorant : Playback Stage :=
  { player := { registry := .empty, config := {}, source := .scripted [] }, display := stage }

/-- A new player that takes a second for a step, and comes to a clock on which less than that is left. -/
def late : Playback Stage :=
  { timed { stepDelay := 1000 } with timers := TimerQueue.empty.advanceTo 18446744073709551615000 }

end Sample

/-- It starts the sample nonetheless, sets one timer, and shows the two actors as they are. -/
theorem Playback.starts_or_keeps_sample :
    let pb := Sample.ignorant
    pb.player.Reachable ∧ pb.InRange ∧
      ∃ pb', pb.play? Sample.flow = some (.ok (.started, pb')) ∧ pb.Begins Sample.flow pb' ∧
        pb'.timers.pending = [⟨500, ⟨0⟩, .advance⟩] ∧
        (pb.firstSnapshot Sample.flow).states.keys = [⟨"a"⟩, ⟨"b"⟩] := by
  have hreach : Sample.ignorant.player.Reachable := ⟨_, _, _, .refl⟩
  have hrange : Sample.ignorant.InRange := by decide
  obtain ⟨-, -, -, hstarted, -, hbegins, -⟩ := starts_or_keeps Sample.ignorant Sample.flow hreach hrange
  obtain ⟨pb', hplay⟩ :=
    hstarted.mpr ⟨⟨rfl, _, List.mem_cons_self, ⟨"a"⟩, List.mem_cons_self, rfl⟩, by decide⟩
  have h := hbegins pb' hplay
  refine ⟨hreach, hrange, pb', hplay, h, ?_, rfl⟩
  rw [h.timers_eq]
  rfl

/-- On a late clock the sample has something to play, and starting it has no answer. -/
theorem Playback.play?_late : Sample.late.player.Reachable ∧ Sample.late.InRange ∧
    Sample.late.player.isRunning = false ∧ Sample.late.HasTarget Sample.flow ∧
    Sample.late.play? Sample.flow = none := by
  have hreach : Sample.late.player.Reachable := ⟨_, _, _, .refl⟩
  have hrange : Sample.late.InRange := by decide
  have htarget : Sample.late.HasTarget Sample.flow := ⟨_, List.mem_cons_self, ⟨"a"⟩, List.mem_cons_self, rfl⟩
  exact ⟨hreach, hrange, rfl, htarget,
    (play?_eq_none_iff (Player.sound_of_reachable hreach) hrange).mpr ⟨⟨rfl, htarget⟩, by decide⟩⟩

end Marionette

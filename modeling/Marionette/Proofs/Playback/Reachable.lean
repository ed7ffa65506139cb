import Marionette.Proofs.Playback.Wakeup
import Marionette.Stage

/-!
# Reachable players

What holds of a player after any calls at all, each with a display, a flow, a queue and a token of its own.
Status, run and timer agree, the run is at a snapshot of its table, and the timer does what this snapshot
asks for.  Therefore the branches that playback has only in case are never taken: a wakeup always finds a
run, a snapshot, the states it starts from and something to play.

## Main definitions

* `Call`, `Playback.call` — the calls on a player.
* `Player.Leads`, `Player.Reachable` — the players that calls lead to, from a given one or from a new one.
* `Playback.Starts` — what a flow with something to play leads to.
* `Player.Sound` — the invariant: a player rests, or it waits at a snapshot.
* `Player.WellFormed`, `Playback.Defensive` — what the invariant means for a reader of the fields, and the
  branches that it excludes.

## Main results

* `Playback.sound_call` — every call keeps the invariant.
* `Playback.stands_call` — the same for anything that starting, waking and stopping keep.
* `Player.wellFormed_of_reachable` — the fields agree, and no defensive branch is taken.
-/

namespace Marionette

/-! ### Calls -/

/-- A call on a player. -/
inductive Call
  | play (flow : Flow)
  | stop
  | onTimer (token : TimerToken)
  | compile (flow : Flow)
  | takeEvents

/-- Make a call.  What it answers is left out; one that is refused changes nothing. -/
def Playback.call {σ : Type} [Display σ] (pb : Playback σ) : Call → Playback σ
  | .play flow =>
    match pb.play flow with
    | .ok (_, pb') => pb'
    | .error _ => pb
  | .stop => pb.stop.2
  | .onTimer token => (pb.onTimer token).2
  | .compile flow => (pb.compile flow).2
  | .takeEvents => pb.takeEvents.2

/-- The players that allowed calls on `p` lead to.  Each call may come with another display, and with a
queue that others have used meanwhile. -/
inductive Player.Leads (allowed : Call → Prop) (p : Player) : Player → Prop
  | refl : Leads allowed p p
  | call {σ : Type} [Display σ] (pb : Playback σ) (c : Call) (hc : allowed c)
      (h : Leads allowed p pb.player) : Leads allowed p (pb.call c).player

/-- The players that calls on a new one lead to. -/
def Player.Reachable (p : Player) : Prop :=
  ∃ registry config source, Player.Leads (fun _ => True) { registry, config, source } p

/-! ### The invariant -/

/-- The player rests, or waits at a snapshot. -/
def Player.Sound (p : Player) : Prop := p.Stands True fun _ _ => True

theorem Player.Stands.sound {p : Player} {A : Prop} {B : Run → Snapshot → Prop}
    (h : p.Stands A B) : p.Sound := by
  rcases h with ⟨h, -⟩ | ⟨run, actors, s, token, h, -⟩
  · exact .rests h trivial
  · exact .plays run actors s token h trivial

/-- Whoever has a timer waits for it at a snapshot. -/
theorem Player.Sound.playsAt {p : Player} (h : p.Sound) {token : TimerToken}
    (htoken : p.pendingToken? = some token) : ∃ run actors s, p.PlaysAt run actors s token := by
  rw [pendingToken?] at htoken
  rcases h with ⟨h, -⟩ | ⟨run, actors, s, own, h, -⟩
  · rw [h.pending_eq] at htoken
    cases htoken
  · rw [h.pending_eq] at htoken
    obtain rfl : own = token := Option.some.inj htoken
    exact ⟨run, actors, s, h⟩

/-- Whoever is idle rests. -/
theorem Player.Sound.rests_of_idle {p : Player} (h : p.Sound) (hidle : p.isRunning = false) : p.Rests := by
  rcases h with ⟨h, -⟩ | ⟨run, actors, s, token, h, -⟩
  · exact h
  · exact absurd (hidle.symm.trans h.isRunning_eq) Bool.false_ne_true

/-- Standing looks at four of the fields. -/
theorem Player.Stands.congr {p p' : Player} {A : Prop} {B : Run → Snapshot → Prop}
    (h : p.Stands A B) (hregistry : p'.registry = p.registry) (hstatus : p'.status = p.status)
    (hrun : p'.run? = p.run?) (hpending : p'.pending? = p.pending?) : p'.Stands A B := by
  rcases h with ⟨h, ha⟩ | ⟨run, actors, s, token, h, hb⟩
  · exact .rests ⟨hstatus.trans h.status_eq, hrun.trans h.run_eq, hpending.trans h.pending_eq⟩ ha
  · exact .plays run actors s token ⟨hstatus.trans h.status_eq, hrun.trans h.run_eq,
      hpending.trans h.pending_eq, hregistry ▸ h.fits, h.snapshot_eq, h.step_lt⟩ hb

namespace Playback

variable {σ : Type} [Display σ] {pb pb' : Playback σ} {run : Run} {actors : List ActorId} {s : Snapshot}

theorem Woken.sound (h : Woken pb run actors s pb') : pb'.player.Sound := by
  cases h with
  | moved s' hs hs' heq hplays => exact .plays _ _ _ _ hplays trivial
  | asked s' hs hs' hcap heq hplays => exact .plays _ _ _ _ hplays trivial
  | ended s' hs hsnap hend heq hrests => exact .rests hrests trivial
  | repeated out first hs hout heq hplays => exact .plays _ _ _ _ hplays trivial

/-- What the player's own timer keeps, every timer keeps: `A` of a player that rests and its display, `B` of
one that waits. -/
theorem stands_onTimer {A : Player → σ → Prop} {B : Player → σ → Run → Snapshot → Prop}
    (hstep : ∀ (pb pb' : Playback σ) run actors s token, pb.player.PlaysAt run actors s token →
      B pb.player pb.display run s → Woken pb run actors s pb' →
      pb'.player.Stands (A pb'.player pb'.display) (B pb'.player pb'.display))
    (pb : Playback σ) (token : TimerToken)
    (h : pb.player.Stands (A pb.player pb.display) (B pb.player pb.display)) :
    (pb.onTimer token).2.player.Stands
      (A (pb.onTimer token).2.player (pb.onTimer token).2.display)
      (B (pb.onTimer token).2.player (pb.onTimer token).2.display) := by
  rcases h with ⟨hrests, hA⟩ | ⟨run, actors, s, own, hplays, hB⟩
  · rw [onTimer_of_rests hrests]
    exact .rests hrests hA
  · by_cases hown : own = token
    · subst hown
      exact hstep _ _ _ _ _ _ hplays hB (woken_of_playsAt hplays)
    · rw [onTimer_of_foreign hplays hown]
      exact .plays run actors s own hplays hB

theorem sound_onTimer (h : pb.player.Sound) (token : TimerToken) :
    (pb.onTimer token).2.player.Sound :=
  stands_onTimer (A := fun _ _ => True) (B := fun _ _ _ _ => True)
    (fun _ _ _ _ _ _ _ _ hwoken => hwoken.sound) pb token h

theorem plays_compile (pb : Playback σ) (flow : Flow) :
    (pb.compile flow).1.Plays pb.player.registry pb.player.config.surroundings
      (lanesOf flow.blocks (Display.actorIds pb.display)) (Display.currentStates pb.display) :=
  StepTable.plays_of_yields_compile (Chance.yields_run _ _)

theorem fits_compile (pb : Playback σ) (flow : Flow) :
    (pb.compile flow).1.Fits (pb.compile flow).2.player.registry flow.blocks
      (Display.actorIds pb.display) :=
  (pb.plays_compile flow).fits

/-- An idle player takes a flow without anything to play and does nothing. -/
theorem play_of_isEmpty {flow : Flow} (h : pb.player.isRunning = false)
    (hempty : (pb.compile flow).1.isEmpty = true) :
    pb.play flow = .ok (.empty, (pb.compile flow).2) := by
  rw [play, h]
  simp [hempty]

/-- An idle player starts a flow that has something to play. -/
theorem play_of_idle {flow : Flow} (h : pb.player.isRunning = false)
    (hne : (pb.compile flow).1.isEmpty = false) :
    pb.play flow = .ok (.started, (pb.compile flow).2.start flow (pb.compile flow).1) := by
  rw [play, h]
  simp [hne]

/-- `pb'` is playback right after a flow has been started that had something to play. -/
structure Starts (pb : Playback σ) (flow : Flow) (pb' : Playback σ) : Prop where
  isEmpty_eq : (pb.compile flow).1.isEmpty = false
  eq_start : pb' = (pb.compile flow).2.start flow (pb.compile flow).1

theorem exists_starts {flow : Flow} (h : pb.player.isRunning = false)
    (hne : (pb.compile flow).1.isEmpty = false) :
    ∃ pb', pb.play flow = .ok (.started, pb') ∧ pb.Starts flow pb' :=
  ⟨_, play_of_idle h hne, hne, rfl⟩

theorem starts_of_play {flow : Flow} (h : pb.play flow = .ok (.started, pb')) : pb.Starts flow pb' := by
  rcases hrunning : pb.player.isRunning with _ | _
  · rcases hne : (pb.compile flow).1.isEmpty with _ | _
    · rw [play_of_idle hrunning hne] at h
      exact ⟨hne, (Prod.mk.inj (Except.ok.inj h)).2.symm⟩
    · rw [play_of_isEmpty hrunning hne] at h
      cases h
  · rw [play, if_pos hrunning] at h
    cases h

/-- A flow that was started waits at its first snapshot. -/
theorem Starts.exists_playsAt {flow : Flow} (h : pb.Starts flow pb') :
    ∃ first,
      pb' = ((pb.compile flow).2.begun flow (pb.compile flow).1 first).arm .advance pb.player.stepDelay ∧
        pb'.player.PlaysAt { blocks := flow.blocks, table := (pb.compile flow).1 }
          (Display.actorIds pb.display) first pb.timers.nextToken := by
  rw [h.eq_start]
  exact playsAt_start (pb.fits_compile flow) h.isEmpty_eq

/-- No repeat run has started yet. -/
theorem Starts.repeats_eq {flow : Flow} (h : pb.Starts flow pb') : pb'.player.repeats = 0 := by
  obtain ⟨first, rfl, -⟩ := h.exists_playsAt
  rw [player_arm]
  rfl

theorem Starts.sound {flow : Flow} (h : pb.Starts flow pb') : pb'.player.Sound := by
  obtain ⟨first, -, hplays⟩ := h.exists_playsAt
  exact .plays _ _ _ _ hplays trivial

theorem sound_play (h : pb.player.Sound) (flow : Flow) : (pb.call (.play flow)).player.Sound := by
  rw [call]
  rcases hrunning : pb.player.isRunning with _ | _
  · rcases hne : (pb.compile flow).1.isEmpty with _ | _
    · rw [play_of_idle hrunning hne]
      obtain ⟨first, -, hplays⟩ := playsAt_start (pb.fits_compile flow) hne
      exact .plays _ _ _ _ hplays trivial
    · rw [play_of_isEmpty hrunning hne]
      exact h.congr rfl rfl rfl rfl
  · rw [play, hrunning]
    exact h

/-- **Every call keeps the invariant.** -/
theorem sound_call (h : pb.player.Sound) (c : Call) : (pb.call c).player.Sound := by
  cases c with
  | play flow => exact sound_play h flow
  | stop =>
    rw [call, stop]
    split
    · exact .rests ⟨rfl, rfl, rfl⟩ trivial
    · exact h
  | onTimer token => exact sound_onTimer h token
  | compile flow => exact h.congr rfl rfl rfl rfl
  | takeEvents => exact h.congr rfl rfl rfl rfl

/-- What starting, waking and stopping keep, every call keeps: `A` of what a player that rests has before it,
`B` of what one that waits has. -/
theorem stands_call {A : σ → Prop} {B : σ → Run → Snapshot → Prop}
    (hstart : ∀ (pb pb' : Playback σ) flow, A pb.display → pb.Starts flow pb' →
      pb'.player.Stands (A pb'.display) (B pb'.display))
    (hstep : ∀ (pb pb' : Playback σ) run actors s token, pb.player.PlaysAt run actors s token →
      B pb.display run s → Woken pb run actors s pb' → pb'.player.Stands (A pb'.display) (B pb'.display))
    (hstop : ∀ display run s, B display run s → A (Display.finished display))
    (pb : Playback σ) (c : Call) (h : pb.player.Stands (A pb.display) (B pb.display)) :
    (pb.call c).player.Stands (A (pb.call c).display) (B (pb.call c).display) := by
  cases c with
  | play flow =>
    rw [call]
    rcases hrunning : pb.player.isRunning with _ | _
    · rcases hne : (pb.compile flow).1.isEmpty with _ | _
      · obtain ⟨pb', hplay, hstarts⟩ := exists_starts hrunning hne
        rw [hplay]
        rcases h with ⟨-, hA⟩ | ⟨run, actors, s, token, hplays, -⟩
        · exact hstart pb pb' flow hA hstarts
        · exact absurd (hrunning.symm.trans hplays.isRunning_eq) Bool.false_ne_true
      · rw [play_of_isEmpty hrunning hne]
        exact h.congr rfl rfl rfl rfl
    · rw [play, hrunning]
      exact h
  | stop =>
    rw [call]
    rcases h with ⟨hrests, hA⟩ | ⟨run, actors, s, token, hplays, hB⟩
    · rw [stop_of_idle pb hrests.isRunning_eq]
      exact .rests hrests hA
    · rw [stop, hplays.isRunning_eq]
      exact .rests ⟨rfl, rfl, rfl⟩ (hstop pb.display run s hB)
  | onTimer token =>
    exact stands_onTimer (A := fun _ display => A display) (B := fun _ display => B display) hstep pb token h
  | compile flow => exact h.congr rfl rfl rfl rfl
  | takeEvents => exact h.congr rfl rfl rfl rfl

end Playback

theorem Player.sound_of_reachable {p : Player} (h : p.Reachable) : p.Sound := by
  obtain ⟨registry, config, source, h⟩ := h
  induction h with
  | refl => exact .rests ⟨rfl, rfl, rfl⟩ trivial
  | call pb c _ _ ih => exact Playback.sound_call ih c

/-! ### What the invariant says of the fields -/

/-- A run is at a snapshot of its table, and `wakeup` is what this snapshot asks for. -/
structure Run.WellFormed (run : Run) (wakeup : Wakeup) : Prop where
  two_le_size : 2 ≤ run.table.size
  step_lt_size : run.step < run.table.size
  /-- Whoever is to start over has a block. -/
  exists_block : ∀ s, run.snapshot? = some s → ∀ a ∈ s.repeaters.keys,
    ∃ b ∈ run.blocks, b.target = some a
  /-- Whoever is to start over has a state. -/
  mem_states : ∀ s, run.snapshot? = some s → ∀ a ∈ s.repeaters.keys, a ∈ s.states.keys
  restart_iff : ∀ s, run.snapshot? = some s → (wakeup = .restart ↔ s.repeaters.isEmpty = false)
  step_lt_last : wakeup = .advance → run.step < run.last

/-- Status, run and timer agree, and the run is well-formed. -/
structure Player.WellFormed (p : Player) : Prop where
  isRunning_iff_run : p.isRunning = true ↔ p.run?.isSome
  isRunning_iff_pending : p.isRunning = true ↔ p.pending?.isSome
  run : ∀ run token wakeup, p.run? = some run → p.pending? = some (token, wakeup) →
    run.WellFormed wakeup

/-- The pending timer would take one of the branches that playback has only in case. -/
inductive Playback.Defensive {σ : Type} [Display σ] (pb : Playback σ) : Prop
  | advanceWithoutRun (token : TimerToken) (hpending : pb.player.pending? = some (token, .advance))
      (hrun : pb.player.run? = none)
  | advancePastEnd (token : TimerToken) (run : Run)
      (hpending : pb.player.pending? = some (token, .advance)) (hrun : pb.player.run? = some run)
      (hend : run.next.snapshot? = none)
  | restartWithoutRun (token : TimerToken) (hpending : pb.player.pending? = some (token, .restart))
      (hrun : pb.player.run? = none)
  | restartWithoutTrigger (token : TimerToken) (run : Run)
      (hpending : pb.player.pending? = some (token, .restart)) (hrun : pb.player.run? = some run)
      (htrigger : run.snapshot? = none)
  /-- An actor would start over from what the display has, or from the default. -/
  | foreignSeed (token : TimerToken) (run : Run) (s : Snapshot) (a : ActorId)
      (hpending : pb.player.pending? = some (token, .restart)) (hrun : pb.player.run? = some run)
      (htrigger : run.snapshot? = some s) (ha : a ∈ s.repeaters.keys) (hseed : s.state? a = none)
  | emptyTable (token : TimerToken) (run : Run) (s : Snapshot)
      (hpending : pb.player.pending? = some (token, .restart)) (hrun : pb.player.run? = some run)
      (htrigger : run.snapshot? = some s)
      (hempty : (pb.player.draw (pb.repeatTable run s)).1.isEmpty = true)

namespace Player.PlaysAt

variable {p : Player} {run : Run} {actors : List ActorId} {s : Snapshot} {token : TimerToken}

theorem run_wellFormed (h : p.PlaysAt run actors s token) : run.WellFormed s.wakeup := by
  have heq : ∀ s', run.snapshot? = some s' → s' = s := fun s' hs' =>
    Option.some.inj (hs'.symm.trans h.snapshot_eq)
  have hlt : run.step < run.table.size := StepTable.lt_size_of_snapshot? h.snapshot_eq
  refine ⟨?_, hlt, ?_, ?_, ?_, ?_⟩
  · refine h.fits.two_le_size (StepTable.isEmpty_eq_false_iff.mpr ?_)
    omega
  · intro s' hs' a ha
    rw [heq s' hs'] at ha
    obtain ⟨b, hb⟩ := List.exists_mem_of_ne_nil _ (h.fits.laneOf_ne_nil h.snapshot_eq ha)
    rw [laneOf, List.mem_filter, decide_eq_true_eq] at hb
    exact ⟨b, hb⟩
  · intro s' hs' a ha
    rw [heq s' hs'] at ha ⊢
    exact (SortedMap.mem_keys_iff _ _).mpr (h.isSome_state? ha)
  · intro s' hs'
    rw [heq s' hs']
    exact s.wakeup_eq_restart_iff
  · intro hw
    exact h.step_lt (s.wakeup_eq_advance_iff.mp hw)

theorem not_defensive {σ : Type} [Display σ] {pb : Playback σ}
    (h : pb.player.PlaysAt run actors s token) : ¬ pb.Defensive := by
  -- the run, its snapshot and the wakeup of the pending timer are those the player waits at
  have hrun' : ∀ run', pb.player.run? = some run' → run' = run := fun run' hrun' =>
    Option.some.inj (hrun'.symm.trans h.run_eq)
  have hwakeup : ∀ token' w, pb.player.pending? = some (token', w) → s.wakeup = w := by
    intro token' w hpending
    rw [h.pending_eq] at hpending
    cases hpending
    rfl
  have htrigger' : ∀ s', run.snapshot? = some s' → s' = s := fun s' hs' =>
    Option.some.inj (hs'.symm.trans h.snapshot_eq)
  rintro (⟨token', -, hrun⟩ | ⟨token', run', hpending, hrun, hend⟩ | ⟨token', -, hrun⟩ |
    ⟨token', run', -, hrun, htrigger⟩ | ⟨token', run', s', a, -, hrun, htrigger, ha, hseed⟩ |
    ⟨token', run', s', hpending, hrun, htrigger, hempty⟩)
  · rw [h.run_eq] at hrun
    cases hrun
  · obtain ⟨s', hs'⟩ := h.exists_next (s.wakeup_eq_advance_iff.mp (hwakeup _ _ hpending))
    rw [hrun' _ hrun, hs'] at hend
    cases hend
  · rw [h.run_eq] at hrun
    cases hrun
  · rw [hrun' _ hrun, h.snapshot_eq] at htrigger
    cases htrigger
  · rw [hrun' _ hrun] at htrigger
    rw [htrigger' _ htrigger] at ha hseed
    have := h.isSome_state? ha
    rw [hseed] at this
    cases this
  · rw [hrun' _ hrun] at htrigger hempty
    rw [htrigger' _ htrigger, Playback.repeatTable_eq h] at hempty
    have hs := s.wakeup_eq_restart_iff.mp (hwakeup _ _ hpending)
    exact absurd ((h.isEmpty_nextTable hs (Chance.yields_run _ _)).symm.trans hempty) Bool.false_ne_true

end Player.PlaysAt

theorem Player.Sound.wellFormed {p : Player} (h : p.Sound) : p.WellFormed := by
  rcases h with ⟨h, -⟩ | ⟨run, actors, s, token, h, -⟩
  · refine ⟨?_, ?_, ?_⟩
    · rw [h.isRunning_eq, h.run_eq]
      simp
    · rw [h.isRunning_eq, h.pending_eq]
      simp
    · intro run token wakeup hrun
      rw [h.run_eq] at hrun
      cases hrun
  · refine ⟨?_, ?_, ?_⟩
    · rw [h.isRunning_eq, h.run_eq]
      simp
    · rw [h.isRunning_eq, h.pending_eq]
      simp
    · intro run' token' wakeup hrun hpending
      rw [h.run_eq] at hrun
      rw [h.pending_eq] at hpending
      cases hrun
      cases hpending
      exact h.run_wellFormed

theorem Player.Sound.not_defensive {σ : Type} [Display σ] {pb : Playback σ} (h : pb.player.Sound) :
    ¬ pb.Defensive := by
  rcases h with ⟨h, -⟩ | ⟨run, actors, s, token, h, -⟩
  · rintro (⟨_, hpending, _⟩ | ⟨_, _, hpending, _, _⟩ | ⟨_, hpending, _⟩ | ⟨_, _, hpending, _, _⟩ |
      ⟨_, _, _, _, hpending, _, _, _, _⟩ | ⟨_, _, _, hpending, _, _, _⟩)
    all_goals
      rw [h.pending_eq] at hpending
      cases hpending
  · exact h.not_defensive

/-- **A reachable player is well-formed, and its timer never takes a defensive branch**, whatever the
display and the queue are when it fires. -/
theorem Player.wellFormed_of_reachable {p : Player} (h : p.Reachable) :
    p.WellFormed ∧ ∀ {σ : Type} [Display σ] (pb : Playback σ), pb.player = p → ¬ pb.Defensive := by
  refine ⟨(Player.sound_of_reachable h).wellFormed, ?_⟩
  intro σ _ pb hpb
  subst hpb
  exact (Player.sound_of_reachable h).not_defensive

/-! ### A sample

Two actors.  The first takes a step and starts over; the second takes three steps. -/

namespace Sample

/-- A registry of one step to the right and a repeat marker. -/
def registry : Registry :=
  (Registry.empty.add "step" (.steady fun _ _ s => { s with x := s.x + 1.0 })).registerRepeat "again"

def flow : Flow :=
  let block (id action actor : String) : ActionBlock :=
    { id := ⟨id⟩, action, target := some ⟨actor⟩ }
  { id := ⟨"flow"⟩
    name := "Flow"
    blocks := [block "1" "step" "a", block "2" "again" "a", block "3" "step" "b", block "4" "step" "b",
      block "5" "step" "b"] }

def stage : Stage := { actors := [{ id := ⟨"a"⟩, name := "A" }, { id := ⟨"b"⟩, name := "B" }] }

/-- A new player in front of the two, which repeats at most so many times. -/
def idle (maxRepeats : Option UInt32) : Playback Stage :=
  { player := { registry, config := { playback := { maxRepeats } }, source := .scripted [] }
    display := stage }

end Sample

/-- After two steps of the sample the player waits to start the first actor over. -/
theorem Player.wellFormed_of_reachable_sample :
    let pb := (((Sample.idle none).call (.play Sample.flow)).call (.onTimer ⟨0⟩)).call (.onTimer ⟨1⟩)
    pb.player.Reachable ∧ pb.player.pending? = some (⟨2⟩, .restart) ∧ pb.player.WellFormed ∧
      ¬ pb.Defensive := by
  have h : (((Sample.idle none).call (.play Sample.flow)).call (.onTimer ⟨0⟩)).call
      (.onTimer ⟨1⟩) |>.player.Reachable :=
    ⟨_, _, _, .call _ _ trivial (.call _ _ trivial (.call _ _ trivial .refl))⟩
  exact ⟨h, rfl, (Player.wellFormed_of_reachable h).1, (Player.wellFormed_of_reachable h).2 _ rfl⟩

end Marionette

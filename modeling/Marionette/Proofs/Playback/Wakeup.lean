import Marionette.Playback.Basic
import Marionette.Proofs.StepTable.Lanes
import Mathlib.Data.List.Basic

/-!
# What a wakeup does

Between two calls a player either rests or waits, at a snapshot of a run, for a timer that will go on with
it.  In the second case the timer leads to one of four states, and each of them is again one of rest or of
waiting.  `Playback.woken_of_playsAt` says so once; every invariant of playback is then shown by going
through the four.

## Main definitions

* `Player.Rests`, `Player.PlaysAt` — no run and no timer, or a run that waits for its timer.
* `Playback.begun`, `shown`, `restarted` — playback after the first snapshot of a flow, after another one,
  and after a repeat run has started.
* `Playback.Woken` — what the pending timer leads to.

## Main results

* `Playback.woken_of_playsAt` — the pending timer leads to one of the four.
* `Playback.playsAt_start` — a flow with something to play leads to a player that waits.
-/

namespace Marionette

/-! ### Waiting at a snapshot -/

/-- What the timer does that is set after a snapshot. -/
def Snapshot.wakeup (s : Snapshot) : Wakeup := if s.repeaters.isEmpty then .advance else .restart

theorem Snapshot.wakeup_eq_restart_iff (s : Snapshot) :
    s.wakeup = .restart ↔ s.repeaters.isEmpty = false := by
  rw [wakeup]
  split <;> simp_all

theorem Snapshot.wakeup_eq_advance_iff (s : Snapshot) :
    s.wakeup = .advance ↔ s.repeaters.isEmpty = true := by
  rw [wakeup]
  split <;> simp_all

/-- The states that a snapshot has for the actors in a set. -/
def Snapshot.statesOf (s : Snapshot) (actors : ActorSet) : StateMap :=
  .ofList (actors.keys.filterMap fun a => (s.state? a).map (a, ·))

/-- Nothing is played and no timer is set. -/
structure Player.Rests (p : Player) : Prop where
  status_eq : p.status = .idle
  run_eq : p.run? = none
  pending_eq : p.pending? = none

/-- The player waits at snapshot `s` of `run`, whose table was compiled for `actors`, and the timer `token`
will go on with it. -/
structure Player.PlaysAt (p : Player) (run : Run) (actors : List ActorId) (s : Snapshot)
    (token : TimerToken) : Prop where
  status_eq : p.status = .running
  run_eq : p.run? = some run
  pending_eq : p.pending? = some (token, s.wakeup)
  fits : run.table.Fits p.registry run.blocks actors
  snapshot_eq : run.snapshot? = some s
  /-- Behind a snapshot that repeats nobody there is another one. -/
  step_lt : s.repeaters.isEmpty = true → run.step < run.last

/-- The player rests and `A` holds, or it waits at a snapshot of a run and `B` holds of these. -/
inductive Player.Stands (p : Player) (A : Prop) (B : Run → Snapshot → Prop) : Prop
  | rests (h : p.Rests) (ha : A)
  | plays (run : Run) (actors : List ActorId) (s : Snapshot) (token : TimerToken)
      (h : p.PlaysAt run actors s token) (hb : B run s)

theorem Player.Rests.isRunning_eq {p : Player} (h : p.Rests) : p.isRunning = false :=
  p.isRunning_eq_false_iff.mpr h.status_eq

/-- What a player waits at is in its fields. -/
theorem Player.Stands.and {p : Player} {A A' : Prop} {B B' : Run → Snapshot → Prop}
    (h : p.Stands A B) (h' : p.Stands A' B') :
    p.Stands (A ∧ A') fun run s => B run s ∧ B' run s := by
  rcases h with ⟨h, ha⟩ | ⟨run, actors, s, token, h, hb⟩
  · rcases h' with ⟨-, ha'⟩ | ⟨run', actors', s', token', h', -⟩
    · exact .rests h ⟨ha, ha'⟩
    · exact absurd (h.run_eq.symm.trans h'.run_eq) (Option.some_ne_none run').symm
  · rcases h' with ⟨h', -⟩ | ⟨run', actors', s', token', h', hb'⟩
    · exact absurd (h'.run_eq.symm.trans h.run_eq) (Option.some_ne_none run).symm
    · obtain rfl : run = run' := Option.some.inj (h.run_eq.symm.trans h'.run_eq)
      obtain rfl : s = s' := Option.some.inj (h.snapshot_eq.symm.trans h'.snapshot_eq)
      exact .plays run actors s token h ⟨hb, hb'⟩

theorem Player.Stands.imp {p : Player} {A A' : Prop} {B B' : Run → Snapshot → Prop} (h : p.Stands A B)
    (hA : A → A') (hB : ∀ run s, B run s → B' run s) : p.Stands A' B' := by
  rcases h with ⟨h, ha⟩ | ⟨run, actors, s, token, h, hb⟩
  · exact .rests h (hA ha)
  · exact .plays run actors s token h (hB run s hb)

theorem Player.PlaysAt.isRunning_eq {p : Player} {run : Run} {actors : List ActorId} {s : Snapshot}
    {token : TimerToken} (h : p.PlaysAt run actors s token) : p.isRunning = true :=
  p.isRunning_iff.mpr h.status_eq

/-- A run that has just begun waits at its first snapshot, which repeats nobody and is not the last. -/
theorem Player.exists_playsAt_first {p : Player} {blocks : List ActionBlock} {table : StepTable}
    {actors : List ActorId} {token : TimerToken} (hstatus : p.status = .running)
    (hrun : p.run? = some { blocks, table }) (hpending : p.pending? = some (token, .advance))
    (hfits : table.Fits p.registry blocks actors) (hne : table.isEmpty = false) :
    ∃ first, p.PlaysAt { blocks, table } actors first token := by
  have hsize := hfits.two_le_size hne
  obtain ⟨first, hfirst⟩ := StepTable.lt_size_iff.mp (Nat.lt_of_lt_of_le Nat.two_pos hsize)
  have hempty := hfits.repeaters_zero hfirst
  refine ⟨first, hstatus, hrun, ?_, hfits, hfirst, ?_⟩
  · rw [hpending, Snapshot.wakeup, hempty]
    rfl
  · intro _
    change 0 < table.last
    rw [StepTable.last_eq]
    exact Nat.sub_pos_of_lt hsize

/-- A run that was taken one step on waits at the next snapshot. -/
theorem Player.PlaysAt.next {p p' : Player} {run : Run} {actors : List ActorId} {s s' : Snapshot}
    {token token' : TimerToken} (h : p.PlaysAt run actors s token) (hstatus : p'.status = p.status)
    (hregistry : p'.registry = p.registry) (hrun : p'.run? = some run.next)
    (hpending : p'.pending? = some (token', s'.wakeup)) (hs' : run.next.snapshot? = some s')
    (hlast : s'.repeaters.isEmpty = true → run.next.step < run.last) :
    p'.PlaysAt run.next actors s' token' :=
  { status_eq := hstatus.trans h.status_eq
    run_eq := hrun
    pending_eq := hpending
    fits := hregistry ▸ h.fits
    snapshot_eq := hs'
    step_lt := hlast }

/-! ### Repeat runs -/

/-- The blocks that are kept for a repeat run have the lanes of its actors. -/
theorem laneOf_blocksOf {set : ActorSet} {blocks : List ActionBlock} {a : ActorId} (ha : a ∈ set.keys) :
    laneOf (Playback.blocksOf set blocks) a = laneOf blocks a := by
  rw [laneOf, laneOf, Playback.blocksOf, List.filter_filter]
  refine List.filter_congr ?_
  intro b _
  by_cases hb : b.target = some a
  · simp [hb, (set.mem_keys_iff_contains a).mp ha]
  · simp [hb]

/-- A repeat run starts from the states of the snapshot that asked for it, if that has all of them.  The
display has no say. -/
theorem Playback.repeatSeed_eq {σ : Type} [Display σ] (display : σ) {s : Snapshot}
    (h : ∀ a ∈ s.repeaters.keys, (s.state? a).isSome) :
    repeatSeed display s = s.statesOf s.repeaters := by
  rw [repeatSeed, Snapshot.statesOf, ← List.filterMap_eq_map]
  refine congrArg _ (List.filterMap_congr ?_)
  intro a ha
  obtain ⟨state, hstate⟩ := Option.isSome_iff_exists.mp (h a ha)
  simp [hstate]

/-- The table of the repeat run that snapshot `s` of `run` asks for. -/
def Player.nextTable (p : Player) (run : Run) (s : Snapshot) : Chance StepTable :=
  StepTable.recompile p.registry p.config.surroundings (Playback.blocksOf s.repeaters run.blocks)
    (s.statesOf s.repeaters) s.repeaters

namespace Player.PlaysAt

variable {p : Player} {run : Run} {actors : List ActorId} {s : Snapshot} {token : TimerToken}

theorem isSome_state?_iff (h : p.PlaysAt run actors s token) (a : ActorId) :
    (s.state? a).isSome ↔ a ∈ actors :=
  h.fits.isSome_state?_iff _ s h.snapshot_eq a

theorem isSome_state? (h : p.PlaysAt run actors s token) {a : ActorId} (ha : a ∈ s.repeaters.keys) :
    (s.state? a).isSome :=
  (h.isSome_state?_iff a).mpr (h.fits.mem_of_mem_repeaters h.snapshot_eq ha)

/-- The next snapshot has the same actors. -/
theorem isSome_state?_next_iff (h : p.PlaysAt run actors s token) {s' : Snapshot}
    (hs' : run.next.snapshot? = some s') (a : ActorId) : (s'.state? a).isSome ↔ (s.state? a).isSome := by
  rw [h.isSome_state?_iff a]
  exact h.fits.isSome_state?_iff _ s' hs' a

theorem fits_of_yields_nextTable {t : StepTable} (ht : (p.nextTable run s).Yields t) :
    t.Fits p.registry (Playback.blocksOf s.repeaters run.blocks) s.repeaters.keys :=
  (StepTable.plays_of_yields_recompile ht).fits

/-- A repeat run has something to play. -/
theorem isEmpty_nextTable (h : p.PlaysAt run actors s token) (hs : s.repeaters.isEmpty = false)
    {t : StepTable} (ht : (p.nextTable run s).Yields t) : t.isEmpty = false := by
  obtain ⟨a, ha⟩ := (SortedMap.isEmpty_eq_false_iff _).mp hs
  have hlane : 0 < (laneOf (Playback.blocksOf s.repeaters run.blocks) a).length := by
    rw [laneOf_blocksOf ha]
    exact List.length_pos_iff.mpr (h.fits.laneOf_ne_nil h.snapshot_eq ha)
  rw [StepTable.isEmpty_eq_false_iff, (fits_of_yields_nextTable ht).size_eq_of_pos ha hlane]
  exact Nat.succ_pos _

/-- Behind a snapshot that repeats nobody there is another one. -/
theorem exists_next (h : p.PlaysAt run actors s token) (hs : s.repeaters.isEmpty = true) :
    ∃ s', run.next.snapshot? = some s' := by
  have hlt : run.step < run.table.size - 1 := by
    rw [← StepTable.last_eq]
    exact h.step_lt hs
  exact StepTable.lt_size_iff.mp (Nat.add_lt_of_lt_sub hlt)

end Player.PlaysAt

/-! ### The four outcomes -/

namespace Playback

variable {σ : Type} [Display σ]

/-- Playback with the next snapshot `s` of `run` on the display, before it is settled what follows. -/
def shown (pb : Playback σ) (run : Run) (s : Snapshot) : Playback σ :=
  { player := { pb.player with pending? := none, run? := some run.next }.note
      (.stepApplied pb.player.repeats run.next.step run.last s.states s.repeaters)
    display := Display.applyBatch pb.display s.batch
    timers := pb.timers }

/-- Playback with the first snapshot of a flow on the display. -/
def begun (pb : Playback σ) (flow : Flow) (table : StepTable) (first : Snapshot) : Playback σ :=
  { player := ({ pb.player with
      status := .running
      repeats := 0
      run? := some { blocks := flow.blocks, table } }.note (.started table.size)).note
      (.stepApplied 0 0 table.last first.states first.repeaters)
    display := Display.applyBatch (Display.started pb.display) first.batch
    timers := pb.timers }

omit [Display σ] in
/-- Playback with the repeat run that snapshot `s` of `run` asked for. -/
def restarted (pb : Playback σ) (run : Run) (s : Snapshot) (out : StepTable × RandomSource) :
    Playback σ :=
  { player := { pb.player with
      source := out.2
      repeats := pb.player.repeats + 1
      run? := some { blocks := blocksOf s.repeaters run.blocks, table := out.1 }
      pending? := some (pb.timers.nextToken, .advance) }.note
      (.repeatStarted (pb.player.repeats + 1) s.repeaters out.1.size)
    display := pb.display
    timers := (pb.timers.schedule .advance pb.player.stepDelay).2 }

/-- What the pending timer of a player that waits at snapshot `s` of `run` leads to. -/
inductive Woken (pb : Playback σ) (run : Run) (actors : List ActorId) (s : Snapshot)
    (pb' : Playback σ) : Prop
  /-- The next snapshot is shown and repeats nobody, and there is one more behind it. -/
  | moved (s' : Snapshot) (hs : s.repeaters.isEmpty = true) (hs' : s'.repeaters.isEmpty = true)
      (heq : pb' = (pb.shown run s').arm .advance (pb.player.hold s' + pb.player.stepDelay))
      (hplays : pb'.player.PlaysAt run.next actors s' pb.timers.nextToken)
  /-- The next snapshot is shown and asks for a repeat run. -/
  | asked (s' : Snapshot) (hs : s.repeaters.isEmpty = true) (hs' : s'.repeaters.isEmpty = false)
      (hcap : pb.player.isCapped = false)
      (heq : pb' = ((pb.shown run s').note (.repeatScheduled s'.repeaters
        (.ofNat (pb.player.hold s' + pb.player.repeatDelay)))).arm .restart
        (pb.player.hold s' + pb.player.repeatDelay))
      (hplays : pb'.player.PlaysAt run.next actors s' pb.timers.nextToken)
  /-- The next snapshot is shown, and nothing follows it. -/
  | ended (s' : Snapshot) (hs : s.repeaters.isEmpty = true)
      (hsnap : run.next.snapshot? = some s')
      (hend : s'.repeaters.isEmpty = true ∧ run.next.step = run.last ∨
        s'.repeaters.isEmpty = false ∧ pb.player.isCapped = true)
      (heq : pb' = (pb.shown run s').finish .finished)
      (hrests : pb'.player.Rests)
  /-- A repeat run starts, and what it shows first is on the display already. -/
  | repeated (out : StepTable × RandomSource) (first : Snapshot) (hs : s.repeaters.isEmpty = false)
      (hout : (pb.player.nextTable run s).run pb.player.source = out)
      (heq : pb' = pb.restarted run s out)
      (hplays : pb'.player.PlaysAt { blocks := blocksOf s.repeaters run.blocks, table := out.1 }
        s.repeaters.keys first pb.timers.nextToken)

variable {pb : Playback σ} {run : Run} {actors : List ActorId} {s : Snapshot} {token : TimerToken}

/-- A snapshot that asks for a repeat run gets one unless the player is capped. -/
theorem goOn_of_repeat (pb : Playback σ) (run : Run) (hrep : s.repeaters.isEmpty = false)
    (hcap : pb.player.isCapped = false) :
    pb.goOn run s = (pb.note (.repeatScheduled s.repeaters
      (.ofNat (pb.player.hold s + pb.player.repeatDelay)))).arm .restart
      (pb.player.hold s + pb.player.repeatDelay) := by
  simp only [goOn, hrep, hcap]
  rfl

theorem goOn_of_isCapped (pb : Playback σ) (run : Run) (hrep : s.repeaters.isEmpty = false)
    (hcap : pb.player.isCapped = true) :
    pb.goOn run s = pb.finish .finished := by
  simp only [goOn, hrep, hcap]
  rfl

/-- A snapshot that repeats nobody is followed by the next one, if there is one. -/
theorem goOn_of_lt (pb : Playback σ) (run : Run) (hempty : s.repeaters.isEmpty = true)
    (hlt : run.step < run.last) :
    pb.goOn run s = pb.arm .advance (pb.player.hold s + pb.player.stepDelay) := by
  simp only [goOn, hempty, if_neg (Nat.not_le.mpr hlt)]
  rfl

theorem goOn_of_le (pb : Playback σ) (run : Run) (hempty : s.repeaters.isEmpty = true)
    (hle : run.last ≤ run.step) :
    pb.goOn run s = pb.finish .finished := by
  simp only [goOn, hempty, if_pos hle]
  rfl

omit [Display σ] in
/-- A player that takes the next step up and sets the timer for it waits there. -/
theorem playsAt_arm (h : pb.player.PlaysAt run actors s token) (pb' : Playback σ) {s' : Snapshot}
    (hstatus : pb'.player.status = pb.player.status)
    (hregistry : pb'.player.registry = pb.player.registry) (hrun : pb'.player.run? = some run.next)
    (hs' : run.next.snapshot? = some s')
    (hlast : s'.repeaters.isEmpty = true → run.next.step < run.last) (delay : Nat) :
    (pb'.arm s'.wakeup delay).player.PlaysAt run.next actors s' pb'.timers.nextToken := by
  rw [player_arm]
  exact h.next hstatus hregistry hrun rfl hs' hlast

theorem onTimer_of_advance (hpending : pb.player.pending? = some (token, .advance))
    (hrun : pb.player.run? = some run) {s' : Snapshot} (hs' : run.next.snapshot? = some s') :
    pb.onTimer token = (true, (pb.shown run s').goOn run.next s') := by
  have hlast : run.next.last = run.last := rfl
  simp [onTimer, hpending, advance, hrun, hs', present, takeUp, shown, note, Player.note, hlast]

theorem repeatTable_eq (h : pb.player.PlaysAt run actors s token) :
    pb.repeatTable run s = pb.player.nextTable run s := by
  rw [repeatTable, repeatSeed_eq _ fun a ha => h.isSome_state? ha]
  rfl

/-- A repeat run starts when its table is not empty. -/
theorem startRepeat_eq (pb : Playback σ) (hpending : pb.player.pending? = none)
    (hrun : pb.player.run? = some run) (hs : run.snapshot? = some s) {out : StepTable × RandomSource}
    (hout : (pb.repeatTable run s).run pb.player.source = out) (hne : out.1.isEmpty = false) :
    pb.startRepeat = pb.restarted run s out := by
  simp only [startRepeat, hrun, hs, Player.draw, hout, hne]
  simp [restarted, arm, disarm, takeUp, note, Player.note, Player.stepDelay, hpending]

theorem onTimer_of_restart (h : pb.player.PlaysAt run actors s token)
    (hs : s.repeaters.isEmpty = false) {out : StepTable × RandomSource}
    (hout : (pb.player.nextTable run s).run pb.player.source = out) :
    pb.onTimer token = (true, pb.restarted run s out) := by
  have hpending : pb.player.pending? = some (token, .restart) := by
    rw [h.pending_eq, Snapshot.wakeup, hs]
    rfl
  have hne : out.1.isEmpty = false := h.isEmpty_nextTable hs (hout ▸ Chance.yields_run _ _)
  rw [← repeatTable_eq h] at hout
  have hstart := startRepeat_eq { pb with player := { pb.player with pending? := none } } rfl
    h.run_eq h.snapshot_eq hout hne
  simp only [onTimer, hpending, if_true]
  exact congrArg (Prod.mk true) hstart

omit [Display σ] in
/-- A repeat run that starts waits at its first snapshot. -/
theorem exists_playsAt_restarted (hplays : pb.player.PlaysAt run actors s token)
    (hs : s.repeaters.isEmpty = false) {out : StepTable × RandomSource}
    (hout : (pb.player.nextTable run s).run pb.player.source = out) :
    ∃ first, first.wakeup = .advance ∧ (pb.restarted run s out).player.PlaysAt
      { blocks := blocksOf s.repeaters run.blocks, table := out.1 } s.repeaters.keys first
      pb.timers.nextToken := by
  have hyields : (pb.player.nextTable run s).Yields out.1 := hout ▸ Chance.yields_run _ _
  obtain ⟨first, hfirst⟩ := Player.exists_playsAt_first (p := (pb.restarted run s out).player)
    hplays.status_eq rfl rfl (Player.PlaysAt.fits_of_yields_nextTable hyields)
    (hplays.isEmpty_nextTable hs hyields)
  refine ⟨first, ?_, hfirst⟩
  exact (Prod.mk.inj (Option.some.inj hfirst.pending_eq)).2.symm

/-- **The pending timer leads to one of four states**, whatever the display is and whichever other timers
wait. -/
theorem woken_of_playsAt (h : pb.player.PlaysAt run actors s token) :
    Woken pb run actors s (pb.onTimer token).2 := by
  rcases hs : s.repeaters.isEmpty with _ | _
  · obtain ⟨out, hout⟩ : ∃ out, (pb.player.nextTable run s).run pb.player.source = out := ⟨_, rfl⟩
    obtain ⟨first, -, hplays⟩ := exists_playsAt_restarted h hs hout
    rw [onTimer_of_restart h hs hout]
    exact .repeated out first hs hout rfl hplays
  · obtain ⟨s', hs'⟩ := h.exists_next hs
    have hpending : pb.player.pending? = some (token, .advance) := by
      rw [h.pending_eq, Snapshot.wakeup, hs]
      rfl
    rw [onTimer_of_advance hpending h.run_eq hs']
    rcases hrep : s'.repeaters.isEmpty with _ | _
    · rcases hcap : pb.player.isCapped with _ | _
      · have hgo := goOn_of_repeat (pb.shown run s') run.next hrep hcap
        refine .asked s' hs hrep hcap hgo ?_
        rw [hgo, ← s'.wakeup_eq_restart_iff.mpr hrep]
        exact playsAt_arm h ((pb.shown run s').note _) rfl rfl rfl hs' (by simp [hrep]) _
      · have hgo := goOn_of_isCapped (pb.shown run s') run.next hrep hcap
        exact .ended s' hs hs' (Or.inr ⟨hrep, hcap⟩) hgo (hgo ▸ ⟨rfl, rfl, rfl⟩)
    · rcases Nat.lt_or_ge run.next.step run.last with hlt | hge
      · have hgo := goOn_of_lt (pb.shown run s') run.next hrep hlt
        refine .moved s' hs hrep hgo ?_
        rw [hgo, ← s'.wakeup_eq_advance_iff.mpr hrep]
        exact playsAt_arm h (pb.shown run s') rfl rfl rfl hs' (fun _ => hlt) _
      · have hgo := goOn_of_le (pb.shown run s') run.next hrep hge
        have hlast : run.next.step = run.last := Nat.le_antisymm (h.step_lt hs) hge
        exact .ended s' hs hs' (Or.inl ⟨hrep, hlast⟩) hgo (hgo ▸ ⟨rfl, rfl, rfl⟩)

/-- A timer does nothing to a player that rests. -/
theorem onTimer_of_rests (h : pb.player.Rests) (token : TimerToken) :
    (pb.onTimer token).2 = pb := by
  rw [onTimer_of_ne]
  rw [Player.pendingToken?, h.pending_eq]
  simp

/-- A timer of others does nothing to a player that waits. -/
theorem onTimer_of_foreign (h : pb.player.PlaysAt run actors s token) {token' : TimerToken}
    (hne : token ≠ token') : (pb.onTimer token').2 = pb := by
  rw [onTimer_of_ne]
  rw [Player.pendingToken?, h.pending_eq]
  simpa using hne

/-- A flow with something to play leads to a player that waits at the first snapshot. -/
theorem playsAt_start {flow : Flow} {table : StepTable}
    (hfits : table.Fits pb.player.registry flow.blocks actors) (hne : table.isEmpty = false) :
    ∃ first, pb.start flow table = (pb.begun flow table first).arm .advance pb.player.stepDelay ∧
      (pb.start flow table).player.PlaysAt { blocks := flow.blocks, table } actors first
        pb.timers.nextToken := by
  obtain ⟨first, hfirst⟩ := StepTable.lt_size_iff.mp (StepTable.isEmpty_eq_false_iff.mp hne)
  have hstart : pb.start flow table = (pb.begun flow table first).arm .advance pb.player.stepDelay := by
    simp only [start, takeUp, present, Run.snapshot?, hfirst]
    rfl
  have hpending : (pb.start flow table).player.pending? = some (pb.timers.nextToken, .advance) := by
    rw [hstart, player_arm]
    rfl
  obtain ⟨first', hplays⟩ := Player.exists_playsAt_first (by rw [hstart, player_arm]; rfl)
    (by rw [hstart, player_arm]; rfl) hpending (by rw [hstart, player_arm]; exact hfits) hne
  obtain rfl : first' = first := Option.some.inj (hplays.snapshot_eq.symm.trans hfirst)
  exact ⟨first', hstart, hplays⟩

end Playback

end Marionette

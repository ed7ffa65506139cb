import Marionette.Proofs.Playback.Drain

/-!
# Around and around

A table in which nobody is sent back is shown once.  Otherwise playback goes around: step `k`, the first that
sends actors back, starts a run of these actors alone, and step `k` of that run sends all of them back again.
So every run after the first has the same actors and the same length, and how many timers are fired is a
matter of counting: `k` for the first run, and `k + 1` for every other, one of which starts it.

## Main definitions

* `Milestone` — what an event tells apart from states, delays and sizes.
* `Lap`, `Lap.upTo`, `Lap.steps` — the milestones of the runs before a run, and of the steps of a run.
* `Run.Circles` — a run is in the part of its table that leads to step `k`.

## Main results

* `Run.Circles.again` — a repeat run circles where the run before it did.
* `Playback.drain_of_straight`, `drain_of_capped`, `drain_of_endless` — how many timers are fired, and what is
  told.
* `Playback.Endless.leads` — without a cap only a stop leaves the way around.
-/

namespace Marionette

/-! ### Milestones -/

/-- What an event tells apart from the states of the actors, the delays and the sizes of tables. -/
inductive Milestone
  | started
  /-- A snapshot of `actors` is shown, which sends `repeaters` back. -/
  | applied (run step : Nat) (actors repeaters : ActorSet)
  | scheduled (actors : ActorSet)
  | restarted (run : Nat) (actors : ActorSet)
  | finished
  | stopped

/-- The milestone of an event. -/
def Event.milestone : Event → Milestone
  | .started _ => .started
  | .stepApplied run step _ states repeaters => .applied run step (.ofKeys states.keys) repeaters
  | .repeatScheduled actors _ => .scheduled actors
  | .repeatStarted run actors _ => .restarted run actors
  | .finished => .finished
  | .stopped => .stopped

/-- The milestones of the steps 1 to `count` of a run with some actors, where `back` says whom each step
sends back. -/
def Milestone.steps (run : Nat) (actors : ActorSet) (back : Nat → ActorSet) (count : Nat) :
    List Milestone :=
  (List.range count).map fun j => .applied run (j + 1) actors (back (j + 1))

theorem Milestone.steps_succ (run : Nat) (actors : ActorSet) (back : Nat → ActorSet) (count : Nat) :
    steps run actors back (count + 1) =
      steps run actors back count ++ [.applied run (count + 1) actors (back (count + 1))] := by
  rw [steps, List.range_succ, List.map_append]
  rfl

/-- A way around: the first run is one of `cast`, and its step `turn` sends `set` back. -/
structure Lap where
  cast : ActorSet
  set : ActorSet
  turn : Nat

namespace Lap

/-- Who takes part in a run. -/
def actors (l : Lap) (run : Nat) : ActorSet := if run = 0 then l.cast else l.set

/-- Whom a step sends back. -/
def back (l : Lap) (step : Nat) : ActorSet := if step = l.turn then l.set else .empty

/-- The milestones of the steps 1 to `count` of a run. -/
def steps (l : Lap) (run count : Nat) : List Milestone :=
  Milestone.steps run (l.actors run) l.back count

/-- The milestones up to the beginning of a run. -/
def upTo (l : Lap) : (run : Nat) → List Milestone
  | 0 => [.started, .applied 0 0 l.cast .empty]
  | run + 1 => l.upTo run ++ l.steps run l.turn ++ [.scheduled l.set, .restarted (run + 1) l.set]

/-- The milestones up to step `step` of a run.  Having sent actors back, the run has scheduled a repeat. -/
def path (l : Lap) (run step : Nat) : List Milestone :=
  l.upTo run ++ l.steps run step ++ if step = l.turn then [.scheduled l.set] else []

theorem finished_notMem_steps (l : Lap) (run count : Nat) : Milestone.finished ∉ l.steps run count := by
  simp [steps, Milestone.steps]

theorem finished_notMem_upTo (l : Lap) (run : Nat) : Milestone.finished ∉ l.upTo run := by
  induction run with
  | zero => simp [upTo]
  | succ run ih => simp [upTo, ih, finished_notMem_steps]

/-- On the way around nothing says that playback has ended. -/
theorem finished_notMem_path (l : Lap) (run step : Nat) : Milestone.finished ∉ l.path run step := by
  rw [path]
  split <;> simp [finished_notMem_steps, finished_notMem_upTo]

end Lap

/-! ### Circling -/

/-- A run has not gone beyond step `k`, the first that sends actors back, and this step sends back `set`. -/
structure Run.Circles (run : Run) (k : Nat) (set : ActorSet) : Prop where
  turnsAt : run.table.TurnsAt k set
  step_le : run.step ≤ k

namespace Run.Circles

variable {run : Run} {k : Nat} {set : ActorSet} {p : Player} {actors : List ActorId} {s : Snapshot}
  {token : TimerToken}

theorem next (h : run.Circles k set) (hs : run.snapshot? = some s)
    (hempty : s.repeaters.isEmpty = true) : run.next.Circles k set :=
  ⟨h.turnsAt, h.turnsAt.lt_of_isEmpty hs h.step_le hempty⟩

theorem step_eq (h : run.Circles k set) (hs : run.snapshot? = some s)
    (hrep : s.repeaters.isEmpty = false) : run.step = k :=
  h.turnsAt.eq_of_isEmpty_eq_false hs h.step_le hrep

theorem repeaters_eq (h : run.Circles k set) (hs : run.snapshot? = some s)
    (hrep : s.repeaters.isEmpty = false) : s.repeaters = set :=
  h.turnsAt.repeaters_eq (h.step_eq hs hrep ▸ hs)

/-- There is a step behind one that sends nobody back. -/
theorem step_lt_last (h : run.Circles k set) (hs : run.snapshot? = some s)
    (hempty : s.repeaters.isEmpty = true) : run.step < run.last :=
  Nat.lt_of_lt_of_le (h.turnsAt.lt_of_isEmpty hs h.step_le hempty) h.turnsAt.le_last

/-- **A repeat run circles where the run before it did.** -/
theorem again (h : run.Circles k set) (hplays : p.PlaysAt run actors s token)
    (hrep : s.repeaters.isEmpty = false) {t : StepTable}
    (hfits : t.Fits p.registry (Playback.blocksOf s.repeaters run.blocks) s.repeaters.keys) :
    ({ blocks := Playback.blocksOf s.repeaters run.blocks, table := t } : Run).Circles k set := by
  rw [← h.repeaters_eq hplays.snapshot_eq hrep]
  refine ⟨?_, Nat.zero_le k⟩
  refine hplays.fits.turnsAt_again ?_ hfits fun a ha => laneOf_blocksOf ha
  rw [h.repeaters_eq hplays.snapshot_eq hrep]
  exact h.turnsAt

end Run.Circles

namespace Playback

variable {σ : Type} [Display σ] {pb pb' : Playback σ} {run : Run} {actors : List ActorId} {s : Snapshot}
  {token : TimerToken} {k : Nat} {set : ActorSet}

theorem Woken.config_eq (h : Woken pb run actors s pb') : pb'.player.config = pb.player.config := by
  cases h with
  | moved s' hs hs' heq hplays => rw [heq]; rfl
  | asked s' hs hs' hcap heq hplays => rw [heq]; rfl
  | ended s' hs hsnap hend heq hrests => rw [heq]; rfl
  | repeated out first hs hout heq hplays => rw [heq]; rfl

theorem Woken.registry_eq (h : Woken pb run actors s pb') : pb'.player.registry = pb.player.registry := by
  cases h with
  | moved s' hs hs' heq hplays => rw [heq]; rfl
  | asked s' hs hs' hcap heq hplays => rw [heq]; rfl
  | ended s' hs hsnap hend heq hrests => rw [heq]; rfl
  | repeated out first hs hout heq hplays => rw [heq]; rfl

/-- A run that circles goes on circling, or the cap ends it. -/
theorem circles_woken (hplays : pb.player.PlaysAt run actors s token) (h : run.Circles k set)
    (hwoken : Woken pb run actors s pb') :
    pb'.player.Stands (pb.player.isCapped = true) fun run' _ => run'.Circles k set := by
  cases hwoken with
  | moved s' hs hs' heq hplays' => exact .plays _ _ _ _ hplays' (h.next hplays.snapshot_eq hs)
  | asked s' hs hs' hcap heq hplays' => exact .plays _ _ _ _ hplays' (h.next hplays.snapshot_eq hs)
  | ended s' hs hsnap hend heq hrests =>
    refine .rests hrests ?_
    rcases hend with ⟨hs', hlast⟩ | ⟨-, hcap⟩
    · exact absurd hlast (Nat.ne_of_lt ((h.next hplays.snapshot_eq hs).step_lt_last hsnap hs'))
    · exact hcap
  | repeated out first hs hout heq hplays' =>
    rw [heq] at hplays'
    rw [heq]
    exact .plays _ _ _ _ hplays' (h.again hplays hs hplays'.fits)

end Playback

/-! ### Counting -/

theorem Player.lt_of_isCapped_eq_false {p : Player} (h : p.isCapped = false) {most : UInt32}
    (hmost : p.config.playback.maxRepeats = some most) : p.repeats < most.toNat := by
  rw [isCapped, hmost] at h
  simpa using h

theorem Player.exists_of_isCapped {p : Player} (h : p.isCapped = true) :
    ∃ most, p.config.playback.maxRepeats = some most ∧ most.toNat ≤ p.repeats := by
  rw [isCapped, Option.any_eq_true] at h
  obtain ⟨most, hmost, hle⟩ := h
  exact ⟨most, hmost, by simpa using hle⟩

/-- After the events in `past` a log has events with the milestones `ms`. -/
def Tells (past log : List Event) (ms : List Milestone) : Prop :=
  ∃ es, log = past ++ es ∧ es.map Event.milestone = ms

theorem Tells.append {past log : List Event} {ms : List Milestone} (h : Tells past log ms)
    (es : List Event) : Tells past (log ++ es) (ms ++ es.map Event.milestone) := by
  obtain ⟨es', rfl, rfl⟩ := h
  exact ⟨es' ++ es, List.append_assoc _ _ _, List.map_append⟩

theorem Snapshot.ofKeys_states_eq {s : Snapshot} {set : ActorSet}
    (h : ∀ a, (s.state? a).isSome ↔ set.contains a = true) : KeySet.ofKeys s.states.keys = set :=
  KeySet.ext_contains fun a => by
    rw [KeySet.contains_ofKeys_iff, SortedMap.mem_keys_iff, ← h a]
    rfl

namespace Lap

/-- The player is on its way around: run and step say what was told and how many timers were fired. -/
structure Around (l : Lap) (most? : Option UInt32) (past : List Event) (fired : Nat) (p : Player)
    (run : Run) (s : Snapshot) : Prop where
  maxRepeats_eq : p.config.playback.maxRepeats = most?
  circles : run.Circles l.turn l.set
  isSome_state?_iff : ∀ a, (s.state? a).isSome ↔ (l.actors p.repeats).contains a = true
  fired_eq : fired = p.repeats * (l.turn + 1) + run.step
  repeats_le : ∀ most, most? = some most → p.repeats ≤ most.toNat
  /-- A repeat that is scheduled is one that may start. -/
  repeats_lt : ∀ most, most? = some most → run.step = l.turn → p.repeats < most.toNat
  tells : Tells past p.log (l.path p.repeats run.step)

/-- The player has been around as often as it may. -/
structure Done (l : Lap) (most? : Option UInt32) (past : List Event) (fired : Nat) (p : Player) :
    Prop where
  most?_eq : ∃ most, most? = some most ∧ p.repeats = most.toNat
  fired_eq : fired = p.repeats * (l.turn + 1) + l.turn
  tells : Tells past p.log (l.upTo p.repeats ++ l.steps p.repeats l.turn ++ [.finished])

variable {l : Lap} {most? : Option UInt32} {past : List Event} {n : Nat} {p : Player} {run : Run}
  {actors : List ActorId} {s : Snapshot} {token : TimerToken}

theorem path_of_lt {step : Nat} (run : Nat) (h : step < l.turn) :
    l.path run step = l.upTo run ++ l.steps run step := by
  rw [path, if_neg (Nat.ne_of_lt h), List.append_nil]

theorem steps_succ (l : Lap) (run step : Nat) :
    l.steps run (step + 1) =
      l.steps run step ++ [.applied run (step + 1) (l.actors run) (l.back (step + 1))] :=
  Milestone.steps_succ _ _ _ _

/-- On the way around every snapshot sends back whom its step does. -/
theorem repeaters_eq_back (h : run.Circles l.turn l.set) (hs : run.snapshot? = some s) :
    s.repeaters = l.back run.step := by
  rw [back]
  rcases hrep : s.repeaters.isEmpty with _ | _
  · rw [if_pos (h.step_eq hs hrep), h.repeaters_eq hs hrep]
  · rw [if_neg (Nat.ne_of_lt (h.turnsAt.lt_of_isEmpty hs h.step_le hrep))]
    exact SortedMap.eq_empty_of_isEmpty hrep

variable {σ : Type} [Display σ] {pb pb' : Playback σ}

/-- The next snapshot is told as the next step. -/
theorem Around.tells_shown (h : l.Around most? past n pb.player run s)
    (hplays : pb.player.PlaysAt run actors s token) (hs : s.repeaters.isEmpty = true) {s' : Snapshot}
    (hs' : run.next.snapshot? = some s') :
    Tells past (pb.shown run s').player.log
      (l.upTo pb.player.repeats ++ l.steps pb.player.repeats run.next.step) := by
  have hlt := h.circles.turnsAt.lt_of_isEmpty hplays.snapshot_eq h.circles.step_le hs
  have hnext := h.circles.next hplays.snapshot_eq hs
  have htells := h.tells.append
    [.stepApplied pb.player.repeats run.next.step run.last s'.states s'.repeaters]
  have hactors : KeySet.ofKeys s'.states.keys = l.actors pb.player.repeats :=
    Snapshot.ofKeys_states_eq fun a =>
      (hplays.isSome_state?_next_iff hs' a).trans (h.isSome_state?_iff a)
  rw [List.map_singleton, Event.milestone, hactors,
    path_of_lt _ hlt] at htells
  have hback : s'.repeaters = l.back (run.step + 1) := repeaters_eq_back hnext hs'
  rw [show run.next.step = run.step + 1 from rfl, steps_succ, ← hback, ← List.append_assoc]
  exact htells

/-- A step that is no scheduled repeat, or one that may start, is a step along the way. -/
theorem Around.next {p' : Player} (h : l.Around most? past n p run s)
    (hplays : p.PlaysAt run actors s token) (hs : s.repeaters.isEmpty = true) {s' : Snapshot}
    (hs' : run.next.snapshot? = some s') (hconfig : p'.config = p.config)
    (hrepeats : p'.repeats = p.repeats)
    (hlt : ∀ most, most? = some most → run.next.step = l.turn → p.repeats < most.toNat)
    (htells : Tells past p'.log (l.path p.repeats run.next.step)) :
    l.Around most? past (n + 1) p' run.next s' :=
  { maxRepeats_eq := by rw [hconfig, h.maxRepeats_eq]
    circles := h.circles.next hplays.snapshot_eq hs
    isSome_state?_iff := fun a => by
      rw [hrepeats, hplays.isSome_state?_next_iff hs', h.isSome_state?_iff]
    fired_eq := by
      rw [hrepeats, h.fired_eq]
      rfl
    repeats_le := hrepeats ▸ h.repeats_le
    repeats_lt := hrepeats ▸ hlt
    tells := hrepeats ▸ htells }

/-- **Around and around.**  A wakeup goes one step on along the way. -/
theorem Around.woken (h : l.Around most? past n pb.player run s)
    (hplays : pb.player.PlaysAt run actors s token) (hwoken : Playback.Woken pb run actors s pb') :
    pb'.player.Stands (l.Done most? past (n + 1) pb'.player)
      (l.Around most? past (n + 1) pb'.player) := by
  cases hwoken with
  | moved s' hs hs' heq hplays' =>
    subst heq
    have hnext := h.circles.next hplays.snapshot_eq hs
    have hlt : run.next.step < l.turn :=
      hnext.turnsAt.lt_of_isEmpty hplays'.snapshot_eq hnext.step_le hs'
    have htells := h.tells_shown hplays hs hplays'.snapshot_eq
    rw [← path_of_lt _ hlt] at htells
    exact .plays _ _ _ _ hplays' (h.next hplays hs hplays'.snapshot_eq rfl rfl
      (fun _ _ hturn => absurd hturn (Nat.ne_of_lt hlt)) htells)
  | asked s' hs hs' hcap heq hplays' =>
    subst heq
    have hnext := h.circles.next hplays.snapshot_eq hs
    have hturn := hnext.step_eq hplays'.snapshot_eq hs'
    have htells := (h.tells_shown hplays hs hplays'.snapshot_eq).append
      [.repeatScheduled s'.repeaters (.ofNat (pb.player.hold s' + pb.player.repeatDelay))]
    rw [List.map_singleton, Event.milestone] at htells
    refine .plays _ _ _ _ hplays' (h.next hplays hs hplays'.snapshot_eq rfl rfl
      (fun most hmost _ => Player.lt_of_isCapped_eq_false hcap (h.maxRepeats_eq.trans hmost)) ?_)
    rw [path, if_pos hturn, ← hnext.repeaters_eq hplays'.snapshot_eq hs']
    exact htells
  | ended s' hs hsnap hend heq hrests =>
    subst heq
    have hnext := h.circles.next hplays.snapshot_eq hs
    rcases hend with ⟨hs', hlast⟩ | ⟨hs', hcap⟩
    · exact absurd hlast (Nat.ne_of_lt (hnext.step_lt_last hsnap hs'))
    · have hturn := hnext.step_eq hsnap hs'
      have htells := (h.tells_shown hplays hs hsnap).append [.finished]
      rw [hturn] at htells
      obtain ⟨most, hmost, hle⟩ := Player.exists_of_isCapped hcap
      rw [h.maxRepeats_eq] at hmost
      refine .rests hrests ⟨⟨most, hmost, Nat.le_antisymm (h.repeats_le most hmost) hle⟩, ?_, htells⟩
      have hfired := h.fired_eq
      have hturn' : run.step + 1 = l.turn := hturn
      change n + 1 = pb.player.repeats * (l.turn + 1) + l.turn
      omega
  | repeated out first hs hout heq hplays' =>
    subst heq
    have hturn := h.circles.step_eq hplays.snapshot_eq hs
    have hset := h.circles.repeaters_eq hplays.snapshot_eq hs
    have hpos := hplays.fits.turn_pos h.circles.turnsAt
    have htells := h.tells.append [.repeatStarted (pb.player.repeats + 1) s.repeaters out.1.size]
    rw [path, if_pos hturn, hturn, List.append_assoc] at htells
    refine .plays _ _ _ _ hplays'
      { maxRepeats_eq := h.maxRepeats_eq
        circles := h.circles.again hplays hs hplays'.fits
        isSome_state?_iff := fun a => ?_
        fired_eq := ?_
        repeats_le := fun most hmost => h.repeats_lt most hmost hturn
        repeats_lt := fun _ _ hzero => absurd hzero (Nat.ne_of_lt hpos)
        tells := ?_ }
    · rw [hplays'.isSome_state?_iff, SortedMap.mem_keys_iff_contains, hset]
      rfl
    · change n + 1 = (pb.player.repeats + 1) * (l.turn + 1) + 0
      rw [h.fired_eq, hturn, Nat.succ_mul]
      rfl
    · rw [path_of_lt _ hpos, show l.steps _ 0 = [] from rfl, List.append_nil]
      change Tells past _ (_ ++ [.scheduled l.set, .restarted (pb.player.repeats + 1) l.set])
      rw [← hset] at htells ⊢
      exact htells

end Lap

/-- The player goes along a table that sends nobody back. -/
structure Straight (cast : ActorSet) (last : Nat) (past : List Event) (fired : Nat) (p : Player)
    (run : Run) (s : Snapshot) : Prop where
  isEmpty : ∀ j s, run.table.snapshot? j = some s → s.repeaters.isEmpty = true
  last_eq : run.last = last
  repeats_eq : p.repeats = 0
  isSome_state?_iff : ∀ a, (s.state? a).isSome ↔ cast.contains a = true
  fired_eq : fired = run.step
  tells : Tells past p.log ([.started, .applied 0 0 cast .empty] ++
    Milestone.steps 0 cast (fun _ => .empty) run.step)

/-- The player has come to the end of a table that sends nobody back. -/
structure Straight.Done (cast : ActorSet) (last : Nat) (past : List Event) (fired : Nat) (p : Player) :
    Prop where
  repeats_eq : p.repeats = 0
  fired_eq : fired = last
  tells : Tells past p.log ([.started, .applied 0 0 cast .empty] ++
    Milestone.steps 0 cast (fun _ => .empty) last ++ [.finished])

section

variable {cast : ActorSet} {last n : Nat} {past : List Event} {run : Run} {actors : List ActorId}
  {s : Snapshot} {token : TimerToken} {σ : Type} [Display σ] {pb pb' : Playback σ}

/-- The next snapshot is told as the next step. -/
theorem Straight.tells_shown (h : Straight cast last past n pb.player run s)
    (hplays : pb.player.PlaysAt run actors s token) {s' : Snapshot}
    (hs' : run.next.snapshot? = some s') :
    Tells past (pb.shown run s').player.log ([.started, .applied 0 0 cast .empty] ++
      Milestone.steps 0 cast (fun _ => .empty) run.next.step) := by
  have htells := h.tells.append
    [.stepApplied pb.player.repeats run.next.step run.last s'.states s'.repeaters]
  have hmilestone : (Event.stepApplied pb.player.repeats run.next.step run.last s'.states
      s'.repeaters).milestone = .applied 0 (run.step + 1) cast .empty := by
    have hactors : KeySet.ofKeys s'.states.keys = cast := Snapshot.ofKeys_states_eq fun a =>
      (hplays.isSome_state?_next_iff hs' a).trans (h.isSome_state?_iff a)
    rw [Event.milestone, hactors, h.repeats_eq,
      SortedMap.eq_empty_of_isEmpty (h.isEmpty _ s' hs')]
    rfl
  rw [List.map_singleton, hmilestone, List.append_assoc] at htells
  rw [show run.next.step = run.step + 1 from rfl, Milestone.steps_succ]
  exact htells

/-- A wakeup goes one step on. -/
theorem Straight.woken (h : Straight cast last past n pb.player run s)
    (hplays : pb.player.PlaysAt run actors s token) (hwoken : Playback.Woken pb run actors s pb') :
    pb'.player.Stands (Straight.Done cast last past (n + 1) pb'.player)
      (Straight cast last past (n + 1) pb'.player) := by
  cases hwoken with
  | moved s' hs hs' heq hplays' =>
    subst heq
    exact .plays _ _ _ _ hplays'
      { isEmpty := h.isEmpty
        last_eq := h.last_eq
        repeats_eq := h.repeats_eq
        isSome_state?_iff := fun a =>
          (hplays.isSome_state?_next_iff hplays'.snapshot_eq a).trans (h.isSome_state?_iff a)
        fired_eq := congrArg Nat.succ h.fired_eq
        tells := h.tells_shown hplays hplays'.snapshot_eq }
  | asked s' hs hs' hcap heq hplays' =>
    exact absurd (hs'.symm.trans (h.isEmpty _ s' hplays'.snapshot_eq)) Bool.false_ne_true
  | ended s' hs hsnap hend heq hrests =>
    subst heq
    rcases hend with ⟨-, hlast⟩ | ⟨hs', -⟩
    · have hlast' : run.next.step = last := hlast.trans h.last_eq
      refine .rests hrests ⟨h.repeats_eq, ?_, ?_⟩
      · rw [h.fired_eq, ← hlast']
        rfl
      · rw [← hlast']
        exact (h.tells_shown hplays hsnap).append [.finished]
    · exact absurd (hs'.symm.trans (h.isEmpty _ s' hsnap)) Bool.false_ne_true
  | repeated out first hs hout heq hplays' =>
    exact absurd (hs.symm.trans (h.isEmpty _ s hplays.snapshot_eq)) Bool.false_ne_true

end

/-! ### The whole playback -/

namespace Playback

variable {σ : Type} [Display σ] {pb pb' : Playback σ} {flow : Flow}

/-- The actors that a flow is compiled for. -/
def cast (pb : Playback σ) : ActorSet := .ofKeys (Display.actorIds pb.display)

/-- A flow that starts has told the first snapshot. -/
theorem tells_start (hstarts : pb.Starts flow pb') :
    Tells pb.player.log pb'.player.log [.started, .applied 0 0 pb.cast .empty] := by
  obtain ⟨first, hstart, hplays⟩ := hstarts.exists_playsAt
  have hempty := SortedMap.eq_empty_of_isEmpty (hplays.fits.repeaters_zero hplays.snapshot_eq)
  have hcast : KeySet.ofKeys first.states.keys = pb.cast := Snapshot.ofKeys_states_eq fun a =>
    (hplays.isSome_state?_iff a).trans (KeySet.contains_ofKeys_iff _ a).symm
  refine ⟨[.started (pb.compile flow).1.size,
    .stepApplied 0 0 (pb.compile flow).1.last first.states first.repeaters], ?_, ?_⟩
  · rw [hstart]
    exact List.append_assoc _ _ _
  · rw [← hcast, ← hempty]
    rfl

theorem straight_start (hstarts : pb.Starts flow pb')
    (hempty : ∀ j s, (pb.compile flow).1.snapshot? j = some s → s.repeaters.isEmpty = true) :
    pb'.player.Stands (Straight.Done pb.cast (pb.compile flow).1.last pb.player.log 0 pb'.player)
      (Straight pb.cast (pb.compile flow).1.last pb.player.log 0 pb'.player) := by
  have htells := tells_start hstarts
  obtain ⟨first, -, hplays⟩ := hstarts.exists_playsAt
  exact .plays _ _ _ _ hplays
    { isEmpty := hempty
      last_eq := rfl
      repeats_eq := hstarts.repeats_eq
      isSome_state?_iff := fun a =>
        (hplays.isSome_state?_iff a).trans (KeySet.contains_ofKeys_iff _ a).symm
      fired_eq := rfl
      tells := htells }

theorem around_start (hstarts : pb.Starts flow pb') {k : Nat} {set : ActorSet}
    (hturn : (pb.compile flow).1.TurnsAt k set) :
    pb'.player.Stands
      (Lap.Done ⟨pb.cast, set, k⟩ pb.player.config.playback.maxRepeats pb.player.log 0 pb'.player)
      (Lap.Around ⟨pb.cast, set, k⟩ pb.player.config.playback.maxRepeats pb.player.log 0
        pb'.player) := by
  have htells := tells_start hstarts
  have hpos := (pb.fits_compile flow).turn_pos hturn
  obtain ⟨first, hstart, hplays⟩ := hstarts.exists_playsAt
  have hrepeats := hstarts.repeats_eq
  refine .plays _ _ _ _ hplays
    { maxRepeats_eq := by rw [hstart]; rfl
      circles := ⟨hturn, Nat.zero_le k⟩
      isSome_state?_iff := fun a => ?_
      fired_eq := by rw [hrepeats, Nat.zero_mul]; rfl
      repeats_le := fun most _ => hrepeats ▸ Nat.zero_le _
      repeats_lt := fun _ _ hzero => absurd hzero (Nat.ne_of_lt hpos)
      tells := ?_ }
  · rw [hrepeats, hplays.isSome_state?_iff]
    exact (KeySet.contains_ofKeys_iff _ a).symm
  · rw [hrepeats, Lap.path_of_lt _ hpos]
    exact htells

/-- Draining goes on along the way around. -/
theorem stands_around_drain {l : Lap} {most? : Option UInt32} {past : List Event} (hlone : pb.Lone)
    (h : pb.player.Stands (l.Done most? past 0 pb.player) (l.Around most? past 0 pb.player))
    (limit : Nat) :
    (pb.drain limit).whole.player.Stands
      (l.Done most? past (pb.drain limit).fired (pb.drain limit).whole.player)
      (l.Around most? past (pb.drain limit).fired (pb.drain limit).whole.player) :=
  stands_drain_of_lone (A := l.Done most? past) (B := l.Around most? past)
    (fun _ _ _ _ _ _ _ hplays h hwoken => h.woken hplays hwoken) limit hlone h

/-- A table that sends nobody back is shown once. -/
theorem drain_of_straight (hstarts : pb.Starts flow pb')
    (hqueue : pb.timers.pending = [])
    (hempty : ∀ j s, (pb.compile flow).1.snapshot? j = some s → s.repeaters.isEmpty = true)
    {limit : Nat} (hlimit : (pb.compile flow).1.last ≤ limit) :
    (pb'.drain limit).fired = (pb.compile flow).1.last ∧
      (pb'.drain limit).playback.player.isRunning = false ∧
      (pb'.drain limit).playback.player.repeats = 0 ∧
      Tells pb.player.log (pb'.drain limit).events ([.started, .applied 0 0 pb.cast .empty] ++
        Milestone.steps 0 pb.cast (fun _ => .empty) (pb.compile flow).1.last ++ [.finished]) := by
  have hlone : pb'.Lone := hstarts.lone hqueue
  have hstart := straight_start hstarts hempty
  have hstands := stands_drain_of_lone
    (A := Straight.Done pb.cast (pb.compile flow).1.last pb.player.log)
    (B := Straight pb.cast (pb.compile flow).1.last pb.player.log)
    (fun _ _ _ _ _ _ _ hplays h hwoken => h.woken hplays hwoken) limit hlone hstart
  rcases hstands with ⟨hrests, hdone⟩ | ⟨run, actors, s, token, hplays, h⟩
  · exact ⟨hdone.fired_eq, hrests.isRunning_eq, hdone.repeats_eq, log_whole_drain pb' limit ▸ hdone.tells⟩
  · have hfired := fired_drain_of_running hlone hstart.sound hplays.isRunning_eq
    have hlt := hplays.step_lt (h.isEmpty _ s hplays.snapshot_eq)
    rw [h.last_eq, ← h.fired_eq, hfired] at hlt
    omega

/-- A way around with a cap ends after as many repeat runs as the cap allows. -/
theorem drain_of_capped (hstarts : pb.Starts flow pb')
    (hqueue : pb.timers.pending = []) {k : Nat} {set : ActorSet}
    (hturn : (pb.compile flow).1.TurnsAt k set) {most : UInt32}
    (hmost : pb.player.config.playback.maxRepeats = some most) {limit : Nat}
    (hlimit : k + most.toNat * (k + 1) ≤ limit) :
    (pb'.drain limit).fired = k + most.toNat * (k + 1) ∧
      (pb'.drain limit).playback.player.isRunning = false ∧
      (pb'.drain limit).playback.player.repeats = most.toNat ∧
      Tells pb.player.log (pb'.drain limit).events
        (Lap.upTo ⟨pb.cast, set, k⟩ most.toNat ++ Lap.steps ⟨pb.cast, set, k⟩ most.toNat k ++
          [.finished]) := by
  have hlone : pb'.Lone := hstarts.lone hqueue
  have hstart := around_start hstarts hturn
  have hstands := stands_around_drain hlone hstart limit
  rcases hstands with ⟨hrests, hdone⟩ | ⟨run, actors, s, token, hplays, h⟩
  · obtain ⟨most', hmost', hrepeats⟩ := hdone.most?_eq
    obtain rfl : most = most' := Option.some.inj (hmost.symm.trans hmost')
    have hfired := hdone.fired_eq
    have htells := hdone.tells
    rw [hrepeats] at hfired htells
    rw [log_whole_drain] at htells
    exact ⟨hfired.trans (Nat.add_comm _ _), hrests.isRunning_eq, hrepeats, htells⟩
  · -- a player that still goes around has not used up what the cap allows
    have hfired := fired_drain_of_running hlone hstart.sound hplays.isRunning_eq
    have heq := h.fired_eq
    rw [hfired] at heq
    have hle := h.repeats_le most hmost
    have hstep : run.step ≤ k := h.circles.step_le
    rcases Nat.lt_or_eq_of_le hle with hlt | hrepeats
    · have := Nat.mul_le_mul_right (k + 1) hlt
      rw [Nat.succ_mul] at this
      simp only at heq
      omega
    · have hne : run.step ≠ k := fun hk =>
        absurd hrepeats (Nat.ne_of_lt (h.repeats_lt most hmost hk))
      rw [hrepeats] at heq
      simp only at heq
      omega

/-- A way around without a cap is never left by draining, and run and step say how many timers were fired. -/
theorem around_drain_of_endless (hstarts : pb.Starts flow pb')
    (hqueue : pb.timers.pending = []) {k : Nat} {set : ActorSet}
    (hturn : (pb.compile flow).1.TurnsAt k set)
    (hmost : pb.player.config.playback.maxRepeats = none) (limit : Nat) :
    (pb'.drain limit).fired = limit ∧ ∃ run actors s token,
      (pb'.drain limit).whole.player.PlaysAt run actors s token ∧
      Lap.Around ⟨pb.cast, set, k⟩ none pb.player.log limit (pb'.drain limit).whole.player run s ∧
      limit / (k + 1) = (pb'.drain limit).playback.player.repeats ∧ limit % (k + 1) = run.step := by
  have hlone : pb'.Lone := hstarts.lone hqueue
  have hstart := around_start hstarts hturn
  have hstands := stands_around_drain hlone hstart limit
  rcases hstands with ⟨hrests, hdone⟩ | ⟨run, actors, s, token, hplays, h⟩
  · obtain ⟨most, hsome, -⟩ := hdone.most?_eq
    exact absurd (hmost.symm.trans hsome) (Option.some_ne_none most).symm
  · have hfired := fired_drain_of_running hlone hstart.sound hplays.isRunning_eq
    rw [hfired, hmost] at h
    refine ⟨hfired, run, actors, s, token, hplays, h, ?_⟩
    refine (Nat.div_mod_unique (Nat.succ_pos k)).mpr ⟨?_, Nat.lt_succ_of_le h.circles.step_le⟩
    calc run.step + (k + 1) * (pb'.drain limit).whole.player.repeats
        = (pb'.drain limit).whole.player.repeats * (k + 1) + run.step := by
          rw [Nat.mul_comm, Nat.add_comm]
      _ = limit := h.fired_eq.symm

/-- Without a cap what is told goes on along the way around. -/
theorem drain_of_endless (hstarts : pb.Starts flow pb')
    (hqueue : pb.timers.pending = []) {k : Nat} {set : ActorSet}
    (hturn : (pb.compile flow).1.TurnsAt k set)
    (hmost : pb.player.config.playback.maxRepeats = none) (limit : Nat) :
    (pb'.drain limit).fired = limit ∧ (pb'.drain limit).playback.player.isRunning = true ∧
      (pb'.drain limit).playback.player.repeats = limit / (k + 1) ∧
      Tells pb.player.log (pb'.drain limit).events
        (Lap.path ⟨pb.cast, set, k⟩ (limit / (k + 1)) (limit % (k + 1))) := by
  obtain ⟨hfired, run, actors, s, token, hplays, h, hrepeats, hstep⟩ :=
    around_drain_of_endless hstarts hqueue hturn hmost limit
  have htells := h.tells
  rw [log_whole_drain] at htells
  rw [hrepeats, hstep]
  exact ⟨hfired, hplays.isRunning_eq, rfl, htells⟩

/-- The player goes around, and nothing caps the repeat runs. -/
def Endless (p : Player) (k : Nat) (set : ActorSet) : Prop :=
  p.Stands False fun run _ => p.config.playback.maxRepeats = none ∧ run.Circles k set

theorem Endless.isRunning_eq {p : Player} {k : Nat} {set : ActorSet} (h : Endless p k set) :
    p.isRunning = true := by
  rcases h with ⟨-, hfalse⟩ | ⟨run, actors, s, token, hplays, -⟩
  · exact hfalse.elim
  · exact hplays.isRunning_eq

/-- No call but a stop leaves the way around. -/
theorem Endless.call {k : Nat} {set : ActorSet} (h : Endless pb.player k set) {c : Call}
    (hc : c ≠ .stop) : Endless (pb.call c).player k set := by
  cases c with
  | play flow =>
    rw [Playback.call, play, h.isRunning_eq]
    exact h
  | stop => exact absurd rfl hc
  | onTimer token =>
    refine stands_onTimer (A := fun _ _ => False)
      (B := fun p _ run _ => p.config.playback.maxRepeats = none ∧ run.Circles k set) ?_ pb token h
    rintro pb pb' run actors s token hplays ⟨hnone, hcircles⟩ hwoken
    rcases circles_woken hplays hcircles hwoken with ⟨-, hcap⟩ | ⟨run', actors', s', token', hplays', h⟩
    · obtain ⟨most, hsome, -⟩ := Player.exists_of_isCapped hcap
      exact absurd (hnone.symm.trans hsome) (Option.some_ne_none most).symm
    · exact .plays _ _ _ _ hplays' ⟨hwoken.config_eq ▸ hnone, h⟩
  | compile flow => exact h.congr rfl rfl rfl rfl
  | takeEvents => exact h.congr rfl rfl rfl rfl

theorem Endless.leads {p p' : Player} {k : Nat} {set : ActorSet} (h : Endless p k set)
    (hleads : p.Leads (· ≠ .stop) p') : Endless p' k set := by
  induction hleads with
  | refl => exact h
  | call pb c hc _ ih => exact ih.call hc

theorem endless_start (hstarts : pb.Starts flow pb') {k : Nat} {set : ActorSet}
    (hturn : (pb.compile flow).1.TurnsAt k set)
    (hmost : pb.player.config.playback.maxRepeats = none) : Endless pb'.player k set := by
  rcases around_start hstarts hturn with ⟨-, hdone⟩ | ⟨run, actors, s, token, hplays, h⟩
  · obtain ⟨most, hsome, -⟩ := hdone.most?_eq
    exact absurd (hmost.symm.trans hsome) (Option.some_ne_none most).symm
  · exact .plays _ _ _ _ hplays ⟨h.maxRepeats_eq.trans hmost, h.circles⟩

end Playback

end Marionette

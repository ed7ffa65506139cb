import Marionette.Proofs.StepTable.Steps
import Mathlib.Data.Nat.Find

/-!
# What the lanes say about a table

A table that was compiled for some actors is as long as their longest lane, has these actors in every
snapshot, and has in its repeat sets exactly the actors whose block of that step is a repeat marker.  So
the repeat sets depend on the lanes alone: not on the states, on the draws or on the blocks of others.

Hence the step that repeats comes back.  The actors that a table sends back, compiled alone, are sent back
again at the same step, all of them, and nobody is sent back before.

## Main definitions

* `Registry.repeatsAt` — an actor's block of a step is a repeat marker.
* `StepTable.Fits` — size, actors and repeat sets of a table are those of its blocks.
* `Registry.RepeatsFirst` — the first step at which somebody's block is a repeat marker.
* `StepTable.TurnsAt` — the first step with a repeat set, and that set.
* `Registry.Still`, `Registry.after` — blocks that draw nothing, and what they make of a state.

## Main results

* `StepTable.Plays.fits` — a table that plays the lanes of some blocks fits these blocks.
* `StepTable.Fits.turnsAt_again` — a repeat run turns where the run before it turned.
* `StepTable.Plays.exists_of_turns` — what each block keeps holds of what a snapshot shows.
* `StepTable.Plays.state?_eq_after` — without draws, a snapshot shows each actor after its own blocks.
-/

namespace Marionette

/-! ### Lanes -/

theorem nodup_eraseDups {α : Type} [DecidableEq α] (as : List α) : as.eraseDups.Nodup := by
  induction h : as.length using Nat.strongRecOn generalizing as with
  | ind n ih =>
    cases as with
    | nil => exact List.nodup_nil
    | cons a as =>
      rw [List.eraseDups_cons, List.nodup_cons]
      refine ⟨by simp, ih _ ?_ _ rfl⟩
      exact h ▸ Nat.lt_succ_of_le (List.length_filter_le _ _)

theorem map_actor_lanesOf (blocks : List ActionBlock) (actors : List ActorId) :
    (lanesOf blocks actors).map (·.actor) = actors.eraseDups := by
  simp [lanesOf, Function.comp_def]

/-- Nobody has two lanes. -/
theorem nodup_actor_lanesOf (blocks : List ActionBlock) (actors : List ActorId) :
    ((lanesOf blocks actors).map (·.actor)).Nodup := by
  rw [map_actor_lanesOf]
  exact nodup_eraseDups actors

theorem mem_lanesOf_iff {blocks : List ActionBlock} {actors : List ActorId} {l : Lane} :
    l ∈ lanesOf blocks actors ↔ ∃ a ∈ actors, l = ⟨a, laneOf blocks a⟩ := by
  simp [lanesOf, eq_comm]

theorem laneOf_cons (b : ActionBlock) (blocks : List ActionBlock) (a : ActorId) :
    laneOf (b :: blocks) a = if b.target = some a then b :: laneOf blocks a else laneOf blocks a := by
  simp [laneOf, List.filter_cons]

theorem laneOf_append (blocks blocks' : List ActionBlock) (a : ActorId) :
    laneOf (blocks ++ blocks') a = laneOf blocks a ++ laneOf blocks' a :=
  List.filter_append ..

/-- Only the lanes of the listed actors matter. -/
theorem lanesOf_congr {blocks blocks' : List ActionBlock} {actors : List ActorId}
    (h : ∀ a ∈ actors, laneOf blocks a = laneOf blocks' a) :
    lanesOf blocks actors = lanesOf blocks' actors := by
  refine List.map_congr_left ?_
  intro a ha
  rw [h a (List.mem_eraseDups.mp ha)]

theorem length_le_longest {lanes : List Lane} {l : Lane} (h : l ∈ lanes) :
    l.blocks.length ≤ longest lanes := by
  induction lanes with
  | nil => cases h
  | cons m ms ih =>
    change _ ≤ max m.blocks.length (longest ms)
    rcases List.mem_cons.mp h with rfl | h
    · exact Nat.le_max_left _ _
    · exact Nat.le_trans (ih h) (Nat.le_max_right _ _)

theorem length_laneOf_le_longest (blocks : List ActionBlock) {actors : List ActorId} {a : ActorId}
    (h : a ∈ actors) : (laneOf blocks a).length ≤ longest (lanesOf blocks actors) :=
  length_le_longest (mem_lanesOf_iff.mpr ⟨a, h, rfl⟩)

/-- Whether the block with which an actor enters snapshot `step` is a repeat marker.  Nobody enters the
first snapshot with a block. -/
def Registry.repeatsAt (r : Registry) (blocks : List ActionBlock) (a : ActorId) : (step : Nat) → Bool
  | 0 => false
  | k + 1 => (laneOf blocks a)[k]?.any fun b => r.isRepeat b.action

theorem Registry.repeatsAt_congr {r : Registry} {blocks blocks' : List ActionBlock} {a : ActorId}
    (h : laneOf blocks a = laneOf blocks' a) (step : Nat) :
    r.repeatsAt blocks a step = r.repeatsAt blocks' a step := by
  cases step with
  | zero => rfl
  | succ k => rw [repeatsAt, repeatsAt, h]

theorem Registry.repeatsAt_bounds {r : Registry} {blocks : List ActionBlock} {a : ActorId} {step : Nat}
    (h : r.repeatsAt blocks a step = true) : 0 < step ∧ step ≤ (laneOf blocks a).length := by
  cases step with
  | zero => cases h
  | succ k =>
    obtain ⟨hb, -⟩ := (Option.any_eq_true_iff_get _ _).mp h
    exact ⟨Nat.succ_pos k, by simpa [Nat.succ_le_iff] using hb⟩

/-- Step `k` is the first at which a block of one of these actors is a repeat marker. -/
structure Registry.RepeatsFirst (r : Registry) (blocks : List ActionBlock) (actors : List ActorId)
    (k : Nat) : Prop where
  here : ∃ a ∈ actors, r.repeatsAt blocks a k = true
  before : ∀ j < k, ∀ a ∈ actors, r.repeatsAt blocks a j = false

/-! ### Tables and their blocks -/

namespace StepTable

/-- Size, actors and repeat sets of a table are those of its blocks and its listed actors. -/
structure Fits (t : StepTable) (r : Registry) (blocks : List ActionBlock) (actors : List ActorId) :
    Prop where
  size_eq : t.size =
    if longest (lanesOf blocks actors) = 0 then 0 else longest (lanesOf blocks actors) + 1
  isSome_state?_iff : ∀ k s, t.snapshot? k = some s → ∀ a, (s.state? a).isSome ↔ a ∈ actors
  repeaters_iff : ∀ k s, t.snapshot? k = some s → ∀ a,
    s.repeaters.contains a = true ↔ a ∈ actors ∧ r.repeatsAt blocks a k = true

variable {r : Registry} {around : Surroundings} {blocks blocks' : List ActionBlock}
  {actors : List ActorId} {seed : StateMap} {t t' : StepTable}

theorem Plays.fits (h : t.Plays r around (lanesOf blocks actors) seed) : t.Fits r blocks actors := by
  refine ⟨h.size_eq, ?_, ?_⟩
  · intro k s hs a
    rw [h.isSome_state?_iff hs, map_actor_lanesOf, List.mem_eraseDups]
  · intro k s hs a
    rw [h.repeaters_iff hs]
    cases k with
    | zero => simp [Registry.repeatsAt]
    | succ k =>
      constructor
      · rintro ⟨-, l, hl, rfl, hrep⟩
        obtain ⟨a, ha, rfl⟩ := mem_lanesOf_iff.mp hl
        exact ⟨ha, hrep⟩
      · rintro ⟨ha, hrep⟩
        exact ⟨Nat.succ_pos k, _, mem_lanesOf_iff.mpr ⟨a, ha, rfl⟩, rfl, hrep⟩

theorem plays_of_yields_recompile {set : ActorSet}
    (h : (recompile r around blocks seed set).Yields t) :
    t.Plays r around (lanesOf blocks set.keys) seed :=
  plays_of_yields_ofLanes (nodup_actor_lanesOf blocks set.keys) h

theorem plays_of_yields_compile (h : (compile r around blocks actors seed).Yields t) :
    t.Plays r around (lanesOf blocks actors) seed := by
  obtain ⟨u, hu, h⟩ := (Chance.yields_bind_iff _ _ _).mp h
  cases h
  have hplays := plays_of_yields_ofLanes (nodup_actor_lanesOf blocks actors) hu
  exact ⟨hplays.size_eq, hplays.first, hplays.next⟩

/-- Recompiling looks at no block of another actor. -/
theorem recompile_congr {set : ActorSet} (h : ∀ a ∈ set.keys, laneOf blocks a = laneOf blocks' a) :
    recompile r around blocks seed set = recompile r around blocks' seed set := by
  rw [recompile, recompile, lanesOf_congr h]

theorem isEmpty_eq_false_iff : t.isEmpty = false ↔ 0 < t.size := by
  rw [isEmpty, size, List.isEmpty_eq_false_iff, List.length_pos_iff]

/-- The index of the last snapshot. -/
def last (t : StepTable) : Nat := t.lastStep?.getD 0

theorem last_eq (t : StepTable) : t.last = t.size - 1 := by
  rw [last, lastStep?]
  rcases h : t.isEmpty with _ | _
  · rfl
  · rw [isEmpty, List.isEmpty_iff] at h
    simp [size, h]

namespace Fits

/-- A table with a snapshot at all has a second one. -/
theorem two_le_size (h : t.Fits r blocks actors) (hne : t.isEmpty = false) : 2 ≤ t.size := by
  rw [isEmpty_eq_false_iff] at hne
  have hsize := h.size_eq
  split at hsize <;> omega

theorem size_eq_of_pos (h : t.Fits r blocks actors) {a : ActorId} (ha : a ∈ actors)
    (hpos : 0 < (laneOf blocks a).length) : t.size = longest (lanesOf blocks actors) + 1 := by
  have := length_laneOf_le_longest blocks ha
  rw [h.size_eq, if_neg (by omega)]

/-- Every lane is over at the last snapshot. -/
theorem length_laneOf_le_last (h : t.Fits r blocks actors) {a : ActorId} (ha : a ∈ actors) :
    (laneOf blocks a).length ≤ t.last := by
  have hle := length_laneOf_le_longest blocks ha
  have hsize := h.size_eq
  rw [last_eq]
  split at hsize <;> omega

/-- Whoever is to start over has a block. -/
theorem laneOf_ne_nil (h : t.Fits r blocks actors) {k : Nat} {s : Snapshot}
    (hs : t.snapshot? k = some s) {a : ActorId} (ha : a ∈ s.repeaters.keys) :
    laneOf blocks a ≠ [] := by
  have hrep := ((h.repeaters_iff k s hs a).mp ((s.repeaters.mem_keys_iff_contains a).mp ha)).2
  obtain ⟨hpos, hle⟩ := Registry.repeatsAt_bounds hrep
  exact List.ne_nil_of_length_pos (by omega)

/-- Whoever is to start over takes part. -/
theorem mem_of_mem_repeaters (h : t.Fits r blocks actors) {k : Nat} {s : Snapshot}
    (hs : t.snapshot? k = some s) {a : ActorId} (ha : a ∈ s.repeaters.keys) : a ∈ actors :=
  ((h.repeaters_iff k s hs a).mp ((s.repeaters.mem_keys_iff_contains a).mp ha)).1

/-- A step at which nobody's block is a repeat marker sends nobody back. -/
theorem isEmpty_repeaters (h : t.Fits r blocks actors) {k : Nat}
    (hnone : ∀ a ∈ actors, r.repeatsAt blocks a k = false) {s : Snapshot} (hs : t.snapshot? k = some s) :
    s.repeaters.isEmpty = true := by
  rw [← Bool.not_eq_false, SortedMap.isEmpty_eq_false_iff]
  rintro ⟨a, ha⟩
  obtain ⟨hin, hrep⟩ := (h.repeaters_iff k s hs a).mp ((s.repeaters.mem_keys_iff_contains a).mp ha)
  exact absurd ((hnone a hin).symm.trans hrep) Bool.false_ne_true

/-- The first snapshot sends nobody back. -/
theorem repeaters_zero (h : t.Fits r blocks actors) {s : Snapshot} (hs : t.snapshot? 0 = some s) :
    s.repeaters.isEmpty = true :=
  h.isEmpty_repeaters (fun _ _ => rfl) hs

end Fits

/-! ### The step that repeats -/

/-- Step `k` is the first that sends actors back, and sends back those in `set`. -/
structure TurnsAt (t : StepTable) (k : Nat) (set : ActorSet) : Prop where
  trigger : ∃ s, t.snapshot? k = some s ∧ s.repeaters = set
  isEmpty_eq : set.isEmpty = false
  before : ∀ j s, j < k → t.snapshot? j = some s → s.repeaters.isEmpty = true

namespace TurnsAt

variable {k j : Nat} {set : ActorSet} {s : Snapshot}

theorem repeaters_eq (h : t.TurnsAt k set) (hs : t.snapshot? k = some s) : s.repeaters = set := by
  obtain ⟨s', hs', rfl⟩ := h.trigger
  rw [Option.some.inj (hs.symm.trans hs')]

theorem lt_of_isEmpty (h : t.TurnsAt k set) (hs : t.snapshot? j = some s) (hj : j ≤ k)
    (hempty : s.repeaters.isEmpty = true) : j < k := by
  refine Nat.lt_of_le_of_ne hj ?_
  rintro rfl
  rw [h.repeaters_eq hs, h.isEmpty_eq] at hempty
  cases hempty

theorem eq_of_isEmpty_eq_false (h : t.TurnsAt k set) (hs : t.snapshot? j = some s) (hj : j ≤ k)
    (hrep : s.repeaters.isEmpty = false) : j = k := by
  rcases Nat.lt_or_eq_of_le hj with hlt | rfl
  · rw [h.before j s hlt hs] at hrep
    cases hrep
  · rfl

theorem le_last (h : t.TurnsAt k set) : k ≤ t.last := by
  obtain ⟨s, hs, -⟩ := h.trigger
  have := lt_size_of_snapshot? hs
  rw [last_eq]
  omega

end TurnsAt

/-- A table turns somewhere, or it sends nobody back. -/
theorem exists_turnsAt_or (t : StepTable) : (∃ k set, t.TurnsAt k set) ∨
    ∀ j s, t.snapshot? j = some s → s.repeaters.isEmpty = true := by
  classical
  by_cases h : ∃ j s, t.snapshot? j = some s ∧ s.repeaters.isEmpty = false
  · left
    obtain ⟨s, hs, hrep⟩ := Nat.find_spec h
    refine ⟨Nat.find h, s.repeaters, ⟨s, hs, rfl⟩, hrep, ?_⟩
    intro j s' hj hs'
    rw [← Bool.not_eq_false]
    intro hrep'
    exact Nat.find_min h hj ⟨s', hs', hrep'⟩
  · right
    intro j s hs
    rw [← Bool.not_eq_false]
    intro hrep
    exact h ⟨j, s, hs, hrep⟩

namespace Fits

variable {k : Nat} {set : ActorSet}

/-- The first step that sends actors back is not the first snapshot. -/
theorem turn_pos (h : t.Fits r blocks actors) (hturn : t.TurnsAt k set) : 0 < k := by
  refine Nat.pos_of_ne_zero ?_
  rintro rfl
  obtain ⟨s, hs, rfl⟩ := hturn.trigger
  exact absurd (hturn.isEmpty_eq.symm.trans (h.repeaters_zero hs)) Bool.false_ne_true

/-- A table turns at the first step at which there is a repeat marker, and sends back whose it is. -/
theorem exists_turnsAt (h : t.Fits r blocks actors) (hfirst : r.RepeatsFirst blocks actors k) :
    ∃ set, t.TurnsAt k set ∧
      ∀ a, set.contains a = true ↔ a ∈ actors ∧ r.repeatsAt blocks a k = true := by
  obtain ⟨a, ha, hrep⟩ := hfirst.here
  obtain ⟨hpos, hle⟩ := Registry.repeatsAt_bounds hrep
  have hk : k < t.size := by
    rw [h.size_eq_of_pos ha (Nat.lt_of_lt_of_le hpos hle)]
    exact Nat.lt_succ_of_le (Nat.le_trans hle (length_laneOf_le_longest blocks ha))
  obtain ⟨s, hs⟩ := lt_size_iff.mp hk
  have hback := h.repeaters_iff k s hs
  refine ⟨s.repeaters, ⟨⟨s, hs, rfl⟩, ?_, ?_⟩, hback⟩
  · exact (SortedMap.isEmpty_eq_false_iff _).mpr
      ⟨a, (s.repeaters.mem_keys_iff_contains a).mpr ((hback a).mpr ⟨ha, hrep⟩)⟩
  · intro j s' hj hs'
    exact h.isEmpty_repeaters (hfirst.before j hj) hs'

theorem contains_iff (h : t.Fits r blocks actors) (hturn : t.TurnsAt k set) (a : ActorId) :
    set.contains a = true ↔ a ∈ actors ∧ r.repeatsAt blocks a k = true := by
  obtain ⟨s, hs, rfl⟩ := hturn.trigger
  exact h.repeaters_iff k s hs a

/-- Where a table turns, there is the first repeat marker. -/
theorem repeatsFirst (h : t.Fits r blocks actors) (hturn : t.TurnsAt k set) :
    r.RepeatsFirst blocks actors k := by
  constructor
  · obtain ⟨a, ha⟩ := (SortedMap.isEmpty_eq_false_iff _).mp hturn.isEmpty_eq
    exact ⟨a, (h.contains_iff hturn a).mp ((set.mem_keys_iff_contains a).mp ha)⟩
  · intro j hj a ha
    obtain ⟨s, hs, -⟩ := hturn.trigger
    obtain ⟨s', hs'⟩ := lt_size_iff.mp (Nat.lt_trans hj (lt_size_of_snapshot? hs))
    rw [Bool.eq_false_iff]
    intro hrep
    refine absurd (hturn.before j s' hj hs') ?_
    rw [Bool.not_eq_true, SortedMap.isEmpty_eq_false_iff]
    exact ⟨a, (s'.repeaters.mem_keys_iff_contains a).mpr ((h.repeaters_iff j s' hs' a).mpr ⟨ha, hrep⟩)⟩

/-- An actor that a step sends back is sent back at the same step of every table with its lane. -/
theorem exists_repeaters (h : t.Fits r blocks actors) {k : Nat} {s : Snapshot}
    (hs : t.snapshot? k = some s) {a : ActorId} (ha : a ∈ s.repeaters.keys)
    {actors' : List ActorId} (h' : t'.Fits r blocks' actors') (ha' : a ∈ actors')
    (hlane : laneOf blocks' a = laneOf blocks a) :
    ∃ s', t'.snapshot? k = some s' ∧ a ∈ s'.repeaters.keys := by
  have hrep := ((h.repeaters_iff k s hs a).mp ((s.repeaters.mem_keys_iff_contains a).mp ha)).2
  rw [← Registry.repeatsAt_congr hlane] at hrep
  obtain ⟨hpos, hle⟩ := Registry.repeatsAt_bounds hrep
  have hk : k < t'.size := by
    rw [h'.size_eq_of_pos ha' (Nat.lt_of_lt_of_le hpos hle)]
    exact Nat.lt_succ_of_le (Nat.le_trans hle (length_laneOf_le_longest blocks' ha'))
  obtain ⟨s', hs'⟩ := lt_size_iff.mp hk
  exact ⟨s', hs', (s'.repeaters.mem_keys_iff_contains a).mpr ((h'.repeaters_iff k s' hs' a).mpr ⟨ha', hrep⟩)⟩

/-- **The step that repeats comes back.**  The table of those that were sent back, compiled alone from
blocks with the same lanes, sends all of them back at the same step. -/
theorem turnsAt_again (h : t.Fits r blocks actors) (hturn : t.TurnsAt k set)
    (h' : t'.Fits r blocks' set.keys)
    (hlanes : ∀ a ∈ set.keys, laneOf blocks' a = laneOf blocks a) : t'.TurnsAt k set := by
  have hfirst := h.repeatsFirst hturn
  have hmem : ∀ a ∈ set.keys, a ∈ actors ∧ r.repeatsAt blocks a k = true := fun a ha =>
    (h.contains_iff hturn a).mp ((set.mem_keys_iff_contains a).mp ha)
  have hrep : ∀ a ∈ set.keys, r.repeatsAt blocks' a k = true := fun a ha => by
    rw [Registry.repeatsAt_congr (hlanes a ha)]
    exact (hmem a ha).2
  have hfirst' : r.RepeatsFirst blocks' set.keys k := by
    constructor
    · obtain ⟨a, ha⟩ := (SortedMap.isEmpty_eq_false_iff _).mp hturn.isEmpty_eq
      exact ⟨a, ha, hrep a ha⟩
    · intro j hj a ha
      rw [Registry.repeatsAt_congr (hlanes a ha)]
      exact hfirst.before j hj a (hmem a ha).1
  obtain ⟨set', hturn', hset'⟩ := h'.exists_turnsAt hfirst'
  obtain rfl : set' = set := KeySet.ext_contains fun a => by
    rw [hset', ← SortedMap.mem_keys_iff_contains]
    exact ⟨fun ha => ha.1, fun ha => ⟨ha, hrep a ha⟩⟩
  exact hturn'

end Fits

end StepTable

/-- What holds of the state that an actor begins with, and is kept by each of its blocks, holds of the state
that a snapshot shows it in. -/
theorem StepTable.Plays.exists_of_turns {r : Registry} {around : Surroundings} {blocks : List ActionBlock}
    {actors : List ActorId} {seed : StateMap} {t : StepTable}
    (h : t.Plays r around (lanesOf blocks actors) seed) {a : ActorId} (ha : a ∈ actors)
    {I : Nat → ActorState → Prop} (hfirst : I 0 ((seed.get? a).getD default))
    (hturn : ∀ k before after, I k before → (r.turn around a before (laneOf blocks a)[k]?).Yields after →
      I (k + 1) after) {k : Nat} {s : Snapshot} (hs : t.snapshot? k = some s) :
    ∃ state, s.state? a = some state ∧ I k state := by
  refine h.induction (I := fun k s => ∃ state, s.state? a = some state ∧ I k state) ?_ ?_ k s hs
  · refine ⟨_, ?_, hfirst⟩
    rw [Snapshot.state?_start, map_actor_lanesOf, if_pos (List.mem_eraseDups.mpr ha)]
  · rintro k s s' ⟨before, hbefore, hI⟩ hnext
    obtain ⟨after, hafter, hyields⟩ := hnext.exists_state (mem_lanesOf_iff.mpr ⟨a, ha, rfl⟩) hbefore
    exact ⟨after, hafter, hturn k before after hI hyields⟩

/-! ### Blocks that draw nothing -/

namespace Registry

/-- None of the blocks draws. -/
def Still (r : Registry) (around : Surroundings) (blocks : List ActionBlock) : Prop :=
  ∀ b ∈ blocks, ∀ action, r.find? b.action = some action →
    ∀ actor s, ∃ s', action.transition around actor s = .done s'

/-- The state of an actor after some blocks, one after the other, where a draw counts as 0.  A block of an
unknown kind leaves it. -/
def after (r : Registry) (around : Surroundings) (actor : ActorId) (blocks : List ActionBlock)
    (s : ActorState) : ActorState :=
  blocks.foldl (fun s b => (r.turn around actor s (some b)).value) s

theorem after_concat (r : Registry) (around : Surroundings) (actor : ActorId)
    (blocks : List ActionBlock) (b : ActionBlock) (s : ActorState) :
    r.after around actor (blocks ++ [b]) s =
      (r.turn around actor (r.after around actor blocks s) (some b)).value := by
  rw [after, after, List.foldl_append]
  rfl

theorem turn_of_still {r : Registry} {around : Surroundings} {blocks : List ActionBlock}
    (h : r.Still around blocks) {b : ActionBlock} (hb : b ∈ blocks) (actor : ActorId) (s : ActorState) :
    r.turn around actor s (some b) = .done (r.turn around actor s (some b)).value := by
  rw [turn, perform?]
  rcases hfind : r.find? b.action with _ | action
  · rfl
  · obtain ⟨s', hs'⟩ := h b hb action hfind actor s
    simp [hs']

end Registry

/-- Without draws, every snapshot shows each actor after its own blocks so far. -/
theorem StepTable.Plays.state?_eq_after {r : Registry} {around : Surroundings}
    {blocks : List ActionBlock} {actors : List ActorId} {seed : StateMap} {t : StepTable}
    (h : t.Plays r around (lanesOf blocks actors) seed) (hstill : r.Still around blocks) {k : Nat}
    {s : Snapshot} (hs : t.snapshot? k = some s) {a : ActorId} (ha : a ∈ actors) :
    s.state? a =
      some (r.after around a ((laneOf blocks a).take k) ((seed.get? a).getD default)) := by
  have hturn : ∀ k before after,
      before = r.after around a ((laneOf blocks a).take k) ((seed.get? a).getD default) →
      (r.turn around a before (laneOf blocks a)[k]?).Yields after →
      after = r.after around a ((laneOf blocks a).take (k + 1)) ((seed.get? a).getD default) := by
    rintro k _ after rfl hyields
    rcases hb : (laneOf blocks a)[k]? with _ | b
    · rw [hb] at hyields
      rw [hyields, List.take_of_length_le (by simpa using hb),
        List.take_of_length_le (by have : (laneOf blocks a).length ≤ k := by simpa using hb
                                   omega)]
    · rw [hb, Registry.turn_of_still hstill (List.mem_filter.mp (List.mem_of_getElem? hb)).1]
        at hyields
      rw [hyields, List.take_add_one, hb, Option.toList_some, Registry.after_concat]
  obtain ⟨state, hstate, rfl⟩ := h.exists_of_turns ha rfl hturn hs
  exact hstate

end Marionette

import Marionette.Proofs.Chance
import Marionette.Proofs.SortedMap
import Marionette.StepTable.Compile
import Mathlib.Logic.Basic

/-!
# The steps of a compiled table

A step lets every lane move once.  What one turn does to a snapshot, what all turns of a step do, and what
all steps of a table do is the same relation, composed.  It holds of every table that compiling can yield,
whatever is drawn, and is all that later modules know of the compiler.

## Main definitions

* `Registry.turn` — what a block makes of its actor's state.
* `Snapshot.Moved` — some lanes have had their turn in a step.
* `Snapshot.Follows` — a snapshot is one step after another.
* `StepTable.Plays` — a table shows some lanes from their start to the end of the longest.

## Main results

* `Snapshot.follows_of_yields_next` — a compiled step is a step.
* `StepTable.plays_of_yields_ofLanes` — a compiled table plays its lanes.
* `StepTable.Plays.induction` — what holds at the start and is kept by each step holds in every snapshot.
-/

namespace Marionette

/-- What a block, if there is one, makes of its actor's state.  A block of an unknown kind leaves it. -/
def Registry.turn (r : Registry) (around : Surroundings) (actor : ActorId) (s : ActorState) :
    Option ActionBlock → Chance ActorState
  | none => .done s
  | some b => (r.perform? around b.action actor s).getD (.done s)

/-- Whether the block that a lane has at index `k` is a repeat marker. -/
def Lane.repeatsIn (r : Registry) (l : Lane) (k : Nat) : Bool := l.blocks[k]?.any fun b => r.isRepeat b.action

/-! ### Turns -/

namespace Snapshot

/-- Some lanes have had their turn in the step at index `k`: `s` has become `s'`.  All of them have read
`prior`. -/
structure Moved (r : Registry) (around : Surroundings) (lanes : List Lane) (k : Nat)
    (prior s s' : Snapshot) : Prop where
  /-- Actors of other lanes keep their states. -/
  others : ∀ a, a ∉ lanes.map (·.actor) → s'.state? a = s.state? a
  /-- The actor of a lane does its block. -/
  own : ∀ l ∈ lanes, ∀ before, prior.state? l.actor = some before → s.state? l.actor = some before →
    ∃ after, s'.state? l.actor = some after ∧
      (r.turn around l.actor before l.blocks[k]?).Yields after
  /-- Those whose block is a repeat marker are to start over. -/
  repeaters : ∀ a, s'.repeaters.contains a = true ↔
    s.repeaters.contains a = true ∨ ∃ l ∈ lanes, l.actor = a ∧ l.repeatsIn r k = true

variable {r : Registry} {around : Surroundings} {k : Nat} {prior s s' : Snapshot}

theorem Moved.nil : Moved r around [] k prior s s := ⟨by simp, by simp, by simp⟩

/-- Turns of different actors compose. -/
theorem Moved.cons {l : Lane} {ls : List Lane} {s'' : Snapshot} (hl : l.actor ∉ ls.map (·.actor))
    (h : Moved r around [l] k prior s s') (hs : Moved r around ls k prior s' s'') :
    Moved r around (l :: ls) k prior s s'' := by
  constructor
  · intro a ha
    rw [List.map_cons, List.mem_cons, not_or] at ha
    rw [hs.others a ha.2, h.others a (by simpa using ha.1)]
  · intro m hm before hprior hbefore
    rcases List.mem_cons.mp hm with rfl | hm
    · obtain ⟨after, hafter, hturn⟩ := h.own m List.mem_cons_self before hprior hbefore
      exact ⟨after, by rw [hs.others _ hl, hafter], hturn⟩
    · have hne : m.actor ≠ l.actor := fun he => hl (he ▸ List.mem_map_of_mem hm)
      refine hs.own m hm before hprior ?_
      rw [h.others _ (by simpa using hne), hbefore]
  · intro a
    rw [hs.repeaters, h.repeaters]
    simp [or_assoc]

end Snapshot

/-- A lane that runs out of blocks, or whose block is of an unknown kind, leaves the snapshot as it was. -/
theorem Snapshot.Moved.of_idle {r : Registry} {around : Surroundings} {l : Lane} {k : Nat}
    {prior : Snapshot} (s : Snapshot)
    (hturn : ∀ before, r.turn around l.actor before l.blocks[k]? = .done before)
    (hrepeats : l.repeatsIn r k = false) : Moved r around [l] k prior s s := by
  refine ⟨fun _ _ => rfl, ?_, fun a => by simp [hrepeats]⟩
  intro m hm before _ hbefore
  rw [List.mem_singleton.mp hm] at hbefore ⊢
  exact ⟨before, hbefore, by rw [hturn]; rfl⟩

/-- A turn moves its lane. -/
theorem Lane.moved_of_yields_act {r : Registry} {around : Surroundings} {l : Lane} {k : Nat}
    {prior : Snapshot} {t t' : Turn} (hprior : (prior.state? l.actor).isSome)
    (h : (l.act r around prior (k + 1) t).Yields t') :
    Snapshot.Moved r around [l] k prior t.snapshot t'.snapshot := by
  obtain ⟨before, hbefore⟩ := Option.isSome_iff_exists.mp hprior
  rw [act, Nat.add_sub_cancel] at h
  rcases hb : l.blocks[k]? with _ | b
  · rw [hb] at h
    cases h
    exact .of_idle _ (by simp [hb, Registry.turn]) (by simp [repeatsIn, hb])
  · rw [hb, hbefore] at h
    dsimp only [Option.getD_some] at h
    rcases hc : r.perform? around b.action l.actor before with _ | change
    · rw [hc] at h
      cases h
      have hnone : r.find? b.action = none := by simpa [Registry.perform?] using hc
      exact .of_idle _ (by simp [hb, Registry.turn, Registry.perform?, hnone])
        (by simp [repeatsIn, hb, Registry.isRepeat, hnone])
    · rw [hc] at h
      obtain ⟨after, hafter, h⟩ := (Chance.yields_bind_iff _ _ _).mp h
      cases h
      constructor
      · intro a ha
        exact SortedMap.get?_insert_of_ne _ _ (by simpa using ha)
      · intro m hm before' hbefore' _
        obtain rfl := List.mem_singleton.mp hm
        obtain rfl := Option.some.inj (hbefore.symm.trans hbefore')
        refine ⟨after, SortedMap.get?_insert_self _ _ _, ?_⟩
        simpa [hb, Registry.turn, hc] using hafter
      · intro a
        rcases hrep : r.isRepeat b.action with _ | _
        · simp [repeatsIn, hb, hrep]
        · simp only [if_true, SortedMap.contains_insert_iff]
          simp [repeatsIn, hb, hrep, or_comm, eq_comm (a := a)]

/-! ### Steps -/

namespace Snapshot

variable {r : Registry} {around : Surroundings} {lanes : List Lane} {k : Nat} {prior s : Snapshot}

/-- `s` comes after `prior` in the step at index `k`: every lane has moved, and nobody else is to start
over. -/
def Follows (s : Snapshot) (r : Registry) (around : Surroundings) (lanes : List Lane) (k : Nat)
    (prior : Snapshot) : Prop :=
  Moved r around lanes k prior { states := prior.states } s

theorem Follows.repeaters_iff (h : s.Follows r around lanes k prior) (a : ActorId) :
    s.repeaters.contains a = true ↔ ∃ l ∈ lanes, l.actor = a ∧ l.repeatsIn r k = true := by
  rw [Moved.repeaters h]
  simp [SortedMap.contains]

theorem Follows.exists_state (h : s.Follows r around lanes k prior) {l : Lane} (hl : l ∈ lanes)
    {before : ActorState} (hbefore : prior.state? l.actor = some before) :
    ∃ after, s.state? l.actor = some after ∧ (r.turn around l.actor before l.blocks[k]?).Yields after :=
  Moved.own h l hl before hbefore hbefore

/-- A step neither adds nor removes actors. -/
theorem Follows.isSome_state?_iff (h : s.Follows r around lanes k prior)
    (hprior : ∀ l ∈ lanes, (prior.state? l.actor).isSome) (a : ActorId) :
    (s.state? a).isSome ↔ (prior.state? a).isSome := by
  by_cases ha : a ∈ lanes.map (·.actor)
  · obtain ⟨l, hl, rfl⟩ := List.mem_map.mp ha
    obtain ⟨before, hbefore⟩ := Option.isSome_iff_exists.mp (hprior l hl)
    obtain ⟨after, hafter, -⟩ := h.exists_state hl hbefore
    simp [hbefore, hafter]
  · rw [Moved.others h a ha]
    rfl

theorem moved_of_yields_foldlM {t t' : Turn} (hnodup : (lanes.map (·.actor)).Nodup)
    (hprior : ∀ l ∈ lanes, (prior.state? l.actor).isSome)
    (h : (lanes.foldlM (fun t (l : Lane) => l.act r around prior (k + 1) t) t).Yields t') :
    Moved r around lanes k prior t.snapshot t'.snapshot := by
  induction lanes generalizing t with
  | nil =>
    cases h
    exact .nil
  | cons l ls ih =>
    rw [List.foldlM_cons] at h
    obtain ⟨u, hu, h⟩ := (Chance.yields_bind_iff _ _ _).mp h
    rw [List.map_cons, List.nodup_cons] at hnodup
    exact Moved.cons hnodup.1 (Lane.moved_of_yields_act (hprior l List.mem_cons_self) hu)
      (ih hnodup.2 (fun m hm => hprior m (List.mem_cons_of_mem _ hm)) h)

/-- **A compiled step is a step.** -/
theorem follows_of_yields_next {t : Turn} (hnodup : (lanes.map (·.actor)).Nodup)
    (hprior : ∀ l ∈ lanes, (prior.state? l.actor).isSome)
    (h : (next r around lanes (k + 1) prior).Yields t) : t.snapshot.Follows r around lanes k prior :=
  moved_of_yields_foldlM hnodup hprior h

/-- The compiled snapshots after `prior` are as many as asked for, and each is one step after the one
before it. -/
theorem follows_of_yields_following {count : Nat} {out : List Snapshot × List SkippedBlock}
    (hnodup : (lanes.map (·.actor)).Nodup) (hprior : ∀ l ∈ lanes, (prior.state? l.actor).isSome)
    (h : (following r around lanes count (k + 1) prior).Yields out) :
    out.1.length = count ∧ ∀ j (s s' : Snapshot), (prior :: out.1)[j]? = some s →
      out.1[j]? = some s' → s'.Follows r around lanes (k + j) s := by
  induction count generalizing k prior out with
  | zero =>
    cases h
    simp
  | succ count ih =>
    rw [following] at h
    obtain ⟨t, ht, h⟩ := (Chance.yields_bind_iff _ _ _).mp h
    obtain ⟨⟨rest, skipped⟩, hrest, h⟩ := (Chance.yields_bind_iff _ _ _).mp h
    cases h
    have hstep := follows_of_yields_next hnodup hprior ht
    obtain ⟨hlength, hfollows⟩ :=
      ih (fun l hl => (hstep.isSome_state?_iff hprior _).mpr (hprior l hl)) hrest
    refine ⟨by simp [hlength], ?_⟩
    intro j s s' hs hs'
    cases j with
    | zero =>
      cases hs
      cases hs'
      exact hstep
    | succ j =>
      rw [show k + (j + 1) = k + 1 + j by omega]
      exact hfollows j s s' hs hs'

theorem state?_start (lanes : List Lane) (seed : StateMap) (a : ActorId) :
    (start lanes seed).state? a =
      if a ∈ lanes.map (·.actor) then some ((seed.get? a).getD default) else none := by
  have h := SortedMap.get?_ofList_map (fun a => (seed.get? a).getD default) (lanes.map (·.actor)) a
  rwa [List.map_map] at h

end Snapshot

/-! ### Tables -/

namespace StepTable

variable {r : Registry} {around : Surroundings} {lanes : List Lane} {seed : StateMap} {t : StepTable}

/-- The table shows the lanes from their start to the end of the longest, and is empty when no lane has a
block. -/
structure Plays (r : Registry) (around : Surroundings) (lanes : List Lane) (seed : StateMap)
    (t : StepTable) : Prop where
  size_eq : t.size = if longest lanes = 0 then 0 else longest lanes + 1
  first : ∀ s, t.snapshot? 0 = some s → s = Snapshot.start lanes seed
  next : ∀ k s s', t.snapshot? k = some s → t.snapshot? (k + 1) = some s' →
    s'.Follows r around lanes k s

/-- **A compiled table plays its lanes.** -/
theorem plays_of_yields_ofLanes (hnodup : (lanes.map (·.actor)).Nodup)
    (h : (ofLanes r around lanes seed).Yields t) : t.Plays r around lanes seed := by
  rw [ofLanes] at h
  rcases hlong : longest lanes with _ | count
  · rw [hlong] at h
    cases h
    exact ⟨by simp [hlong, size], by simp [snapshot?], by simp [snapshot?]⟩
  · rw [hlong] at h
    obtain ⟨⟨rest, skipped⟩, hrest, h⟩ := (Chance.yields_bind_iff _ _ _).mp h
    cases h
    have hstart : ∀ l ∈ lanes, ((Snapshot.start lanes seed).state? l.actor).isSome := fun l hl => by
      rw [Snapshot.state?_start, if_pos (List.mem_map_of_mem hl)]
      rfl
    obtain ⟨hlength, hfollows⟩ := Snapshot.follows_of_yields_following hnodup hstart hrest
    refine ⟨by simp [hlong, size, hlength], ?_, ?_⟩
    · intro s hs
      exact (Option.some.inj hs).symm
    · intro k s s' hs hs'
      simpa using hfollows k s s' hs hs'

theorem lt_size_iff {k : Nat} : k < t.size ↔ ∃ s, t.snapshot? k = some s := by
  rw [← Option.isSome_iff_exists, snapshot?, size]
  simp

theorem lt_size_of_snapshot? {k : Nat} {s : Snapshot} (h : t.snapshot? k = some s) : k < t.size :=
  lt_size_iff.mpr ⟨s, h⟩

/-- What holds at the start and is kept by each step holds in every snapshot. -/
theorem Plays.induction {I : Nat → Snapshot → Prop} (h : t.Plays r around lanes seed)
    (hstart : I 0 (Snapshot.start lanes seed))
    (hstep : ∀ k s s', I k s → s'.Follows r around lanes k s → I (k + 1) s') :
    ∀ k s, t.snapshot? k = some s → I k s := by
  intro k
  induction k with
  | zero =>
    intro s hs
    rw [h.first s hs]
    exact hstart
  | succ k ih =>
    intro s' hs'
    obtain ⟨s, hs⟩ := lt_size_iff.mp (Nat.lt_of_succ_lt (lt_size_of_snapshot? hs'))
    exact hstep k s s' (ih s hs) (h.next k s s' hs hs')

/-- Every snapshot has the actors of the lanes. -/
theorem Plays.isSome_state?_iff (h : t.Plays r around lanes seed) {k : Nat} {s : Snapshot}
    (hs : t.snapshot? k = some s) (a : ActorId) :
    (s.state? a).isSome ↔ a ∈ lanes.map (·.actor) := by
  refine h.induction (I := fun _ s => ∀ a, (s.state? a).isSome ↔ a ∈ lanes.map (·.actor))
    ?_ ?_ k s hs a
  · intro a
    rw [Snapshot.state?_start]
    split <;> simp_all
  · intro k s s' hs hnext a
    rw [hnext.isSome_state?_iff fun l hl => (hs _).mpr (List.mem_map_of_mem hl)]
    exact hs a

/-- The repeat set of a snapshot: nobody at the start, and then whose last block is a repeat marker. -/
theorem Plays.repeaters_iff (h : t.Plays r around lanes seed) {k : Nat} {s : Snapshot}
    (hs : t.snapshot? k = some s) (a : ActorId) :
    s.repeaters.contains a = true ↔
      0 < k ∧ ∃ l ∈ lanes, l.actor = a ∧ l.repeatsIn r (k - 1) = true := by
  cases k with
  | zero =>
    rw [h.first s hs]
    simp [Snapshot.start, SortedMap.contains]
  | succ k =>
    obtain ⟨s₀, hs₀⟩ := lt_size_iff.mp (Nat.lt_of_succ_lt (lt_size_of_snapshot? hs))
    rw [(h.next k s₀ s hs₀ hs).repeaters_iff a]
    simp

end StepTable

end Marionette

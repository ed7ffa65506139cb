import Marionette.Proofs.StepTable.Columns
import Mathlib.Data.List.Nodup

/-!
# What becomes of every block

Compiling sorts the blocks of a flow into lanes and carries the lanes out step by step.  No block is lost on
the way and none is used twice.  A block that nobody on the list is to do, or whose kind nobody knows, leaves
one note.  Every other block is done once: by the actor of its lane, and in the step that is its place in the
lane.

This can be told in two orders.  `fates` goes through the blocks as they stand in the flow and says of each
what becomes of it.  `programme` goes through the steps and, in each, through the actors, which is the order in
which things happen.  Both name the same cues.

## Main definitions

* `Cue` — a block whose turn it is; `Cue.Before` — the order in which cues come.
* `Fate`, `fates` — what becomes of the blocks of a flow.
* `programme` — the cues of some steps, in order.

## Main results

* `mem_cues_iff`, `mem_programme_iff` — in either order the cues are the places of the lanes.
* `notes_perm` — a note is on a block of nobody on the list or on one of an unknown kind.
* `pairwise_programme` — the programme is in order.
* `programme_perm` — the blocks of listed actors come up once each.
-/

namespace Marionette

/-! ### Fates -/

/-- A block whose turn it is: an actor does it, and it makes a snapshot. -/
structure Cue where
  block : ActionBlock
  actor : ActorId
  /-- The index of the snapshot. -/
  step : Nat
  deriving DecidableEq, Repr

namespace Cue

/-- The note on a block whose kind is not registered. -/
def note (c : Cue) : SkippedBlock :=
  { block := c.block.id, action := c.block.action, target := some c.actor, step := some c.step,
    reason := .unknownAction }

/-- Earlier steps come first, and within a step the actors that are listed first. -/
def Before (actors : List ActorId) (c c' : Cue) : Prop :=
  c.step < c'.step ∨ c.step = c'.step ∧ actors.idxOf c.actor < actors.idxOf c'.actor

theorem Before.ne {actors : List ActorId} {c c' : Cue} (h : c.Before actors c') : c ≠ c' := by
  rintro rfl
  rcases h with h | ⟨-, h⟩
  · exact Nat.lt_irrefl _ h
  · exact Nat.lt_irrefl _ h

end Cue

/-- Whether the kind of the block is registered. -/
def Registry.knows (r : Registry) (c : Cue) : Bool := r.contains c.block.action

/-- What becomes of a block. -/
inductive Fate
  /-- It has no target. -/
  | unassigned (block : ActionBlock)
  /-- Its target is not listed. -/
  | foreign (block : ActionBlock) (actor : ActorId)
  /-- Its target is listed, but its kind is not registered. -/
  | unknown (cue : Cue)
  /-- Its actor does it. -/
  | performed (cue : Cue)

namespace Fate

/-- The note that a block leaves. -/
def note? : Fate → Option SkippedBlock
  | unassigned b =>
    some { block := b.id, action := b.action, target := none, step := none, reason := .unassigned }
  | foreign b a =>
    some { block := b.id, action := b.action, target := some a, step := none, reason := .unknownActor }
  | unknown c => some c.note
  | performed _ => none

/-- The cue of a block that is done. -/
def performed? : Fate → Option Cue
  | performed c => some c
  | _ => none

/-- The cue of a block of an unknown kind. -/
def unknown? : Fate → Option Cue
  | unknown c => some c
  | _ => none

/-- The cue of a block that has one. -/
def cue? : Fate → Option Cue
  | unknown c => some c
  | performed c => some c
  | _ => none

end Fate

/-- What becomes of a block that stands after `earlier` ones.  The first block of a lane makes the first
snapshot after the start. -/
def fateOf (r : Registry) (actors : List ActorId) (earlier : List ActionBlock) (b : ActionBlock) : Fate :=
  match b.target with
  | none => .unassigned b
  | some a =>
    if a ∈ actors then
      let cue : Cue := { block := b, actor := a, step := (laneOf earlier a).length + 1 }
      if r.contains b.action then .performed cue else .unknown cue
    else .foreign b a

/-- What becomes of some blocks that stand after `earlier` ones. -/
def fatesFrom (r : Registry) (actors : List ActorId) :
    (earlier : List ActionBlock) → List ActionBlock → List Fate
  | _, [] => []
  | earlier, b :: rest => fateOf r actors earlier b :: fatesFrom r actors (earlier ++ [b]) rest

/-- What becomes of the blocks of a flow, in the order of the flow. -/
def fates (r : Registry) (actors : List ActorId) (blocks : List ActionBlock) : List Fate :=
  fatesFrom r actors [] blocks

variable {r : Registry} {actors : List ActorId} {earlier blocks : List ActionBlock} {b : ActionBlock}
  {a : ActorId} {c : Cue}

/-- A block of a listed actor has a cue, after those of the earlier blocks of this actor. -/
theorem cue?_fateOf (htarget : b.target = some a) (ha : a ∈ actors) :
    (fateOf r actors earlier b).cue? =
      some { block := b, actor := a, step := (laneOf earlier a).length + 1 } := by
  rw [fateOf, htarget]
  dsimp only
  rw [if_pos ha]
  split <;> rfl

/-- A block of nobody on the list leaves its note and has no cue. -/
theorem fateOf_of_forall_ne (r : Registry) (earlier : List ActionBlock)
    (h : ∀ a ∈ actors, b.target ≠ some a) :
    (fateOf r actors earlier b).cue? = none ∧
      (fateOf r actors earlier b).note? = StepTable.foreignNote? actors b := by
  rw [fateOf, StepTable.foreignNote?]
  rcases htarget : b.target with _ | a
  · exact ⟨rfl, rfl⟩
  · have ha : a ∉ actors := fun ha => h a ha htarget
    dsimp only
    rw [if_neg ha, if_neg ha]
    exact ⟨rfl, rfl⟩

theorem cue?_fateOf_eq_some_iff : (fateOf r actors earlier b).cue? = some c ↔
    b.target = some c.actor ∧ c.actor ∈ actors ∧ c.block = b ∧
      c.step = (laneOf earlier c.actor).length + 1 := by
  by_cases h : ∃ a ∈ actors, b.target = some a
  · obtain ⟨a, ha, htarget⟩ := h
    rw [cue?_fateOf htarget ha, htarget]
    constructor
    · intro h
      cases h
      exact ⟨rfl, ha, rfl, rfl⟩
    · obtain ⟨block, actor, step⟩ := c
      rintro ⟨hactor, -, hblock, hstep⟩
      cases hactor
      rw [Option.some.injEq, Cue.mk.injEq]
      exact ⟨hblock.symm, rfl, hstep.symm⟩
  · rw [(fateOf_of_forall_ne r earlier fun a ha htarget => h ⟨a, ha, htarget⟩).1]
    constructor
    · intro h
      cases h
    · rintro ⟨htarget, ha, -⟩
      exact absurd ⟨c.actor, ha, htarget⟩ h

/-- The cues of a flow are the places of the lanes. -/
theorem mem_cues_iff : c ∈ (fatesFrom r actors earlier blocks).filterMap Fate.cue? ↔
    c.actor ∈ actors ∧ ∃ k, c.step = (laneOf earlier c.actor).length + k + 1 ∧
      (laneOf blocks c.actor)[k]? = some c.block := by
  induction blocks generalizing earlier with
  | nil => simp [fatesFrom, laneOf]
  | cons b rest ih =>
    have hmem : c ∈ (fatesFrom r actors earlier (b :: rest)).filterMap Fate.cue? ↔
        (fateOf r actors earlier b).cue? = some c ∨
          c ∈ (fatesFrom r actors (earlier ++ [b]) rest).filterMap Fate.cue? := by
      simp [fatesFrom, List.mem_filterMap]
    rw [hmem, ih, cue?_fateOf_eq_some_iff, laneOf_append, List.length_append, laneOf_cons, laneOf_cons]
    by_cases htarget : b.target = some c.actor
    · rw [if_pos htarget, if_pos htarget]
      constructor
      · rintro (⟨-, ha, hblock, hstep⟩ | ⟨ha, k, hstep, hk⟩)
        · exact ⟨ha, 0, hstep, congrArg some hblock.symm⟩
        · exact ⟨ha, k + 1, hstep.trans (by simp [laneOf]; omega), hk⟩
      · rintro ⟨ha, k, hstep, hk⟩
        cases k with
        | zero => exact Or.inl ⟨htarget, ha, (Option.some.inj hk).symm, hstep⟩
        | succ k => exact Or.inr ⟨ha, k, hstep.trans (by simp [laneOf]; omega), hk⟩
    · rw [if_neg htarget, if_neg htarget]
      simp [htarget, laneOf]

theorem nodup_cues (earlier blocks : List ActionBlock) :
    ((fatesFrom r actors earlier blocks).filterMap Fate.cue?).Nodup := by
  induction blocks generalizing earlier with
  | nil => exact List.nodup_nil
  | cons b rest ih =>
    rw [fatesFrom]
    rcases hcue : (fateOf r actors earlier b).cue? with _ | c
    · rw [List.filterMap_cons_none hcue]
      exact ih _
    · rw [List.filterMap_cons_some hcue, List.nodup_cons]
      refine ⟨?_, ih _⟩
      obtain ⟨htarget, -, -, hstep⟩ := cue?_fateOf_eq_some_iff.mp hcue
      rw [mem_cues_iff, laneOf_append, List.length_append, laneOf_cons, if_pos htarget]
      rintro ⟨-, k, hk, -⟩
      rw [hstep, List.length_cons] at hk
      omega

/-- Of a block that has a cue its kind decides: it is done if the kind is registered, and noted if not. -/
theorem performed?_and_unknown?_fateOf (r : Registry) (actors : List ActorId) (earlier : List ActionBlock)
    (b : ActionBlock) :
    (fateOf r actors earlier b).performed? = (fateOf r actors earlier b).cue?.filter r.knows ∧
      (fateOf r actors earlier b).unknown? = (fateOf r actors earlier b).cue?.filter (!r.knows ·) := by
  rw [fateOf]
  rcases b.target with _ | a
  · exact ⟨rfl, rfl⟩
  · dsimp only
    split
    · rcases hknown : r.contains b.action with _ | _ <;>
        simp [Fate.performed?, Fate.unknown?, Fate.cue?, Option.filter, Registry.knows, hknown]
    · exact ⟨rfl, rfl⟩

/-- What is the same of each block's fate is the same of all fates. -/
theorem filterMap_fatesFrom_congr {α : Type} {g g' : Fate → Option α}
    (h : ∀ earlier b, g (fateOf r actors earlier b) = g' (fateOf r actors earlier b)) :
    (fatesFrom r actors earlier blocks).filterMap g = (fatesFrom r actors earlier blocks).filterMap g' := by
  induction blocks generalizing earlier with
  | nil => rfl
  | cons b rest ih => rw [fatesFrom, List.filterMap_cons, List.filterMap_cons, h, ih]

theorem performed_eq : (fatesFrom r actors earlier blocks).filterMap Fate.performed? =
    ((fatesFrom r actors earlier blocks).filterMap Fate.cue?).filter r.knows := by
  rw [List.filter_filterMap]
  exact filterMap_fatesFrom_congr fun earlier b => (performed?_and_unknown?_fateOf r actors earlier b).1

theorem unknown_eq : (fatesFrom r actors earlier blocks).filterMap Fate.unknown? =
    ((fatesFrom r actors earlier blocks).filterMap Fate.cue?).filter (!r.knows ·) := by
  rw [List.filter_filterMap]
  exact filterMap_fatesFrom_congr fun earlier b => (performed?_and_unknown?_fateOf r actors earlier b).2

/-- The notes are those on blocks of nobody on the list and those on blocks of unknown kinds. -/
theorem notes_perm (earlier blocks : List ActionBlock) :
    ((fatesFrom r actors earlier blocks).filterMap Fate.note?).Perm
      (blocks.filterMap (StepTable.foreignNote? actors) ++
        ((fatesFrom r actors earlier blocks).filterMap Fate.unknown?).map Cue.note) := by
  induction blocks generalizing earlier with
  | nil => exact .nil
  | cons b rest ih =>
    have ih := ih (earlier ++ [b])
    rw [fatesFrom]
    by_cases h : ∃ a ∈ actors, b.target = some a
    · obtain ⟨a, ha, htarget⟩ := h
      have hforeign : StepTable.foreignNote? actors b = none := by
        simp [StepTable.foreignNote?, htarget, ha]
      rcases hknown : r.contains b.action with _ | _
      · have hfate : fateOf r actors earlier b =
            .unknown { block := b, actor := a, step := (laneOf earlier a).length + 1 } := by
          simp [fateOf, htarget, ha, hknown]
        rw [hfate, List.filterMap_cons_none hforeign]
        exact (ih.cons _).trans List.perm_middle.symm
      · have hfate : fateOf r actors earlier b =
            .performed { block := b, actor := a, step := (laneOf earlier a).length + 1 } := by
          simp [fateOf, htarget, ha, hknown]
        rw [hfate, List.filterMap_cons_none hforeign]
        exact ih
    · have hne : ∀ a ∈ actors, b.target ≠ some a := fun a ha htarget => h ⟨a, ha, htarget⟩
      obtain ⟨hcue, hnote⟩ := fateOf_of_forall_ne r earlier hne
      have hunknown : (fateOf r actors earlier b).unknown? = none := by
        rw [(performed?_and_unknown?_fateOf r actors earlier b).2, hcue]
        rfl
      rw [List.filterMap_cons_none hunknown, List.filterMap_cons, List.filterMap_cons, hnote]
      split
      · exact ih
      · exact ih.cons _

/-! ### The programme -/

/-- An actor that is listed again is not listed first. -/
theorem pairwise_idxOf_eraseDups (as : List ActorId) :
    as.eraseDups.Pairwise fun a b => as.idxOf a < as.idxOf b := by
  induction as using List.reverseRecOn with
  | nil => exact .nil
  | append_singleton as a ih =>
    have hold : ∀ b ∈ as.eraseDups, (as ++ [a]).idxOf b = as.idxOf b := fun b hb =>
      List.idxOf_append_of_mem (List.mem_eraseDups.mp hb)
    have hnew : ([a].removeAll as).eraseDups = if a ∈ as then [] else [a] := by
      by_cases ha : a ∈ as <;> simp [List.removeAll, ha]
      rfl
    rw [List.eraseDups_append, hnew, List.pairwise_append]
    refine ⟨?_, ?_, ?_⟩
    · refine ih.imp_of_mem ?_
      intro b c hb hc hlt
      rwa [hold b hb, hold c hc]
    · split
      · exact .nil
      · exact List.pairwise_singleton _ _
    · intro b hb c hc
      split at hc
      · cases hc
      · next ha =>
        obtain rfl := List.mem_singleton.mp hc
        rw [hold b hb, List.idxOf_append_of_notMem ha]
        exact Nat.lt_of_lt_of_le (List.idxOf_lt_length_of_mem (List.mem_eraseDups.mp hb))
          (Nat.le_add_right _ _)

/-- The cue of a lane in the step at index `k`. -/
def Lane.cue? (l : Lane) (k : Nat) : Option Cue :=
  l.blocks[k]?.map fun b => { block := b, actor := l.actor, step := k + 1 }

/-- The cues of the step at index `k`, in the order of the lanes. -/
def cuesAt (lanes : List Lane) (k : Nat) : List Cue := lanes.filterMap fun l => l.cue? k

theorem cuesAt_cons (l : Lane) (ls : List Lane) (k : Nat) :
    cuesAt (l :: ls) k = (l.cue? k).toList ++ cuesAt ls k := by
  rw [cuesAt, List.filterMap_cons]
  split
  · next hcue => simp [hcue, cuesAt]
  · next hcue => simp [hcue, cuesAt]

/-- The cues of `count` steps from index `k` on. -/
def programme (lanes : List Lane) (k count : Nat) : List Cue := (List.range' k count).flatMap (cuesAt lanes)

theorem programme_succ (lanes : List Lane) (k count : Nat) :
    programme lanes k (count + 1) = cuesAt lanes k ++ programme lanes (k + 1) count := by
  rw [programme, List.range'_succ, List.flatMap_cons]
  rfl

theorem mem_cuesAt_iff {lanes : List Lane} {k : Nat} {c : Cue} : c ∈ cuesAt lanes k ↔
    c.step = k + 1 ∧ ∃ l ∈ lanes, l.actor = c.actor ∧ l.blocks[k]? = some c.block := by
  rw [cuesAt, List.mem_filterMap]
  constructor
  · rintro ⟨l, hl, hcue⟩
    obtain ⟨b, hb, rfl⟩ := Option.map_eq_some_iff.mp hcue
    exact ⟨rfl, l, hl, rfl, hb⟩
  · rintro ⟨hstep, l, hl, hactor, hb⟩
    refine ⟨l, hl, ?_⟩
    rw [Lane.cue?, hb, Option.map_some, ← hstep, hactor]

theorem mem_programme_iff {actors : List ActorId} {k count : Nat} {c : Cue} :
    c ∈ programme (lanesOf blocks actors) k count ↔
      c.actor ∈ actors ∧ ∃ j, k ≤ j ∧ j < k + count ∧ c.step = j + 1 ∧
        (laneOf blocks c.actor)[j]? = some c.block := by
  constructor
  · intro h
    obtain ⟨j, hj, h⟩ := List.mem_flatMap.mp h
    obtain ⟨hstep, l, hl, hactor, hb⟩ := mem_cuesAt_iff.mp h
    obtain ⟨a, ha, rfl⟩ := mem_lanesOf_iff.mp hl
    rw [List.mem_range'_1] at hj
    exact ⟨hactor ▸ ha, j, hj.1, hj.2, hstep, hactor ▸ hb⟩
  · rintro ⟨ha, j, hkj, hjk, hstep, hb⟩
    exact List.mem_flatMap.mpr ⟨j, List.mem_range'_1.mpr ⟨hkj, hjk⟩,
      mem_cuesAt_iff.mpr ⟨hstep, _, mem_lanesOf_iff.mpr ⟨c.actor, ha, rfl⟩, rfl, hb⟩⟩

/-- The programme is in order. -/
theorem pairwise_programme (blocks : List ActionBlock) (actors : List ActorId) (k count : Nat) :
    (programme (lanesOf blocks actors) k count).Pairwise (Cue.Before actors) := by
  rw [programme, List.pairwise_flatMap]
  constructor
  · intro j _
    rw [cuesAt, List.pairwise_filterMap, lanesOf, List.pairwise_map]
    refine (pairwise_idxOf_eraseDups actors).imp ?_
    intro a a' hlt c hc c' hc'
    obtain ⟨b, -, rfl⟩ := Option.map_eq_some_iff.mp hc
    obtain ⟨b', -, rfl⟩ := Option.map_eq_some_iff.mp hc'
    exact Or.inr ⟨rfl, hlt⟩
  · refine (List.pairwise_lt_range' ..).imp ?_
    intro j j' hlt c hc c' hc'
    left
    rw [(mem_cuesAt_iff.mp hc).1, (mem_cuesAt_iff.mp hc').1]
    exact Nat.succ_lt_succ hlt

/-- **The blocks of listed actors come up once each.** -/
theorem programme_perm (r : Registry) (blocks : List ActionBlock) (actors : List ActorId) :
    (programme (lanesOf blocks actors) 0 (longest (lanesOf blocks actors))).Perm
      ((fates r actors blocks).filterMap Fate.cue?) := by
  have hnodup : (programme (lanesOf blocks actors) 0 (longest (lanesOf blocks actors))).Nodup :=
    (pairwise_programme blocks actors 0 _).imp Cue.Before.ne
  refine (List.perm_ext_iff_of_nodup hnodup (nodup_cues [] blocks)).mpr ?_
  intro c
  rw [mem_programme_iff, mem_cues_iff]
  refine and_congr_right fun ha => exists_congr fun j => ?_
  constructor
  · rintro ⟨-, -, hstep, hb⟩
    exact ⟨by simpa [laneOf] using hstep, hb⟩
  · rintro ⟨hstep, hb⟩
    have hlt := Nat.lt_of_lt_of_le (List.getElem?_eq_some_iff.mp hb).1 (length_laneOf_le_longest blocks ha)
    exact ⟨Nat.zero_le j, (Nat.zero_add _).symm ▸ hlt, by simpa [laneOf] using hstep, hb⟩

end Marionette

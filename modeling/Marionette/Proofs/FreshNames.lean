import Marionette.Proofs.Edits

/-!
# Fresh ids

A name for one more block, actor or flow is searched for by counting on from the number of those that there are.
The search by itself has no bound: it goes on for as long as the name that it comes to is in use.  It stops
nevertheless, since the names of different numbers differ, and only so many are in use.  What it comes to is the
name of the least number that is free, which is what the bounded search answers.

So whatever is added has an id that nothing else has, and removing it by its id restores what there was.

## Main definitions

* `Search` — the search without a bound, and how many candidates it tries.

## Main results

* `Search.deterministic` — a search comes to one number, after one number of tries.
* `search_iff` — it stops in time, at the number of the least free name.
* `Flow.removeBlock?_pushBlock`, `Stage.removeActor_addActor` — what was added under a fresh id can be taken
  back.
* `fresh_ids` — all of this, for any names and any edits that add.
-/

namespace Marionette

/-! ### The search without a bound -/

/-- Counting on from `n`, the search stops at `m` with its candidate number `probes`. -/
inductive Search (stem : String) (taken : List String) : (n m probes : Nat) → Prop
  | free {n : Nat} (hfree : numbered stem n ∉ taken) : Search stem taken n n 1
  | refused {n m probes : Nat} (htaken : numbered stem n ∈ taken)
      (hnext : Search stem taken (n + 1) m probes) : Search stem taken n m (probes + 1)

section Search

variable {stem : String} {taken : List String} {n m probes : Nat}

/-- What a search comes to, and how many candidates it tries, is determined. -/
theorem Search.deterministic {m' probes' : Nat} (h : Search stem taken n m probes)
    (h' : Search stem taken n m' probes') : m' = m ∧ probes' = probes := by
  induction h generalizing probes' with
  | free hfree =>
    cases h' with
    | free _ => exact ⟨rfl, rfl⟩
    | refused htaken _ => exact absurd htaken hfree
  | refused htaken _ ih =>
    cases h' with
    | free hfree => exact absurd htaken hfree
    | refused _ hnext =>
      obtain ⟨rfl, rfl⟩ := ih hnext
      exact ⟨rfl, rfl⟩

/-- A search passes the names that are in use and stops at the first that is not. -/
theorem Search.of_forall_taken {k : Nat} (htaken : ∀ j < k, numbered stem (n + j) ∈ taken)
    (hfree : numbered stem (n + k) ∉ taken) : Search stem taken n (n + k) (k + 1) := by
  induction k generalizing n with
  | zero => exact .free hfree
  | succ k ih =>
    have hshift : ∀ j, n + 1 + j = n + (j + 1) := by omega
    refine .refused (htaken 0 (Nat.succ_pos k)) ?_
    rw [← hshift k] at hfree ⊢
    refine ih ?_ hfree
    intro j hj
    rw [hshift]
    exact htaken (j + 1) (Nat.succ_lt_succ hj)

/-- **The search stops, at the number of the least free name,** when it has tried one candidate more than there
are names at most. -/
theorem search_iff (stem : String) (start : Nat) (taken : List String) :
    ∃ k ≤ taken.length, leastFree stem start taken = numbered stem (start + k) ∧
      numbered stem (start + k) ∉ taken ∧ (∀ j < k, numbered stem (start + j) ∈ taken) ∧
      ∀ m probes, Search stem taken start m probes ↔ m = start + k ∧ probes = k + 1 := by
  obtain ⟨k, heq, hfree, htaken⟩ := exists_leastFree_eq stem start taken
  have hsearch : Search stem taken start (start + k) (k + 1) := .of_forall_taken htaken hfree
  refine ⟨k, le_length_of_forall_taken htaken, heq, hfree, htaken, fun m probes => ⟨hsearch.deterministic, ?_⟩⟩
  rintro ⟨rfl, rfl⟩
  exact hsearch

/-- The name for one more thing is what the search comes to behind the number of those that there are. -/
theorem exists_search_leastFree (stem : String) (count : Nat) (taken : List String) :
    ∃ m probes, Search stem taken (count + 1) m probes ∧ count < m ∧
      leastFree stem (count + 1) taken = numbered stem m := by
  obtain ⟨k, -, heq, -, -, hsearch⟩ := search_iff stem (count + 1) taken
  exact ⟨count + 1 + k, k + 1, (hsearch _ _).mpr ⟨rfl, rfl⟩, by omega, heq⟩

end Search

/-! ### What was added can be taken back -/

/-- What is appended under a new name is the one thing of that name. -/
theorem Listing.splits_concat {α ι : Type} {name : α → ι} {xs : List α} {x : α}
    (h : name x ∉ xs.map name) : Splits name (name x) (xs ++ [x]) xs x [] :=
  ⟨rfl, rfl, h⟩

/-- **A block that was pushed can be taken out again.** -/
theorem Flow.removeBlock?_pushBlock (f : Flow) (action : String) (target : Option ActorId) :
    (f.pushBlock action target).2.removeBlock? (f.pushBlock action target).1 =
      some ({ id := f.freshBlockId, action, target }, f) := by
  have hsplits := Listing.splits_concat (x := ({ id := f.freshBlockId, action, target } : ActionBlock))
    f.freshBlockId_notMem
  rw [pushBlock, removeBlock?, hsplits.find?_eq, hsplits.remove_eq, List.append_nil]
  rfl

namespace Stage

variable {s : Stage}

/-- The actor that is added. -/
def newcomer (s : Stage) (costume : String) (name : Option String) : Actor :=
  { id := s.freshActorId, name := name.getD ("Sprite " ++ decimal (s.actors.length + 1)), costume,
    state := homeState s.actors.length }

/-- The stage with one more actor. -/
def withNewcomer (s : Stage) (costume : String) (name : Option String) : Stage :=
  { s with actors := s.actors ++ [s.newcomer costume name], revision := s.revision + 1 }

theorem addActor_of_unlocked (h : s.locked = false) (costume : String) (name : Option String) :
    s.addActor costume name = .ok (s.freshActorId, s.withNewcomer costume name) := by
  rw [addActor, editing_of_unlocked h]
  rfl

theorem removeActor_of_splits {id : ActorId} {before after : List Actor} {a : Actor} (h : s.locked = false)
    (hsplits : Listing.Splits Actor.id id s.actors before a after) (hmany : ¬ s.actors.length ≤ 1) :
    s.removeActor id = .ok (a, { s with actors := before ++ after, revision := s.revision + 1 }) := by
  rw [removeActor, editing_of_unlocked h, withActor_of_find? hsplits.find?_eq, if_neg hmany, hsplits.remove_eq]

/-- **An actor that was added can be taken off again,** if there are others.  Both edits are counted. -/
theorem removeActor_addActor (h : s.locked = false) (hactors : s.actors ≠ []) (costume : String)
    (name : Option String) :
    (s.withNewcomer costume name).removeActor s.freshActorId =
      .ok (s.newcomer costume name, { s with revision := s.revision + 2 }) := by
  have hsplits : Listing.Splits Actor.id s.freshActorId (s.withNewcomer costume name).actors s.actors
      (s.newcomer costume name) [] :=
    Listing.splits_concat (x := s.newcomer costume name) s.freshActorId_notMem
  have hmany : ¬ (s.withNewcomer costume name).actors.length ≤ 1 := by
    have hpos : 0 < s.actors.length := List.length_pos_iff.mpr hactors
    rw [hsplits.eq_append, List.length_append, List.length_singleton]
    omega
  rw [removeActor_of_splits (s := s.withNewcomer costume name) h hsplits hmany, List.append_nil]
  rfl

end Stage

/-- **Every new id is free, and what is added under it can be taken back.**  The search for a name stops when
it has tried one candidate more than there are names at most, at the least number from the start on whose name
is free.  So a block, an actor or a flow that is added has an id that none had, with a number above the number
of those that there were.  A block that is pushed, and an actor that is added to others, can be taken out again
by that id, which restores what there was. -/
theorem fresh_ids :
    (∀ stem start taken, ∃ m probes,
      (∀ m' probes', Search stem taken start m' probes' ↔ m' = m ∧ probes' = probes) ∧
        probes ≤ taken.length + 1 ∧ start + probes = m + 1 ∧ leastFree stem start taken = numbered stem m ∧
        start ≤ m ∧ numbered stem m ∉ taken ∧ ∀ j, start ≤ j → j < m → numbered stem j ∈ taken) ∧
    (∀ (f : Flow) action target,
      let (id, f') := f.pushBlock action target
      (∃ m probes, Search "block" (f.blocks.map (·.id.text)) (f.blocks.length + 1) m probes ∧
        f.blocks.length < m ∧ id.text = numbered "block" m) ∧
      id ∉ f.blocks.map (·.id) ∧ f'.removeBlock? id = some ({ id, action, target }, f)) ∧
    (∀ (s : Stage) costume name, s.locked = false → ∃ a s',
      s.addActor costume name = .ok (a.id, s') ∧ s'.actors = s.actors ++ [a] ∧
        (∃ m probes, Search "sprite" (s.actors.map (·.id.text)) (s.actors.length + 1) m probes ∧
          s.actors.length < m ∧ a.id.text = numbered "sprite" m) ∧
        a.id ∉ s.actors.map (·.id) ∧
        (s.actors ≠ [] → s'.removeActor a.id = .ok (a, { s with revision := s.revision + 2 }))) ∧
    ∀ b : FlowBook,
      let (id, b') := b.addFlow
      (∃ m probes, Search "flow" (b.flows.map (·.id.text)) (b.flows.length + 1) m probes ∧
        b.flows.length < m ∧ id.text = numbered "flow" m) ∧
      id ∉ b.flows.map (·.id) ∧ b'.flows.map (·.id) = b.flows.map (·.id) ++ [id] := by
  refine ⟨?_, ?_, ?_, ?_⟩
  · intro stem start taken
    obtain ⟨k, hk, heq, hfree, htaken, hsearch⟩ := search_iff stem start taken
    refine ⟨start + k, k + 1, hsearch, Nat.succ_le_succ hk, rfl, heq, Nat.le_add_right start k, hfree, ?_⟩
    intro j hstart hj
    obtain ⟨i, rfl⟩ := Nat.exists_eq_add_of_le hstart
    exact htaken i (Nat.lt_of_add_lt_add_left hj)
  · intro f action target
    exact ⟨exists_search_leastFree _ _ _, f.freshBlockId_notMem, f.removeBlock?_pushBlock action target⟩
  · intro s costume name hlocked
    exact ⟨s.newcomer costume name, _, Stage.addActor_of_unlocked hlocked costume name, rfl,
      exists_search_leastFree _ _ _, s.freshActorId_notMem,
      fun hactors => Stage.removeActor_addActor hlocked hactors costume name⟩
  · intro b
    exact ⟨exists_search_leastFree _ _ _, b.freshFlowId_notMem, List.map_append ..⟩

/-- One block is left and has the number that comes next, so that the search tries two candidates. -/
theorem fresh_ids_sample :
    let f : Flow := { id := ⟨"flow-1"⟩, name := "Flow 1", blocks := [⟨⟨"block-2"⟩, "step", none⟩] }
    Search "block" ["block-2"] 2 3 2 ∧ (f.pushBlock "step" none).1 = ⟨"block-3"⟩ ∧
      (f.pushBlock "step" none).2.removeBlock? ⟨"block-3"⟩ = some (⟨⟨"block-3"⟩, "step", none⟩, f) ∧
      ({} : Stage).locked = false ∧ ∃ a s', ({} : Stage).addActor "dog" none = .ok (a.id, s') ∧
        s'.removeActor a.id = .ok (a, { revision := 2 }) := by
  intro f
  have hfresh : (f.pushBlock "step" none).1 = ⟨"block-3"⟩ := by decide +kernel
  obtain ⟨-, hpush, hadd, -⟩ := fresh_ids
  have hremove : (f.pushBlock "step" none).2.removeBlock? (f.pushBlock "step" none).1 =
      some (⟨(f.pushBlock "step" none).1, "step", none⟩, f) := (hpush f "step" none).2.2
  rw [hfresh] at hremove
  obtain ⟨a, s', hadded, -, -, -, htaken⟩ := hadd {} "dog" none rfl
  exact ⟨.refused (by decide +kernel) (.free (by decide +kernel)), hfresh, hremove, rfl, a, s', hadded,
    htaken (by decide)⟩

end Marionette

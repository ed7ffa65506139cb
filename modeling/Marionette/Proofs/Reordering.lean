import Marionette.Proofs.Edits
import Marionette.Proofs.StepTable.Columns

/-!
# Moving a block

A block that is moved is taken out of its flow and put in again somewhere else.  Without it the flow is the same
before and after, so moving it back restores the flow.  A flow compiles by its lanes, and a block that is moved
past blocks of other actors keeps its place in its own lane.  So such a move shows in nothing that is compiled.

## Main results

* `laneOf_insertIdx_succ` — a block keeps its place in every lane when it is put in one place later, behind a
  block with another target.
* `Flow.laneOf_moveBlock` — so does a block that is moved past blocks with other targets.
* `Flow.moveBlock_reorders` — what a move does to a flow, and when it does nothing to its snapshots.
-/

namespace Marionette

/-! ### Lanes -/

section Lanes

variable {xs : List ActionBlock} {b : ActionBlock}

/-- A block that is put in behind a block with another target stands in every lane as if it were put in
before it. -/
theorem laneOf_insertIdx_succ {i : Nat} {c : ActionBlock} (hc : xs[i]? = some c) (hne : c.target ≠ b.target)
    (a : ActorId) : laneOf (xs.insertIdx (i + 1) b) a = laneOf (xs.insertIdx i b) a := by
  induction xs generalizing i with
  | nil => cases hc
  | cons x xs ih =>
    cases i with
    | zero =>
      obtain rfl : x = c := Option.some.inj hc
      rw [List.insertIdx_succ_cons, List.insertIdx_zero, List.insertIdx_zero]
      simp only [laneOf_cons]
      by_cases hx : x.target = some a
      · have hb : b.target ≠ some a := fun hb => hne (hx.trans hb.symm)
        rw [if_neg hb, if_pos hx, if_neg hb]
      · rw [if_neg hx, if_neg hx]
    | succ i =>
      rw [List.insertIdx_succ_cons, List.insertIdx_succ_cons, laneOf_cons, laneOf_cons, ih hc]

/-- A block keeps its place in every lane however many blocks with other targets it is put in behind. -/
theorem laneOf_insertIdx_of_le {i j : Nat} (hij : i ≤ j) (hj : j ≤ xs.length)
    (h : ∀ k c, i ≤ k → k < j → xs[k]? = some c → c.target ≠ b.target) (a : ActorId) :
    laneOf (xs.insertIdx j b) a = laneOf (xs.insertIdx i b) a := by
  induction j, hij using Nat.le_induction with
  | base => rfl
  | succ j hij ih =>
    have hc : xs[j]? = some xs[j] := List.getElem?_eq_getElem hj
    rw [laneOf_insertIdx_succ hc (h j _ hij (Nat.lt_succ_self j) hc)]
    exact ih (Nat.le_of_succ_le hj) fun k c hk hkj => h k c hk (Nat.lt_succ_of_lt hkj)

end Lanes

/-! ### Moves -/

namespace Flow

variable {f f' : Flow} {source target : Nat}

/-- The move is undone by moving the block back. -/
theorem moveBlock_back (hsource : source < f.blocks.length) (htarget : target < f.blocks.length)
    (h : f.moveBlock source target = .ok f') : f'.moveBlock target source = .ok f := by
  have hlength : f'.blocks.length = f.blocks.length := (perm_of_moveBlock h).length_eq
  rw [moveBlock_of_lt hsource htarget] at h
  cases h
  rw [moveBlock_of_lt (hlength ▸ htarget) (hlength ▸ hsource)]
  simp only [List.getElem_insertIdx_self, List.eraseIdx_insertIdx_self, List.insertIdx_eraseIdx_getElem]

/-- A block that is moved past blocks with other targets keeps its place in every lane. -/
theorem laneOf_moveBlock (hsource : source < f.blocks.length) (htarget : target < f.blocks.length)
    (h : f.moveBlock source target = .ok f')
    (hpassed : ∀ k b, source < k ∧ k ≤ target ∨ target ≤ k ∧ k < source → f.blocks[k]? = some b →
      b.target ≠ f.blocks[source].target) (a : ActorId) : laneOf f'.blocks a = laneOf f.blocks a := by
  rw [moveBlock_of_lt hsource htarget] at h
  cases h
  have hback : f.blocks = (f.blocks.eraseIdx source).insertIdx source f.blocks[source] :=
    (List.insertIdx_eraseIdx_getElem hsource).symm
  have hlength : (f.blocks.eraseIdx source).length = f.blocks.length - 1 := List.length_eraseIdx_of_lt hsource
  conv_rhs => rw [hback]
  rcases Nat.le_total source target with hle | hle
  · -- without the block, those that it passes stand one place earlier
    refine laneOf_insertIdx_of_le hle (by omega) ?_ a
    intro k c hk hkt hc
    rw [List.getElem?_eraseIdx_of_ge hk] at hc
    exact hpassed (k + 1) c (by omega) hc
  · refine (laneOf_insertIdx_of_le hle (by omega) ?_ a).symm
    intro k c hk hks hc
    rw [List.getElem?_eraseIdx_of_lt hks] at hc
    exact hpassed k c (by omega) hc

/-- **A move is an exact reordering that can be undone.**  Any block can be moved to any place.  It then stands
there, the other blocks stand among each other as before, none is gained or lost, and moving it back restores
the flow.  If none of the blocks that it was moved past, up to the one whose place it took, has its target, then
the flow compiles to the same snapshots as before, with the same draws, whatever is registered and whoever is
listed. -/
theorem moveBlock_reorders (hsource : source < f.blocks.length) (htarget : target < f.blocks.length) :
    ∃ f', f.moveBlock source target = .ok f' ∧ f' = { f with blocks := f'.blocks } ∧
      f'.blocks.Perm f.blocks ∧ f'.blocks[target]? = some f.blocks[source] ∧
      f'.blocks.eraseIdx target = f.blocks.eraseIdx source ∧ f'.moveBlock target source = .ok f ∧
      ((∀ k b, source < k ∧ k ≤ target ∨ target ≤ k ∧ k < source → f.blocks[k]? = some b →
          b.target ≠ f.blocks[source].target) →
        ∀ (r : Registry) (around : Surroundings) (actors : List ActorId) (seed : StateMap)
          (random : RandomSource),
          let out := (StepTable.compile r around f.blocks actors seed).run random
          let out' := (StepTable.compile r around f'.blocks actors seed).run random
          out'.1.snapshots = out.1.snapshots ∧ out'.2 = out.2) := by
  have hmove := moveBlock_of_lt hsource htarget
  refine ⟨_, hmove, rfl, perm_of_moveBlock hmove, ?_, ?_, moveBlock_back hsource htarget hmove, ?_⟩
  · have hroom : target ≤ (f.blocks.eraseIdx source).length := by
      rw [List.length_eraseIdx_of_lt hsource]
      omega
    rw [List.getElem?_insertIdx_self, if_pos hroom]
  · exact List.eraseIdx_insertIdx_self _
  · intro hpassed r around actors seed random
    have hlanes := laneOf_moveBlock hsource htarget hmove hpassed
    obtain ⟨hsnapshots, hdraws, -⟩ :=
      StepTable.run_compile_congr (fun a _ => (hlanes a).symm) r around seed random
    exact ⟨hsnapshots, hdraws⟩

/-- The first block of one actor is moved past a block of a second and a block of a third actor, but not past
the other block of its own. -/
theorem moveBlock_reorders_sample :
    let f : Flow := { id := ⟨"flow-1"⟩, name := "Flow 1", blocks := Sample.greetings }
    ∃ f', f.moveBlock 0 2 = .ok f' ∧ f'.blocks.map (·.id.text) = ["2", "3", "1", "4", "5"] ∧
      f'.moveBlock 2 0 = .ok f ∧
      ((StepTable.compile Sample.naming {} f'.blocks [⟨"a"⟩, ⟨"b"⟩] .empty).run (.scripted [])).1.snapshots =
        ((StepTable.compile Sample.naming {} f.blocks [⟨"a"⟩, ⟨"b"⟩] .empty).run (.scripted [])).1.snapshots := by
  intro f
  obtain ⟨f', hmove, -, -, -, -, hback, hsame⟩ := @moveBlock_reorders f 0 2 (by decide) (by decide)
  have hpassed : ∀ k b, 0 < k ∧ k ≤ 2 ∨ 2 ≤ k ∧ k < 0 → f.blocks[k]? = some b →
      b.target ≠ f.blocks[0].target := by
    intro k b hk hb
    obtain rfl | rfl : k = 1 ∨ k = 2 := by omega
    · cases hb
      decide
    · cases hb
      decide
  refine ⟨f', hmove, ?_, hback, (hsame hpassed Sample.naming {} [⟨"a"⟩, ⟨"b"⟩] .empty (.scripted [])).1⟩
  cases hmove
  decide

end Flow
end Marionette

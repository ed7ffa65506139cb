import Marionette.Chance

/-!
# What a computation can give

A computation that draws can give different results.  `Yields` is the relation between a computation and
the results that some draws lead to.  What is proved of every result is proved once, without a source: a
run against a source gives one of them.

## Main definitions

* `Chance.Yields` — some draws lead to this result.
* `Chance.value` — the result where every draw gives 0, which for a computation that draws nothing is its
  only result.

## Main results

* `Chance.yields_run` — a run gives a result that the computation yields.
* `Chance.yields_bind_iff` — results of a sequence are results of its parts.
-/

namespace Marionette

namespace Chance

variable {α β : Type}

/-- Some draws lead to the result `a`. -/
def Yields : Chance α → α → Prop
  | done b, a => a = b
  | draw next, a => ∃ r, (next r).Yields a

/-- The result where every draw gives 0. -/
def value : Chance α → α
  | done a => a
  | draw next => (next 0.0).value

@[simp] theorem yields_done_iff (a b : α) : (done b).Yields a ↔ a = b := Iff.rfl

@[simp] theorem value_done (a : α) : (done a).value = a := rfl

/-- A run gives a result that the computation yields. -/
theorem yields_run (c : Chance α) (s : RandomSource) : c.Yields (c.run s).1 := by
  induction c generalizing s with
  | done a => rfl
  | draw next ih => exact ⟨s.next.1, ih s.next.1 s.next.2⟩

/-- The results of a sequence are the results of its second part after one of its first. -/
theorem yields_bind_iff (c : Chance α) (f : α → Chance β) (b : β) :
    (c >>= f).Yields b ↔ ∃ a, c.Yields a ∧ (f a).Yields b := by
  induction c with
  | done a => simp
  | draw next ih =>
    constructor
    · rintro ⟨r, h⟩
      obtain ⟨a, ha, hb⟩ := (ih r).mp h
      exact ⟨a, ⟨r, ha⟩, hb⟩
    · rintro ⟨a, ⟨r, ha⟩, hb⟩
      exact ⟨r, (ih r).mpr ⟨a, ha, hb⟩⟩

end Chance

end Marionette

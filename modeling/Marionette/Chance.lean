/-!
# Computations that draw random values

`Chance α` computes an `α` and may draw values on the way.  It can do nothing else with the source it draws
from: it can neither look ahead nor put a value back.  A computation that draws nothing is `Chance.done a`,
so "draws nothing" is an equation.

## Main definitions

* `Chance α`, with its monad.
* `RandomSource` — an endless supply of values and how many of them were drawn.
* `Chance.run` — carry a computation out against a source.

## Main results

* `Chance` is a lawful monad.
* `Chance.run_bind` — sequenced computations draw one after the other.
-/

namespace Marionette

/-- A computation of an `α` that may draw values. -/
inductive Chance (α : Type) where
  /-- The result. -/
  | done (value : α)
  /-- Draw one value and go on with it. -/
  | draw (next : Float → Chance α)

namespace Chance

variable {α β : Type}

/-- Go on with the result of `c`. -/
def bind (c : Chance α) (f : α → Chance β) : Chance β :=
  match c with
  | done a => f a
  | draw next => draw fun r => (next r).bind f

instance : Monad Chance where
  pure := done
  bind := bind

/-- Draw one value. -/
def sample : Chance Float := draw done

@[simp] theorem done_bind (a : α) (f : α → Chance β) : (done a >>= f) = f a := rfl

@[simp] theorem draw_bind (next : Float → Chance α) (f : α → Chance β) :
    (draw next >>= f) = draw fun r => next r >>= f := rfl

@[simp] theorem pure_eq_done (a : α) : (pure a : Chance α) = done a := rfl

theorem bind_done (c : Chance α) : c >>= done = c := by
  induction c with
  | done a => rfl
  | draw next ih => exact congrArg draw (funext ih)

theorem bind_assoc {γ : Type} (c : Chance α) (f : α → Chance β) (g : β → Chance γ) :
    c >>= f >>= g = c >>= fun a => f a >>= g := by
  induction c with
  | done a => rfl
  | draw next ih => exact congrArg draw (funext ih)

instance : LawfulMonad Chance :=
  LawfulMonad.mk' Chance bind_done (fun _ _ => rfl) bind_assoc

end Chance

/-- An endless supply of values, and how many of them were drawn. -/
structure RandomSource where
  value : Nat → Float
  drawn : Nat := 0

namespace RandomSource

/-- The next value, and the source after it. -/
def next (s : RandomSource) : Float × RandomSource :=
  (s.value s.drawn, { s with drawn := s.drawn + 1 })

/-- The values of a script, over and over; an empty script gives zeros. -/
def scripted (script : List Float) : RandomSource :=
  let values := script.toArray
  { value := fun n => values[n % values.size]?.getD 0.0 }

/-- The next `count` values. -/
def take (s : RandomSource) (count : Nat) : List Float :=
  (List.range count).map fun i => s.value (s.drawn + i)

end RandomSource

namespace Chance

variable {α β : Type}

/-- Carry out a computation, drawing from `s`. -/
def run : Chance α → RandomSource → α × RandomSource
  | done a, s => (a, s)
  | draw next, s => (next s.next.1).run s.next.2

@[simp] theorem run_done (a : α) (s : RandomSource) : (done a).run s = (a, s) := rfl

@[simp] theorem run_sample (s : RandomSource) : sample.run s = s.next := rfl

/-- Sequenced computations draw one after the other. -/
theorem run_bind (c : Chance α) (f : α → Chance β) (s : RandomSource) :
    (c >>= f).run s = (f (c.run s).1).run (c.run s).2 := by
  induction c generalizing s with
  | done a => rfl
  | draw next ih => exact ih s.next.1 s.next.2

end Chance

end Marionette

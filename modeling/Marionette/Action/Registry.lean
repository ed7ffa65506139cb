import Marionette.Action.BuiltIn
import Marionette.SortedMap
import Marionette.Text.Inspect

/-!
# The registry of actions

A table from kinds to actions.  Compiling and playing a flow only ask the registry, so a new kind needs no
change anywhere else.  Kinds are matched exactly.

## Main definitions

* `Registry`, `Registry.builtIn`, `register`, `registerRepeat`.
* `Registry.isRepeat`, `Registry.perform?`.

## Main results

* `Registry.find?_add` — the latest registration of a kind decides.
-/

namespace Marionette

/-- A table from kinds to actions. -/
structure Registry where
  actions : SortedMap String Action

namespace Registry

/-- The registry without any kind. -/
def empty : Registry := ⟨.empty⟩

/-- Register an action for a kind, in place of an earlier one. -/
def add (r : Registry) (kind : String) (a : Action) : Registry := ⟨r.actions.insert kind a⟩

/-- Register a transition for a kind. -/
def register (r : Registry) (kind : String) (t : Transition) : Registry := r.add kind { transition := t }

/-- Register a kind as a repeat marker. -/
def registerRepeat (r : Registry) (kind : String) : Registry := r.add kind .repeatMarker

/-- The registry of the built-in actions. -/
def builtIn : Registry := BuiltIn.all.foldl (fun r b => r.add b.kind b.action) empty

/-- The action of a kind. -/
def find? (r : Registry) (kind : String) : Option Action := r.actions.get? kind

/-- Whether a kind is registered. -/
def contains (r : Registry) (kind : String) : Bool := (r.find? kind).isSome

/-- Whether a kind is registered as a repeat marker. -/
def isRepeat (r : Registry) (kind : String) : Bool := (r.find? kind).any (·.repeats)

/-- The registered kinds in order, each with whether it is a repeat marker. -/
def kinds (r : Registry) : List (String × Bool) := r.actions.entries.map fun e => (e.1, e.2.repeats)

/-- The number of registered kinds. -/
def size (r : Registry) : Nat := r.actions.size

/-- Whether no kind is registered. -/
def isEmpty (r : Registry) : Bool := r.actions.isEmpty

/-- The registry with its kinds in order, for diagnostics. -/
def describe (r : Registry) : String :=
  "ActionRegistry \x7b kinds: [" ++
    String.intercalate ", " (r.actions.keys.map Text.inspect) ++ "] \x7d"

/-- Do to an actor what a kind says, if the kind is registered. -/
def perform? (r : Registry) (around : Surroundings) (kind : String) (actor : ActorId) (s : ActorState) :
    Option (Chance ActorState) :=
  (r.find? kind).map fun a => a.transition around actor s

/-! ### The latest registration decides -/

theorem find?_add (r : Registry) (kind kind' : String) (a : Action) :
    (r.add kind a).find? kind' = if kind' = kind then some a else r.find? kind' := by
  by_cases h : kind' = kind
  · subst h; simp [add, find?]
  · simp [add, find?, SortedMap.get?_insert_of_ne _ _ h, h]

end Registry

end Marionette

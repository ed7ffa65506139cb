import Marionette.Decimal.Digit

/-!
# Identifiers

Actors, blocks and flows are named by opaque texts.  Each kind has its own type, so a block cannot be
looked up where an actor is asked for.  Actors are ordered by the code points of their text, which is also
the order of the UTF-8 bytes.

## Main definitions

* `ActorId`, `BlockId`, `FlowId`.
* `leastFree` — the first of `stem-n`, `stem-(n+1)`, … that is not in use.
-/

namespace Marionette

/-- The name of an actor. -/
structure ActorId where
  text : String
  deriving DecidableEq, Repr, Inhabited

/-- The name of a block inside a flow. -/
structure BlockId where
  text : String
  deriving DecidableEq, Repr, Inhabited

/-- The name of a flow. -/
structure FlowId where
  text : String
  deriving DecidableEq, Repr, Inhabited

namespace ActorId

instance : Ord ActorId := ⟨fun a b => compare a.text b.text⟩

instance : Std.TransOrd ActorId := inferInstanceAs (Std.TransCmp (compareOn ActorId.text))

instance : Std.LawfulEqOrd ActorId where
  compare_self {a} := show compare a.text a.text = .eq from Std.ReflCmp.compare_self
  eq_of_compare {a b} h := by
    cases a; cases b
    exact congrArg ActorId.mk (Std.LawfulEqOrd.eq_of_compare h)

end ActorId

/-! ### Fresh names -/

/-- The candidate `stem-n`. -/
def numbered (stem : String) (n : Nat) : String := stem ++ "-" ++ decimal n

/-- The first candidate from number `n` on that is not `taken`, after at most `tries` refusals, so that no number
beyond `n + tries` is looked at. -/
def firstFree (stem : String) (taken : List String) : (tries n : Nat) → String
  | 0, n => numbered stem n
  | tries + 1, n =>
    if numbered stem n ∈ taken then firstFree stem taken tries (n + 1) else numbered stem n

/-- The first candidate from number `start` on that is not `taken`.  As many refusals as there are taken
names are enough: they are then all used up.

No machine number overflows here.  All callers start at one more than the number of entries whose names are
taken, so the search ends at twice that number and one; and the entries are in memory, each with a text of its
own, so that this is far below 2^64. -/
def leastFree (stem : String) (start : Nat) (taken : List String) : String :=
  firstFree stem taken taken.length start

end Marionette

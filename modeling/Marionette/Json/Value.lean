import Marionette.Decimal.Shortest
import Marionette.Decimal.Scaled

/-!
# JSON values

A JSON value as far as its text gives it.  A container that the text breaks off in keeps what was complete
before and is not `closed`; where a value is due and none can be read stands `cut`.  A reader that goes
through the value in order therefore meets whatever is wrong at the place where the text has it.

## Main definitions

* `Json`, and `Json.isWhole`: the text gives all of it.
* `Json.text`, `list`, `record`, `float`, `nat`, `int` — the values that are written.
-/

namespace Marionette

/-- A JSON value, as far as its text gives it. -/
inductive Json where
  | null
  | bool (b : Bool)
  | number (n : Numeral)
  /-- A string; `none` where an escape names half of a surrogate pair, which no text can hold. -/
  | string (content : Option String)
  | array (items : List Json) (closed : Bool)
  | object (members : List (Option String × Json)) (closed : Bool)
  /-- A value is due here, but the text has none. -/
  | cut

namespace Json

instance : Inhabited Json := ⟨null⟩

/-- Whether the text gives all of the value.  A text breaks off only once, so whatever is around a broken
value is not closed either. -/
def isWhole : Json → Bool
  | array _ closed => closed
  | object _ closed => closed
  | cut => false
  | _ => true

/-! ### Values to write -/

/-- A string. -/
def text (s : String) : Json := string (some s)

/-- A complete array. -/
def list (items : List Json) : Json := array items true

/-- A complete object. -/
def record (members : List (String × Json)) : Json :=
  object (members.map fun m => (some m.1, m.2)) true

/-- A number, or `null` for what JSON has no number for. -/
def float (x : Float) : Json := if x.isFinite then number (.ofFloat x) else null

/-- A natural number. -/
def nat (n : Nat) : Json := number (.ofNat n)

/-- An integer. -/
def int (i : Int) : Json := number (.ofInt i)

/-- A value or `null`. -/
def optional {α : Type} (f : α → Json) : Option α → Json
  | none => null
  | some a => f a

/-! ### Looking into a value -/

/-- The value of the first member named `name`. -/
def member? (name : String) : Json → Option Json
  | object members _ => (members.find? fun m => m.1 == some name).map (·.2)
  | _ => none

end Json

end Marionette

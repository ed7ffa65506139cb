import Marionette.Json.Token

/-!
# Reading JSON

The tokens of a text build a value.  What is open is kept in a list, so no nesting is too deep.  Where the
text cannot go on, everything that is still open is left unclosed.

## Main definitions

* `Json.Frame` — a container that is being read; `Json.State` — what may come next.
* `Json.State.step` — take up one token.
* `Json.read` — the value of a text, and whether nothing but blanks follows it.
-/

namespace Marionette

namespace Json

/-- A container around the value that is being read, with what it holds so far, the last one first. -/
inductive Frame where
  | array (done : List Json)
  | object (done : List (Option String × Json)) (key : Option String)

/-- What may come next, inside the containers of `stack`, the innermost first. -/
inductive State where
  /-- A value. -/
  | value (stack : List Frame)
  /-- The first item of an array, or its end. -/
  | firstItem (stack : List Frame)
  /-- A comma or the end of an array. -/
  | afterItem (stack : List Frame) (done : List Json)
  /-- A key, or the end of the object where it `mayClose`. -/
  | key (stack : List Frame) (done : List (Option String × Json)) (mayClose : Bool)
  /-- The colon after a key. -/
  | colon (stack : List Frame) (done : List (Option String × Json)) (key : Option String)
  /-- A comma or the end of an object. -/
  | afterMember (stack : List Frame) (done : List (Option String × Json))
  /-- Nothing more. -/
  | finished (root : Json)

namespace State

/-- Put a value into the innermost container. -/
def give (v : Json) : List Frame → State
  | [] => finished v
  | .array done :: stack => afterItem stack (v :: done)
  | .object done k :: stack => afterMember stack ((k, v) :: done)

/-- Begin a value with a token. -/
def begin (stack : List Frame) : Token → Option State
  | .openArray => some (firstItem stack)
  | .openObject => some (key stack [] true)
  | .null => some (give .null stack)
  | .bool b => some (give (.bool b) stack)
  | .number n => some (give (.number n) stack)
  | .string s => some (give (.string s) stack)
  | _ => none

/-- Take up one token, unless it cannot stand there. -/
def step : State → Token → Option State
  | value stack, t => begin stack t
  | firstItem stack, .closeArray => some (give (.array [] true) stack)
  | firstItem stack, t => begin (.array [] :: stack) t
  | afterItem stack done, .comma => some (value (.array done :: stack))
  | afterItem stack done, .closeArray => some (give (.array done.reverse true) stack)
  | key stack done _, .string s => some (colon stack done s)
  | key stack done true, .closeObject => some (give (.object done.reverse true) stack)
  | colon stack done k, .colon => some (value (.object done k :: stack))
  | afterMember stack done, .comma => some (key stack done false)
  | afterMember stack done, .closeObject => some (give (.object done.reverse true) stack)
  | _, _ => none

/-- The outermost value around a value that the text breaks off in. -/
def unclosed (v : Json) : List Frame → Json
  | [] => v
  | .array done :: stack => unclosed (.array (v :: done).reverse false) stack
  | .object done k :: stack => unclosed (.object ((k, v) :: done).reverse false) stack

/-- The value of a text that goes no further. -/
def breakOff : State → Json
  | value stack => unclosed .cut stack
  | firstItem stack => unclosed (.array [] false) stack
  | afterItem stack done => unclosed (.array done.reverse false) stack
  | key stack done _ => unclosed (.object done.reverse false) stack
  | colon stack done k => unclosed (.object ((k, .cut) :: done).reverse false) stack
  | afterMember stack done => unclosed (.object done.reverse false) stack
  | finished root => root

end State

/-- Read on from a state. -/
def readFrom (s : State) (cs : List Char) : Json × Bool :=
  match _h : Token.next cs with
  | .ending => (s.breakOff, true)
  | .fault => (s.breakOff, false)
  | .token t rest =>
    match s.step t with
    | some s' => readFrom s' rest
    | none => (s.breakOff, false)
termination_by cs.length
decreasing_by exact Token.next_length_lt _h

/-- The value of a text, and whether nothing that is no blank follows what was read. -/
def read (cs : List Char) : Json × Bool := readFrom (.value []) cs

end Json

end Marionette

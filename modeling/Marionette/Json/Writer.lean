import Marionette.Json.Value

/-!
# Writing JSON

A value is written either on one line without blanks, or with two blanks of indentation a level and one
item or member a line.  Quotes, backslashes and control characters below the blank are escaped; all other
characters are written as they are.

## Main definitions

* `Json.compact`, `Json.pretty`.
-/

namespace Marionette

namespace Json

/-- The character of a number below 16. -/
def hexChar (n : Nat) : Char := if n < 10 then Char.ofNat (48 + n) else Char.ofNat (87 + n)

/-- A character inside a string. -/
def escape (c : Char) : List Char :=
  if c = '"' then ['\\', '"']
  else if c = '\\' then ['\\', '\\']
  else if c = '\x08' then ['\\', 'b']
  else if c = '\x0c' then ['\\', 'f']
  else if c = '\n' then ['\\', 'n']
  else if c = '\r' then ['\\', 'r']
  else if c = '\t' then ['\\', 't']
  else if c.toNat < 32 then ['\\', 'u', '0', '0', hexChar (c.toNat / 16), hexChar (c.toNat % 16)]
  else [c]

/-- A string between quotes. -/
def quote (s : String) : List Char := '"' :: (s.toList.flatMap escape ++ ['"'])

/-- The text of a value that holds no others; what has no text is written as `null`. -/
def scalarText : Json → List Char
  | bool true => ['t', 'r', 'u', 'e']
  | bool false => ['f', 'a', 'l', 's', 'e']
  | number n => n.text
  | string (some s) => quote s
  | _ => ['n', 'u', 'l', 'l']

/-! ### On one line -/

mutual

/-- A value on one line. -/
def compact : Json → List Char
  | array items _ => '[' :: (compactItems items ++ [']'])
  | object members _ => '{' :: (compactMembers members ++ ['}'])
  | v => scalarText v

/-- Items with commas between them. -/
def compactItems : List Json → List Char
  | [] => []
  | [v] => compact v
  | v :: vs => compact v ++ ',' :: compactItems vs

/-- Members with commas between them. -/
def compactMembers : List (Option String × Json) → List Char
  | [] => []
  | [(k, v)] => quote (k.getD "") ++ ':' :: compact v
  | (k, v) :: ms => quote (k.getD "") ++ ':' :: (compact v ++ ',' :: compactMembers ms)

end

/-! ### On many lines -/

/-- A new line at a level. -/
def newLine (level : Nat) : List Char := '\n' :: List.replicate (2 * level) ' '

mutual

/-- A value on many lines, whose last line is at `level`. -/
def prettyAt (level : Nat) : Json → List Char
  | array [] _ => ['[', ']']
  | array items _ => '[' :: (prettyItems (level + 1) items ++ (newLine level ++ [']']))
  | object [] _ => ['{', '}']
  | object members _ => '{' :: (prettyMembers (level + 1) members ++ (newLine level ++ ['}']))
  | v => scalarText v

/-- Items, each on lines of its own. -/
def prettyItems (level : Nat) : List Json → List Char
  | [] => []
  | [v] => newLine level ++ prettyAt level v
  | v :: vs => newLine level ++ (prettyAt level v ++ ',' :: prettyItems level vs)

/-- Members, each on lines of its own. -/
def prettyMembers (level : Nat) : List (Option String × Json) → List Char
  | [] => []
  | [(k, v)] => newLine level ++ (quote (k.getD "") ++ ':' :: ' ' :: prettyAt level v)
  | (k, v) :: ms =>
    newLine level ++ (quote (k.getD "") ++ ':' :: ' ' :: (prettyAt level v ++ ',' :: prettyMembers level ms))

end

/-- A value on many lines. -/
def pretty (v : Json) : String := String.ofList (prettyAt 0 v)

/-- A value on one line. -/
def line (v : Json) : String := String.ofList (compact v)

end Json

end Marionette

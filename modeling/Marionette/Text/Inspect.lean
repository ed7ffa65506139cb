import Marionette.Text.Hidden

/-!
# Texts for inspection

A text between quotes in which every character can be seen: quotes and backslashes are escaped, common
controls have letters, and other hidden characters are given by their number.

## Main definitions

* `Text.inspect`.
-/

namespace Marionette

namespace Text

/-- A character for inspection. -/
def inspectChar (c : Char) : List Char :=
  if c = '"' then ['\\', '"']
  else if c = '\\' then ['\\', '\\']
  else if c = '\x00' then ['\\', '0']
  else if c = '\t' then ['\\', 't']
  else if c = '\n' then ['\\', 'n']
  else if c = '\r' then ['\\', 'r']
  else if isHidden c then ['\\', 'u', '\x7b'] ++ Nat.toDigits 16 c.toNat ++ ['\x7d']
  else [c]

/-- A text for inspection. -/
def inspect (s : String) : String := String.ofList ('"' :: (s.toList.flatMap inspectChar ++ ['"']))

end Text

end Marionette

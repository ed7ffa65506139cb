import Marionette.Json.Value

/-!
# JSON tokens

The text of a JSON document, token by token.  Only space, tab, line feed and carriage return may stand
between tokens.

## Main definitions

* `Json.Token`.
* `Json.Token.next` — the token in front of a text.
* `Json.scanString` — the rest of a string after its opening quote.

## Main results

* `Json.Token.next_length_lt` — a token takes at least one character.
-/

namespace Marionette

namespace Json

/-- A token.  Everything but brackets, colon and comma is a value of its own. -/
inductive Token where
  | openArray
  | closeArray
  | openObject
  | closeObject
  | colon
  | comma
  | null
  | bool (b : Bool)
  | number (n : Numeral)
  | string (content : Option String)

/-! ### Strings -/

/-- The value of a hexadecimal digit. -/
def hexDigit? (c : Char) : Option Nat :=
  if '0' ≤ c ∧ c ≤ '9' then some (c.toNat - 48)
  else if 'a' ≤ c ∧ c ≤ 'f' then some (c.toNat - 87)
  else if 'A' ≤ c ∧ c ≤ 'F' then some (c.toNat - 55)
  else none

/-- The number of four hexadecimal digits. -/
def hexQuad? (a b c d : Char) : Option Nat := do
  pure (16 * (16 * (16 * (← hexDigit? a) + (← hexDigit? b)) + (← hexDigit? c)) + (← hexDigit? d))

/-- The character of a one-letter escape. -/
def escaped? : Char → Option Char
  | '"' => some '"'
  | '\\' => some '\\'
  | '/' => some '/'
  | 'b' => some '\x08'
  | 'f' => some '\x0c'
  | 'n' => some '\n'
  | 'r' => some '\r'
  | 't' => some '\t'
  | _ => none

/-- A part of a string: a character, or a 16-bit unit from an escape. -/
inductive Piece where
  | char (c : Char)
  | unit (n : Nat)

/-- Read on to the closing quote; `done` holds the pieces before, the last one first. -/
def scanString (done : List Piece) : List Char → Option (List Piece × List Char)
  | '"' :: cs => some (done.reverse, cs)
  | '\\' :: 'u' :: a :: b :: c :: d :: cs =>
    match hexQuad? a b c d with
    | some n => scanString (.unit n :: done) cs
    | none => none
  | '\\' :: e :: cs =>
    match escaped? e with
    | some c => scanString (.char c :: done) cs
    | none => none
  | c :: cs => if c.toNat < 32 then none else scanString (.char c :: done) cs
  | [] => none

/-- The characters of the pieces, `done` before them with the last one first.  Two units that are the
halves of a surrogate pair make one character; a half alone makes none. -/
def joinPieces (done : List Char) : List Piece → Option (List Char)
  | [] => some done.reverse
  | .char c :: ps => joinPieces (c :: done) ps
  | .unit n :: ps =>
    if 0xD800 ≤ n ∧ n < 0xDC00 then
      match ps with
      | .unit m :: ps =>
        if 0xDC00 ≤ m ∧ m < 0xE000 then
          joinPieces (Char.ofNat (0x10000 + (n - 0xD800) * 0x400 + (m - 0xDC00)) :: done) ps
        else none
      | _ => none
    else if 0xDC00 ≤ n ∧ n < 0xE000 then none
    else joinPieces (Char.ofNat n :: done) ps

/-- What the pieces of a string say. -/
def contentOf (ps : List Piece) : Option String := (joinPieces [] ps).map String.ofList

theorem length_scanString_lt {done : List Piece} {cs : List Char} {r : List Piece × List Char}
    (h : scanString done cs = some r) : r.2.length < cs.length := by
  fun_induction scanString done cs with
  | case1 => cases h; simp
  | case2 done a b c d cs n hn ih => have := ih h; simp only [List.length_cons]; omega
  | case3 => cases h
  | case4 done e cs hu c hc ih => have := ih h; simp only [List.length_cons]; omega
  | case5 => cases h
  | case6 => cases h
  | case7 done c cs _ _ _ hc ih => have := ih h; simp only [List.length_cons]; omega
  | case8 => cases h

/-! ### Tokens -/

/-- What stands in front of a text. -/
inductive Next where
  /-- Nothing but blanks. -/
  | ending
  /-- Something that no token starts with. -/
  | fault
  | token (t : Token) (rest : List Char)

/-- Whether a character may stand between tokens. -/
def isBlank (c : Char) : Bool := c = ' ' ∨ c = '\t' ∨ c = '\n' ∨ c = '\r'

/-- What stands in front of a text that does not start with a blank. -/
def Token.first : List Char → Next
  | [] => .ending
  | '[' :: cs => .token .openArray cs
  | ']' :: cs => .token .closeArray cs
  | '{' :: cs => .token .openObject cs
  | '}' :: cs => .token .closeObject cs
  | ':' :: cs => .token .colon cs
  | ',' :: cs => .token .comma cs
  | '"' :: cs =>
    match scanString [] cs with
    | some (ps, rest) => .token (.string (contentOf ps)) rest
    | none => .fault
  | 'n' :: 'u' :: 'l' :: 'l' :: cs => .token .null cs
  | 't' :: 'r' :: 'u' :: 'e' :: cs => .token (.bool true) cs
  | 'f' :: 'a' :: 'l' :: 's' :: 'e' :: cs => .token (.bool false) cs
  | c :: cs =>
    match Numeral.scan (c :: cs) with
    | some (n, rest) => .token (.number n) rest
    | none => .fault

/-- What stands in front of a text. -/
def Token.next (cs : List Char) : Next := Token.first (cs.dropWhile isBlank)

theorem Token.first_length_lt {cs rest : List Char} {t : Token}
    (h : Token.first cs = .token t rest) : rest.length < cs.length := by
  rw [Token.first.eq_def] at h
  split at h
  all_goals first
    | cases h; done
    | (cases h; simp only [List.length_cons]; omega)
    | skip
  · split at h
    · next heq =>
      cases h
      have := length_scanString_lt heq
      simp only [List.length_cons] at this ⊢
      omega
    · cases h
  · split at h
    · next heq => cases h; exact Numeral.length_scan_lt heq
    · cases h

/-- A token takes at least one character. -/
theorem Token.next_length_lt {cs rest : List Char} {t : Token}
    (h : Token.next cs = .token t rest) : rest.length < cs.length := by
  have := Token.first_length_lt h
  have := (List.dropWhile_sublist isBlank (l := cs)).length_le
  omega

end Json

end Marionette

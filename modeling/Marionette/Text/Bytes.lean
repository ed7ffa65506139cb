/-!
# Texts from bytes

A document may come as bytes that are not UTF-8 throughout.  A stretch that is no UTF-8 is no text, but it
is harmless inside a string that nobody reads.  It is therefore rendered as the escape of half a surrogate
pair, which is just that.  After a backslash it is rendered as a control character, which no string may
hold, so that the backslash escapes nothing.

## Main definitions

* `Text.ofBytes`.
-/

namespace Marionette

namespace Text

/-- What stands for a byte that belongs to no character. -/
def undecodable (escaped : Bool) : List Char :=
  if escaped then ['\x00'] else ['\\', 'u', 'd', '8', '0', '0']

/-- The characters from byte `i` on; `escaped` says that an open backslash stands before it and `done` holds
what stands before, the last character first. -/
def decodeFrom (bytes : ByteArray) (i : Nat) (escaped : Bool) (done : List Char) : List Char :=
  if _h : i < bytes.size then
    match bytes.utf8DecodeChar? i with
    | some c => decodeFrom bytes (i + c.utf8Size) (c == '\\' && !escaped) (c :: done)
    | none => decodeFrom bytes (i + 1) false ((undecodable escaped).reverse ++ done)
  else done.reverse
termination_by bytes.size - i
decreasing_by
  · have := c.utf8Size_pos
    omega
  · omega

/-- The characters of some bytes. -/
def ofBytes (bytes : ByteArray) : List Char :=
  match String.fromUTF8? bytes with
  | some s => s.toList
  | none => decodeFrom bytes 0 false []

end Text

end Marionette

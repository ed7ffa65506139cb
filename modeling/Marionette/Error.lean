/-!
# Errors

An error has a kind, which says what the caller can do about it, and a detail, which says what went wrong.
The causes are types of their own, beside the operations that raise them; each has its wording in one
place and becomes an `Error` there.

## Main definitions

* `ErrorKind`, `Error`, `Error.display`.
-/

namespace Marionette

/-- What a caller can do about an error. -/
inductive ErrorKind
  /-- The input is not acceptable. -/
  | validation
  /-- The operation is not allowed now, but would be in another state. -/
  | invalidState
  /-- The configuration is inconsistent or cannot be read. -/
  | config
  /-- A document is not well formed. -/
  | document
  /-- Anything else; its detail stands for itself. -/
  | other
  deriving DecidableEq, Repr

/-- The words in front of the detail. -/
def ErrorKind.heading : ErrorKind → String
  | validation => "validation error: "
  | invalidState => "invalid state: "
  | config => "config error: "
  | document => "serialization error: "
  | other => ""

/-- What went wrong, and of which kind it is. -/
structure Error where
  kind : ErrorKind
  detail : String
  deriving DecidableEq, Repr

namespace Error

/-- The error as it is shown. -/
def display (e : Error) : String := e.kind.heading ++ e.detail

/-- Whether changing the state first can make the operation succeed. -/
def isInvalidState (e : Error) : Bool := e.kind == .invalidState

end Error

end Marionette

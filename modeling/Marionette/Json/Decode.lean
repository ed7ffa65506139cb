import Marionette.Error
import Marionette.Json.Reader

/-!
# Typed reading of JSON values

A decoder takes a value to something of a type, or to the first fault in the order of the document.  A
structure is read from an object with its fields in any order, or from an array of them in their declared
order.  Members with other names are passed over when they are well formed.

## Main definitions

* `Json.Fault`, `Json.Decoder`.
* Decoders for numbers, texts, optional values and lists.
* `Json.Fields` — the fields of a structure; `Json.Fields.decode` reads them.
* `Json.parse` — read a whole text as one value of a type.
-/

namespace Marionette

namespace Json

/-- Why a document cannot be read. -/
inductive Fault where
  /-- The object ends without a field that has no default. -/
  | missingField (name : String)
  /-- The object has a field twice. -/
  | duplicateField (name : String)
  /-- The text is no JSON, or a value is not of the kind that is due. -/
  | malformed
  deriving DecidableEq, Repr

namespace Fault

/-- The fault in words. -/
def message : Fault → String
  | missingField name => "missing field `" ++ name ++ "`"
  | duplicateField name => "duplicate field `" ++ name ++ "`"
  | malformed => "malformed document"

/-- The fault as an error. -/
def error (f : Fault) : Error := ⟨.document, f.message⟩

end Fault

/-- A way to read values of a type. -/
abbrev Decoder (α : Type) := Json → Except Fault α

/-- What `a` holds, or the fault `malformed`. -/
def orMalformed {α : Type} : Option α → Except Fault α
  | some a => .ok a
  | none => .error .malformed

/-! ### Simple values -/

/-- A boolean. -/
def decodeBool : Decoder Bool
  | bool b => .ok b
  | _ => .error .malformed

/-- A string. -/
def decodeText : Decoder String
  | string s => orMalformed s
  | _ => .error .malformed

/-- A number of any form, unless it is too large. -/
def decodeFloat : Decoder Float
  | number n => orMalformed n.toFloat?
  | _ => .error .malformed

/-- A natural number up to `greatest`, written without a point and a power of ten. -/
def decodeNat (greatest : Nat) : Decoder Nat
  | number n => orMalformed (n.toNat?.filter (· ≤ greatest))
  | _ => .error .malformed

/-- An integer from `least` to `greatest`, written without a point and a power of ten. -/
def decodeInt (least greatest : Int) : Decoder Int
  | number n => orMalformed (n.toInt?.filter fun i => least ≤ i ∧ i ≤ greatest)
  | _ => .error .malformed

/-- A 64-bit natural number. -/
def decodeUInt64 : Decoder UInt64 := fun v => .ofNat <$> decodeNat (UInt64.size - 1) v

/-- A 32-bit natural number. -/
def decodeUInt32 : Decoder UInt32 := fun v => .ofNat <$> decodeNat (UInt32.size - 1) v

/-- A 64-bit integer. -/
def decodeInt64 : Decoder Int64 := fun v =>
  .ofInt <$> decodeInt Int64.minValue.toInt Int64.maxValue.toInt v

/-- A value, or `null` for none. -/
def decodeOptional {α : Type} (item : Decoder α) : Decoder (Option α)
  | null => .ok none
  | v => some <$> item v

/-- The items of an array, in order. -/
def decodeList {α : Type} (item : Decoder α) : Decoder (List α)
  | array items closed => do
    let decoded ← items.mapM item
    if closed then pure decoded else throw .malformed
  | _ => .error .malformed

/-! ### Structures -/

/-- The fields of a structure in their declared order: of each its name, its other names, how it is read and
what it is when it is missing. -/
inductive Fields : List Type → Type 1 where
  | nil : Fields []
  | cons {τ : Type} {τs : List Type} (name : String) (aliases : List String) (decode : Decoder τ)
      (default? : Option τ) (rest : Fields τs) : Fields (τ :: τs)

/-- What was read of each field so far. -/
@[reducible] def Slots : List Type → Type
  | [] => Unit
  | τ :: τs => Option τ × Slots τs

/-- A value for each field. -/
@[reducible] def Values : List Type → Type
  | [] => Unit
  | τ :: τs => τ × Values τs

namespace Fields

/-- A field that has to be there. -/
def required {τ : Type} {τs : List Type} (name : String) (decode : Decoder τ) (rest : Fields τs) :
    Fields (τ :: τs) := cons name [] decode none rest

/-- A field with a default. -/
def defaulted {τ : Type} {τs : List Type} (name : String) (decode : Decoder τ) (value : τ)
    (rest : Fields τs) : Fields (τ :: τs) := cons name [] decode (some value) rest

/-- Nothing read yet. -/
def noSlots : {τs : List Type} → Fields τs → Slots τs
  | _, nil => ()
  | _, cons _ _ _ _ rest => (none, rest.noSlots)

/-- Read the member `key` into its slot.  A second member for one field is a fault before its value is
looked at, and a member for no field only has to be well formed. -/
def readMember (key : String) (v : Json) : {τs : List Type} → Fields τs → Slots τs → Except Fault (Slots τs)
  | _, nil, _ => if v.isWhole then .ok () else .error .malformed
  | _, cons name aliases decode _ rest, (slot, slots) =>
    if key = name ∨ key ∈ aliases then
      match slot with
      | some _ => .error (.duplicateField name)
      | none => (decode v).map fun value => (some value, slots)
    else (rest.readMember key v slots).map fun slots => (slot, slots)

/-- Read the members of an object in order. -/
def readMembers {τs : List Type} (fs : Fields τs) :
    List (Option String × Json) → Slots τs → Except Fault (Slots τs)
  | [], slots => .ok slots
  | (none, _) :: _, _ => .error .malformed
  | (some key, v) :: ms, slots => do fs.readMembers ms (← fs.readMember key v slots)

/-- The values of the slots; the first field that is missing and has no default is a fault. -/
def complete : {τs : List Type} → Fields τs → Slots τs → Except Fault (Values τs)
  | _, nil, _ => .ok ()
  | _, cons name _ _ default? rest, (slot, slots) =>
    match slot.or default? with
    | some value => (rest.complete slots).map fun values => (value, values)
    | none => .error (.missingField name)

/-- The values of the items of an array, which may end early before fields with defaults. -/
def readItems (closed : Bool) : {τs : List Type} → Fields τs → List Json → Except Fault (Values τs)
  | _, nil, items => if items.isEmpty && closed then .ok () else .error .malformed
  | _, cons _ _ decode _ rest, v :: items => do
    let value ← decode v
    let values ← rest.readItems closed items
    pure (value, values)
  | _, cons _ _ _ default? rest, [] =>
    match default? with
    | some value => (rest.readItems closed []).map fun values => (value, values)
    | none => .error .malformed

/-- Read a structure and make an `α` of its fields. -/
def decode {τs : List Type} {α : Type} (fs : Fields τs) (make : Values τs → α) : Decoder α
  | object members closed => do
    let slots ← fs.readMembers members fs.noSlots
    if closed then make <$> fs.complete slots else throw .malformed
  | array items closed => make <$> fs.readItems closed items
  | _ => .error .malformed

end Fields

/-! ### Whole texts -/

/-- Read a whole text as one value. -/
def parse {α : Type} (decode : Decoder α) (cs : List Char) : Except Fault α := do
  let (v, alone) := read cs
  let value ← decode v
  if alone then pure value else throw .malformed

end Json

end Marionette

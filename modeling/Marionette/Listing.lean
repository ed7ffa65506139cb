/-!
# Lists of named things

Actors on a stage, blocks of a flow and flows of a book are lists of things with a name.  An operation that
is given a name addresses the first entry that has it.

## Main definitions

* `Listing.find?`, `modify`, `remove`, `names`.
* `Listing.firstRepeated` — the first name that stands in the list before.

## Main results

* `Listing.find?_modify` — a modification reaches the addressed entry and no other.
* `Listing.firstRepeated_eq_none_iff` — no name is repeated exactly when the names are distinct.
-/

namespace Marionette

namespace Listing

variable {α ι : Type} [DecidableEq ι]

/-- The first entry named `id`. -/
def find? (name : α → ι) (id : ι) (xs : List α) : Option α := xs.find? fun x => name x = id

/-- Change the first entry named `id`. -/
def modify (name : α → ι) (id : ι) (f : α → α) : List α → List α
  | [] => []
  | x :: xs => if name x = id then f x :: xs else x :: modify name id f xs

/-- The list without the first entry named `id`. -/
def remove (name : α → ι) (id : ι) (xs : List α) : List α := xs.eraseP fun x => name x = id

/-- The first name that is among `seen` or stands in the list before. -/
def firstRepeated (seen : List ι) : List ι → Option ι
  | [] => none
  | id :: ids => if id ∈ seen then some id else firstRepeated (id :: seen) ids

theorem length_modify (name : α → ι) (id : ι) (f : α → α) (xs : List α) :
    (modify name id f xs).length = xs.length := by
  induction xs with
  | nil => rfl
  | cons x xs ih => by_cases h : name x = id <;> simp [modify, h, ih]

/-- A modification that keeps names keeps all of them. -/
theorem map_modify (name : α → ι) (id : ι) {f : α → α} (hf : ∀ x, name (f x) = name x) (xs : List α) :
    (modify name id f xs).map name = xs.map name := by
  induction xs with
  | nil => rfl
  | cons x xs ih => by_cases h : name x = id <;> simp [modify, h, ih, hf]

/-- A modification reaches the addressed entry and no other. -/
theorem find?_modify (name : α → ι) (id id' : ι) {f : α → α} (hf : ∀ x, name (f x) = name x)
    (xs : List α) :
    find? name id' (modify name id f xs) =
      if id' = id then (find? name id xs).map f else find? name id' xs := by
  simp only [find?]
  induction xs with
  | nil => simp [modify]
  | cons x xs ih =>
    by_cases h : name x = id
    · by_cases h' : id' = id
      · simp [modify, h, h', hf]
      · have : name x ≠ id' := fun e => h' (e ▸ h)
        simp [modify, h, h', hf, Ne.symm h']
    · by_cases h' : name x = id'
      · have : id' ≠ id := fun e => h (h'.trans e)
        simp [modify, h', this]
      · simp [modify, h, h', ih]

theorem firstRepeated_eq_none_iff (seen ids : List ι) :
    firstRepeated seen ids = none ↔ ids.Nodup ∧ ∀ id ∈ ids, id ∉ seen := by
  induction ids generalizing seen with
  | nil => simp [firstRepeated]
  | cons id ids ih =>
    by_cases h : id ∈ seen
    · simp [firstRepeated, h]
    · simp only [firstRepeated, if_neg h, ih, List.nodup_cons, List.mem_cons, not_or]
      grind

end Listing

end Marionette

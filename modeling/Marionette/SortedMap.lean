/-!
# Sorted maps

A finite map is one list of entries in strictly ascending key order.  The order is part of the type, so
two maps with the same bindings are the same value, and what is written out needs no further sorting.

## Main definitions

* `SortedMap κ ν` — entries with strictly ascending keys.
* `SortedMap.get?`, `insert`, `contains`, `keys`, `values`, `ofList`.
* `KeySet κ` — a sorted set, as a map to `Unit`.

## Main results

* `SortedMap.get?_insert` — a write is read back, and changes no other key.
* `SortedMap.mem_keys_iff` — the keys are exactly what has a value.
* `SortedMap.ext_get?` — a map is determined by what it answers.
-/

namespace Marionette

/-- A finite map whose entries are kept in strictly ascending key order. -/
structure SortedMap (κ ν : Type) [Ord κ] where
  entries : List (κ × ν)
  ascending : entries.Pairwise fun a b => compare a.1 b.1 = .lt

namespace SortedMap

variable {κ ν : Type} [Ord κ]

/-! ### Entries as a list -/

/-- The value at `key`. -/
def lookup (key : κ) : List (κ × ν) → Option ν
  | [] => none
  | (k, v) :: rest => if compare key k = .eq then some v else lookup key rest

/-- Put `value` at `key`, in place of what was there or before the first greater key. -/
def place (key : κ) (value : ν) : List (κ × ν) → List (κ × ν)
  | [] => [(key, value)]
  | (k, v) :: rest =>
    match compare key k with
    | .lt => (key, value) :: (k, v) :: rest
    | .eq => (key, value) :: rest
    | .gt => (k, v) :: place key value rest

theorem mem_place {key : κ} {value : ν} {e : κ × ν} {es : List (κ × ν)}
    (h : e ∈ place key value es) : e = (key, value) ∨ e ∈ es := by
  induction es with
  | nil => simpa [place] using h
  | cons hd tl ih =>
    obtain ⟨k, v⟩ := hd
    rw [place] at h
    split at h
    · simpa using h
    · rcases List.mem_cons.1 h with h | h
      · exact .inl h
      · exact .inr (List.mem_cons_of_mem _ h)
    · rcases List.mem_cons.1 h with h | h
      · exact .inr (h ▸ List.mem_cons_self)
      · exact (ih h).imp id (List.mem_cons_of_mem _)

variable [Std.TransOrd κ] [Std.LawfulEqOrd κ]

theorem ascending_place (key : κ) (value : ν) {es : List (κ × ν)}
    (h : es.Pairwise fun a b => compare a.1 b.1 = .lt) :
    (place key value es).Pairwise fun a b => compare a.1 b.1 = .lt := by
  induction es with
  | nil => simp [place]
  | cons hd tl ih =>
    obtain ⟨k, v⟩ := hd
    obtain ⟨hk, htl⟩ := List.pairwise_cons.1 h
    rw [place]
    split
    · next hc =>
      refine List.pairwise_cons.2 ⟨fun e he => ?_, h⟩
      rcases List.mem_cons.1 he with rfl | he
      · exact hc
      · exact Std.TransCmp.lt_trans hc (hk e he)
    · next hc =>
      have := Std.LawfulEqOrd.eq_of_compare hc
      subst this
      exact List.pairwise_cons.2 ⟨hk, htl⟩
    · next hc =>
      refine List.pairwise_cons.2 ⟨fun e he => ?_, ih htl⟩
      rcases mem_place he with rfl | he
      · exact Std.OrientedCmp.lt_of_gt hc
      · exact hk e he

omit [Std.TransOrd κ] [Std.LawfulEqOrd κ] in
theorem lookup_eq_none_of_forall_gt {key : κ} {es : List (κ × ν)}
    (h : ∀ e ∈ es, compare key e.1 = .lt) : lookup key es = none := by
  induction es with
  | nil => rfl
  | cons hd tl ih =>
    have := h hd List.mem_cons_self
    simp [lookup, this, ih fun e he => h e (List.mem_cons_of_mem _ he)]

omit [Std.TransOrd κ] in
theorem lookup_place (key key' : κ) (value : ν) (es : List (κ × ν)) :
    lookup key' (place key value es) =
      if compare key' key = .eq then some value else lookup key' es := by
  induction es with
  | nil => rfl
  | cons hd tl ih =>
    obtain ⟨k, v⟩ := hd
    rw [place]
    split
    · rfl
    · next hc =>
      have := Std.LawfulEqOrd.eq_of_compare hc
      subst this
      by_cases h : compare key' key = .eq <;> simp [lookup, h]
    · next hc =>
      simp only [lookup, ih]
      by_cases h : compare key' k = .eq
      · have := Std.LawfulEqOrd.eq_of_compare h
        subst this
        have : compare key' key ≠ .eq := fun he => by
          have := Std.LawfulEqOrd.eq_of_compare he
          subst this
          simp at hc
        simp [this]
      · simp [h]

/-! ### Operations -/

/-- The map with no entry. -/
def empty : SortedMap κ ν := ⟨[], .nil⟩

instance : EmptyCollection (SortedMap κ ν) := ⟨empty⟩
instance : Inhabited (SortedMap κ ν) := ⟨empty⟩

/-- The value at `key`, if it has one. -/
def get? (m : SortedMap κ ν) (key : κ) : Option ν := lookup key m.entries

/-- Bind `key` to `value`, replacing an earlier binding. -/
def insert (m : SortedMap κ ν) (key : κ) (value : ν) : SortedMap κ ν :=
  ⟨place key value m.entries, ascending_place key value m.ascending⟩

/-- Whether `key` has a value. -/
def contains (m : SortedMap κ ν) (key : κ) : Bool := (m.get? key).isSome

/-- The keys, ascending. -/
def keys (m : SortedMap κ ν) : List κ := m.entries.map (·.1)

/-- The values, in the order of their keys. -/
def values (m : SortedMap κ ν) : List ν := m.entries.map (·.2)

/-- The number of entries. -/
def size (m : SortedMap κ ν) : Nat := m.entries.length

/-- Whether there is no entry. -/
def isEmpty (m : SortedMap κ ν) : Bool := m.entries.isEmpty

/-- The map of a list of bindings; of two bindings for one key the later holds. -/
def ofList (bindings : List (κ × ν)) : SortedMap κ ν :=
  bindings.foldl (fun m b => m.insert b.1 b.2) empty

/-! ### What the operations do to `get?` -/

omit [Std.TransOrd κ] [Std.LawfulEqOrd κ] in
@[simp] theorem get?_empty (key : κ) : (empty : SortedMap κ ν).get? key = none := rfl

theorem get?_insert (m : SortedMap κ ν) (key key' : κ) (value : ν) :
    (m.insert key value).get? key' =
      if compare key' key = .eq then some value else m.get? key' :=
  lookup_place key key' value m.entries

@[simp] theorem get?_insert_self (m : SortedMap κ ν) (key : κ) (value : ν) :
    (m.insert key value).get? key = some value := by simp [get?_insert]

theorem get?_insert_of_ne (m : SortedMap κ ν) {key key' : κ} (value : ν) (h : key' ≠ key) :
    (m.insert key value).get? key' = m.get? key' := by
  rw [get?_insert, if_neg fun he => h (Std.LawfulEqOrd.eq_of_compare he)]

omit [Std.TransOrd κ] in
theorem mem_keys_iff (m : SortedMap κ ν) (key : κ) : key ∈ m.keys ↔ (m.get? key).isSome := by
  obtain ⟨es, hes⟩ := m
  simp only [keys, get?]
  clear hes
  induction es with
  | nil => simp [lookup]
  | cons hd tl ih =>
    obtain ⟨k, v⟩ := hd
    by_cases h : compare key k = .eq
    · have := Std.LawfulEqOrd.eq_of_compare h
      simp [lookup, this]
    · have hne : key ≠ k := fun he => h (by simp [he])
      simp only [List.map_cons, List.mem_cons, hne, false_or, lookup, if_neg h]
      exact ih

theorem entries_eq_of_lookup_eq {as bs : List (κ × ν)}
    (ha : as.Pairwise fun a b => compare a.1 b.1 = .lt)
    (hb : bs.Pairwise fun a b => compare a.1 b.1 = .lt)
    (h : ∀ key, lookup key as = lookup key bs) : as = bs := by
  induction as generalizing bs with
  | nil =>
    cases bs with
    | nil => rfl
    | cons b bs => simpa [lookup] using h b.1
  | cons a as ih =>
    cases bs with
    | nil => simpa [lookup] using h a.1
    | cons b bs =>
      obtain ⟨hka, hta⟩ := List.pairwise_cons.1 ha
      obtain ⟨hkb, htb⟩ := List.pairwise_cons.1 hb
      have hab : compare a.1 b.1 = .eq := by
        match hc : compare a.1 b.1 with
        | .eq => rfl
        | .lt =>
          have hn : lookup a.1 (b :: bs) = none := lookup_eq_none_of_forall_gt fun e he => by
            rcases List.mem_cons.1 he with rfl | he
            · exact hc
            · exact Std.TransCmp.lt_trans hc (hkb e he)
          have := h a.1
          rw [hn] at this
          simp [lookup] at this
        | .gt =>
          have hc' := Std.OrientedCmp.lt_of_gt hc
          have hn : lookup b.1 (a :: as) = none := lookup_eq_none_of_forall_gt fun e he => by
            rcases List.mem_cons.1 he with rfl | he
            · exact hc'
            · exact Std.TransCmp.lt_trans hc' (hka e he)
          have := h b.1
          rw [hn] at this
          simp [lookup] at this
      have hk := Std.LawfulEqOrd.eq_of_compare hab
      obtain ⟨k, v⟩ := a
      obtain ⟨k', v'⟩ := b
      dsimp only at hk hka hkb
      subst hk
      have hv := h k
      simp only [lookup, Std.ReflCmp.compare_self, if_pos] at hv
      cases hv
      congr 1
      refine ih hta htb fun key => ?_
      have := h key
      simp only [lookup] at this
      by_cases hkey : compare key k = .eq
      · have := Std.LawfulEqOrd.eq_of_compare hkey
        subst this
        rw [lookup_eq_none_of_forall_gt hka, lookup_eq_none_of_forall_gt hkb]
      · simpa [hkey] using this

/-- A map is determined by what it answers. -/
theorem ext_get? {m n : SortedMap κ ν} (h : ∀ key, m.get? key = n.get? key) : m = n := by
  obtain ⟨as, ha⟩ := m
  obtain ⟨bs, hb⟩ := n
  have := entries_eq_of_lookup_eq ha hb h
  subst this
  rfl

end SortedMap

/-! ### Sets of keys -/

/-- A finite set kept in ascending order. -/
abbrev KeySet (κ : Type) [Ord κ] := SortedMap κ Unit

namespace KeySet

variable {κ : Type} [Ord κ] [Std.TransOrd κ] [Std.LawfulEqOrd κ]

/-- Add `key`, and say whether it was new. -/
def add (s : KeySet κ) (key : κ) : KeySet κ × Bool :=
  (SortedMap.insert s key (), !SortedMap.contains s key)

/-- The set of a list. -/
def ofKeys (keys : List κ) : KeySet κ := SortedMap.ofList (keys.map (·, ()))

end KeySet

end Marionette

import Marionette.Identifier
import Marionette.Listing
import Mathlib.Data.List.Nodup
import Mathlib.Data.List.Perm.Subperm

/-!
# Distinct names

Lists of named things keep their names distinct if whatever is added has a new name.  A new name is found by
counting on from the length of the list.  Names are given back when things are removed, so the count may meet
names that are in use, but it meets a free one before it has been refused as often as there are names.

## Main results

* `exists_leastFree_eq` — the least free name is free, and the ones before it are not.
* `Listing.nodup_concat`, `nodup_remove` — adding under a new name and removing keep names distinct.
* `Listing.mem_names_remove` — who is removed takes no other name away.
-/

namespace Marionette

/-! ### Free names -/

theorem numbered_injective (stem : String) {m n : Nat} (h : numbered stem m = numbered stem n) : m = n :=
  decimal_injective ((String.append_right_inj (stem ++ "-")).mp h)

/-- As long as there are tries left, the search stops at a free name. -/
theorem exists_firstFree_eq (stem : String) (taken : List String) (tries n : Nat) :
    ∃ k ≤ tries, firstFree stem taken tries n = numbered stem (n + k) ∧
      (k < tries → numbered stem (n + k) ∉ taken) ∧ ∀ j < k, numbered stem (n + j) ∈ taken := by
  induction tries generalizing n with
  | zero => exact ⟨0, Nat.le_refl 0, rfl, by simp, by simp⟩
  | succ tries ih =>
    rw [firstFree]
    by_cases htaken : numbered stem n ∈ taken
    · obtain ⟨k, hk, heq, hfree, hbefore⟩ := ih (n + 1)
      have hshift : ∀ j, n + 1 + j = n + (j + 1) := by omega
      simp only [hshift] at heq hfree hbefore
      rw [if_pos htaken]
      refine ⟨k + 1, Nat.succ_le_succ hk, heq, fun hlt => hfree (Nat.lt_of_succ_lt_succ hlt), ?_⟩
      rintro (_ | j) hj
      · exact htaken
      · exact hbefore j (Nat.lt_of_succ_lt_succ hj)
    · rw [if_neg htaken]
      exact ⟨0, Nat.zero_le _, rfl, fun _ => htaken, by simp⟩

/-- Not all of more candidates than there are names can be taken. -/
theorem le_length_of_forall_taken {stem : String} {taken : List String} {n k : Nat}
    (h : ∀ j < k, numbered stem (n + j) ∈ taken) : k ≤ taken.length := by
  have hnodup : ((List.range k).map fun j => numbered stem (n + j)).Nodup :=
    List.nodup_range.map fun i j heq => Nat.add_left_cancel (numbered_injective stem heq)
  have hsubset : ((List.range k).map fun j => numbered stem (n + j)) ⊆ taken := by
    intro name hname
    obtain ⟨j, hj, rfl⟩ := List.mem_map.mp hname
    exact h j (List.mem_range.mp hj)
  simpa using (hnodup.subperm hsubset).length_le

/-- **The least free name is free, and the ones before it are not.** -/
theorem exists_leastFree_eq (stem : String) (start : Nat) (taken : List String) :
    ∃ k, leastFree stem start taken = numbered stem (start + k) ∧
      numbered stem (start + k) ∉ taken ∧ ∀ j < k, numbered stem (start + j) ∈ taken := by
  obtain ⟨k, hk, heq, hfree, hbefore⟩ := exists_firstFree_eq stem taken taken.length start
  refine ⟨k, heq, ?_, hbefore⟩
  rcases Nat.lt_or_eq_of_le hk with hlt | hlast
  · exact hfree hlt
  · -- all names that are in use were met before
    intro htaken
    have hmore : taken.length + 1 ≤ taken.length := by
      refine le_length_of_forall_taken fun j hj => (?_ : numbered stem (start + j) ∈ taken)
      rcases Nat.lt_succ_iff_lt_or_eq.mp hj with hlt | rfl
      · exact hbefore j (hlast ▸ hlt)
      · exact hlast ▸ htaken
    exact Nat.not_succ_le_self _ hmore

theorem leastFree_notMem (stem : String) (start : Nat) (taken : List String) :
    leastFree stem start taken ∉ taken := by
  obtain ⟨k, heq, hfree, -⟩ := exists_leastFree_eq stem start taken
  rw [heq]
  exact hfree

/-! ### Lists with distinct names -/

namespace Listing

variable {α ι : Type} [DecidableEq ι] {name : α → ι} {xs : List α} {id : ι}

theorem isSome_find?_iff : (find? name id xs).isSome ↔ id ∈ xs.map name := by
  simp [find?, List.mem_map]

theorem mem_names_of_find? {x : α} (h : find? name id xs = some x) : id ∈ xs.map name :=
  isSome_find?_iff.mp (by simp [h])

omit [DecidableEq ι] in
/-- Names are new when their texts are. -/
theorem notMem_names_of_text (text : ι → String) (h : text id ∉ xs.map fun x => text (name x)) :
    id ∉ xs.map name := by
  intro hmem
  obtain ⟨x, hx, rfl⟩ := List.mem_map.mp hmem
  exact h (List.mem_map_of_mem hx)

omit [DecidableEq ι] in
/-- Whatever is added under a new name keeps the names distinct. -/
theorem nodup_concat {x : α} (h : (xs.map name).Nodup) (hx : name x ∉ xs.map name) :
    ((xs ++ [x]).map name).Nodup := by
  rw [List.map_append, List.map_singleton, ← List.concat_eq_append, List.nodup_concat]
  exact ⟨hx, h⟩

theorem remove_sublist : (remove name id xs).Sublist xs := List.eraseP_sublist

theorem nodup_remove (h : (xs.map name).Nodup) : ((remove name id xs).map name).Nodup :=
  h.sublist (remove_sublist.map name)

/-- Who is removed takes no other name away. -/
theorem mem_names_remove {id' : ι} (hne : id' ≠ id) (h : id' ∈ xs.map name) :
    id' ∈ (remove name id xs).map name := by
  obtain ⟨x, hx, rfl⟩ := List.mem_map.mp h
  exact List.mem_map_of_mem ((List.mem_eraseP_of_neg (by simpa using hne)).mpr hx)

/-- When there are others, somebody is left. -/
theorem remove_ne_nil (hmany : ¬ xs.length ≤ 1) : remove name id xs ≠ [] := by
  intro hnil
  have hlength : xs.length - 1 ≤ (remove name id xs).length := List.le_length_eraseP
  rw [hnil, List.length_nil] at hlength
  omega

/-- What holds of all entries, and is brought about by a modification, holds of all entries after it. -/
theorem forall_mem_modify {P : α → Prop} {f : α → α} (h : ∀ x ∈ xs, P x)
    (hf : ∀ x ∈ xs, P (f x)) : ∀ x ∈ modify name id f xs, P x := by
  induction xs with
  | nil => simp [modify]
  | cons y ys ih =>
    rw [List.forall_mem_cons] at h hf
    rw [modify]
    split
    · exact List.forall_mem_cons.mpr ⟨hf.1, h.2⟩
    · exact List.forall_mem_cons.mpr ⟨h.1, ih h.2 hf.2⟩

end Listing
end Marionette

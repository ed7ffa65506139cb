import Marionette.SortedMap
import Mathlib.Logic.Basic

/-!
# Reading sorted maps and sets

## Main results

* `SortedMap.get?_ofList_filterMap` — a map that is built key by key answers what was put in.
* `SortedMap.mem_keys_iff_contains`, `isEmpty_iff` — keys, membership and emptiness say the same.
* `KeySet.ext_contains` — a set is determined by its members.
-/

namespace Marionette

namespace SortedMap

variable {κ ν : Type} [Ord κ]

theorem isEmpty_iff (m : SortedMap κ ν) : m.isEmpty = true ↔ m.keys = [] := by
  simp [isEmpty, keys]

theorem eq_empty_of_isEmpty {m : SortedMap κ ν} (h : m.isEmpty = true) : m = empty := by
  obtain ⟨entries, ordered⟩ := m
  obtain rfl : entries = [] := List.isEmpty_iff.mp h
  rfl

theorem isEmpty_eq_false_iff (m : SortedMap κ ν) : m.isEmpty = false ↔ ∃ key, key ∈ m.keys := by
  rw [← Bool.not_eq_true, isEmpty_iff]
  exact ⟨List.exists_mem_of_ne_nil _, fun ⟨_, h⟩ => List.ne_nil_of_mem h⟩

variable [Std.LawfulEqOrd κ]

theorem mem_keys_iff_contains (m : SortedMap κ ν) (key : κ) : key ∈ m.keys ↔ m.contains key = true :=
  mem_keys_iff m key

variable [Std.TransOrd κ]

theorem contains_insert_iff (m : SortedMap κ ν) (key key' : κ) (value : ν) :
    (m.insert key value).contains key' = true ↔ key' = key ∨ m.contains key' = true := by
  rcases eq_or_ne key' key with rfl | h
  · simp [contains]
  · simp [contains, get?_insert_of_ne _ _ h, h]

/-- The map that `v` describes on the listed keys. -/
theorem get?_ofList_filterMap [DecidableEq κ] (v : κ → Option ν) (keys : List κ) (key : κ) :
    (ofList (keys.filterMap fun k => (v k).map (k, ·))).get? key =
      if key ∈ keys then v key else none := by
  suffices h : ∀ m : SortedMap κ ν, (m.get? key = none ∨ m.get? key = v key) →
      ((keys.filterMap fun k => (v k).map (k, ·)).foldl (fun m b => m.insert b.1 b.2) m).get? key =
        if key ∈ keys then (v key).or (m.get? key) else m.get? key by
    rw [ofList, h empty (Or.inl rfl)]
    simp
  induction keys with
  | nil => intro m _; simp
  | cons k ks ih =>
    intro m hm
    rcases hv : v k with _ | x
    · rw [List.filterMap_cons_none (by simp [hv]), ih m hm]
      rcases eq_or_ne key k with rfl | hk
      · simp [hv]
      · simp [hk]
    · rw [List.filterMap_cons_some (by simp [hv]; rfl), List.foldl_cons]
      rcases eq_or_ne key k with rfl | hk
      · rw [ih _ (Or.inr (by simp [hv]))]
        simp [hv]
      · rw [ih _ (by rwa [get?_insert_of_ne _ _ hk]), get?_insert_of_ne _ _ hk]
        simp [hk]

/-- The map that `v` describes on the listed keys, where it describes all of them. -/
theorem get?_ofList_map [DecidableEq κ] (v : κ → ν) (keys : List κ) (key : κ) :
    (ofList (keys.map fun k => (k, v k))).get? key = if key ∈ keys then some (v key) else none := by
  have h := get?_ofList_filterMap (fun k => some (v k)) keys key
  rwa [show (keys.filterMap fun k => (some (v k)).map (k, ·)) = keys.map fun k => (k, v k) by simp] at h

end SortedMap

namespace KeySet

variable {κ : Type} [Ord κ] [Std.TransOrd κ] [Std.LawfulEqOrd κ]

/-- A set is determined by its members. -/
theorem ext_contains {s t : KeySet κ}
    (h : ∀ key, SortedMap.contains s key = true ↔ SortedMap.contains t key = true) : s = t := by
  refine SortedMap.ext_get? ?_
  intro key
  have hkey := h key
  simp only [SortedMap.contains] at hkey
  rcases hs : SortedMap.get? s key with _ | _ <;> rcases ht : SortedMap.get? t key with _ | _ <;>
    simp_all

theorem contains_ofKeys_iff [DecidableEq κ] (keys : List κ) (key : κ) :
    SortedMap.contains (ofKeys keys) key = true ↔ key ∈ keys := by
  rw [SortedMap.contains, ofKeys, SortedMap.get?_ofList_map (fun _ => ())]
  split <;> simp_all

end KeySet

end Marionette

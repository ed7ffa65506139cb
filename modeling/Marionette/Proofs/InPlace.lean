import Marionette.Proofs.Naming
import Marionette.Refusal

/-!
# Computations in place

A computation in place reads and assigns a structure, and may end early, because it is refused or because it
reaches for an entry that is not there.  What it assigned before stays assigned.  So whether a refused edit
leaves a trace depends on the order of its checks and its assignments, which an edit that returns a new
structure does not show.

An edit settles when both ways of carrying it out agree and do what is asked: if there is an objection, it is
refused by an error of the kind that goes with the objection, and the structure is as it was; if there is
none, it is made.

What is changed in a list of named things is said by where the addressed entry stands, between the entries
before it and the ones after it.  An id addresses the first entry that has it, so no id has to be unique.

## Main definitions

* `Halt`, `InPlace`, `InPlace.runOn` — computations that assign, and what they leave behind.
* `Listing.entryAt`, `takeAt`, `changeAt`, `insertAt` — accesses by index, which may miss.
* `Listing.Splits` — where the addressed entry stands.
* `Settles` — what becomes of an edit, in place and in one go.

## Main results

* `InPlace.runOn_bind` — a computation that ends early ends what follows it.
* `Listing.exists_splits` — what has the name stands somewhere.
* `Settles.position` — an edit that looks up an entry is refused without one, or goes on at its index.
-/

namespace Marionette

/-! ### Computations in place -/

/-- Why a computation ends early: it is refused, or it reaches for an entry that is not there. -/
inductive Halt
  | refused (r : Refusal)
  | outOfBounds

/-- A computation that reads and assigns a `σ`.  What was assigned before it ends early stays assigned. -/
abbrev InPlace (σ α : Type) := ExceptT Halt (StateM σ) α

namespace InPlace

variable {σ α β ι : Type}

/-- End early with a refusal. -/
def refuse (r : Refusal) : InPlace σ α := throw (.refused r)

/-- Make an assignment. -/
def assign (f : σ → σ) : InPlace σ Unit := modify f

/-- The answer of a computation, and what it leaves behind. -/
def runOn (x : InPlace σ α) (s : σ) : Except Halt α × σ := (ExceptT.run x).run s

/-- The index of the first entry named `id`. -/
def position [DecidableEq ι] (entries : σ → List α) (name : α → ι) (id : ι) (missing : Refusal) :
    InPlace σ Nat := do
  match (entries (← get)).findIdx? fun x => name x = id with
  | some pos => pure pos
  | none => refuse missing

@[simp] theorem runOn_pure (a : α) (s : σ) : (pure a : InPlace σ α).runOn s = (.ok a, s) := rfl

@[simp] theorem runOn_refuse (r : Refusal) (s : σ) :
    (refuse r : InPlace σ α).runOn s = (.error (.refused r), s) := rfl

@[simp] theorem runOn_get (s : σ) : (get : InPlace σ σ).runOn s = (.ok s, s) := rfl

@[simp] theorem runOn_assign (f : σ → σ) (s : σ) : (assign f).runOn s = (.ok (), f s) := rfl

@[simp] theorem runOn_liftM (r : Except Halt α) (s : σ) :
    (liftM r : InPlace σ α).runOn s = (r, s) := rfl

@[simp] theorem runOn_bind (x : InPlace σ α) (f : α → InPlace σ β) (s : σ) :
    (x >>= f).runOn s =
      match x.runOn s with
      | (.ok a, s') => (f a).runOn s'
      | (.error e, s') => (.error e, s') := by
  change (match x s with | (r, s') => ExceptT.bindCont f r s') =
    match x s with
    | (.ok a, s') => f a s'
    | (.error e, s') => (.error e, s')
  rcases x s with ⟨e | a, s'⟩ <;> rfl

@[simp] theorem runOn_map (g : α → β) (x : InPlace σ α) (s : σ) :
    (g <$> x).runOn s =
      match x.runOn s with
      | (.ok a, s') => (.ok (g a), s')
      | (.error e, s') => (.error e, s') := by
  rw [map_eq_pure_bind, runOn_bind]
  rcases x.runOn s with ⟨e | a, s'⟩ <;> rfl

end InPlace

/-! ### Accesses by index -/

namespace Listing

variable {α ι : Type}

/-- The entry at an index. -/
def entryAt (pos : Nat) (xs : List α) : Except Halt α :=
  match xs[pos]? with
  | some x => .ok x
  | none => .error .outOfBounds

/-- The entry at an index, and the list without it. -/
def takeAt (pos : Nat) (xs : List α) : Except Halt (α × List α) :=
  (·, xs.eraseIdx pos) <$> entryAt pos xs

/-- Change the entry at an index. -/
def changeAt (pos : Nat) (f : α → α) (xs : List α) : Except Halt (List α) :=
  (xs.set pos <| f ·) <$> entryAt pos xs

/-- Put an entry at an index.  It may be the one after the last. -/
def insertAt (pos : Nat) (x : α) (xs : List α) : Except Halt (List α) :=
  if pos ≤ xs.length then .ok (xs.insertIdx pos x) else .error .outOfBounds

/-- The first entry named `id` is `x`, and it stands between `before` and `after`. -/
structure Splits (name : α → ι) (id : ι) (xs before : List α) (x : α) (after : List α) : Prop where
  eq_append : xs = before ++ x :: after
  name_eq : name x = id
  notMem : id ∉ before.map name

variable {name : α → ι} {id : ι} {xs before after : List α} {x : α}

namespace Splits

variable (h : Splits name id xs before x after)
include h

theorem entryAt_eq : entryAt before.length xs = .ok x := by
  simp [entryAt, h.eq_append]

theorem takeAt_eq : takeAt before.length xs = .ok (x, before ++ after) := by
  rw [takeAt, h.entryAt_eq, h.eq_append, List.eraseIdx_append_of_length_le (Nat.le_refl _)]
  simp

theorem changeAt_eq (f : α → α) : changeAt before.length f xs = .ok (before ++ f x :: after) := by
  rw [changeAt, h.entryAt_eq, h.eq_append]
  simp

end Splits

variable [DecidableEq ι]

/-- What is named `id` stands somewhere. -/
theorem exists_splits (h : id ∈ xs.map name) : ∃ before x after, Splits name id xs before x after := by
  induction xs with
  | nil => cases h
  | cons y ys ih =>
    by_cases hy : name y = id
    · exact ⟨[], y, ys, rfl, hy, List.not_mem_nil⟩
    · have hrest : id ∈ ys.map name := (List.mem_cons.mp h).resolve_left (Ne.symm hy)
      obtain ⟨before, x, after, heq, hname, hnot⟩ := ih hrest
      exact ⟨y :: before, x, after, congrArg (y :: ·) heq, hname, by simpa [hnot] using Ne.symm hy⟩

namespace Splits

variable (h : Splits name id xs before x after)
include h

theorem ne_of_mem : ∀ y ∈ before, ¬ decide (name y = id) = true := by
  intro y hy hname
  exact h.notMem (List.mem_map.mpr ⟨y, hy, of_decide_eq_true hname⟩)

theorem find?_eq : find? name id xs = some x := by
  rw [find?, h.eq_append, List.find?_append, List.find?_eq_none.mpr h.ne_of_mem]
  simp [h.name_eq]

theorem findIdx?_eq : (xs.findIdx? fun y => name y = id) = some before.length := by
  have hbefore : (before.findIdx? fun y => name y = id) = none := by
    rw [List.findIdx?_eq_none_iff]
    exact fun y hy => Bool.eq_false_iff.mpr (h.ne_of_mem y hy)
  rw [h.eq_append, List.findIdx?_append, hbefore]
  simp [List.findIdx?_cons, h.name_eq]

theorem remove_eq : remove name id xs = before ++ after := by
  rw [remove, h.eq_append, List.eraseP_append_right _ h.ne_of_mem]
  simp [h.name_eq]

theorem modify_eq (f : α → α) : modify name id f xs = before ++ f x :: after := by
  obtain ⟨rfl, hname, hnot⟩ := h
  induction before with
  | nil => rw [List.nil_append, modify, if_pos hname, List.nil_append]
  | cons y ys ih =>
    rw [List.map_cons, List.mem_cons, not_or] at hnot
    rw [List.cons_append, modify, if_neg (Ne.symm hnot.1), ih hnot.2, List.cons_append]

end Splits

theorem find?_eq_none_of_notMem (h : id ∉ xs.map name) : find? name id xs = none := by
  rw [← Option.not_isSome_iff_eq_none, isSome_find?_iff]
  exact h

theorem findIdx?_eq_none_of_notMem (h : id ∉ xs.map name) :
    (xs.findIdx? fun x => name x = id) = none := by
  rw [List.findIdx?_eq_none_iff]
  intro x hx
  exact decide_eq_false fun hname => h (hname ▸ List.mem_map_of_mem hx)

/-- Where nothing is named `id`, nothing is changed. -/
theorem modify_of_notMem (h : id ∉ xs.map name) (f : α → α) : modify name id f xs = xs := by
  induction xs with
  | nil => rfl
  | cons y ys ih =>
    rw [List.map_cons, List.mem_cons, not_or] at h
    rw [modify, if_neg (Ne.symm h.1), ih h.2]

/-- A change that keeps the addressed entry as it is keeps all of them. -/
theorem modify_of_eq_self {f : α → α} (h : find? name id xs = some x) (hf : f x = x) :
    modify name id f xs = xs := by
  obtain ⟨before, y, after, hsplits⟩ := exists_splits (mem_names_of_find? h)
  obtain rfl : y = x := Option.some.inj (hsplits.find?_eq.symm.trans h)
  rw [hsplits.modify_eq, hf]
  exact hsplits.eq_append.symm

end Listing

/-! ### Settled edits -/

/-- What becomes of an edit of `s`, carried out in place and in one go.  If there is an objection the edit is
refused, by an error of the kind that goes with the objection, and leaves `s` behind.  If there is none it is
made, and makes its change. -/
structure Settles {σ α : Type} (s : σ) (inPlace : InPlace σ α) (inOneGo : Except Refusal (α × σ))
    (objection? : Option ErrorKind) (Change : α → σ → Prop) : Prop where
  refused : ∀ kind, objection? = some kind →
    ∃ r, r.error.kind = kind ∧ inOneGo = .error r ∧ inPlace.runOn s = (.error (.refused r), s)
  made : objection? = none →
    ∃ a s', inOneGo = .ok (a, s') ∧ inPlace.runOn s = (.ok a, s') ∧ Change a s'

namespace Settles

variable {σ α β ι : Type} {s : σ} {inPlace : InPlace σ α} {inOneGo : Except Refusal (α × σ)}
  {objection? : Option ErrorKind} {Change : α → σ → Prop}

theorem of_refused {r : Refusal} (hinPlace : inPlace.runOn s = (.error (.refused r), s))
    (hinOneGo : inOneGo = .error r) (hkind : objection? = some r.error.kind) :
    Settles s inPlace inOneGo objection? Change := by
  constructor
  · intro kind h
    exact ⟨r, Option.some.inj (hkind.symm.trans h), hinOneGo, hinPlace⟩
  · intro h
    rw [hkind] at h
    cases h

theorem of_made {a : α} {s' : σ} (hinPlace : inPlace.runOn s = (.ok a, s'))
    (hinOneGo : inOneGo = .ok (a, s')) (hnone : objection? = none) (hchange : Change a s') :
    Settles s inPlace inOneGo objection? Change := by
  constructor
  · intro kind h
    rw [hnone] at h
    cases h
  · intro _
    exact ⟨a, s', hinOneGo, hinPlace, hchange⟩

/-- Only what becomes of a computation counts. -/
theorem of_runOn_eq {other : InPlace σ α} (h : Settles s inPlace inOneGo objection? Change)
    (heq : other.runOn s = inPlace.runOn s) : Settles s other inOneGo objection? Change := by
  constructor
  · rw [heq]
    exact h.refused
  · rw [heq]
    exact h.made

/-- An edit that looks up an entry is refused when there is none, and goes on with its index otherwise. -/
theorem position [DecidableEq ι] {entries : σ → List α} {name : α → ι} {id : ι} {missing : Refusal}
    {rest : Nat → InPlace σ β} {inOneGo : Except Refusal (β × σ)} {Change : β → σ → Prop}
    (hunknown : Listing.find? name id (entries s) = none → inOneGo = .error missing)
    (hknown : ∀ before x after, Listing.Splits name id (entries s) before x after →
      Settles s (rest before.length) inOneGo objection? Change) :
    Settles s (InPlace.position entries name id missing >>= rest) inOneGo
      (if id ∈ (entries s).map name then objection? else some missing.error.kind) Change := by
  by_cases hid : id ∈ (entries s).map name
  · obtain ⟨before, x, after, h⟩ := Listing.exists_splits hid
    rw [if_pos hid]
    exact (hknown before x after h).of_runOn_eq (by simp [InPlace.position, h.findIdx?_eq])
  · rw [if_neg hid]
    exact of_refused (by simp [InPlace.position, Listing.findIdx?_eq_none_of_notMem hid])
      (hunknown (Listing.find?_eq_none_of_notMem hid)) rfl

end Settles

end Marionette

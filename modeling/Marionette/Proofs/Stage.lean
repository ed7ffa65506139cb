import Marionette.Proofs.SortedMap
import Marionette.Stage
import Mathlib.Data.List.Basic

/-!
# The stage as a display, and its edits

On a stage whose actors have distinct names, reading a state reads the one actor of that name, and a batch
writes each of its states to the one actor that it is for.  What a batch writes are states; who stands on the
stage, and under which name and in which costume, is for edits alone, and a locked stage refuses them.

## Main definitions

* `Stage.posed` — the same actors in other states.
* `Stage.roster` — the actors without their states.
* `Edit`, `Stage.edit` — the edits with their arguments.
* `Stage.Edited` — all that an edit can do when it is made.

## Main results

* `Stage.state?_of_mem` — an actor's state is read under its name.
* `Stage.actors_applyBatch` — a snapshot is shown by those actors that it has, and by no others.
* `Stage.roster_applyBatch` — a batch leaves the roster alone.
* `Stage.edit_of_locked` — a locked stage refuses every edit.
* `Stage.edited_of_edit` — what an edit has done that was made.
-/

namespace Marionette

namespace Listing

variable {α ι : Type} [DecidableEq ι] {name : α → ι} {xs : List α}

/-- Where names are distinct, changing the first entry of a name is changing every entry of that name. -/
theorem modify_eq_map (key : ι) (f : α → α) (h : (xs.map name).Nodup) :
    modify name key f xs = xs.map fun x => if name x = key then f x else x := by
  induction xs with
  | nil => rfl
  | cons x xs ih =>
    rw [List.map_cons, List.nodup_cons] at h
    rw [modify, List.map_cons]
    by_cases hx : name x = key
    · have hrest : xs.map (fun y => if name y = key then f y else y) = xs.map id := by
        refine List.map_congr_left fun y hy => if_neg ?_
        rintro rfl
        exact h.1 (hx ▸ List.mem_map_of_mem hy)
      rw [if_pos hx, if_pos hx, hrest, List.map_id]
    · rw [if_neg hx, if_neg hx, ih h.2]

/-- A modification cannot be told from readings that it keeps. -/
theorem map_modify_of_forall {β : Type} (key : ι) {f : α → α} {g : α → β} (hf : ∀ x, g (f x) = g x)
    (xs : List α) : (modify name key f xs).map g = xs.map g := by
  induction xs with
  | nil => rfl
  | cons x xs ih => by_cases h : name x = key <;> simp [modify, h, ih, hf]

/-- Where names are distinct, an entry is found under its name. -/
theorem find?_of_mem (h : (xs.map name).Nodup) {x : α} (hx : x ∈ xs) :
    find? name (name x) xs = some x := by
  induction xs with
  | nil => cases hx
  | cons y ys ih =>
    rw [List.map_cons, List.nodup_cons] at h
    rcases List.mem_cons.mp hx with rfl | hx
    · simp [find?]
    · have hne : name y ≠ name x := fun he => h.1 (he ▸ List.mem_map_of_mem hx)
      rw [find?, List.find?_cons_of_neg (by simpa using hne)]
      exact ih h.2 hx

end Listing

namespace Stage

/-- The same actors in other states. -/
def posed (actors : List Actor) (f : Actor → ActorState) : List Actor :=
  actors.map fun a => { a with state := f a }

theorem map_id_posed (actors : List Actor) (f : Actor → ActorState) :
    (posed actors f).map (·.id) = actors.map (·.id) := by
  rw [posed, List.map_map]
  rfl

theorem posed_posed (actors : List Actor) (f g : Actor → ActorState) :
    posed (posed actors f) g = posed actors fun a => g { a with state := f a } := by
  rw [posed, posed, posed, List.map_map]
  rfl

theorem posed_congr {actors : List Actor} {f g : Actor → ActorState} (h : ∀ a ∈ actors, f a = g a) :
    posed actors f = posed actors g :=
  List.map_congr_left fun a ha => by rw [h a ha]

/-- Who is sent home keeps its name and its place. -/
theorem map_id_sentHome (actors : List Actor) :
    (actors.zipIdx.map fun (a, i) => { a with state := homeState i }).map (·.id) = actors.map (·.id) := by
  rw [List.map_map]
  exact (List.map_map (f := Prod.fst) (g := Actor.id)).symm.trans (by rw [List.zipIdx_map_fst])

variable {stage : Stage}

/-- An actor's state is read under its name. -/
theorem state?_of_mem (hids : (stage.actors.map (·.id)).Nodup) {a : Actor} (ha : a ∈ stage.actors) :
    Display.state? stage a.id = some a.state := by
  change (Listing.find? Actor.id a.id stage.actors).map (·.state) = _
  rw [Listing.find?_of_mem hids ha]
  rfl

theorem get?_currentStates_of_mem (hids : (stage.actors.map (·.id)).Nodup) {a : Actor}
    (ha : a ∈ stage.actors) : (Display.currentStates stage).get? a.id = some a.state := by
  change (SortedMap.ofList ((Display.actorIds stage).filterMap fun id =>
    (Display.state? stage id).map (id, ·))).get? a.id = _
  have hmem : a.id ∈ Display.actorIds stage := List.mem_map_of_mem ha
  rw [SortedMap.get?_ofList_filterMap, if_pos hmem, state?_of_mem hids ha]

theorem get?_currentStates_of_notMem {id : ActorId} (hid : id ∉ stage.actors.map (·.id)) :
    (Display.currentStates stage).get? id = none := by
  change (SortedMap.ofList ((Display.actorIds stage).filterMap fun id =>
    (Display.state? stage id).map (id, ·))).get? id = _
  rw [SortedMap.get?_ofList_filterMap]
  exact if_neg hid

/-- Writing full states one after the other is writing each to its actor. -/
theorem actors_foldl_mergeState {es : List (ActorId × ActorState)}
    (hes : es.Pairwise fun e e' => compare e.1 e'.1 = .lt) (hids : (stage.actors.map (·.id)).Nodup) :
    ((es.map fun e => (e.1, e.2.toPatch)).foldl (fun s e => s.mergeState e.1 e.2) stage).actors =
      posed stage.actors fun a => (SortedMap.lookup a.id es).getD a.state := by
  induction es generalizing stage with
  | nil => exact (List.map_id _).symm
  | cons e es ih =>
    rw [List.pairwise_cons] at hes
    have hmerge : (stage.mergeState e.1 e.2.toPatch).actors =
        posed stage.actors fun a => if a.id = e.1 then e.2 else a.state := by
      refine (Listing.modify_eq_map _ _ hids).trans (List.map_congr_left ?_)
      intro a _
      by_cases h : a.id = e.1 <;> simp [h]
    have hids' : ((stage.mergeState e.1 e.2.toPatch).actors.map (·.id)).Nodup := by
      rw [hmerge, map_id_posed]
      exact hids
    rw [List.map_cons, List.foldl_cons, ih hes.2 hids', hmerge, posed_posed]
    refine posed_congr ?_
    intro a _
    dsimp only
    by_cases h : a.id = e.1
    · -- no later entry is for the same actor
      rw [SortedMap.lookup_eq_none_of_forall_gt (h ▸ hes.1), if_pos h, SortedMap.lookup, if_pos (by simp [h])]
      rfl
    · have hne : compare a.id e.1 ≠ .eq := fun he => h (Std.LawfulEqOrd.eq_of_compare he)
      rw [if_neg h, SortedMap.lookup, if_neg hne]

/-- A snapshot is shown by those actors that it has, and by no others. -/
theorem actors_applyBatch (hids : (stage.actors.map (·.id)).Nodup) (s : Snapshot) :
    (Display.applyBatch stage s.batch).actors =
      posed stage.actors fun a => (s.state? a.id).getD a.state :=
  actors_foldl_mergeState s.states.ascending hids

/-! ### What a batch leaves alone -/

/-- Who stands on the stage, in which order, and under which names and in which costumes. -/
def roster (s : Stage) : List (ActorId × String × String) :=
  s.actors.map fun a => (a.id, a.name, a.costume)

theorem actorIds_eq (s : Stage) : Display.actorIds s = s.roster.map (·.1) := by
  rw [roster, List.map_map]
  rfl

theorem roster_mergeState (s : Stage) (id : ActorId) (p : StatePatch) :
    (s.mergeState id p).roster = s.roster := by
  refine Listing.map_modify_of_forall id ?_ s.actors
  intro a
  rfl

/-- A batch writes states and nothing else. -/
theorem roster_applyBatch (s : Stage) (batch : List (ActorId × StatePatch)) :
    (Display.applyBatch s batch).roster = s.roster := by
  change (batch.foldl (fun s e => s.mergeState e.1 e.2) s).roster = s.roster
  induction batch generalizing s with
  | nil => rfl
  | cons e batch ih => rw [List.foldl_cons, ih, roster_mergeState]

theorem locked_applyBatch (s : Stage) (batch : List (ActorId × StatePatch)) :
    (Display.applyBatch s batch).locked = s.locked := by
  change (batch.foldl (fun s e => s.mergeState e.1 e.2) s).locked = s.locked
  induction batch generalizing s with
  | nil => rfl
  | cons e batch ih =>
    rw [List.foldl_cons, ih]
    rfl

end Stage

/-! ### Edits -/

/-- An edit of the stage. -/
inductive Edit
  | addActor (costume : String) (name : Option String)
  | removeActor (id : ActorId)
  | renameActor (id : ActorId) (name : String)
  | updateActor (id : ActorId) (p : StatePatch)
  | resetToHome

/-- Which of the edits it is. -/
def Edit.kind : Edit → StageEdit
  | addActor _ _ => .addActor
  | removeActor _ => .removeActor
  | renameActor _ _ => .renameActor
  | updateActor _ _ => .updateActor
  | resetToHome => .resetToHome

namespace Stage

/-- Make an edit.  What it answers besides the stage is left out. -/
def edit (s : Stage) : Edit → Except Refusal Stage
  | .addActor costume name => Prod.snd <$> s.addActor costume name
  | .removeActor id => Prod.snd <$> s.removeActor id
  | .renameActor id name => s.renameActor id name
  | .updateActor id p => s.updateActor id p
  | .resetToHome => s.resetToHome

variable {s s' : Stage} {α : Type} {go : Except Refusal α}

theorem editing_of_locked (h : s.locked = true) (kind : StageEdit) :
    s.editing kind go = .error (.stageLocked kind) := by
  rw [editing, if_pos h]

theorem editing_of_unlocked (h : s.locked = false) (kind : StageEdit) : s.editing kind go = go := by
  rw [editing, if_neg (by simp [h])]

theorem exists_of_withActor {id : ActorId} {next : Actor → Except Refusal α} {r : α}
    (h : s.withActor id next = .ok r) : ∃ a, s.find? id = some a ∧ next a = .ok r := by
  rw [withActor] at h
  split at h
  · next a ha => exact ⟨a, ha, h⟩
  · cases h

theorem exists_of_map_snd {r : Except Refusal (α × Stage)} (h : Prod.snd <$> r = .ok s') :
    ∃ a, r = .ok (a, s') := by
  rcases r with refusal | ⟨a, s''⟩
  · cases h
  · cases h
    exact ⟨a, rfl⟩

/-- **A locked stage refuses every edit.** -/
theorem edit_of_locked (h : s.locked = true) (e : Edit) : s.edit e = .error (.stageLocked e.kind) := by
  cases e with
  | addActor costume name => rw [edit, addActor, editing_of_locked h]; rfl
  | removeActor id => rw [edit, removeActor, editing_of_locked h]; rfl
  | renameActor id name => exact editing_of_locked h _
  | updateActor id p => exact editing_of_locked h _
  | resetToHome => exact editing_of_locked h _

/-- All that an edit can do when it is made. -/
inductive Edited (s : Stage) : Edit → Stage → Prop
  | added (costume : String) (name : Option String) (a : Actor) (hid : a.id = s.freshActorId) :
      Edited s (.addActor costume name)
        { s with actors := s.actors ++ [a], revision := s.revision + 1 }
  | removed (id : ActorId) (hmany : ¬ s.actors.length ≤ 1) :
      Edited s (.removeActor id)
        { s with actors := Listing.remove Actor.id id s.actors, revision := s.revision + 1 }
  | renamed (id : ActorId) (name : String) (a : Actor) (hblank : Text.isBlankText name = false)
      (ha : s.find? id = some a) :
      Edited s (.renameActor id name)
        { s with actors := Listing.modify Actor.id id (fun a => { a with name }) s.actors }
  | updated (id : ActorId) (p : StatePatch) :
      Edited s (.updateActor id p) { s.mergeState id p with revision := s.revision + 1 }
  | sentHome :
      Edited s .resetToHome
        { s with
          actors := s.actors.zipIdx.map fun (a, i) => { a with state := homeState i }
          revision := s.revision + 1 }

/-- **An edit that is made is made to an unlocked stage,** and this is what it does. -/
theorem edited_of_edit {e : Edit} (he : s.edit e = .ok s') : s.locked = false ∧ s.Edited e s' := by
  rcases hlocked : s.locked with _ | _
  · refine ⟨rfl, ?_⟩
    cases e with
    | addActor costume name =>
      rw [edit, addActor, editing_of_unlocked hlocked] at he
      obtain ⟨id, hadd⟩ := exists_of_map_snd he
      cases hadd
      exact .added costume name _ rfl
    | removeActor id =>
      rw [edit, removeActor, editing_of_unlocked hlocked] at he
      obtain ⟨a, hremove⟩ := exists_of_map_snd he
      obtain ⟨a', -, ha'⟩ := exists_of_withActor hremove
      split at ha'
      · cases ha'
      · next hmany =>
        cases ha'
        exact .removed id hmany
    | renameActor id name =>
      rw [edit, renameActor, editing_of_unlocked hlocked] at he
      split at he
      · cases he
      · next hblank =>
        obtain ⟨a, ha, hrename⟩ := exists_of_withActor he
        cases hrename
        exact .renamed id name a (Bool.eq_false_iff.mpr hblank) ha
    | updateActor id p =>
      rw [edit, updateActor, editing_of_unlocked hlocked] at he
      obtain ⟨a, -, hupdate⟩ := exists_of_withActor he
      cases hupdate
      exact .updated id p
    | resetToHome =>
      rw [edit, resetToHome, editing_of_unlocked hlocked] at he
      cases he
      exact .sentHome
  · rw [edit_of_locked hlocked] at he
    cases he

/-- No edit locks the stage. -/
theorem locked_of_edit (h : s.locked = false) {e : Edit} (he : s.edit e = .ok s') : s'.locked = false := by
  obtain ⟨-, hedited⟩ := edited_of_edit he
  cases hedited <;> exact h

end Stage

end Marionette

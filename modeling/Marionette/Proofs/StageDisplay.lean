import Marionette.Proofs.InPlace
import Marionette.Proofs.Stage

/-!
# The stage and the plain display

A display may have a way of its own to write a batch and to read all states.  The stage does: it writes a batch
in one go and counts it once, and it reads its states off its actors.  The default is to write and to read one
actor after the other, under its name.  Both come to the same.  Where several actors have one name, it is the
first of them that is read, that is written by itself and that is written in a batch.

## Main definitions

* `Display.plain` — a display with the defaults for batches and for reading all states.

## Main results

* `Stage.plain_applyBatch` — a batch, one entry after the other.
* `Stage.states_eq_currentStates` — all states, one actor after the other.
* `Stage.agrees_with_plain` — the stage agrees with the plain display.
-/

namespace Marionette

/-- The same display with the defaults for batches and for reading all states. -/
@[reducible] def Display.plain (σ : Type) [Display σ] : Display σ where
  actorIds := Display.actorIds
  state? := Display.state?
  merge := Display.merge
  started := Display.started
  finished := Display.finished

namespace Stage

variable {s s' : Stage}

/-! ### Batches -/

/-- The stage with some more changes counted. -/
def counting (s : Stage) (n : Nat) : Stage := { s with revision := s.revision + n }

/-- The patches of a batch, one merged after the other, and nothing counted. -/
def mergeAll (s : Stage) (batch : List (ActorId × StatePatch)) : Stage :=
  batch.foldl (fun s e => s.mergeState e.1 e.2) s

theorem contains_iff (s : Stage) (id : ActorId) : s.contains id = true ↔ id ∈ s.actors.map (·.id) :=
  Listing.isSome_find?_iff

/-- Patches bring nobody onto the stage. -/
theorem contains_mergeState (s : Stage) (id : ActorId) (p : StatePatch) (id' : ActorId) :
    (s.mergeState id p).contains id' = s.contains id' := by
  have hids : (s.mergeState id p).actors.map (·.id) = s.actors.map (·.id) := by
    refine Listing.map_modify Actor.id id ?_ s.actors
    intro a
    rfl
  rw [Bool.eq_iff_iff, contains_iff, contains_iff, hids]

/-- A patch for somebody who is not there changes nothing. -/
theorem mergeState_of_notMem {id : ActorId} (h : id ∉ s.actors.map (·.id)) (p : StatePatch) :
    s.mergeState id p = s := by
  rw [mergeState, Listing.modify_of_notMem h]

theorem counting_counting (s : Stage) (m n : Nat) : (s.counting m).counting n = s.counting (m + n) :=
  congrArg (fun revision => { s with revision }) (Nat.add_assoc s.revision m n)

/-- What is written does not depend on what was counted before. -/
theorem mergeAll_counting (s : Stage) (n : Nat) (batch : List (ActorId × StatePatch)) :
    (s.counting n).mergeAll batch = (s.mergeAll batch).counting n := by
  induction batch generalizing s with
  | nil => rfl
  | cons e batch ih => exact ih (s.mergeState e.1 e.2)

theorem revision_mergeAll (s : Stage) (batch : List (ActorId × StatePatch)) :
    (s.mergeAll batch).revision = s.revision := by
  induction batch generalizing s with
  | nil => rfl
  | cons e batch ih => exact ih (s.mergeState e.1 e.2)

/-- A batch in one go is counted once. -/
theorem applyBatch_eq (s : Stage) (batch : List (ActorId × StatePatch)) :
    Display.applyBatch s batch = (s.mergeAll batch).counting 1 := by
  rw [counting, revision_mergeAll]
  rfl

/-- A patch by itself is counted if it reaches an actor. -/
theorem merge_eq (s : Stage) (id : ActorId) (p : StatePatch) :
    Display.merge s id p = (s.mergeState id p).counting (if s.contains id then 1 else 0) := by
  change (if s.contains id then { s.mergeState id p with revision := s.revision + 1 } else s) = _
  split
  · rfl
  · next habsent => exact (mergeState_of_notMem (fun hid => habsent ((s.contains_iff id).mpr hid)) p).symm

/-- **A batch, one entry after the other,** writes the same and counts every entry that reaches an actor. -/
theorem plain_applyBatch (s : Stage) (batch : List (ActorId × StatePatch)) :
    (Display.plain Stage).applyBatch s batch =
      (s.mergeAll batch).counting (batch.countP fun e => s.contains e.1) := by
  change batch.foldl (fun s e => Display.merge s e.1 e.2) s = _
  induction batch generalizing s with
  | nil => rfl
  | cons e batch ih =>
    rw [List.foldl_cons, merge_eq, ih, mergeAll_counting, counting_counting, List.countP_cons, Nat.add_comm]
    refine congrArg (counting _ <| · + _) (List.countP_congr fun e' _ => ?_)
    exact iff_of_eq (congrArg (· = true) (s.contains_mergeState e.1 e.2 e'.1))

/-! ### The first actor of a name -/

section First

variable {id : ActorId} {before after : List Actor} {a : Actor}

theorem state?_of_splits (h : Listing.Splits Actor.id id s.actors before a after) :
    Display.state? s id = some a.state := by
  change (Listing.find? Actor.id id s.actors).map (·.state) = _
  rw [h.find?_eq]
  rfl

theorem mergeState_of_splits (h : Listing.Splits Actor.id id s.actors before a after) (p : StatePatch) :
    s.mergeState id p = { s with actors := before ++ { a with state := a.state.merge p } :: after } := by
  rw [mergeState, h.modify_eq]

theorem state?_of_notMem (h : id ∉ s.actors.map (·.id)) : Display.state? s id = none := by
  change (Listing.find? Actor.id id s.actors).map (·.state) = none
  rw [Listing.find?_eq_none_of_notMem h]
  rfl

end First

/-! ### All states -/

/-- Where names are distinct, reading the actors is reading every name. -/
theorem states_eq_currentStates (hids : (s.actors.map (·.id)).Nodup) : s.states = Display.currentStates s := by
  refine congrArg SortedMap.ofList ?_
  change s.actors.map (fun a => (a.id, a.state)) =
    (s.actors.map (·.id)).filterMap fun id => (Display.state? s id).map (id, ·)
  rw [List.filterMap_map, ← List.filterMap_eq_map]
  refine List.filterMap_congr fun a ha => ?_
  rw [Function.comp_apply, Function.comp_apply, state?_of_mem hids ha]
  rfl

/-- Where home is depends on the names and their order alone. -/
theorem homeStates_congr (h : s'.actors.map (·.id) = s.actors.map (·.id)) : s'.homeStates = s.homeStates := by
  have hids : ∀ t : Stage,
      t.homeStates = .ofList ((t.actors.map (·.id)).zipIdx.map fun e => (e.1, homeState e.2)) := by
    intro t
    rw [homeStates, ← List.map_zipIdx, List.map_map]
    rfl
  rw [hids, hids, h]

/-- Whoever was sent home is at home, under the same name and at the same place in the list. -/
theorem actors_of_resetToHome (h : s.resetToHome = .ok s') :
    s'.actors = s.actors.zipIdx.map fun (a, i) => { a with state := homeState i } := by
  obtain ⟨-, hedited⟩ := edited_of_edit (e := .resetToHome) h
  cases hedited
  rfl

theorem ids_of_resetToHome (h : s.resetToHome = .ok s') : s'.actors.map (·.id) = s.actors.map (·.id) := by
  rw [actors_of_resetToHome h, map_id_sentHome]

theorem states_of_resetToHome (h : s.resetToHome = .ok s') : s'.states = s.homeStates := by
  rw [states, actors_of_resetToHome h, List.map_map]
  rfl

/-- **The stage agrees with the plain display.**  A batch comes to the same actors and to the same lock as its
patches one after the other, and is counted once instead of once for every patch that reaches an actor.  What
is read, written by itself and written in a batch under a name is the first actor of that name, whether or not
there are others.  Where names are distinct, a batch of full patches leaves every actor that it is for in the
state that it has for it, and the others as they were; reading the actors is reading every name; and whoever
was sent home is read at home either way. -/
theorem agrees_with_plain (s : Stage) :
    (∀ batch : List (ActorId × StatePatch),
      let s' := Display.applyBatch s batch
      let t := (Display.plain Stage).applyBatch s batch
      s'.actors = t.actors ∧ s'.locked = t.locked ∧ s'.revision = s.revision + 1 ∧
        t.revision = s.revision + batch.countP fun e => s.contains e.1) ∧
    (∀ id p rest,
      (id ∉ s.actors.map (·.id) → Display.state? s id = none ∧ Display.merge s id p = s ∧
        Display.applyBatch s ((id, p) :: rest) = Display.applyBatch s rest) ∧
      ∀ before a after, Listing.Splits Actor.id id s.actors before a after →
        let t := { s with actors := before ++ { a with state := a.state.merge p } :: after }
        Display.state? s id = some a.state ∧
          Display.merge s id p = { t with revision := s.revision + 1 } ∧
          Display.applyBatch s ((id, p) :: rest) = Display.applyBatch t rest) ∧
    ((s.actors.map (·.id)).Nodup →
      (∀ m : StateMap, (Display.applyBatch s (m.entries.map fun e => (e.1, e.2.toPatch))).actors =
        posed s.actors fun a => (m.get? a.id).getD a.state) ∧
      s.states = (Display.plain Stage).currentStates s ∧
      ∀ s', s.resetToHome = .ok s' → s'.states = s.homeStates ∧
        (Display.plain Stage).currentStates s' = s.homeStates ∧ s'.homeStates = s.homeStates) := by
  refine ⟨?_, ?_, ?_⟩
  · intro batch s' t
    have ht : t = (s.mergeAll batch).counting (batch.countP fun e => s.contains e.1) := s.plain_applyBatch batch
    rw [ht]
    exact ⟨rfl, rfl, rfl, congrArg (· + _) (s.revision_mergeAll batch)⟩
  · intro id p rest
    constructor
    · intro hid
      have hsame : s.mergeState id p = s := mergeState_of_notMem hid p
      refine ⟨state?_of_notMem hid, ?_, ?_⟩
      · change (if s.contains id then _ else s) = s
        exact if_neg fun hcontains => hid ((s.contains_iff id).mp hcontains)
      · rw [applyBatch_eq, applyBatch_eq, mergeAll, List.foldl_cons, hsame]
        rfl
    · intro before a after h t
      have hmerged : s.mergeState id p = t := mergeState_of_splits h p
      have hcontains : s.contains id = true := by
        rw [contains, find?, h.find?_eq]
        rfl
      refine ⟨state?_of_splits h, ?_, ?_⟩
      · rw [merge_eq, hmerged, hcontains]
        rfl
      · rw [applyBatch_eq, applyBatch_eq, mergeAll, List.foldl_cons, hmerged]
        rfl
  · intro hids
    refine ⟨?_, states_eq_currentStates hids, ?_⟩
    · intro m
      exact actors_foldl_mergeState m.ascending hids
    · intro s' hreset
      have hids' : (s'.actors.map (·.id)).Nodup := (ids_of_resetToHome hreset).symm ▸ hids
      have hhome : s'.states = s.homeStates := states_of_resetToHome hreset
      exact ⟨hhome, (states_eq_currentStates hids').symm.trans hhome, homeStates_congr (ids_of_resetToHome hreset)⟩

/-- Two actors of one name on a locked stage.  The first of them is written to, and of a batch with three
patches two reach it.  The names of the default stage are distinct, and its actor is read at home once it was
sent there. -/
theorem agrees_with_plain_sample :
    let a : Actor := { id := ⟨"a"⟩, name := "A" }
    let b : Actor := { id := ⟨"a"⟩, name := "B" }
    let twins : Stage := { actors := [a, b], locked := true }
    let hidden : StatePatch := { visible := some false }
    (Listing.Splits Actor.id ⟨"a"⟩ twins.actors [] a [b] ∧
      Display.merge twins ⟨"a"⟩ hidden =
        { twins with actors := [{ a with state := a.state.merge hidden }, b], revision := 1 } ∧
      ((Display.plain Stage).applyBatch twins [(⟨"a"⟩, hidden), (⟨"b"⟩, hidden), (⟨"a"⟩, {})]).revision = 2) ∧
    (({} : Stage).actors.map (·.id)).Nodup ∧
      ∃ s', ({} : Stage).resetToHome = .ok s' ∧ (Display.plain Stage).currentStates s' = ({} : Stage).homeStates := by
  intro a b twins hidden
  have hsplits : Listing.Splits Actor.id ⟨"a"⟩ twins.actors [] a [b] := ⟨rfl, rfl, List.not_mem_nil⟩
  have hids : (({} : Stage).actors.map (·.id)).Nodup := by decide
  obtain ⟨hbatch, hfirst, -⟩ := agrees_with_plain twins
  obtain ⟨-, hmerge, -⟩ := (hfirst ⟨"a"⟩ hidden []).2 [] a [b] hsplits
  obtain ⟨-, -, -, hcount⟩ := hbatch [(⟨"a"⟩, hidden), (⟨"b"⟩, hidden), (⟨"a"⟩, {})]
  obtain ⟨-, -, hreset⟩ := (agrees_with_plain {}).2.2 hids
  exact ⟨⟨hsplits, hmerge, hcount⟩, hids, _, rfl, (hreset _ rfl).2.1⟩

end Stage
end Marionette

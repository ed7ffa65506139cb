import Marionette.Proofs.InPlace
import Marionette.Proofs.Stage

/-!
# The revision of a stage

Whoever shows a stage draws it again when its revision has changed.  This is enough if whatever changes the
actors also counts as a change.  All that is done to a stage does, but for one edit: an actor that gets another
name keeps the revision as it is.  So two moments of one revision show the same actors in the same order, with
the same costumes and in the same states, and if nobody was renamed between them, under the same names too.

## Main definitions

* `StageWrite`, `Stage.write`, `Stage.writes` — what may be done to a stage, refused or not.
* `Stage.Renames` — an actor gets another name.
* `Stage.unnamed` — what a stage shows besides names.

## Main results

* `Stage.writtenTo_write` — all that a write can do to the actors and to the revision.
* `Stage.of_revision_writes_eq` — what a run of writes that keeps the revision has done.
* `Stage.redrawn_unless_renamed` — the revision tells of every change but that of a name.
* `Stage.renamed_not_redrawn` — it does not tell of that one.
-/

namespace Marionette

/-! ### Writes -/

/-- Something that is done to a stage: an edit, a state that is written by itself, a batch of them, or a word
that playback begins or has ended. -/
inductive StageWrite
  | edit (e : Edit)
  | merge (id : ActorId) (p : StatePatch)
  | applyBatch (batch : List (ActorId × StatePatch))
  | started
  | finished

namespace Stage

/-- Do it.  An edit that is refused changes nothing. -/
def write (s : Stage) : StageWrite → Stage
  | .edit e => (s.edit e).toOption.getD s
  | .merge id p => Display.merge s id p
  | .applyBatch batch => Display.applyBatch s batch
  | .started => Display.started s
  | .finished => Display.finished s

/-- Do one thing after the other. -/
def writes (s : Stage) (ws : List StageWrite) : Stage := ws.foldl write s

/-- The write gives an actor another name. -/
def Renames (s : Stage) (w : StageWrite) : Prop :=
  ∃ id name a, w = .edit (.renameActor id name) ∧ s.locked = false ∧ Text.isBlankText name = false ∧
    s.find? id = some a ∧ a.name ≠ name

/-- One of the writes, when it is its turn, gives an actor another name. -/
def RenamesIn (s : Stage) : List StageWrite → Prop
  | [] => False
  | w :: ws => s.Renames w ∨ (s.write w).RenamesIn ws

/-- What a stage shows of its actors besides their names. -/
def unnamed (s : Stage) : List (ActorId × String × ActorState) :=
  s.actors.map fun a => (a.id, a.costume, a.state)

theorem unnamed_congr {s s' : Stage} (h : s'.actors = s.actors) : s'.unnamed = s.unnamed :=
  congrArg (List.map _) h

/-- All that a write can do to the actors and to the revision: the actors stay and the write is not counted, it
is counted, or it gives an actor another name and is not counted. -/
inductive WrittenTo (s : Stage) (w : StageWrite) (s' : Stage) : Prop
  | quiet (hactors : s'.actors = s.actors) (hrevision : s'.revision = s.revision)
  | counted (hrevision : s'.revision = s.revision + 1)
  | renamed (hrenames : s.Renames w) (hunnamed : s'.unnamed = s.unnamed) (hrevision : s'.revision = s.revision)

variable {s s' : Stage}

/-- The stage with another name for an actor. -/
def withName (s : Stage) (id : ActorId) (name : String) : Stage :=
  { s with actors := Listing.modify Actor.id id (fun a => { a with name }) s.actors }

theorem unnamed_withName (s : Stage) (id : ActorId) (name : String) : (s.withName id name).unnamed = s.unnamed := by
  refine Listing.map_modify_of_forall id ?_ s.actors
  intro a
  rfl

/-- A name changes the actors unless it is the one that the actor has. -/
theorem actors_withName_eq_iff {id : ActorId} {name : String} {a : Actor} (ha : s.find? id = some a) :
    (s.withName id name).actors = s.actors ↔ a.name = name := by
  constructor
  · intro hsame
    have hfound : (s.withName id name).find? id = some { a with name } := by
      refine (Listing.find?_modify Actor.id id id ?_ s.actors).trans ?_
      · intro a
        rfl
      · rw [if_pos rfl, show Listing.find? Actor.id id s.actors = some a from ha]
        rfl
    rw [find?, hsame] at hfound
    exact congrArg Actor.name (Option.some.inj (ha.symm.trans hfound))
  · rintro rfl
    exact Listing.modify_of_eq_self ha rfl

theorem edit_renameActor {id : ActorId} {name : String} {a : Actor} (hlocked : s.locked = false)
    (hblank : Text.isBlankText name = false) (ha : s.find? id = some a) :
    s.edit (.renameActor id name) = .ok (s.withName id name) := by
  rw [edit, renameActor, editing_of_unlocked hlocked, if_neg (by simp [hblank]), withActor, ha]
  rfl

/-- Every edit that is made is counted, unless it is for a name. -/
theorem writtenTo_edit {e : Edit} (he : s.edit e = .ok s') : s.WrittenTo (.edit e) s' := by
  obtain ⟨hlocked, hedited⟩ := edited_of_edit he
  cases hedited with
  | added | removed | updated | sentHome => exact .counted rfl
  | renamed id name a hblank ha =>
    by_cases hname : a.name = name
    · exact .quiet ((actors_withName_eq_iff ha).mpr hname) rfl
    · exact .renamed ⟨id, name, a, rfl, hlocked, hblank, ha, hname⟩ (s.unnamed_withName id name) rfl

/-- **All that a write can do.** -/
theorem writtenTo_write (s : Stage) (w : StageWrite) : s.WrittenTo w (s.write w) := by
  cases w with
  | edit e =>
    rw [write]
    rcases he : s.edit e with refusal | s'
    · exact .quiet rfl rfl
    · exact writtenTo_edit he
  | merge id p =>
    change s.WrittenTo _ (if s.contains id then _ else s)
    split
    · exact .counted rfl
    · exact .quiet rfl rfl
  | applyBatch batch => exact .counted rfl
  | started => exact .quiet rfl rfl
  | finished => exact .quiet rfl rfl

/-- The revision never goes back. -/
theorem revision_le_write (s : Stage) (w : StageWrite) : s.revision ≤ (s.write w).revision := by
  rcases s.writtenTo_write w with ⟨-, hrevision⟩ | ⟨hrevision⟩ | ⟨-, -, hrevision⟩ <;> omega

theorem revision_le_writes (s : Stage) (ws : List StageWrite) : s.revision ≤ (s.writes ws).revision := by
  induction ws generalizing s with
  | nil => exact Nat.le_refl _
  | cons w ws ih => exact Nat.le_trans (s.revision_le_write w) (ih (s.write w))

/-- A write changes the actors without being counted exactly when it gives one another name. -/
theorem changed_not_counted_iff (s : Stage) (w : StageWrite) :
    (s.write w).actors ≠ s.actors ∧ (s.write w).revision = s.revision ↔ s.Renames w := by
  constructor
  · rintro ⟨hchanged, hkept⟩
    rcases s.writtenTo_write w with ⟨hactors, -⟩ | ⟨hrevision⟩ | ⟨hrenames, -, -⟩
    · exact absurd hactors hchanged
    · omega
    · exact hrenames
  · rintro ⟨id, name, a, rfl, hlocked, hblank, ha, hname⟩
    rw [write, edit_renameActor hlocked hblank ha]
    exact ⟨fun hsame => hname ((actors_withName_eq_iff ha).mp hsame), rfl⟩

/-- A run of writes that keeps the revision has changed names at most, and has changed nothing if it gave no
actor another name.  The revision never goes back, so every single write has kept it. -/
theorem of_revision_writes_eq {ws : List StageWrite} (h : (s.writes ws).revision = s.revision) :
    (s.writes ws).unnamed = s.unnamed ∧ (¬ s.RenamesIn ws → (s.writes ws).actors = s.actors) := by
  induction ws generalizing s with
  | nil => exact ⟨rfl, fun _ => rfl⟩
  | cons w ws ih =>
    have hfirst : s.revision ≤ (s.write w).revision := s.revision_le_write w
    have hrest : (s.write w).revision ≤ ((s.write w).writes ws).revision := (s.write w).revision_le_writes ws
    change ((s.write w).writes ws).revision = s.revision at h
    obtain ⟨hunnamed, hactors⟩ := ih (s := s.write w) (by omega)
    change ((s.write w).writes ws).unnamed = s.unnamed ∧
      (¬ (s.Renames w ∨ (s.write w).RenamesIn ws) → ((s.write w).writes ws).actors = s.actors)
    rw [not_or]
    rcases s.writtenTo_write w with ⟨hsame, -⟩ | ⟨hrevision⟩ | ⟨hrenames, hsame, -⟩
    · exact ⟨hunnamed.trans (unnamed_congr hsame), fun hnames => (hactors hnames.2).trans hsame⟩
    · omega
    · exact ⟨hunnamed.trans hsame, fun hnames => absurd hrenames hnames.1⟩

/-- **The revision tells of every change but that of a name.**  It never goes back.  Whatever changes the actors
raises it, unless it gives an actor another name: that changes the actors and keeps the revision.  So at two
moments of one revision the same actors stand in the same order, in the same costumes and states.  If none got
another name between them, they are the same altogether. -/
theorem redrawn_unless_renamed (s : Stage) :
    (∀ w, s.revision ≤ (s.write w).revision ∧
      (((s.write w).actors ≠ s.actors → s.revision < (s.write w).revision) ↔ ¬ s.Renames w)) ∧
    ∀ earlier later : List StageWrite,
      let t := s.writes earlier
      let t' := t.writes later
      t'.revision = t.revision → t'.unnamed = t.unnamed ∧ (¬ t.RenamesIn later → t'.actors = t.actors) := by
  constructor
  · intro w
    have hle : s.revision ≤ (s.write w).revision := s.revision_le_write w
    refine ⟨hle, ?_⟩
    rw [← changed_not_counted_iff, not_and, Nat.lt_iff_le_and_ne]
    constructor
    · exact fun h hchanged hkept => (h hchanged).2 hkept.symm
    · exact fun h hchanged => ⟨hle, fun hkept => h hchanged hkept.symm⟩
  · intro earlier later t t' hrevision
    exact of_revision_writes_eq hrevision

/-- A second actor comes and goes, which is counted.  Then an actor that is not there is removed and moved, and
all are sent home while the stage is locked: nothing of this is counted, and nothing of it is done. -/
theorem redrawn_unless_renamed_sample :
    let t := ({} : Stage).writes [.edit (.addActor "dog" none), .edit (.removeActor ⟨"sprite-2"⟩)]
    let later : List StageWrite :=
      [.edit (.removeActor ⟨"sprite-2"⟩), .merge ⟨"sprite-2"⟩ { visible := some false }, .started,
        .edit .resetToHome, .finished]
    t.revision = 2 ∧ (t.writes later).revision = t.revision ∧ (t.writes later).actors = t.actors := by
  intro t later
  have hkept : (t.writes later).revision = t.revision := by decide +kernel
  have hnames : ¬ t.RenamesIn later := by simp [later, RenamesIn, Renames]
  exact ⟨by decide +kernel, hkept, ((redrawn_unless_renamed {}).2 _ later hkept).2 hnames⟩

/-- The only actor gets another name.  The actors have changed, and whoever waits for the revision to change
goes on showing the old name. -/
theorem renamed_not_redrawn :
    let s : Stage := {}
    let s' := s.write (.edit (.renameActor ⟨"sprite-1"⟩ "Felix"))
    s'.actors ≠ s.actors ∧ s'.revision = s.revision := by
  decide

end Stage
end Marionette

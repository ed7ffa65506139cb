import Marionette.FlowBook
import Marionette.Proofs.InPlace
import Marionette.Proofs.Project

/-!
# Refused edits leave no trace

The edits of a stage, of a flow and of a book check, count, cut and put together again, one assignment after
the other.  Here they are written in that way, with their checks and their assignments in order, and with the
accesses by index that they make.  They come to what the edits say in one go: whoever is refused finds the
whole structure as it was, no access misses, and an edit is refused exactly when there is an objection to it.

## Main definitions

* `Stage.addInPlace`, `Flow.pushInPlace`, `FlowBook.selectInPlace` and the others — the edits in place.
* `Stage.SettlesEdits`, `Flow.SettlesEdits`, `FlowBook.SettlesEdits` — the objections to each edit, and what
  it changes when there is none.

## Main results

* `Stage.settles_editing` — a lock is an objection to every edit of a stage, and comes before any other.
* `edits_refused_without_trace` — every edit is made, or leaves everything as it was.
-/

namespace Marionette

/-! ### The edits, one assignment after the other -/

open InPlace (assign refuse)

namespace Stage

/-- Go on unless the stage is locked. -/
def ensureUnlocked (kind : StageEdit) : InPlace Stage Unit := do
  if (← get).locked then refuse (.stageLocked kind)

/-- The index of an actor. -/
def position (id : ActorId) : InPlace Stage Nat :=
  InPlace.position Stage.actors Actor.id id (.unknownActor id)

/-- Append an actor at home under a fresh id. -/
def addInPlace (costume : String) (name : Option String) : InPlace Stage ActorId := do
  ensureUnlocked .addActor
  let count := (← get).actors.length
  let id := (← get).freshActorId
  let actor : Actor :=
    { id, name := name.getD ("Sprite " ++ decimal (count + 1)), costume, state := homeState count }
  assign fun s => { s with actors := s.actors ++ [actor] }
  assign fun s => { s with revision := s.revision + 1 }
  pure id

/-- Take an actor off the stage.  The edit is counted before the actor is gone. -/
def removeInPlace (id : ActorId) : InPlace Stage Actor := do
  ensureUnlocked .removeActor
  let pos ← position id
  if (← get).actors.length ≤ 1 then refuse .lastActor
  assign fun s => { s with revision := s.revision + 1 }
  let (a, actors) ← Listing.takeAt pos (← get).actors
  assign fun s => { s with actors }
  pure a

/-- Give an actor another name. -/
def renameInPlace (id : ActorId) (name : String) : InPlace Stage Unit := do
  ensureUnlocked .renameActor
  if Text.isBlankText name then refuse .blankActorName
  let pos ← position id
  let actors ← Listing.changeAt pos (fun a => { a with name }) (← get).actors
  assign fun s => { s with actors }

/-- Merge a patch into the state of an actor. -/
def updateInPlace (id : ActorId) (p : StatePatch) : InPlace Stage Unit := do
  ensureUnlocked .updateActor
  let pos ← position id
  let actors ← Listing.changeAt pos (fun a => { a with state := a.state.merge p }) (← get).actors
  assign fun s => { s with actors }
  assign fun s => { s with revision := s.revision + 1 }

/-- Send every actor home. -/
def resetInPlace : InPlace Stage Unit := do
  ensureUnlocked .resetToHome
  assign fun s => { s with actors := s.actors.mapIdx fun i a => { a with state := homeState i } }
  assign fun s => { s with revision := s.revision + 1 }

end Stage

namespace Flow

/-- Append a block under a fresh id. -/
def pushInPlace (action : String) (target : Option ActorId) : InPlace Flow BlockId := do
  let id := (← get).freshBlockId
  assign fun f => { f with blocks := f.blocks ++ [{ id, action, target }] }
  pure id

/-- Take out a block, if there is one. -/
def removeInPlace (id : BlockId) : InPlace Flow (Option ActionBlock) := do
  match (← get).blocks.findIdx? fun b => b.id = id with
  | none => pure none
  | some pos =>
    let (b, blocks) ← Listing.takeAt pos (← get).blocks
    assign fun f => { f with blocks }
    pure (some b)

/-- Move a block: take it out, and put it in again. -/
def moveInPlace (source target : Nat) : InPlace Flow Unit := do
  let count := (← get).blocks.length
  if count ≤ source ∨ count ≤ target then refuse (.moveOutOfRange source target count)
  let (b, blocks) ← Listing.takeAt source (← get).blocks
  assign fun f => { f with blocks }
  let blocks ← Listing.insertAt target b (← get).blocks
  assign fun f => { f with blocks }

end Flow

namespace FlowBook

/-- The index of a flow. -/
def position (id : FlowId) : InPlace FlowBook Nat :=
  InPlace.position FlowBook.flows Flow.id id (.unknownFlow id)

/-- Select a flow. -/
def selectInPlace (id : FlowId) : InPlace FlowBook Unit := do
  let _ ← position id
  assign fun b => { b with active := id }

/-- Append an empty flow under a fresh id and select it. -/
def addInPlace : InPlace FlowBook FlowId := do
  let id := (← get).freshFlowId
  let flow : Flow := { id, name := "Flow " ++ decimal ((← get).flows.length + 1) }
  assign fun b => { b with flows := b.flows ++ [flow] }
  assign fun b => { b with active := id }
  pure id

/-- Delete a flow.  Only when it is gone is another one selected in its place. -/
def deleteInPlace (id : FlowId) : InPlace FlowBook Flow := do
  let pos ← position id
  if (← get).flows.length ≤ 1 then refuse .lastFlow
  let (f, flows) ← Listing.takeAt pos (← get).flows
  assign fun b => { b with flows }
  if (← get).active = id then
    let first ← Listing.entryAt 0 (← get).flows
    assign fun b => { b with active := first.id }
  pure f

/-- Give a flow another name. -/
def renameInPlace (id : FlowId) (name : String) : InPlace FlowBook Unit := do
  let pos ← position id
  let flows ← Listing.changeAt pos (fun f => { f with name }) (← get).flows
  assign fun b => { b with flows }

end FlowBook

/-! ### Edits of the stage -/

namespace Stage

variable {s : Stage} {α : Type}

/-- A lock is an objection to every edit, and comes before any other. -/
def unlessLocked (s : Stage) (objection? : Option ErrorKind) : Option ErrorKind :=
  if s.locked then some .invalidState else objection?

/-- What becomes of the edits of a stage. -/
structure SettlesEdits (s : Stage) : Prop where
  /-- A new actor stands behind all others, at home and under an id that nobody had. -/
  addActor (costume : String) (name : Option String) :
    Settles s (addInPlace costume name) (s.addActor costume name) (s.unlessLocked none) fun id s' =>
      id ∉ s.actors.map (·.id) ∧
        s' = { s with
          actors := s.actors ++
            [{ id, name := name.getD ("Sprite " ++ decimal (s.actors.length + 1)), costume
               state := homeState s.actors.length }]
          revision := s.revision + 1 }
  /-- The actor that is answered is gone. -/
  removeActor (id : ActorId) :
    Settles s (removeInPlace id) (s.removeActor id)
      (s.unlessLocked <|
        if id ∈ s.actors.map (·.id) then
          if s.actors.length ≤ 1 then some .invalidState else none
        else some .validation) fun a s' =>
      ∃ before after, Listing.Splits Actor.id id s.actors before a after ∧
        s' = { s with actors := before ++ after, revision := s.revision + 1 }
  /-- One actor has another name.  This does not count as a change. -/
  renameActor (id : ActorId) (name : String) :
    Settles s (renameInPlace id name) (((), ·) <$> s.renameActor id name)
      (s.unlessLocked <|
        if Text.isBlankText name then some .validation
        else if id ∈ s.actors.map (·.id) then none else some .validation) fun _ s' =>
      ∃ before a after, Listing.Splits Actor.id id s.actors before a after ∧
        s' = { s with actors := before ++ { a with name } :: after }
  /-- One actor has another state. -/
  updateActor (id : ActorId) (p : StatePatch) :
    Settles s (updateInPlace id p) (((), ·) <$> s.updateActor id p)
      (s.unlessLocked <| if id ∈ s.actors.map (·.id) then none else some .validation) fun _ s' =>
      ∃ before a after, Listing.Splits Actor.id id s.actors before a after ∧
        s' = { s with
          actors := before ++ { a with state := a.state.merge p } :: after
          revision := s.revision + 1 }
  /-- All actors are at home, and nothing else about them changed. -/
  resetToHome :
    Settles s resetInPlace (((), ·) <$> s.resetToHome) (s.unlessLocked none) fun _ s' =>
      s' = { s with
        actors := s.actors.mapIdx fun i a => { a with state := homeState i }
        revision := s.revision + 1 }

/-- An edit of an unlocked stage is settled by what it does after it has looked at the lock. -/
theorem settles_editing {kind : StageEdit} {rest : InPlace Stage α} {go : Except Refusal (α × Stage)}
    {objection? : Option ErrorKind} {Change : α → Stage → Prop}
    (h : Settles s rest go objection? Change) :
    Settles s (ensureUnlocked kind >>= fun _ => rest) (s.editing kind go) (s.unlessLocked objection?)
      Change := by
  rcases hlocked : s.locked with _ | _
  · rw [editing_of_unlocked hlocked, unlessLocked, if_neg (by simp [hlocked])]
    exact h.of_runOn_eq (by simp [ensureUnlocked, hlocked])
  · exact .of_refused (by simp [ensureUnlocked, hlocked]) (editing_of_locked hlocked kind)
      (by rw [unlessLocked, if_pos hlocked]; rfl)

theorem map_editing {β : Type} (g : α → β) (kind : StageEdit) (go : Except Refusal α) :
    g <$> s.editing kind go = s.editing kind (g <$> go) := by
  rw [editing, editing]
  split <;> rfl

theorem map_withActor {β : Type} (g : α → β) (id : ActorId) (go : Actor → Except Refusal α) :
    g <$> s.withActor id go = s.withActor id (g <$> go ·) := by
  rw [withActor, withActor]
  split <;> rfl

theorem withActor_of_find? {id : ActorId} {a : Actor} (h : s.find? id = some a)
    (go : Actor → Except Refusal α) : s.withActor id go = go a := by
  rw [withActor, h]

theorem withActor_of_find?_eq_none {id : ActorId} (h : s.find? id = none)
    (go : Actor → Except Refusal α) : s.withActor id go = .error (.unknownActor id) := by
  rw [withActor, h]

theorem settlesEdits (s : Stage) : s.SettlesEdits := by
  constructor
  case addActor =>
    intro costume name
    refine settles_editing (.of_made ?_ rfl rfl ⟨s.freshActorId_notMem, rfl⟩)
    simp
  case removeActor =>
    intro id
    refine settles_editing (.position (withActor_of_find?_eq_none · _) ?_)
    intro before a after h
    rw [withActor_of_find? h.find?_eq, h.remove_eq]
    by_cases hlast : s.actors.length ≤ 1
    · exact .of_refused (r := .lastActor) (by simp [hlast]) (if_pos hlast) (if_pos hlast)
    · refine .of_made ?_ (if_neg hlast) (if_neg hlast) ⟨before, after, h, rfl⟩
      simp [hlast, h.takeAt_eq]
  case renameActor =>
    intro id name
    rw [renameActor, map_editing]
    refine settles_editing ?_
    by_cases hblank : Text.isBlankText name
    · refine .of_refused (r := .blankActorName) (by simp [hblank]) ?_ (if_pos hblank)
      rw [if_pos hblank]
      rfl
    · rw [if_neg hblank, if_neg hblank, if_neg hblank, map_withActor]
      refine .position (withActor_of_find?_eq_none · _) ?_
      intro before a after h
      rw [withActor_of_find? h.find?_eq, h.modify_eq]
      refine .of_made ?_ rfl rfl ⟨before, a, after, h, rfl⟩
      simp [h.changeAt_eq]
  case updateActor =>
    intro id p
    rw [updateActor, map_editing, map_withActor]
    refine settles_editing (.position (withActor_of_find?_eq_none · _) ?_)
    intro before a after h
    rw [withActor_of_find? h.find?_eq, mergeState, h.modify_eq]
    refine .of_made ?_ rfl rfl ⟨before, a, after, h, rfl⟩
    simp [h.changeAt_eq]
  case resetToHome =>
    rw [resetToHome, map_editing]
    refine settles_editing (.of_made ?_ rfl rfl ?_)
    · simp [List.mapIdx_eq_zipIdx_map]
    · simp [List.mapIdx_eq_zipIdx_map]

end Stage

/-! ### Edits of a flow -/

namespace Flow

/-- What becomes of the edits of a flow. -/
structure SettlesEdits (f : Flow) : Prop where
  /-- A new block stands behind all others, under an id that none had. -/
  pushBlock (action : String) (target : Option ActorId) :
    Settles f (pushInPlace action target) (.ok (f.pushBlock action target)) none fun id f' =>
      id ∉ f.blocks.map (·.id) ∧ f' = { f with blocks := f.blocks ++ [{ id, action, target }] }
  /-- The block that is answered is gone.  No answer means that there was none, and is not an error. -/
  removeBlock (id : BlockId) :
    Settles f (removeInPlace id)
      (.ok ((f.removeBlock? id).elim (none, f) fun (b, f') => (some b, f'))) none fun b? f' =>
      (b? = none ↔ id ∉ f.blocks.map (·.id)) ∧ (b? = none → f' = f) ∧
        ∀ b, b? = some b → ∃ before after, Listing.Splits ActionBlock.id id f.blocks before b after ∧
          f' = { f with blocks := before ++ after }
  /-- One block has another place.  Without it, the blocks before and after are the same. -/
  moveBlock (source target : Nat) :
    Settles f (moveInPlace source target) (((), ·) <$> f.moveBlock source target)
      (if f.blocks.length ≤ source ∨ f.blocks.length ≤ target then some .validation else none) fun _ f' =>
      f' = { f with blocks := f'.blocks } ∧ f'.blocks[target]? = f.blocks[source]? ∧
        f'.blocks.eraseIdx target = f.blocks.eraseIdx source

variable {f : Flow} {source target : Nat}

theorem moveBlock_of_le (h : f.blocks.length ≤ source ∨ f.blocks.length ≤ target) :
    f.moveBlock source target = .error (.moveOutOfRange source target f.blocks.length) := by
  rw [moveBlock]
  split
  · next b hb =>
    have hsource : source < f.blocks.length := (List.getElem?_eq_some_iff.mp hb).1
    exact if_neg (by omega)
  · rfl

theorem moveBlock_of_lt (hsource : source < f.blocks.length) (htarget : target < f.blocks.length) :
    f.moveBlock source target =
      .ok { f with blocks := (f.blocks.eraseIdx source).insertIdx target f.blocks[source] } := by
  rw [moveBlock, List.getElem?_eq_getElem hsource]
  exact if_pos htarget

theorem settlesEdits (f : Flow) : f.SettlesEdits := by
  constructor
  case pushBlock =>
    intro action target
    exact .of_made (by simp [pushInPlace]) rfl rfl ⟨f.freshBlockId_notMem, rfl⟩
  case removeBlock =>
    intro id
    by_cases hid : id ∈ f.blocks.map (·.id)
    · obtain ⟨before, b, after, h⟩ := Listing.exists_splits hid
      have hrun : (removeInPlace id).runOn f = (.ok (some b), { f with blocks := before ++ after }) := by
        simp [removeInPlace, h.findIdx?_eq, h.takeAt_eq]
      refine .of_made hrun ?_ rfl ?_
      · rw [removeBlock?, h.find?_eq, h.remove_eq]
        rfl
      · refine ⟨by simp [hid], by simp, ?_⟩
        rintro b' ⟨⟩
        exact ⟨before, after, h, rfl⟩
    · have hrun : (removeInPlace id).runOn f = (.ok none, f) := by
        simp [removeInPlace, Listing.findIdx?_eq_none_of_notMem hid]
      refine .of_made hrun ?_ rfl ⟨by simp [hid], by simp, by simp⟩
      rw [removeBlock?, Listing.find?_eq_none_of_notMem hid]
      rfl
  case moveBlock =>
    intro source target
    by_cases hrange : f.blocks.length ≤ source ∨ f.blocks.length ≤ target
    · refine .of_refused (r := .moveOutOfRange source target f.blocks.length) ?_ ?_ (if_pos hrange)
      · simp [moveInPlace, hrange]
      · rw [moveBlock_of_le hrange]
        rfl
    · obtain ⟨hsource, htarget⟩ : source < f.blocks.length ∧ target < f.blocks.length := by omega
      have hroom : target ≤ (f.blocks.eraseIdx source).length := by
        rw [List.length_eraseIdx_of_lt hsource]
        omega
      have htake : Listing.takeAt source f.blocks = .ok (f.blocks[source], f.blocks.eraseIdx source) := by
        simp [Listing.takeAt, Listing.entryAt, hsource]
      refine .of_made ?_ (by rw [moveBlock_of_lt hsource htarget]; rfl) (if_neg hrange) ⟨rfl, ?_, ?_⟩
      · simp [moveInPlace, hrange, htake, Listing.insertAt, hroom]
      · simp [List.getElem?_insertIdx_self, hroom, hsource]
      · exact List.eraseIdx_insertIdx_self _

end Flow

/-! ### Edits of a book -/

namespace FlowBook

/-- What becomes of the edits of a book. -/
structure SettlesEdits (b : FlowBook) : Prop where
  /-- Another flow is selected. -/
  select (id : FlowId) :
    Settles b (selectInPlace id) (((), ·) <$> b.select id)
      (if id ∈ b.flows.map (·.id) then none else some .validation) fun _ b' =>
      b' = { b with active := id }
  /-- A new flow stands behind all others, under an id that none had, and is selected. -/
  addFlow :
    Settles b addInPlace (.ok b.addFlow) none fun id b' =>
      id ∉ b.flows.map (·.id) ∧
        b' = { flows := b.flows ++ [{ id, name := "Flow " ++ decimal (b.flows.length + 1) }], active := id }
  /-- The flow that is answered is gone.  Only if it was selected, the first of the others is now. -/
  deleteFlow (id : FlowId) :
    Settles b (deleteInPlace id) (b.deleteFlow id)
      (if id ∈ b.flows.map (·.id) then
        if b.flows.length ≤ 1 then some .invalidState else none
      else some .validation) fun f b' =>
      ∃ before after, Listing.Splits Flow.id id b.flows before f after ∧ b'.flows = before ++ after ∧
        (b.active ≠ id → b'.active = b.active) ∧
        (b.active = id → b'.flows.head?.map (·.id) = some b'.active)
  /-- One flow has another name. -/
  rename (id : FlowId) (name : String) :
    Settles b (renameInPlace id name) (((), ·) <$> b.rename id name)
      (if id ∈ b.flows.map (·.id) then none else some .validation) fun _ b' =>
      ∃ before f after, Listing.Splits Flow.id id b.flows before f after ∧
        b' = { b with flows := before ++ { f with name } :: after }

theorem settlesEdits (b : FlowBook) : b.SettlesEdits := by
  constructor
  case select =>
    intro id
    refine .position ?_ ?_
    · intro h
      rw [select, find?, h]
      rfl
    · intro before f after h
      rw [select, find?, h.find?_eq]
      exact .of_made (by simp) rfl rfl rfl
  case addFlow => exact .of_made (by simp [addInPlace]) rfl rfl ⟨b.freshFlowId_notMem, rfl⟩
  case deleteFlow =>
    intro id
    refine .position ?_ ?_
    · intro h
      rw [deleteFlow, find?, h]
    · intro before f after h
      rw [deleteFlow, find?, h.find?_eq, h.remove_eq]
      dsimp only
      by_cases hlast : b.flows.length ≤ 1
      · exact .of_refused (r := .lastFlow) (by simp [hlast]) (if_pos hlast) (if_pos hlast)
      · obtain ⟨first, rest, hfirst⟩ : ∃ first rest, before ++ after = first :: rest :=
          List.exists_cons_of_ne_nil (h.remove_eq ▸ Listing.remove_ne_nil hlast)
        refine .of_made ?_ (if_neg hlast) (if_neg hlast) ⟨before, after, h, rfl, (if_neg ·), ?_⟩
        · by_cases hactive : b.active = id
          · simp [hlast, h.takeAt_eq, hactive, hfirst, Listing.entryAt]
          · simp [hlast, h.takeAt_eq, hactive]
        · intro hactive
          simp [hactive, hfirst]
  case rename =>
    intro id name
    refine .position ?_ ?_
    · intro h
      rw [rename, find?, h]
      rfl
    · intro before f after h
      rw [rename, find?, h.find?_eq, modify, h.modify_eq]
      refine .of_made ?_ rfl rfl ⟨before, f, after, h, rfl⟩
      simp [h.changeAt_eq]

end FlowBook

/-- **Every edit is made, or leaves everything as it was.** -/
theorem edits_refused_without_trace :
    (∀ s : Stage, s.SettlesEdits) ∧ (∀ f : Flow, f.SettlesEdits) ∧ ∀ b : FlowBook, b.SettlesEdits :=
  ⟨Stage.settlesEdits, Flow.settlesEdits, FlowBook.settlesEdits⟩

/-- Two flows, of which the first is selected. -/
def Sample.twoFlows : FlowBook :=
  { flows := [{ id := ⟨"flow-1"⟩, name := "Flow 1" }, { id := ⟨"flow-2"⟩, name := "Flow 2" }] }

/-- The only actor cannot be removed, nor the only flow; with another one, the selected flow can. -/
theorem edits_refused_without_trace_sample :
    (∃ r, r.error.kind = .invalidState ∧
      (Stage.removeInPlace ⟨"sprite-1"⟩).runOn {} = (.error (.refused r), {})) ∧
    (∃ r, r.error.kind = .invalidState ∧
      (FlowBook.deleteInPlace ⟨"flow-1"⟩).runOn {} = (.error (.refused r), {})) ∧
    ∃ f b, (FlowBook.deleteInPlace ⟨"flow-1"⟩).runOn Sample.twoFlows = (.ok f, b) ∧
      b.flows.head?.map (·.id) = some b.active := by
  obtain ⟨hstage, -, hbook⟩ := edits_refused_without_trace
  obtain ⟨r, hkind, -, hrun⟩ := ((hstage {}).removeActor ⟨"sprite-1"⟩).refused .invalidState (by decide)
  obtain ⟨r', hkind', -, hrun'⟩ := ((hbook {}).deleteFlow ⟨"flow-1"⟩).refused .invalidState (by decide)
  obtain ⟨f, b, -, hmade, before, after, -, -, -, hselected⟩ :=
    ((hbook Sample.twoFlows).deleteFlow ⟨"flow-1"⟩).made (by decide)
  exact ⟨⟨r, hkind, hrun⟩, ⟨r', hkind', hrun'⟩, f, b, hmade, hselected rfl⟩

end Marionette

import Marionette.Playback.Realtime
import Marionette.Project
import Marionette.Proofs.Naming
import Marionette.Proofs.Playback.EditLock

/-!
# Projects stay well-formed

A project is well-formed when it has actors and flows, all of them with distinct names, when no flow uses a
block id twice, and when the selected flow exists.  That is what checking a project decides.  No edit of the
stage, of the book or of a flow can break it, whatever it is given and whether or not it is refused, and
neither can playback, which leaves the names on the stage alone.

## Main definitions

* `Stage.WellFormed`, `FlowBook.WellFormed`, `Project.WellFormed`.
* `FlowEdit`, `BookEdit`, `Performance`, `ProjectEdit` — what may be done to a flow, to a book, on a stage and
  to a project.

## Main results

* `Project.validate_eq_ok_iff` — checking decides well-formedness.
* `Stage.WellFormed.edit`, `FlowBook.WellFormed.edit`, `Stage.roster_perform` — what every operation keeps.
* `Project.validate_edits` — checking decides well-formedness, and nothing that is done breaks it.
-/

namespace Marionette

/-! ### Well-formedness -/

/-- There are actors, and their ids are distinct. -/
structure Stage.WellFormed (s : Stage) : Prop where
  actors_ne_nil : s.actors ≠ []
  nodup_ids : (s.actors.map (·.id)).Nodup

/-- There are flows, with distinct ids and distinct block ids in each, and one of them is selected. -/
structure FlowBook.WellFormed (b : FlowBook) : Prop where
  flows_ne_nil : b.flows ≠ []
  nodup_ids : (b.flows.map (·.id)).Nodup
  nodup_blocks : ∀ f ∈ b.flows, (f.blocks.map (·.id)).Nodup
  active_mem : b.active ∈ b.flows.map (·.id)

structure Project.WellFormed (p : Project) : Prop where
  stage : p.stage.WellFormed
  book : p.book.WellFormed

/-! ### Checking -/

namespace FlowBook

theorem firstDefect_eq_none_iff (seen : List FlowId) (flows : List Flow) :
    firstDefect seen flows = none ↔
      ((flows.map (·.id)).Nodup ∧ ∀ f ∈ flows, f.id ∉ seen) ∧ ∀ f ∈ flows, (f.blocks.map (·.id)).Nodup := by
  induction flows generalizing seen with
  | nil => simp [firstDefect]
  | cons f fs ih =>
    rw [firstDefect]
    by_cases hseen : f.id ∈ seen
    · simp [hseen]
    · rw [if_neg hseen, Option.or_eq_none_iff, Flow.defect?_eq_none_iff, ih]
      simp only [List.map_cons, List.nodup_cons, List.mem_cons, not_or, List.mem_map]
      grind

/-- A book has no defect exactly when it has flows, with distinct ids and distinct block ids. -/
theorem defect?_eq_none_iff (b : FlowBook) : b.defect? = none ↔
    b.flows ≠ [] ∧ (b.flows.map (·.id)).Nodup ∧ ∀ f ∈ b.flows, (f.blocks.map (·.id)).Nodup := by
  rw [defect?]
  rcases hflows : b.flows with _ | ⟨f, fs⟩
  · simp
  · simp [firstDefect_eq_none_iff, -List.map_cons]

theorem isSome_activeFlow?_iff (b : FlowBook) :
    b.activeFlow?.isSome ↔ b.active ∈ b.flows.map (·.id) :=
  Listing.isSome_find?_iff

end FlowBook

namespace Project

theorem wellFormed_iff (p : Project) : p.WellFormed ↔
    (p.stage.actors ≠ [] ∧ (p.stage.actors.map (·.id)).Nodup) ∧
      (p.book.flows ≠ [] ∧ (p.book.flows.map (·.id)).Nodup ∧
        ∀ f ∈ p.book.flows, (f.blocks.map (·.id)).Nodup) ∧
      p.book.active ∈ p.book.flows.map (·.id) := by
  constructor
  · rintro ⟨⟨hactors, hids⟩, ⟨hflows, hflowIds, hblocks, hmem⟩⟩
    exact ⟨⟨hactors, hids⟩, ⟨hflows, hflowIds, hblocks⟩, hmem⟩
  · rintro ⟨⟨hactors, hids⟩, ⟨hflows, hflowIds, hblocks⟩, hmem⟩
    exact ⟨⟨hactors, hids⟩, ⟨hflows, hflowIds, hblocks, hmem⟩⟩

theorem defect?_eq_none_iff (p : Project) : p.defect? = none ↔ p.WellFormed := by
  have hactive : (if p.book.activeFlow?.isNone then some Defect.activeFlowMissing else none) = none ↔
      p.book.active ∈ p.book.flows.map (·.id) := by
    rw [← FlowBook.isSome_activeFlow?_iff]
    rcases p.book.activeFlow? with _ | f <;> simp
  rw [defect?, Option.or_eq_none_iff, Option.or_eq_none_iff, Stage.defect?_eq_none_iff,
    FlowBook.defect?_eq_none_iff, hactive, wellFormed_iff]

/-- **Checking a project decides whether it is well-formed.** -/
theorem validate_eq_ok_iff (p : Project) : p.validate = .ok () ↔ p.WellFormed := by
  rw [← defect?_eq_none_iff, validate]
  rcases p.defect? with _ | d <;> simp

theorem wellFormed_default : ({} : Project).WellFormed :=
  (defect?_eq_none_iff _).mp rfl

end Project

/-! ### Edits of a flow -/

/-- An edit of a flow. -/
inductive FlowEdit
  | push (action : String) (target : Option ActorId)
  | remove (id : BlockId)
  | move (source target : Nat)

namespace Flow

/-- Make an edit.  One that is refused, or finds nothing to remove, changes nothing. -/
def edit (f : Flow) : FlowEdit → Flow
  | .push action target => (f.pushBlock action target).2
  | .remove id => ((f.removeBlock? id).map (·.2)).getD f
  | .move source target => (f.moveBlock source target).toOption.getD f

theorem freshBlockId_notMem (f : Flow) : f.freshBlockId ∉ f.blocks.map (·.id) :=
  Listing.notMem_names_of_text BlockId.text (leastFree_notMem _ _ _)

@[simp] theorem id_edit (f : Flow) (e : FlowEdit) : (f.edit e).id = f.id := by
  cases e with
  | push action target => rfl
  | remove id =>
    rw [edit, removeBlock?]
    rcases Listing.find? ActionBlock.id id f.blocks with _ | b <;> rfl
  | move source target =>
    rw [edit, moveBlock]
    rcases f.blocks[source]? with _ | b
    · rfl
    · dsimp only
      split <;> rfl

/-- A block that is moved changes its place and nothing else. -/
theorem perm_of_moveBlock {f f' : Flow} {source target : Nat} (h : f.moveBlock source target = .ok f') :
    f'.blocks.Perm f.blocks := by
  rw [moveBlock] at h
  split at h
  · next b hb =>
    split at h
    · next htarget =>
      cases h
      obtain ⟨hsource, rfl⟩ := List.getElem?_eq_some_iff.mp hb
      have hlength : target ≤ (f.blocks.eraseIdx source).length := by
        rw [List.length_eraseIdx_of_lt hsource]
        omega
      exact (List.perm_insertIdx _ _ hlength).trans (List.getElem_cons_eraseIdx_perm hsource)
    · cases h
  · cases h

/-- **Every edit of a flow keeps block ids distinct.** -/
theorem nodup_edit {f : Flow} (h : (f.blocks.map (·.id)).Nodup) (e : FlowEdit) :
    ((f.edit e).blocks.map (·.id)).Nodup := by
  cases e with
  | push action target => exact Listing.nodup_concat h f.freshBlockId_notMem
  | remove id =>
    rw [edit, removeBlock?]
    rcases Listing.find? ActionBlock.id id f.blocks with _ | b
    · exact h
    · exact Listing.nodup_remove h
  | move source target =>
    rw [edit]
    rcases hmove : f.moveBlock source target with refusal | f'
    · exact h
    · exact ((perm_of_moveBlock hmove).map _).nodup_iff.mpr h

end Flow

/-! ### Edits of a book -/

/-- An edit of a book, or of one of its flows. -/
inductive BookEdit
  | add
  | delete (id : FlowId)
  | select (id : FlowId)
  | rename (id : FlowId) (name : String)
  | flow (id : FlowId) (e : FlowEdit)

namespace FlowBook

/-- Make an edit.  One that is refused changes nothing. -/
def edit (b : FlowBook) : BookEdit → FlowBook
  | .add => b.addFlow.2
  | .delete id => ((b.deleteFlow id).toOption.map (·.2)).getD b
  | .select id => (b.select id).toOption.getD b
  | .rename id name => (b.rename id name).toOption.getD b
  | .flow id e => b.modify id (·.edit e)

theorem freshFlowId_notMem (b : FlowBook) : b.freshFlowId ∉ b.flows.map (·.id) :=
  Listing.notMem_names_of_text FlowId.text (leastFree_notMem _ _ _)

namespace WellFormed

variable {b b' : FlowBook}

theorem addFlow (h : b.WellFormed) : b.addFlow.2.WellFormed := by
  constructor
  · simp [FlowBook.addFlow]
  · exact Listing.nodup_concat h.nodup_ids b.freshFlowId_notMem
  · intro f hf
    rcases List.mem_append.mp hf with hf | hf
    · exact h.nodup_blocks f hf
    · rw [List.mem_singleton.mp hf]
      exact List.nodup_nil
  · simp [FlowBook.addFlow]

/-- A book is well-formed after a flow was deleted: there is another one, and if the selected flow was deleted
the first of the others is selected. -/
theorem deleteFlow (h : b.WellFormed) {id : FlowId} {f : Flow} (hdelete : b.deleteFlow id = .ok (f, b')) :
    b'.WellFormed := by
  rw [FlowBook.deleteFlow] at hdelete
  split at hdelete
  · cases hdelete
  · split at hdelete
    · cases hdelete
    · next hmany =>
      cases hdelete
      have hleft : Listing.remove Flow.id id b.flows ≠ [] := Listing.remove_ne_nil hmany
      refine ⟨hleft, Listing.nodup_remove h.nodup_ids, ?_, ?_⟩
      · intro f hf
        exact h.nodup_blocks f (Listing.remove_sublist.subset hf)
      · -- the selection is made after the flow was taken out
        dsimp only
        split
        · obtain ⟨first, rest, hfirst⟩ := List.exists_cons_of_ne_nil hleft
          simp [hfirst]
        · next hne => exact Listing.mem_names_remove hne h.active_mem

theorem select (h : b.WellFormed) {id : FlowId} (hselect : b.select id = .ok b') : b'.WellFormed := by
  rw [FlowBook.select] at hselect
  split at hselect
  · next f hf =>
    cases hselect
    exact ⟨h.flows_ne_nil, h.nodup_ids, h.nodup_blocks, Listing.mem_names_of_find? hf⟩
  · cases hselect

/-- Whatever is done to a flow, its book stays well-formed if the flow keeps its id and its block ids stay
distinct. -/
theorem modify (h : b.WellFormed) (id : FlowId) {f : Flow → Flow} (hid : ∀ x, (f x).id = x.id)
    (hblocks : ∀ x, (x.blocks.map (·.id)).Nodup → ((f x).blocks.map (·.id)).Nodup) :
    (b.modify id f).WellFormed := by
  have hids : (b.modify id f).flows.map (·.id) = b.flows.map (·.id) :=
    Listing.map_modify Flow.id id hid b.flows
  constructor
  · intro hnil
    have hlength := Listing.length_modify Flow.id id f b.flows
    rw [show Listing.modify Flow.id id f b.flows = [] from hnil] at hlength
    exact h.flows_ne_nil (List.eq_nil_of_length_eq_zero hlength.symm)
  · rw [hids]
    exact h.nodup_ids
  · exact Listing.forall_mem_modify h.nodup_blocks fun x hx => hblocks x (h.nodup_blocks x hx)
  · rw [hids]
    exact h.active_mem

theorem rename (h : b.WellFormed) {id : FlowId} {name : String} (hrename : b.rename id name = .ok b') :
    b'.WellFormed := by
  rw [FlowBook.rename] at hrename
  split at hrename
  · cases hrename
    exact h.modify id (fun _ => rfl) fun _ hx => hx
  · cases hrename

/-- **Every edit of a book keeps it well-formed.** -/
theorem edit (h : b.WellFormed) (e : BookEdit) : (b.edit e).WellFormed := by
  cases e with
  | add => exact h.addFlow
  | delete id =>
    rw [FlowBook.edit]
    rcases hdelete : b.deleteFlow id with refusal | ⟨f, b'⟩
    · exact h
    · exact h.deleteFlow hdelete
  | select id =>
    rw [FlowBook.edit]
    rcases hselect : b.select id with refusal | b'
    · exact h
    · exact h.select hselect
  | rename id name =>
    rw [FlowBook.edit]
    rcases hrename : b.rename id name with refusal | b'
    · exact h
    · exact h.rename hrename
  | flow id e => exact h.modify id (fun f => f.id_edit e) fun _ hf => Flow.nodup_edit hf e

end WellFormed
end FlowBook

/-! ### Edits of the stage -/

namespace Stage

variable {s s' : Stage}

theorem freshActorId_notMem (s : Stage) : s.freshActorId ∉ s.actors.map (·.id) :=
  Listing.notMem_names_of_text ActorId.text (leastFree_notMem _ _ _)

/-- Only the names on a stage count. -/
theorem WellFormed.of_ids_eq (h : s.WellFormed) (hids : s'.actors.map (·.id) = s.actors.map (·.id)) :
    s'.WellFormed := by
  constructor
  · intro hnil
    rw [hnil] at hids
    exact h.actors_ne_nil (List.map_eq_nil_iff.mp hids.symm)
  · rw [hids]
    exact h.nodup_ids

/-- **Every edit of a stage keeps it well-formed.** -/
theorem WellFormed.edit (h : s.WellFormed) {e : Edit} (he : s.edit e = .ok s') : s'.WellFormed := by
  obtain ⟨-, hedited⟩ := edited_of_edit he
  cases hedited with
  | added costume name a hid =>
    exact ⟨by simp, Listing.nodup_concat h.nodup_ids (hid ▸ s.freshActorId_notMem)⟩
  | removed id hmany => exact ⟨Listing.remove_ne_nil hmany, Listing.nodup_remove h.nodup_ids⟩
  | renamed id name a hblank ha =>
    refine h.of_ids_eq (Listing.map_modify Actor.id id ?_ s.actors)
    intro a
    rfl
  | updated id p =>
    refine h.of_ids_eq (Listing.map_modify Actor.id id ?_ s.actors)
    intro a
    rfl
  | sentHome => exact h.of_ids_eq (map_id_sentHome s.actors)

end Stage

/-! ### Playback on the stage -/

/-- What a player may be asked for. -/
inductive Performance
  | call (c : Call)
  /-- A flow is played without waiting. -/
  | drained (flow : Flow) (limit : Nat)
  /-- A flow is played in real time, and perhaps cancelled. -/
  | realtime (flow : Flow) (fuel : Nat) (cancelAfter : Option Nat)

/-- Have something played on the stage, by any player and on any queue.  What does not come to an end is left
out. -/
def Stage.perform (s : Stage) (player : Player) (timers : TimerQueue) : Performance → Stage
  | .call c => (({ player, display := s, timers } : Playback Stage).call c).display
  | .drained flow limit =>
    ((({ player, display := s, timers } : Playback Stage).call (.play flow)).drain limit).playback.display
  | .realtime flow fuel cancelAfter =>
    ((({ player, display := s, timers } : Playback Stage).call (.play flow)).runRealtime? fuel
      cancelAfter).elim s (·.2.playback.display)

theorem Playback.roster_drain (pb : Playback Stage) (limit : Nat) :
    (pb.drain limit).playback.display.roster = pb.display.roster := by
  obtain ⟨es, -, hdisplay⟩ := mirrors_drain pb limit
  show (pb.drain limit).whole.display.roster = _
  rw [hdisplay, Event.roster_foldl_onDisplay]

theorem Playback.roster_fireDue? {fuel : Nat} {pb pb' : Playback Stage} (h : pb.fireDue? fuel = some pb') :
    pb'.display.roster = pb.display.roster := by
  induction fuel generalizing pb with
  | zero => cases h
  | succ fuel ih =>
    rw [fireDue?] at h
    split at h
    · cases h
      rfl
    · next t timers _ => exact (ih h).trans (roster_call { pb with timers } (.onTimer t.token))

theorem Observed.roster_realtimeFrom? {cancelAfter : Option Nat} {base fuel : Nat} {o : Observed Stage}
    {out : RunEnd × Observed Stage} (h : o.realtimeFrom? cancelAfter base fuel = some out) :
    out.2.playback.display.roster = o.playback.display.roster := by
  induction fuel generalizing o with
  | zero => cases h
  | succ fuel ih =>
    rw [realtimeFrom?] at h
    split at h
    · cases h
      rfl
    · split at h
      · cases h
        rfl
      · split at h
        · cases h
          exact Playback.roster_call o.playback .stop
        · split at h
          · cases h
          · next playback hfire =>
            have hround := Playback.roster_fireDue? hfire
            exact (ih h).trans hround

/-- **Nothing that is played changes who stands on the stage.** -/
theorem Stage.roster_perform (s : Stage) (player : Player) (timers : TimerQueue) (what : Performance) :
    (s.perform player timers what).roster = s.roster := by
  have hcall := Playback.roster_call { player, display := s, timers }
  cases what with
  | call c => exact hcall c
  | drained flow limit => exact (Playback.roster_drain _ limit).trans (hcall (.play flow))
  | realtime flow fuel cancelAfter =>
    rw [perform]
    rcases hrun : (({ player, display := s, timers } : Playback Stage).call (.play flow)).runRealtime? fuel
      cancelAfter with _ | out
    · rfl
    · exact (Observed.roster_realtimeFrom? hrun).trans (hcall (.play flow))

theorem Stage.WellFormed.perform {s : Stage} (h : s.WellFormed) (player : Player) (timers : TimerQueue)
    (what : Performance) : (s.perform player timers what).WellFormed := by
  refine h.of_ids_eq ?_
  show Display.actorIds (s.perform player timers what) = Display.actorIds s
  rw [actorIds_eq, roster_perform, ← actorIds_eq]

/-! ### Whatever is done -/

/-- Something that may be done to a project, each time with any arguments. -/
inductive ProjectEdit
  | stage (e : Edit)
  | book (e : BookEdit)
  | play (player : Player) (timers : TimerQueue) (what : Performance)

namespace Project

/-- Do it.  What is refused changes nothing. -/
def edit (p : Project) : ProjectEdit → Project
  | .stage e => { p with stage := (p.stage.edit e).toOption.getD p.stage }
  | .book e => { p with book := p.book.edit e }
  | .play player timers what => { p with stage := p.stage.perform player timers what }

/-- Do one thing after the other. -/
def edits (p : Project) (es : List ProjectEdit) : Project := es.foldl edit p

variable {p : Project}

/-- **A well-formed project stays so, whatever is done to it.** -/
theorem WellFormed.edit (h : p.WellFormed) (e : ProjectEdit) : (p.edit e).WellFormed := by
  cases e with
  | stage e =>
    rw [Project.edit]
    rcases he : p.stage.edit e with refusal | s'
    · exact h
    · exact ⟨h.stage.edit he, h.book⟩
  | book e => exact ⟨h.stage, h.book.edit e⟩
  | play player timers what => exact ⟨h.stage.perform player timers what, h.book⟩

theorem WellFormed.edits (h : p.WellFormed) (es : List ProjectEdit) : (p.edits es).WellFormed := by
  induction es generalizing p with
  | nil => exact h
  | cons e es ih => exact ih (h.edit e)

/-- **Checking decides well-formedness, and nothing that is done breaks it.**  A project passes the check
exactly when it has actors and flows, the ids of its actors, of its flows and of the blocks in each flow are
distinct, and the selected flow exists.  The default project passes.  Whatever is done to it or to another
one that passes, on the stage, in the book, in any flow or by playback, in any order and with any arguments,
the outcome passes, and has a selected flow. -/
theorem validate_edits :
    (∀ p : Project, p.validate = .ok () ↔
      (p.stage.actors ≠ [] ∧ (p.stage.actors.map (·.id)).Nodup) ∧
      (p.book.flows ≠ [] ∧ (p.book.flows.map (·.id)).Nodup ∧
        ∀ f ∈ p.book.flows, (f.blocks.map (·.id)).Nodup) ∧
      p.book.active ∈ p.book.flows.map (·.id)) ∧
    ∀ p : Project, p = {} ∨ p.validate = .ok () → ∀ es : List ProjectEdit,
      (p.edits es).validate = .ok () ∧ ∃ f, (p.edits es).book.activeFlow? = some f := by
  constructor
  · intro p
    rw [validate_eq_ok_iff, wellFormed_iff]
  · intro p hp es
    have hstart : p.WellFormed := by
      rcases hp with rfl | hvalid
      · exact wellFormed_default
      · exact (validate_eq_ok_iff p).mp hvalid
    have h : (p.edits es).WellFormed := hstart.edits es
    refine ⟨(validate_eq_ok_iff _).mpr h, Option.isSome_iff_exists.mp ?_⟩
    exact (FlowBook.isSome_activeFlow?_iff _).mpr h.book.active_mem

end Project

namespace Sample

/-- The first flow is replaced by others, someone tries to remove the only actor, and a flow is played. -/
def session : List ProjectEdit :=
  [.book .add, .book (.delete ⟨"flow-1"⟩), .book .add,
    .book (.flow ⟨"flow-2"⟩ (.push "step" (some ⟨"sprite-1"⟩))),
    .book (.flow ⟨"flow-2"⟩ (.push "step" (some ⟨"sprite-1"⟩))),
    .book (.flow ⟨"flow-2"⟩ (.remove ⟨"block-1"⟩)),
    .book (.flow ⟨"flow-2"⟩ (.push "step" none)),
    .book (.flow ⟨"flow-2"⟩ (.move 0 1)),
    .stage (.removeActor ⟨"sprite-1"⟩), .stage (.addActor "dog" none),
    .play (idle none).player .empty (.drained flow 9)]

end Sample

/-- The names that are given skip those in use, and the last flow that was added is selected. -/
theorem Project.validate_edits_sample :
    (({} : Project).edits Sample.session).validate = .ok () ∧
      (({} : Project).edits Sample.session).book =
        { flows :=
            [{ id := ⟨"flow-2"⟩, name := "Flow 2",
               blocks := [⟨⟨"block-3"⟩, "step", none⟩, ⟨⟨"block-2"⟩, "step", some ⟨"sprite-1"⟩⟩] },
              { id := ⟨"flow-3"⟩, name := "Flow 2" }]
          active := ⟨"flow-3"⟩ } ∧
      (({} : Project).edits Sample.session).stage.actors.map (·.id) = [⟨"sprite-1"⟩, ⟨"sprite-2"⟩] :=
  ⟨(validate_edits.2 {} (.inl rfl) Sample.session).1, by decide +kernel, by decide +kernel⟩

end Marionette

import Marionette.Proofs.Playback.Mirror
import Marionette.Proofs.Stage

/-!
# The stage while it is played on

Whoever edits the stage and whoever plays on it may take turns as they like.  The player locks the stage when
it starts and unlocks it when it is over, whichever of its ends it comes to, and while the stage is locked no
edit has an effect.  So who stands on the stage does not change from the start of a play to its end, and
whoever has a part in the play is there, in the first run and in every repeat run.

## Main definitions

* `Act`, `Playback.act`, `Playback.acts` — what the player and the editor do, in any order.
* `Playback.PlaysThrough` — the player plays whenever something is done.
* `Stage.Hosts` — the stage has everyone who has a part.
* `Playback.Guarded` — the stage is locked while it is played on, and hosts the play.

## Main results

* `Playback.guarded_act` — whatever is done, the stage stays guarded.
* `Playback.roster_of_playsThrough` — while the player plays, nobody comes or goes.
* `Playback.locked_acts_eq` — both, of everything that may be done.
-/

namespace Marionette

/-! ### Acts -/

/-- What the player or the editor does.  The player's queue may have been used by others meanwhile. -/
inductive Act
  | call (timers : TimerQueue) (c : Call)
  | edit (e : Edit)

namespace Playback

/-- Do it.  An edit that is refused changes nothing. -/
def act (pb : Playback Stage) : Act → Playback Stage
  | .call timers c => call { pb with timers } c
  | .edit e =>
    match pb.display.edit e with
    | .ok display => { pb with display }
    | .error _ => pb

/-- Do one thing after the other. -/
def acts (pb : Playback Stage) (as : List Act) : Playback Stage := as.foldl act pb

/-- The player plays whenever one of these things is done. -/
def PlaysThrough (pb : Playback Stage) : List Act → Prop
  | [] => True
  | a :: as => pb.player.isRunning = true ∧ (pb.act a).PlaysThrough as

end Playback

/-! ### Nobody comes or goes -/

/-- What an event tells leaves the roster alone. -/
theorem Event.roster_onDisplay (stage : Stage) (e : Event) : (e.onDisplay stage).roster = stage.roster := by
  cases e with
  | stepApplied run step last states repeaters => exact stage.roster_applyBatch _
  | _ => rfl

theorem Event.roster_foldl_onDisplay (stage : Stage) (es : List Event) :
    (es.foldl Event.onDisplay stage).roster = stage.roster := by
  induction es generalizing stage with
  | nil => rfl
  | cons e es ih => rw [List.foldl_cons, ih, e.roster_onDisplay]

namespace Playback

variable {pb pb' : Playback Stage} {run : Run} {actors : List ActorId} {s : Snapshot} {token : TimerToken}

/-- No call changes who stands on the stage. -/
theorem roster_call (pb : Playback Stage) (c : Call) : (pb.call c).display.roster = pb.display.roster := by
  by_cases hc : c = .takeEvents
  · rw [hc]
    rfl
  · obtain ⟨es, -, hdisplay⟩ := mirrors_call pb hc
    rw [hdisplay, Event.roster_foldl_onDisplay]

end Playback

/-! ### The lock -/

/-- Everyone whom the snapshot has is on the stage. -/
def Stage.Hosts (stage : Stage) (s : Snapshot) : Prop :=
  ∀ a, (s.state? a).isSome → a ∈ Display.actorIds stage

theorem Stage.Hosts.of_roster_eq {stage stage' : Stage} {s s' : Snapshot} (h : stage.Hosts s)
    (hroster : stage'.roster = stage.roster) (hs : ∀ a, (s'.state? a).isSome → (s.state? a).isSome) :
    stage'.Hosts s' := by
  intro a ha
  rw [actorIds_eq, hroster, ← actorIds_eq]
  exact h a (hs a ha)

/-- A flow that was compiled for the actors of a stage is hosted there. -/
theorem Stage.hosts_of_playsAt {stage stage' : Stage} {p : Player} {run : Run} {s : Snapshot}
    {token : TimerToken} (hplays : p.PlaysAt run (Display.actorIds stage) s token)
    (hroster : stage'.roster = stage.roster) : stage'.Hosts s := by
  intro a ha
  rw [actorIds_eq, hroster, ← actorIds_eq]
  exact (hplays.isSome_state?_iff a).mp ha

/-- The stage is locked, and everyone who has a part is there. -/
structure Stage.Keeps (stage : Stage) (s : Snapshot) : Prop where
  locked_eq : stage.locked = true
  hosts : stage.Hosts s

namespace Playback

variable {pb pb' : Playback Stage} {run : Run} {actors : List ActorId} {s : Snapshot} {token : TimerToken}

/-- The stage is open to edits while the player rests, and locked while it plays. -/
def Guarded (pb : Playback Stage) : Prop :=
  pb.player.Stands (pb.display.locked = false) fun _ s => pb.display.Keeps s

/-- A stage that hosts a snapshot hosts the next one when that is shown. -/
theorem hosts_shown (h : pb.display.Hosts s) (hplays : pb.player.PlaysAt run actors s token)
    {s' : Snapshot} (hs' : run.next.snapshot? = some s') : (pb.shown run s').display.Hosts s' :=
  h.of_roster_eq (pb.display.roster_applyBatch _) fun a => (hplays.isSome_state?_next_iff hs' a).mp

/-- It hosts the repeat run that the snapshot asks for, which has no other actors. -/
theorem hosts_repeated (h : pb.display.Hosts s) (hplays : pb.player.PlaysAt run actors s token)
    {p : Player} {run' : Run} {first : Snapshot} {token' : TimerToken}
    (hplays' : p.PlaysAt run' s.repeaters.keys first token') : pb.display.Hosts first :=
  h.of_roster_eq rfl fun a ha => hplays.isSome_state? ((hplays'.isSome_state?_iff a).mp ha)

/-- What starting keeps: the stage is locked, and the play has the actors of the stage. -/
theorem keeps_start {flow : Flow} (h : pb.Starts flow pb') :
    pb'.player.Stands (pb'.display.locked = false) fun _ s => pb'.display.Keeps s := by
  obtain ⟨first, hstart, hplays⟩ := h.exists_playsAt
  have hdisplay : pb'.display = Display.applyBatch (Display.started pb.display) first.batch := by
    rw [hstart]
    rfl
  refine .plays _ _ _ _ hplays ⟨?_, Stage.hosts_of_playsAt hplays ?_⟩
  · rw [hdisplay, Stage.locked_applyBatch]
    rfl
  · rw [hdisplay, Stage.roster_applyBatch]
    rfl

/-- The stage stays locked and hosts the next snapshot when that is shown. -/
theorem keeps_shown (h : pb.display.Keeps s) (hplays : pb.player.PlaysAt run actors s token) {s' : Snapshot}
    (hs' : run.next.snapshot? = some s') : (pb.shown run s').display.Keeps s' :=
  ⟨(pb.display.locked_applyBatch _).trans h.locked_eq, hosts_shown h.hosts hplays hs'⟩

/-- **What a wakeup keeps.**  Only the last one unlocks the stage. -/
theorem keeps_woken (hplays : pb.player.PlaysAt run actors s token) (h : pb.display.Keeps s)
    (hwoken : Woken pb run actors s pb') :
    pb'.player.Stands (pb'.display.locked = false) fun _ s => pb'.display.Keeps s := by
  cases hwoken with
  | moved s' hs hs' heq hplays' =>
    subst heq
    exact .plays _ _ _ _ hplays' (keeps_shown h hplays hplays'.snapshot_eq)
  | asked s' hs hs' hcap heq hplays' =>
    subst heq
    exact .plays _ _ _ _ hplays' (keeps_shown h hplays hplays'.snapshot_eq)
  | ended s' hs hsnap hend heq hrests =>
    subst heq
    exact .rests hrests rfl
  | repeated out first hs hout heq hplays' =>
    subst heq
    exact .plays _ _ _ _ hplays' ⟨h.locked_eq, hosts_repeated h.hosts hplays hplays'⟩

theorem guarded_call (h : pb.Guarded) (c : Call) : (pb.call c).Guarded :=
  stands_call (A := fun stage : Stage => stage.locked = false) (B := fun stage _ s => stage.Keeps s)
    (fun _ _ _ _ hstarts => keeps_start hstarts)
    (fun _ _ _ _ _ _ hplays h hwoken => keeps_woken hplays h hwoken) (fun _ _ _ _ => rfl) pb c h

theorem Guarded.locked_eq (h : pb.Guarded) : pb.display.locked = pb.player.isRunning := by
  rcases h with ⟨hrests, hopen⟩ | ⟨run, actors, s, token, hplays, hkeeps⟩
  · rw [hopen, hrests.isRunning_eq]
  · rw [hkeeps.locked_eq, hplays.isRunning_eq]

/-- While the player plays, an edit does nothing at all. -/
theorem Guarded.act_edit (h : pb.Guarded) (hrunning : pb.player.isRunning = true) (e : Edit) :
    pb.act (.edit e) = pb := by
  rw [act, Stage.edit_of_locked (h.locked_eq.trans hrunning)]

/-- **Whatever is done, the stage stays guarded.** -/
theorem guarded_act (h : pb.Guarded) (a : Act) : (pb.act a).Guarded := by
  cases a with
  | call timers c =>
    have htimers : ({ pb with timers } : Playback Stage).Guarded := h
    exact guarded_call htimers c
  | edit e =>
    rcases hrunning : pb.player.isRunning with _ | _
    · have hopen : pb.display.locked = false := h.locked_eq.trans hrunning
      rw [act]
      split
      · next stage he =>
        rcases h with ⟨hrests, -⟩ | ⟨run, actors, s, token, hplays, -⟩
        · exact .rests hrests (Stage.locked_of_edit hopen he)
        · exact absurd (hrunning.symm.trans hplays.isRunning_eq) Bool.false_ne_true
      · exact h
    · rw [h.act_edit hrunning]
      exact h

theorem guarded_acts (h : pb.Guarded) (as : List Act) : (pb.acts as).Guarded := by
  induction as generalizing pb with
  | nil => exact h
  | cons a as ih => exact ih (guarded_act h a)

/-- **While the player plays, nobody comes or goes.** -/
theorem roster_of_playsThrough (h : pb.Guarded) {as : List Act} (hplays : pb.PlaysThrough as) :
    (pb.acts as).display.roster = pb.display.roster := by
  induction as generalizing pb with
  | nil => rfl
  | cons a as ih =>
    have hact : (pb.act a).display.roster = pb.display.roster := by
      cases a with
      | call timers c => exact roster_call { pb with timers } c
      | edit e => rw [h.act_edit hplays.1]
    exact (ih (guarded_act h a) hplays.2).trans hact

/-- The stage has everyone who has a part in the run, at whichever step. -/
theorem Guarded.mem_actorIds (h : pb.Guarded) (hrun : pb.player.run? = some run) {j : Nat}
    (hs : run.table.snapshot? j = some s) {a : ActorId} (ha : (s.state? a).isSome) :
    a ∈ Display.actorIds pb.display := by
  rcases h with ⟨hrests, -⟩ | ⟨run', actors, s', token, hplays, hkeeps⟩
  · rw [hrests.run_eq] at hrun
    cases hrun
  · obtain rfl : run' = run := Option.some.inj (hplays.run_eq.symm.trans hrun)
    exact hkeeps.hosts a ((hplays.isSome_state?_iff a).mpr ((hplays.fits.isSome_state?_iff j s hs a).mp ha))

/-- **Whoever plays and whoever edits stay out of each other's way.**  Begin with a player that is idle before
an open stage, and do anything.  Then the stage is locked exactly while the player plays.  While it does,
every edit is refused for the state that things are in, and changes nothing.  From the start of a flow on, and
as long as the player plays whenever something is done, the roster stays what it was, through the end of the
play.  Everyone who has a part in any snapshot of the run, be it the first or a repeat run, is on the stage. -/
theorem locked_acts_eq (pb : Playback Stage) (hreach : pb.player.Reachable)
    (hidle : pb.player.isRunning = false) (hopen : pb.display.locked = false) (as : List Act) :
    (pb.acts as).display.locked = (pb.acts as).player.isRunning ∧
      ((pb.acts as).player.isRunning = true → ∀ e,
        (∃ refusal, (pb.acts as).display.edit e = .error refusal ∧ refusal.error.kind = .invalidState) ∧
        (pb.acts as).act (.edit e) = pb.acts as) ∧
      (∀ timers flow later, ((pb.acts as).act (.call timers (.play flow))).PlaysThrough later →
        (((pb.acts as).act (.call timers (.play flow))).acts later).display.roster =
          (pb.acts as).display.roster) ∧
      ∀ run j s a, (pb.acts as).player.run? = some run → run.table.snapshot? j = some s →
        a ∈ s.states.keys → a ∈ Display.actorIds (pb.acts as).display := by
  have hguarded : pb.Guarded := by
    rcases Player.sound_of_reachable hreach with ⟨hrests, -⟩ | ⟨run, actors, s, token, hplays, -⟩
    · exact .rests hrests hopen
    · exact absurd (hidle.symm.trans hplays.isRunning_eq) Bool.false_ne_true
  have h : (pb.acts as).Guarded := guarded_acts hguarded as
  refine ⟨h.locked_eq, fun hrunning e => ⟨?_, h.act_edit hrunning e⟩, ?_, ?_⟩
  · exact ⟨_, Stage.edit_of_locked (h.locked_eq.trans hrunning) e, rfl⟩
  · intro timers flow later hplays
    rw [roster_of_playsThrough (guarded_act h _) hplays]
    exact roster_call { pb.acts as with timers } (.play flow)
  · intro run j s a hrun hs ha
    exact h.mem_actorIds hrun hs ((SortedMap.mem_keys_iff _ _).mp ha)

end Playback

namespace Sample

/-- One actor of the sample is taken off. -/
def casting : List Act := [.edit (.removeActor ⟨"b"⟩)]

/-- Someone tries to take the other one off as well, then the first timer fires, and then playback is
stopped. -/
def evening : List Act :=
  [.edit (.removeActor ⟨"a"⟩), .call .empty (.onTimer ⟨0⟩), .call .empty .stop]

/-- What is left of the sample is played. -/
def solo : Playback Stage := ((idle none).acts casting).act (.call .empty (.play flow))

end Sample

/-- The actor that is left stays on the stage until the sample is stopped, and then the stage is open. -/
theorem Playback.locked_acts_eq_sample :
    (Sample.idle none).player.Reachable ∧ (Sample.idle none).player.isRunning = false ∧
      (Sample.idle none).display.locked = false ∧
      Sample.solo.player.isRunning = true ∧ Sample.solo.display.locked = true ∧
      Sample.solo.act (.edit (.removeActor ⟨"a"⟩)) = Sample.solo ∧
      Sample.solo.PlaysThrough Sample.evening ∧
      (Sample.solo.acts Sample.evening).display.roster =
        ((Sample.idle none).acts Sample.casting).display.roster ∧
      (Sample.solo.acts Sample.evening).display.locked = false := by
  have hreach : (Sample.idle none).player.Reachable := ⟨_, _, _, .refl⟩
  have hsteps := locked_acts_eq (Sample.idle none) hreach rfl rfl
  have hsolo := hsteps (Sample.casting ++ [.call .empty (.play Sample.flow)])
  have hstopped := hsteps (Sample.casting ++ .call .empty (.play Sample.flow) :: Sample.evening)
  have hrunning : Sample.solo.player.isRunning = true := rfl
  have hplays : Sample.solo.PlaysThrough Sample.evening := ⟨rfl, rfl, rfl, trivial⟩
  exact ⟨hreach, rfl, rfl, hrunning, hsolo.1.trans hrunning, (hsolo.2.1 hrunning _).2, hplays,
    (hsteps Sample.casting).2.2.1 .empty Sample.flow Sample.evening hplays, hstopped.1.trans rfl⟩

end Marionette

import Marionette.Proofs.Playback.EditLock
import Marionette.Proofs.Playback.Tale

/-!
# The stage is what was shown last

Nobody but the player writes to a stage that it plays on, and the player writes what its events tell.  So an
actor is in the state of the latest step that has the actor, whatever was played, stopped or started over
meanwhile, and the revision counts the steps.

While the player plays, the stage also agrees with the snapshot that the player is at.  The first snapshot of
a repeat run is never written: it is made of the states of the snapshot that asked for the run, and those are
on the stage already.

## Main definitions

* `Event.shown?`, `lastShown?` — the state that an event, or the latest of several, shows of an actor.
* `Stage.Agrees` — the stage is in the states of a snapshot.

## Main results

* `Stage.actors_foldl_onDisplay` — events put the actors into the states that they show last.
* `Player.PlaysAt.state?_first` — a repeat run begins with the states that are shown.
* `Playback.actors_perform_eq` — the stage after any calls.
-/

namespace Marionette

/-! ### What events show -/

/-- The state that an event shows of an actor, if it has the actor. -/
def Event.shown? (a : ActorId) : Event → Option ActorState
  | .stepApplied _ _ _ states _ => states.get? a
  | .started _ | .repeatScheduled _ _ | .repeatStarted _ _ _ | .finished | .stopped => none

/-- Whether an event tells of a step. -/
def Event.isStep : Event → Bool
  | .stepApplied _ _ _ _ _ => true
  | .started _ | .repeatScheduled _ _ | .repeatStarted _ _ _ | .finished | .stopped => false

/-- The state that the latest event shows of those that have the actor. -/
def lastShown? (es : List Event) (a : ActorId) : Option ActorState :=
  (es.filterMap (Event.shown? a)).getLast?

theorem lastShown?_cons (e : Event) (es : List Event) (a : ActorId) :
    lastShown? (e :: es) a = (lastShown? es a).or (e.shown? a) := by
  rw [lastShown?, lastShown?]
  rcases he : e.shown? a with _ | state
  · rw [List.filterMap_cons_none he, Option.or_none]
  · rw [List.filterMap_cons_some he, List.getLast?_cons]
    rcases (es.filterMap (Event.shown? a)).getLast? with _ | later <;> rfl

namespace Stage

variable {stage stage' : Stage}

/-- An event puts the actors into the states that it shows. -/
theorem actors_onDisplay (hids : (stage.actors.map (·.id)).Nodup) (e : Event) :
    (e.onDisplay stage).actors = posed stage.actors fun a => (e.shown? a.id).getD a.state := by
  cases e with
  | stepApplied run step last states repeaters => exact actors_applyBatch hids { states, repeaters }
  | _ => exact (List.map_id _).symm

/-- **Events put the actors into the states that they show last.** -/
theorem actors_foldl_onDisplay (hids : (stage.actors.map (·.id)).Nodup) (es : List Event) :
    (es.foldl Event.onDisplay stage).actors =
      posed stage.actors fun a => (lastShown? es a.id).getD a.state := by
  induction es generalizing stage with
  | nil => exact (List.map_id _).symm
  | cons e es ih =>
    have he := actors_onDisplay hids e
    have hids' : ((e.onDisplay stage).actors.map (·.id)).Nodup := by
      rw [he, map_id_posed]
      exact hids
    rw [List.foldl_cons, ih hids', he, posed_posed]
    refine posed_congr ?_
    intro a _
    rw [lastShown?_cons, Option.getD_or]

/-- The revision counts the steps. -/
theorem revision_foldl_onDisplay (stage : Stage) (es : List Event) :
    (es.foldl Event.onDisplay stage).revision = stage.revision + es.countP Event.isStep := by
  induction es generalizing stage with
  | nil => rfl
  | cons e es ih =>
    rw [List.foldl_cons, ih, List.countP_cons]
    cases e with
    | stepApplied run step last states repeaters =>
      change stage.revision + 1 + _ = stage.revision + (_ + 1)
      rw [Nat.add_right_comm, Nat.add_assoc]
    | _ => rfl

/-! ### Agreeing with a snapshot -/

/-- Everyone whom the snapshot has is in the state that it has. -/
def Agrees (stage : Stage) (s : Snapshot) : Prop :=
  ∀ a, (s.state? a).isSome → Display.state? stage a = s.state? a

theorem state?_of_posed {f : Actor → ActorState} (hids : (stage.actors.map (·.id)).Nodup)
    (h : stage'.actors = posed stage.actors f) {a : Actor} (ha : a ∈ stage.actors) :
    Display.state? stage' a.id = some (f a) := by
  have hids' : (stage'.actors.map (·.id)).Nodup := by
    rw [h, map_id_posed]
    exact hids
  have hmem : { a with state := f a } ∈ stage'.actors := by
    rw [h]
    exact List.mem_map_of_mem ha
  exact state?_of_mem hids' hmem

theorem nodup_of_roster_eq (hids : (stage.actors.map (·.id)).Nodup) (h : stage'.roster = stage.roster) :
    (stage'.actors.map (·.id)).Nodup := by
  change (Display.actorIds stage').Nodup
  rw [actorIds_eq, h, ← actorIds_eq]
  exact hids

/-- A stage that was given a snapshot agrees with it, if it hosts it. -/
theorem Hosts.agrees_applyBatch {s : Snapshot} (hhosts : stage.Hosts s)
    (hids : (stage.actors.map (·.id)).Nodup) : (Display.applyBatch stage s.batch).Agrees s := by
  intro a ha
  obtain ⟨actor, hactor, rfl⟩ := List.mem_map.mp (hhosts a ha)
  obtain ⟨state, hstate⟩ := Option.isSome_iff_exists.mp ha
  rw [state?_of_posed hids (actors_applyBatch hids s) hactor, hstate]
  rfl

end Stage

/-- **A repeat run begins with the states that are shown** by the snapshot that asked for it. -/
theorem Player.PlaysAt.state?_first {p : Player} {run : Run} {actors : List ActorId} {s : Snapshot}
    {token : TimerToken} (h : p.PlaysAt run actors s token) {t : StepTable}
    (ht : (p.nextTable run s).Yields t) {first : Snapshot} (hfirst : t.snapshot? 0 = some first) {a : ActorId}
    (ha : (first.state? a).isSome) : first.state? a = s.state? a := by
  have hplays := StepTable.plays_of_yields_recompile ht
  have hmem : a ∈ s.repeaters.keys := (hplays.fits.isSome_state?_iff 0 first hfirst a).mp ha
  have hlane : a ∈ (lanesOf (Playback.blocksOf s.repeaters run.blocks) s.repeaters.keys).map (·.actor) := by
    rw [map_actor_lanesOf, List.mem_eraseDups]
    exact hmem
  obtain ⟨state, hstate⟩ := Option.isSome_iff_exists.mp (h.isSome_state? hmem)
  rw [hplays.first first hfirst, Snapshot.state?_start, if_pos hlane, Snapshot.statesOf,
    SortedMap.get?_ofList_filterMap, if_pos hmem, hstate]
  rfl

/-! ### Any calls -/

/-- The stage has distinct actors, hosts the snapshot that it is played at, and agrees with it. -/
structure Stage.Displays (stage : Stage) (s : Snapshot) : Prop where
  nodup : (stage.actors.map (·.id)).Nodup
  hosts : stage.Hosts s
  agrees : stage.Agrees s

namespace Playback

variable {pb pb' : Playback Stage} {run : Run} {actors : List ActorId} {s : Snapshot} {token : TimerToken}

/-- A flow that starts shows the snapshot that it begins with. -/
theorem displays_start {flow : Flow} (hids : (pb.display.actors.map (·.id)).Nodup)
    (h : pb.Starts flow pb') :
    pb'.player.Stands ((pb'.display.actors.map (·.id)).Nodup) fun _ s => pb'.display.Displays s := by
  obtain ⟨first, hstart, hplays⟩ := h.exists_playsAt
  have hdisplay : pb'.display = Display.applyBatch (Display.started pb.display) first.batch := by
    rw [hstart]
    rfl
  have hroster : pb'.display.roster = pb.display.roster := by
    rw [hdisplay, Stage.roster_applyBatch]
    rfl
  refine .plays _ _ _ _ hplays
    ⟨Stage.nodup_of_roster_eq hids hroster, Stage.hosts_of_playsAt hplays hroster, ?_⟩
  have hhosts : (Display.started pb.display).Hosts first := Stage.hosts_of_playsAt hplays rfl
  rw [hdisplay]
  exact hhosts.agrees_applyBatch hids

/-- The next snapshot is written when it is shown. -/
theorem displays_shown (h : pb.display.Displays s) (hplays : pb.player.PlaysAt run actors s token)
    {s' : Snapshot} (hs' : run.next.snapshot? = some s') : (pb.shown run s').display.Displays s' :=
  { nodup := Stage.nodup_of_roster_eq h.nodup (pb.display.roster_applyBatch _)
    hosts := hosts_shown h.hosts hplays hs'
    agrees := (h.hosts.of_roster_eq rfl fun a =>
      (hplays.isSome_state?_next_iff hs' a).mp).agrees_applyBatch h.nodup }

/-- **What a wakeup keeps.**  The first snapshot of a repeat run needs no writing. -/
theorem displays_woken (hplays : pb.player.PlaysAt run actors s token) (h : pb.display.Displays s)
    (hwoken : Woken pb run actors s pb') :
    pb'.player.Stands ((pb'.display.actors.map (·.id)).Nodup) fun _ s => pb'.display.Displays s := by
  cases hwoken with
  | moved s' hs hs' heq hplays' =>
    subst heq
    exact .plays _ _ _ _ hplays' (displays_shown h hplays hplays'.snapshot_eq)
  | asked s' hs hs' hcap heq hplays' =>
    subst heq
    exact .plays _ _ _ _ hplays' (displays_shown h hplays hplays'.snapshot_eq)
  | ended s' hs hsnap hend heq hrests =>
    subst heq
    exact .rests hrests (displays_shown h hplays hsnap).nodup
  | repeated out first hs hout heq hplays' =>
    subst heq
    refine .plays _ _ _ _ hplays' ⟨h.nodup, hosts_repeated h.hosts hplays hplays', ?_⟩
    have hyields : (pb.player.nextTable run s).Yields out.1 := hout ▸ Chance.yields_run _ _
    intro a ha
    have hfirst := hplays.state?_first hyields hplays'.snapshot_eq ha
    rw [hfirst]
    exact h.agrees a (hfirst ▸ ha)

/-- What the player writes, and what the events tell of it. -/
structure Replays (stage : Stage) (past : List Event) (pb : Playback Stage) : Prop where
  display_eq : pb.display = (past ++ pb.player.log).foldl Event.onDisplay stage
  stands : pb.player.Stands ((pb.display.actors.map (·.id)).Nodup) fun _ s => pb.display.Displays s

theorem Replays.call {stage : Stage} {past : List Event} (h : pb.Replays stage past) (timers : TimerQueue)
    (c : Call) :
    (Playback.call { pb with timers } c).Replays stage (past ++ handedOut { pb with timers } c) := by
  have htimers : ({ pb with timers } : Playback Stage).Replays stage past := ⟨h.display_eq, h.stands⟩
  refine ⟨display_call_eq htimers.display_eq c, ?_⟩
  exact stands_call (A := fun stage : Stage => (stage.actors.map (·.id)).Nodup)
    (B := fun stage _ s => stage.Displays s) (fun _ _ _ hids hstarts => displays_start hids hstarts)
    (fun _ _ _ _ _ _ hplays h hwoken => displays_woken hplays h hwoken) (fun _ _ _ h => h.nodup)
    { pb with timers } c htimers.stands

/-- **The stage is what was shown last.**  Begin with a player that is idle and has told everything, before a
stage of distinct actors, and make any calls.  Every actor is in the state that the latest step shows of those
that have the actor, or as it was if none has; nothing else of the actors has changed; and the revision has
grown by the number of steps.  Where a run is played, the stage agrees with the snapshot that it has come to,
also at the beginning of a repeat run. -/
theorem actors_perform_eq (pb : Playback Stage) (hreach : pb.player.Reachable)
    (hidle : pb.player.isRunning = false) (hlog : pb.player.log = [])
    (hids : (pb.display.actors.map (·.id)).Nodup) (calls : List (TimerQueue × Call)) :
    let (told, pb') := pb.perform calls
    pb'.display.actors = Stage.posed pb.display.actors (fun a =>
        (lastShown? (told ++ pb'.player.log) a.id).getD a.state) ∧
      pb'.display.revision = pb.display.revision + (told ++ pb'.player.log).countP Event.isStep ∧
      ∀ run s a, pb'.player.run? = some run → run.snapshot? = some s → a ∈ s.states.keys →
        Display.state? pb'.display a = s.state? a := by
  have hstart : pb.Replays pb.display [] := by
    refine ⟨?_, ?_⟩
    · rw [hlog]
      rfl
    · rcases Player.sound_of_reachable hreach with ⟨hrests, -⟩ | ⟨run, actors, s, token, hplays, -⟩
      · exact .rests hrests hids
      · exact absurd (hidle.symm.trans hplays.isRunning_eq) Bool.false_ne_true
  obtain ⟨hdisplay, hstands⟩ := perform_induction (J := fun past pb' => pb'.Replays pb.display past)
    (fun _ _ timers c h => h.call timers c) pb hstart calls
  refine ⟨?_, ?_, ?_⟩
  · rw [hdisplay]
    exact Stage.actors_foldl_onDisplay hids _
  · rw [hdisplay]
    exact Stage.revision_foldl_onDisplay _ _
  · intro run s a hrun hs ha
    rcases hstands with ⟨hrests, -⟩ | ⟨run', actors, s', token, hplays, hdisplays⟩
    · rw [hrests.run_eq] at hrun
      cases hrun
    · obtain rfl : run' = run := Option.some.inj (hplays.run_eq.symm.trans hrun)
      obtain rfl : s' = s := Option.some.inj (hplays.snapshot_eq.symm.trans hs)
      exact hdisplays.agrees a ((SortedMap.mem_keys_iff _ _).mp ha)

end Playback

/-- The sample is played until its first actor starts over. -/
def Sample.upToRepeat : List (TimerQueue × Call) :=
  [(.empty, .play Sample.flow), (.empty, .onTimer ⟨0⟩), (.empty, .onTimer ⟨0⟩), (.empty, .onTimer ⟨0⟩)]

/-- The repeat run of the sample is at its first snapshot.  Three steps were written, and the stage agrees with
the snapshot. -/
theorem Playback.actors_perform_eq_sample :
    let pb := ((Sample.idle none).perform Sample.upToRepeat).2
    (Sample.idle none).player.Reachable ∧ (Sample.idle none).player.isRunning = false ∧
      (Sample.idle none).player.log = [] ∧ ((Sample.idle none).display.actors.map (·.id)).Nodup ∧
      pb.player.repeats = 1 ∧ pb.player.currentStep? = some 0 ∧ pb.display.revision = 3 ∧
      ∃ run s, pb.player.run? = some run ∧ run.snapshot? = some s ∧ s.states.keys = [⟨"a"⟩] ∧
        Display.state? pb.display ⟨"a"⟩ = s.state? ⟨"a"⟩ := by
  have hreach : (Sample.idle none).player.Reachable := ⟨_, _, _, .refl⟩
  have hids : ((Sample.idle none).display.actors.map (·.id)).Nodup := by decide
  obtain ⟨-, hrevision, hagrees⟩ :=
    actors_perform_eq (Sample.idle none) hreach rfl rfl hids Sample.upToRepeat
  refine ⟨hreach, rfl, rfl, hids, rfl, rfl, hrevision.trans rfl, _, _, rfl, rfl, rfl, ?_⟩
  exact hagrees _ _ _ rfl rfl List.mem_cons_self

end Marionette

import Marionette.Proofs.Playback.Laps
import Marionette.Proofs.Playback.Mirror

/-!
# What the events can tell

Whatever calls are made, in whatever order, the events tell of one play after the other.  A play is told in
the order in which it happens: it begins with the first snapshot, goes on step by step, and ends once.  Only
the last play may still be going on, and then the player waits for a timer.

The language is given by a grammar that reads events from left to right.  It knows nothing of players,
tables or timers; what has to agree between events that are apart, such as the number of a run or the number
of its snapshots, is in the mark that the events have come to.

## Main definitions

* `Mark` — what the last events of a play say of what may follow.
* `Tale` — the grammar of a play.
* `Playback.perform` — calls one after the other, with the events that were handed out.

## Main results

* `Tale.within` — no play tells of more repeat runs than there may be.
* `Playback.recounts_call` — every call goes on with the tale.
* `Playback.perform_tells` — all events together are one play after the other, and they say all that was
  done to the display.
-/

namespace Marionette

/-! ### The grammar -/

/-- How far a play has been told. -/
inductive Mark
  /-- Step `step` of a run is on the display, its last step is `last`, and it sends `back` back. -/
  | shown (run step last : Nat) (back : ActorSet)
  /-- A run has asked for another one of these actors. -/
  | scheduled (run : Nat) (actors : ActorSet)
  /-- A repeat run with this many snapshots has begun. -/
  | restarted (run steps : Nat)
  /-- Nothing follows. -/
  | over

/-- A timer goes on from here: there is another step, or another run. -/
def Mark.Waits : Mark → Prop
  | .shown _ step last back => back.isEmpty = true ∧ step < last
  | .scheduled _ _ | .restarted _ _ => True
  | .over => False

/-- The events of a play, with at most `most?` repeat runs, up to a mark. -/
inductive Tale (most? : Option UInt32) : List Event → Mark → Prop
  /-- A play begins with the first snapshot of run 0, which is not the last. -/
  | begun (steps : Nat) (states : StateMap) (hsteps : 2 ≤ steps) :
      Tale most? [.started steps, .stepApplied 0 0 (steps - 1) states .empty]
        (.shown 0 0 (steps - 1) .empty)
  /-- A step that sends nobody back is followed by the next one of its run, up to the last. -/
  | shown {es : List Event} {run step last : Nat} {back : ActorSet} (states : StateMap)
      (back' : ActorSet) (h : Tale most? es (.shown run step last back))
      (hback : back.isEmpty = true) (hstep : step < last) :
      Tale most? (es ++ [.stepApplied run (step + 1) last states back'])
        (.shown run (step + 1) last back')
  /-- A step that sends actors back is followed by the news that they are to start over, if they may. -/
  | scheduled {es : List Event} {run step last : Nat} {back : ActorSet} (delay : UInt64)
      (h : Tale most? es (.shown run step last back)) (hback : back.isEmpty = false)
      (hmost : ∀ most, most? = some most → run < most.toNat) :
      Tale most? (es ++ [.repeatScheduled back delay]) (.scheduled run back)
  /-- Then they start over, in the next run. -/
  | restarted {es : List Event} {run : Nat} {actors : ActorSet} (steps : Nat)
      (h : Tale most? es (.scheduled run actors)) (hsteps : 2 ≤ steps) :
      Tale most? (es ++ [.repeatStarted (run + 1) actors steps]) (.restarted (run + 1) steps)
  /-- A repeat run goes on with step 1. -/
  | again {es : List Event} {run steps : Nat} (states : StateMap) (back : ActorSet)
      (h : Tale most? es (.restarted run steps)) :
      Tale most? (es ++ [.stepApplied run 1 (steps - 1) states back]) (.shown run 1 (steps - 1) back)
  /-- A play ends with the last step, if that sends nobody back. -/
  | finished {es : List Event} {run last : Nat} {back : ActorSet}
      (h : Tale most? es (.shown run last last back)) (hback : back.isEmpty = true) :
      Tale most? (es ++ [.finished]) .over
  /-- It ends with a step that sends actors back, if there were as many repeat runs as there may be. -/
  | capped {es : List Event} {step last : Nat} {back : ActorSet} {most : UInt32}
      (h : Tale most? es (.shown most.toNat step last back)) (hback : back.isEmpty = false)
      (hmost : most? = some most) : Tale most? (es ++ [.finished]) .over
  /-- It is stopped while a timer is to go on with it. -/
  | stopped {es : List Event} {m : Mark} (h : Tale most? es m) (hwaits : m.Waits) :
      Tale most? (es ++ [.stopped]) .over

/-- A mark that is reached with at most `most` repeat runs. -/
def Mark.Within (most : Nat) : Mark → Prop
  | .shown run _ _ _ | .restarted run _ => run ≤ most
  | .scheduled run _ => run < most
  | .over => True

/-- **No play tells of more repeat runs than there may be.** -/
theorem Tale.within {most : UInt32} {es : List Event} {m : Mark} (h : Tale (some most) es m) :
    m.Within most.toNat := by
  induction h with
  | begun steps states hsteps => exact Nat.zero_le _
  | shown states back' h hback hstep ih => exact ih
  | scheduled delay h hback hmost ih => exact hmost most rfl
  | restarted steps h hsteps ih => exact ih
  | again states back h ih => exact ih
  | finished h hback ih => trivial
  | capped h hback hmost ih => trivial
  | stopped h hwaits ih => trivial

/-- One complete play after the other. -/
def Complete (most? : Option UInt32) (es : List Event) : Prop :=
  ∃ plays : List (List Event), es = plays.flatten ∧ ∀ play ∈ plays, Tale most? play .over

/-- Complete plays, and one that has come to a mark. -/
def Reached (most? : Option UInt32) (es : List Event) (m : Mark) : Prop :=
  ∃ past rest, es = past ++ rest ∧ Complete most? past ∧ Tale most? rest m

variable {most? : Option UInt32} {es : List Event} {m : Mark}

theorem Complete.note {told log rest : List Event} (h : Complete most? (told ++ log))
    (hrest : Tale most? rest m) : Reached most? (told ++ (log ++ rest)) m :=
  ⟨told ++ log, rest, (List.append_assoc _ _ _).symm, h, hrest⟩

/-- A play that goes on in the log is told with the events before it. -/
theorem Reached.note {told log new : List Event} {m' : Mark} (h : Reached most? (told ++ log) m)
    (hnew : ∀ rest, Tale most? rest m → Tale most? (rest ++ new) m') :
    Reached most? (told ++ (log ++ new)) m' := by
  obtain ⟨past, rest, heq, hpast, hrest⟩ := h
  refine ⟨past, rest ++ new, ?_, hpast, hnew rest hrest⟩
  rw [← List.append_assoc, heq, List.append_assoc]

/-- A play that is over is one more complete play. -/
theorem Reached.complete (h : Reached most? es .over) : Complete most? es := by
  obtain ⟨past, rest, rfl, ⟨plays, rfl, hplays⟩, hrest⟩ := h
  refine ⟨plays ++ [rest], by simp, ?_⟩
  intro play hplay
  rcases List.mem_append.mp hplay with hplay | hplay
  · exact hplays play hplay
  · rw [List.mem_singleton.mp hplay]
    exact hrest

/-! ### Where a player has come to -/

/-- The mark of a player that waits at snapshot `s` of `run`.  The first snapshot of a repeat run is not told
of. -/
inductive Player.MarksAt (p : Player) (run : Run) (s : Snapshot) : Mark → Prop
  | shown (hs : s.repeaters.isEmpty = true) :
      MarksAt p run s (.shown p.repeats run.step run.last s.repeaters)
  | scheduled (hs : s.repeaters.isEmpty = false) : MarksAt p run s (.scheduled p.repeats s.repeaters)
  | restarted (hs : s.repeaters.isEmpty = true) (hstep : run.step = 0) :
      MarksAt p run s (.restarted p.repeats run.table.size)

section

variable {p : Player} {run : Run} {actors : List ActorId} {s : Snapshot} {token : TimerToken}

theorem Player.MarksAt.waits (h : p.MarksAt run s m) (hplays : p.PlaysAt run actors s token) :
    m.Waits := by
  cases h with
  | shown hs => exact ⟨hs, hplays.step_lt hs⟩
  | scheduled hs => trivial
  | restarted hs hstep => trivial

/-- Behind a snapshot that sends nobody back the next step is told. -/
theorem Player.MarksAt.tale_shown (h : p.MarksAt run s m) (hplays : p.PlaysAt run actors s token)
    (hs : s.repeaters.isEmpty = true) (s' : Snapshot) (rest : List Event) (hrest : Tale most? rest m) :
    Tale most? (rest ++ [.stepApplied p.repeats run.next.step run.last s'.states s'.repeaters])
      (.shown p.repeats run.next.step run.last s'.repeaters) := by
  cases h with
  | shown _ => exact .shown _ _ hrest hs (hplays.step_lt hs)
  | scheduled hs' => exact absurd (hs'.symm.trans hs) Bool.false_ne_true
  | restarted _ hstep =>
    have hlast : run.last = run.table.size - 1 := run.table.last_eq
    have hnext : run.next.step = 1 := congrArg Nat.succ hstep
    rw [hlast, hnext]
    exact .again _ _ hrest

/-- Behind a snapshot that sends actors back a repeat run is told. -/
theorem Player.MarksAt.tale_restarted (h : p.MarksAt run s m) (hs : s.repeaters.isEmpty = false)
    {steps : Nat} (hsteps : 2 ≤ steps) (rest : List Event) (hrest : Tale most? rest m) :
    Tale most? (rest ++ [.repeatStarted (p.repeats + 1) s.repeaters steps])
      (.restarted (p.repeats + 1) steps) := by
  cases h with
  | shown hs' => exact absurd (hs.symm.trans hs') Bool.false_ne_true
  | scheduled _ => exact .restarted _ hrest hsteps
  | restarted hs' _ => exact absurd (hs.symm.trans hs') Bool.false_ne_true

/-- A player at rest has told complete plays, where `past` was told before the log. -/
structure Player.ToldAll (most? : Option UInt32) (past : List Event) (p : Player) : Prop where
  maxRepeats_eq : p.config.playback.maxRepeats = most?
  complete : Complete most? (past ++ p.log)

/-- A player that waits has told complete plays and one that has come to its mark. -/
structure Player.ToldUpTo (most? : Option UInt32) (past : List Event) (p : Player) (run : Run)
    (s : Snapshot) : Prop where
  maxRepeats_eq : p.config.playback.maxRepeats = most?
  exists_reached : ∃ m, p.MarksAt run s m ∧ Reached most? (past ++ p.log) m

end

/-! ### Calls go on with the tale -/

namespace Playback

variable {σ : Type} [Display σ] {pb pb' : Playback σ} {run : Run} {actors : List ActorId} {s : Snapshot}
  {token : TimerToken} {past : List Event}

/-- Everything that was told is told as the grammar says. -/
def Recounts (most? : Option UInt32) (past : List Event) (p : Player) : Prop :=
  p.Stands (p.ToldAll most? past) (p.ToldUpTo most? past)

omit [Display σ] in
/-- It makes no difference what will be drawn, and which of the events were handed out. -/
theorem Recounts.congr {p : Player} (h : Recounts most? past p) {told log : List Event}
    (source : RandomSource) (hlog : told ++ log = past ++ p.log) :
    Recounts most? told { p with source, log } := by
  refine Player.Stands.imp (Player.Stands.congr h rfl rfl rfl rfl) ?_ ?_
  · rintro ⟨hmost, hcomplete⟩
    exact ⟨hmost, hlog ▸ hcomplete⟩
  · rintro run s ⟨hmost, m, hmark, hreached⟩
    refine ⟨hmost, m, ?_, hlog ▸ hreached⟩
    cases hmark with
    | shown hs => exact .shown hs
    | scheduled hs => exact .scheduled hs
    | restarted hs hstep => exact .restarted hs hstep

/-- **A wakeup goes on with the tale.** -/
theorem recounts_woken (hplays : pb.player.PlaysAt run actors s token)
    (h : pb.player.ToldUpTo most? past run s) (hwoken : Woken pb run actors s pb') :
    Recounts most? past pb'.player := by
  obtain ⟨m, hmark, hreached⟩ := h.exists_reached
  cases hwoken with
  | moved s' hs hs' heq hplays' =>
    subst heq
    exact .plays _ _ _ _ hplays' ⟨h.maxRepeats_eq, _, .shown hs',
      hreached.note (hmark.tale_shown hplays hs s')⟩
  | asked s' hs hs' hcap heq hplays' =>
    subst heq
    refine .plays _ _ _ _ hplays' ⟨h.maxRepeats_eq, _, .scheduled hs', ?_⟩
    refine (hreached.note (hmark.tale_shown hplays hs s')).note fun rest hrest => ?_
    exact .scheduled _ hrest hs' fun most hmost =>
      Player.lt_of_isCapped_eq_false hcap (h.maxRepeats_eq.trans hmost)
  | ended s' hs hsnap hend heq hrests =>
    subst heq
    have hshown := hreached.note (hmark.tale_shown hplays hs s')
    refine .rests hrests ⟨h.maxRepeats_eq, (hshown.note fun rest hrest => ?_).complete⟩
    rcases hend with ⟨hs', hlast⟩ | ⟨hs', hcap⟩
    · rw [hlast] at hrest
      exact .finished hrest hs'
    · obtain ⟨most, hmost, hle⟩ := Player.exists_of_isCapped hcap
      obtain rfl : most? = some most := h.maxRepeats_eq.symm.trans hmost
      -- the tale itself has not told of more runs than the cap allows
      have hrun : pb.player.repeats = most.toNat := Nat.le_antisymm hrest.within hle
      rw [hrun] at hrest
      exact .capped hrest hs' rfl
  | repeated out first hs hout heq hplays' =>
    subst heq
    have hsteps : 2 ≤ out.1.size :=
      hplays'.fits.two_le_size (hplays.isEmpty_nextTable hs (hout ▸ Chance.yields_run _ _))
    have hfirst := hplays'.fits.repeaters_zero hplays'.snapshot_eq
    exact .plays _ _ _ _ hplays' ⟨h.maxRepeats_eq, _, .restarted hfirst rfl,
      hreached.note (hmark.tale_restarted hs hsteps)⟩

theorem recounts_onTimer (h : Recounts most? past pb.player) (token : TimerToken) :
    Recounts most? past (pb.onTimer token).2.player :=
  stands_onTimer (A := fun p _ => p.ToldAll most? past) (B := fun p _ => p.ToldUpTo most? past)
    (fun _ _ _ _ _ _ hplays h hwoken => recounts_woken hplays h hwoken) pb token h

/-- A flow that starts begins a play. -/
theorem recounts_start {flow : Flow} (h : pb.player.ToldAll most? past) (hstarts : pb.Starts flow pb') :
    Recounts most? past pb'.player := by
  obtain ⟨first, hstart, hplays⟩ := hstarts.exists_playsAt
  have hsteps : 2 ≤ (pb.compile flow).1.size := hplays.fits.two_le_size hstarts.isEmpty_eq
  have hempty := hplays.fits.repeaters_zero hplays.snapshot_eq
  have hbegun : Tale most? [.started (pb.compile flow).1.size,
      .stepApplied 0 0 (pb.compile flow).1.last first.states first.repeaters]
      (.shown 0 0 (pb.compile flow).1.last first.repeaters) := by
    rw [SortedMap.eq_empty_of_isEmpty hempty, StepTable.last_eq]
    exact .begun _ _ hsteps
  have hlog : pb'.player.log = pb.player.log ++ [.started (pb.compile flow).1.size,
      .stepApplied 0 0 (pb.compile flow).1.last first.states first.repeaters] := by
    rw [hstart, player_arm]
    exact List.append_assoc _ _ _
  have hrepeats := hstarts.repeats_eq
  have hconfig : pb'.player.config = pb.player.config := by
    rw [hstart, player_arm]
    rfl
  refine .plays _ _ _ _ hplays ⟨hconfig ▸ h.maxRepeats_eq, _, .shown hempty, ?_⟩
  rw [hlog, hrepeats]
  exact h.complete.note hbegun

theorem recounts_play (h : Recounts most? past pb.player) (flow : Flow) :
    Recounts most? past (pb.call (.play flow)).player := by
  rw [call]
  rcases hrunning : pb.player.isRunning with _ | _
  · rcases hne : (pb.compile flow).1.isEmpty with _ | _
    · obtain ⟨pb', hplay, hstarts⟩ := exists_starts hrunning hne
      rw [hplay]
      rcases h with ⟨-, htold⟩ | ⟨run, actors, s, token, hplays, -⟩
      · exact recounts_start htold hstarts
      · exact absurd (hrunning.symm.trans hplays.isRunning_eq) Bool.false_ne_true
    · rw [play_of_isEmpty hrunning hne]
      exact h.congr _ rfl
  · rw [play, hrunning]
    exact h

theorem recounts_stop (h : Recounts most? past pb.player) : Recounts most? past (pb.call .stop).player := by
  rw [call]
  rcases h with ⟨hrests, htold⟩ | ⟨run, actors, s, token, hplays, hmost, m, hmark, hreached⟩
  · rw [stop_of_idle pb hrests.isRunning_eq]
    exact .rests hrests htold
  · rw [stop, hplays.isRunning_eq]
    have hstopped := hreached.note fun rest hrest => Tale.stopped hrest (hmark.waits hplays)
    exact .rests ⟨rfl, rfl, rfl⟩ ⟨hmost, hstopped.complete⟩

omit [Display σ] in
/-- The events that a call hands out. -/
def handedOut (pb : Playback σ) : Call → List Event
  | .takeEvents => pb.takeEvents.1
  | .play _ | .stop | .onTimer _ | .compile _ => []

/-- **Every call goes on with the tale.** -/
theorem recounts_call (h : Recounts most? past pb.player) (c : Call) :
    Recounts most? (past ++ pb.handedOut c) (pb.call c).player := by
  cases c with
  | play flow => exact (List.append_nil past).symm ▸ recounts_play h flow
  | stop => exact (List.append_nil past).symm ▸ recounts_stop h
  | onTimer token => exact (List.append_nil past).symm ▸ recounts_onTimer h token
  | compile flow => exact (List.append_nil past).symm ▸ h.congr _ rfl
  | takeEvents => exact h.congr _ (List.append_nil _)

/-! ### Many calls -/

/-- Make calls, one after the other, each of them when others have left the queue as it stands beside the
call.  The events that are handed out are collected. -/
def perform (pb : Playback σ) : List (TimerQueue × Call) → List Event × Playback σ
  | [] => ([], pb)
  | (timers, c) :: rest =>
    let pb := { pb with timers }
    let (events, pb') := (pb.call c).perform rest
    (pb.handedOut c ++ events, pb')

/-- What every call keeps, whatever the queue is, holds after many of them. -/
theorem perform_induction {J : List Event → Playback σ → Prop}
    (hcall : ∀ past pb timers c, J past pb →
      J (past ++ handedOut { pb with timers } c) (call { pb with timers } c))
    (pb : Playback σ) (h : J past pb) (calls : List (TimerQueue × Call)) :
    J (past ++ (pb.perform calls).1) (pb.perform calls).2 := by
  induction calls generalizing pb past with
  | nil => exact (List.append_nil past).symm ▸ h
  | cons call rest ih =>
    obtain ⟨timers, c⟩ := call
    rw [perform, ← List.append_assoc]
    exact ih _ (hcall past pb timers c h)

/-- A call keeps it that the display is what the events say. -/
theorem display_call_eq {display : σ}
    (h : pb.display = (past ++ pb.player.log).foldl Event.onDisplay display) (c : Call) :
    (pb.call c).display =
      (past ++ pb.handedOut c ++ (pb.call c).player.log).foldl Event.onDisplay display := by
  by_cases hc : c = .takeEvents
  · subst hc
    rw [show (pb.call .takeEvents).player.log = [] from rfl, List.append_nil]
    exact h
  · have hnone : pb.handedOut c = [] := by
      cases c with
      | takeEvents => exact absurd rfl hc
      | _ => rfl
    obtain ⟨es, hlog, hdisplay⟩ := mirrors_call pb hc
    rw [hnone, List.append_nil, hlog, hdisplay, h, ← List.append_assoc, ← List.foldl_append]

/-- The events say how far the plays have come and what was done to the display, where `past` was handed
out. -/
structure Faithful (most? : Option UInt32) (display : σ) (past : List Event) (pb : Playback σ) : Prop where
  recounts : Recounts most? past pb.player
  display_eq : pb.display = (past ++ pb.player.log).foldl Event.onDisplay display

theorem Faithful.call {display : σ} (h : pb.Faithful most? display past) (timers : TimerQueue) (c : Call) :
    (Playback.call { pb with timers } c).Faithful most? display
      (past ++ handedOut { pb with timers } c) := by
  have htimers : ({ pb with timers } : Playback σ).Faithful most? display past :=
    ⟨h.recounts, h.display_eq⟩
  exact ⟨recounts_call htimers.recounts c, display_call_eq htimers.display_eq c⟩

/-- **All events together are one play after the other.**  Make any calls on a new player, with any tokens and
flows, and with a queue that others use.  The events that were handed out and those that are left are complete
plays and, while the player plays, one more that waits for a timer.  They say all that was done to the
display: it was told of the beginning of every play and of its end, and of nothing else but the steps. -/
theorem perform_tells (registry : Registry) (config : Config) (source : RandomSource) (display : σ)
    (timers : TimerQueue) (calls : List (TimerQueue × Call)) :
    let (told, pb) :=
      ({ player := { registry, config, source }, display, timers } : Playback σ).perform calls
    (∃ (plays : List (List Event)) (rest : List Event), told ++ pb.player.log = plays.flatten ++ rest ∧
      (∀ play ∈ plays, Tale config.playback.maxRepeats play .over) ∧
      (pb.player.isRunning = false → rest = []) ∧
      (pb.player.isRunning = true → ∃ m, m.Waits ∧ Tale config.playback.maxRepeats rest m)) ∧
    pb.display = (told ++ pb.player.log).foldl Event.onDisplay display := by
  have hstart : Recounts config.playback.maxRepeats [] { registry, config, source } :=
    .rests ⟨rfl, rfl, rfl⟩ ⟨rfl, [], rfl, by simp⟩
  obtain ⟨htold, hdisplay⟩ := perform_induction (J := Faithful config.playback.maxRepeats display)
    (fun _ _ timers c h => h.call timers c)
    { player := { registry, config, source }, display, timers } ⟨hstart, rfl⟩ calls
  refine ⟨?_, hdisplay⟩
  rcases htold with ⟨hrests, -, plays, heq, hplays⟩ |
    ⟨run, actors, s, token, hwaits, -, m, hmark, past, rest, heq, ⟨plays, hpast, hplays⟩, hrest⟩
  · refine ⟨plays, [], ?_, hplays, fun _ => rfl, fun hrunning => ?_⟩
    · rw [List.append_nil]
      exact heq
    · exact absurd (hrests.isRunning_eq.symm.trans hrunning) Bool.false_ne_true
  · refine ⟨plays, rest, hpast ▸ heq, hplays, fun hidle => ?_, fun _ => ⟨m, ?_, hrest⟩⟩
    · exact absurd (hidle.symm.trans hwaits.isRunning_eq) Bool.false_ne_true
    · exact hmark.waits hwaits

end Playback

end Marionette

import Marionette.Cli.Run
import Marionette.Proofs.Playback.Length
import Marionette.Proofs.Playback.Opening

/-!
# The commands against each other

Compiling a flow and playing it without waiting load the same things, and with a seed they draw the same
numbers.  So the table that the one command prints is the table that the other one plays.  What is played is
told to the end: where the allowed wakeups do not suffice playback is stopped, and no timer is left.  Only a time
out of range breaks off what is told, and then nothing says that playback is over.

## Main definitions

* `Cli.eventLines` — events as they are printed, each on a line.

## Main results

* `Cli.load_congr` — with a seed the entropy of the machine has no say.
* `Cli.exists_told_stopped` — what playing without waiting tells, and that it leaves no timer.
* `Cli.records_of_error` — what it has told when it is broken off.
* `Cli.instant_play_agrees` — the events that are played against the table that is compiled.
-/

namespace Marionette

namespace Cli

/-! ### Loading -/

/-- With a seed the entropy of the machine has no say. -/
theorem load_congr (read : FileReader) (entropy entropy' : UInt64) {o : ProjectOptions} {seed : Nat}
    (h : o.seed = some seed) : load read entropy o = load read entropy' o := by
  simp only [load, h]
  rfl

/-! ### Reports -/

/-- Events as they are printed, each on a line. -/
def eventLines (es : List Event) : String := String.join (es.map fun e => eventLine e ++ "\n")

theorem foldl_print (es : List Event) (r : Report) :
    es.foldl (fun r e => r.print (eventLine e)) r = { r with out := r.out ++ eventLines es } := by
  induction es generalizing r with
  | nil => simp [eventLines]
  | cons e es ih =>
    rw [List.foldl_cons, ih]
    simp [Report.print, eventLines, String.append_assoc]

theorem eventsReport_eq (o : Observed Stage) : eventsReport o = { out := eventLines o.events } := by
  rw [eventsReport, foldl_print]
  simp

theorem playedReport_eq (o : Observed Stage) :
    playedReport o = { out := eventLines o.events, err := closingLine o.playback ++ "\n" } := by
  rw [playedReport, eventsReport_eq]
  simp [Report.diagnose]

theorem foldl_skipLine (bs : List SkippedBlock) (r : Report) :
    (bs.foldl (fun r b => r.diagnose (skipLine b)) r).out = r.out ∧
      (bs.foldl (fun r b => r.diagnose (skipLine b)) r).exit = r.exit := by
  induction bs generalizing r with
  | nil => exact ⟨rfl, rfl⟩
  | cons b bs ih => exact ih (r.diagnose (skipLine b))

/-- What compiling prints is the table. -/
theorem compileReport_out (l : Loaded) :
    (compileReport l none).out = l.table.encode.pretty ++ "\n" ∧ (compileReport l none).exit = 0 := by
  obtain ⟨hout, hexit⟩ := foldl_skipLine l.table.skipped {}
  refine ⟨?_, hexit⟩
  simp [compileReport, Report.print, hout]

/-! ### Playing without waiting -/

/-- An event that does not say that playback is over is none of the two that do. -/
theorem ne_end_of_ongoing {es : List Event} (h : ∀ e ∈ es, e.isEnd = false) :
    ∀ e ∈ es, e ≠ .finished ∧ e ≠ .stopped := by
  intro e he
  constructor <;> rintro rfl <;> exact absurd (h _ he) (by simp [Event.isEnd])

/-- What was told of a table in `n` wakeups, in which playback ended or was then stopped. -/
structure Told (t : StepTable) (n : Nat) (o : Observed Stage) (last : Event) : Prop where
  events_eq : ∃ es, o.events = es ++ [last] ∧ ∀ e ∈ es, e.isEnd = false
  log_eq : o.whole.player.log = o.events
  records : o.whole.player.Records t n
  pending_eq : o.playback.timers.pending = []

/-- Stopping tells that playback is stopped, and takes the timer out. -/
theorem told_cancel {t : StepTable} {n : Nat} {o : Observed Stage} {run : Run} {actors : List ActorId}
    {s : Snapshot} {token : TimerToken} (hlog : o.whole.player.log = o.events) (hlone : o.whole.Lone)
    (hplays : o.whole.player.PlaysAt run actors s token) (h : o.whole.player.Follows t n run) :
    Told t n o.cancel .stopped := by
  have hrunning : o.playback.player.isRunning = true := hplays.isRunning_eq
  have hstop : o.playback.stop.2 = o.playback.disarm.finish .stopped := by simp [Playback.stop, hrunning]
  have hwhole : o.cancel.whole.player.log = o.events ++ [.stopped] := by
    rw [Observed.cancel, Observed.whole_flush, hstop, ← hlog, Observed.whole, Observed.whole]
    simp [Playback.behind, Player.note, Playback.disarm, Observed.events]
  have hevents : o.cancel.whole.player.log = o.cancel.events := List.append_nil _
  have hnote : (o.whole.player.note .stopped).Records t n := h.records.note rfl rfl
  refine ⟨⟨o.events, hevents.symm.trans hwhole, hlog ▸ h.ongoing⟩, hevents, hnote.congr ?_ ?_, ?_⟩
  · rw [hwhole, Player.note, hlog]
  · change o.playback.stop.2.player.repeats = _
    rw [hstop]
    rfl
  · change o.playback.stop.2.timers.pending = []
    rw [hstop]
    exact hlone.pending_disarm hplays

/-- The closing line counts the repeat runs that were announced, and no timer. -/
theorem Told.closingLine_eq {t : StepTable} {n : Nat} {o : Observed Stage} {last : Event}
    (h : Told t n o last) : closingLine o.playback ++ "\n" =
      "played " ++ decimal (o.events.countP Event.isRepeat) ++ " repeat run(s), 0 timer(s) left\n" := by
  have hsize : o.playback.timers.size = 0 := by rw [TimerQueue.size, h.pending_eq, List.length_nil]
  have hrepeats : o.playback.player.repeats = o.events.countP Event.isRepeat :=
    h.log_eq ▸ h.records.repeats_eq
  have htail : " repeat run(s), " ++ (decimal 0 ++ (" timer(s) left" ++ "\n")) =
      " repeat run(s), 0 timer(s) left\n" := by decide +kernel
  rw [closingLine, hsize, hrepeats, ← htail]
  simp only [String.append_assoc]

/-- What is printed of a play that was told to the end. -/
theorem Told.report {t : StepTable} {n : Nat} {o : Observed Stage} {last : Event}
    (h : Told t n o last) : (playedReport o).exit = 0 ∧ ∃ es,
      (playedReport o).out = eventLines (es ++ [last]) ∧
      (es ++ [last]).head? = some (.started t.size) ∧
      (es ++ [last]).filter Event.isOpening = t.shownFirst (min (n + 1) t.opening) ∧
      (∀ e ∈ es, e.isEnd = false) ∧
      (playedReport o).err = "played " ++ decimal ((es ++ [last]).countP Event.isRepeat) ++
        " repeat run(s), 0 timer(s) left\n" := by
  obtain ⟨es, hes, hongoing⟩ := h.events_eq
  have hlog := h.log_eq.trans hes
  rw [playedReport_eq, hes]
  exact ⟨rfl, es, rfl, hlog ▸ h.records.head_eq, hlog ▸ h.records.opening_eq, hongoing, hes ▸ h.closingLine_eq⟩

variable {pb pb' : Playback Stage} {flow : Flow} {o : Observed Stage}

/-- **Playing without waiting tells the first run and the end, and leaves no timer**, however many wakeups it
is allowed.  It tells that it was stopped if it still plays after all of them. -/
theorem exists_told_stopped (h : pb.Starts flow pb') (hlog : pb.player.log = [])
    (hqueue : pb.timers.pending = []) (n : Nat) :
    ∃ last, Told (pb.compile flow).1 n (stopped (pb'.drain n)) last ∧
      (last = .stopped ∧ (pb'.drain n).playback.player.isRunning = true ∨
        last = .finished ∧ (pb'.drain n).playback.player.isRunning = false) := by
  have hsound : pb'.player.Sound := (h.stands_follows hlog).sound
  have hlone := Playback.lone_drain (h.lone hqueue) hsound n
  have hlog' := Playback.log_whole_drain pb' n
  rcases Playback.stands_follows_drain h hlog hqueue n with
    ⟨hrests, hconcluded⟩ | ⟨run, actors, s, token, hplays, hfollows⟩
  · have hidle : (pb'.drain n).playback.player.isRunning = false := hrests.isRunning_eq
    refine ⟨.finished, ?_, .inr ⟨rfl, hidle⟩⟩
    rw [stopped, hidle, if_neg Bool.false_ne_true]
    exact ⟨hlog' ▸ hconcluded.log_eq, hlog', hconcluded.records_of_le (pb'.drain_fired_le n),
      hlone.pending_eq_nil hrests⟩
  · have hrunning : (pb'.drain n).playback.player.isRunning = true := hplays.isRunning_eq
    rw [Playback.fired_drain_of_running (h.lone hqueue) hsound hrunning] at hfollows
    refine ⟨.stopped, ?_, .inl ⟨rfl, hrunning⟩⟩
    rw [stopped, if_pos hrunning]
    exact told_cancel hlog' hlone hplays hfollows

/-- Playing that is broken off has told as much of the first run as its wakeups did, and no end. -/
theorem records_of_error (h : pb.Starts flow pb') (hlog : pb.player.log = []) (hqueue : pb.timers.pending = [])
    (hrange : pb'.InRange) {n : Nat} (herror : pb'.drain? n = .error o) :
    o.fired < n ∧ o.whole.player.Records (pb.compile flow).1 o.fired ∧ o.whole.player.log = o.events ∧
      ∀ e ∈ o.events, e.isEnd = false := by
  obtain ⟨hlt, heq, hcut, hbeyond⟩ := (Playback.drain?_eq_error_iff hrange).mp herror
  have hlog' : o.whole.player.log = o.events := heq ▸ Playback.log_whole_drain pb' o.fired
  have hstands := Playback.stands_follows_drain h hlog hqueue o.fired
  rw [← heq] at hstands
  rcases hstands with ⟨hrests, -⟩ | ⟨run, actors, s, token, -, hfollows⟩
  · -- a player that had ended would have had nothing left to fire
    have hidle : (pb'.drain o.fired).playback.player.isRunning = false := heq ▸ hrests.isRunning_eq
    have hsame := Playback.drain_eq_of_idle (h.lone hqueue) h.sound (Nat.le_succ o.fired) hidle
    exact absurd (hsame ▸ heq ▸ hcut) hbeyond
  · exact ⟨hlt, hfollows.records, hlog', hlog' ▸ hfollows.ongoing⟩

/-- Who still plays after some wakeups has played after any smaller number of them. -/
theorem isRunning_drain_iff (h : pb.Starts flow pb') (hqueue : pb.timers.pending = []) (n : Nat) :
    (pb'.drain n).playback.player.isRunning = true ↔
      ∀ m ≤ n, (pb'.drain m).playback.player.isRunning = true := by
  constructor
  · intro hrunning m hmn
    refine Bool.not_eq_false _ |>.mp fun hidle => ?_
    rw [Playback.drain_eq_of_idle (h.lone hqueue) h.sound hmn hidle, hidle] at hrunning
    exact Bool.false_ne_true hrunning
  · intro hall
    exact hall n (Nat.le_refl n)

/-! ### Both commands -/

variable {l : Loaded}

/-- What is loaded is played on a new clock. -/
theorem inRange_playback (l : Loaded) : l.playback.InRange where
  timers := (by decide : TimerQueue.empty.InRange)
  repeats_lt := (by decide : 0 < UInt32.size)

/-- Nothing is told of a flow that has nothing to play. -/
theorem playReport_of_isEmpty (h : l.table.isEmpty = true) (options : PlayOptions) :
    playReport l options = { err := nothingLine l.flow ++ "\n" } := by
  have hplay : l.playback.play l.flow = .ok (.empty, (l.playback.compile l.flow).2) :=
    Playback.play_of_isEmpty rfl h
  have hplay? := Playback.play?_of_not_started (inRange_playback l) fun pb' => by rw [hplay]; nofun
  rw [playReport, hplay?, hplay]
  simp [Report.diagnose]

/-- A flow that has something to play is started. -/
theorem exists_play?_playback (h : l.table.isEmpty = false) :
    ∃ pb, l.playback.play? l.flow = some (.ok (.started, pb)) :=
  Playback.exists_play?_of_hasTime rfl rfl h (Playback.hasTime_of_lt rfl (by decide))

/-- What is said of a flow that starts is said of the drain. -/
theorem playReport_of_started {pb : Playback Stage} (h : l.playback.play? l.flow = some (.ok (.started, pb)))
    (n : Nat) : playReport l { instant := true, maxWakeups := n } = instantReport pb n := by
  rw [playReport, h]
  rfl

theorem instantReport_of_ok {n : Nat} (h : pb.drain? n = .ok o) :
    instantReport pb n = playedReport (stopped o) := by
  rw [instantReport, h]

theorem instantReport_of_error {n : Nat} (h : pb.drain? n = .error o) : instantReport pb n =
      { exit := 101, out := eventLines o.events, err := "overflow when adding durations\n" } := by
  rw [instantReport, h]
  dsimp only
  rw [eventsReport_eq]
  rfl

/-- **What is compiled is what is played.**  With a seed, playing without waiting tells nothing of an empty
table.  Of any other it tells the number of its snapshots first, and in the first run the first
snapshots in order, one for each wakeup and one besides, up to the first that sends actors back.  The last
line is that playback has finished, or that it was stopped because it still played after `n` wakeups and
after any smaller number of them.  No timer is left, and every repeat run was announced.

That is so exactly when what the wakeups come to without a horizon is in range, and so while there is time for
them and the repeat runs can be counted.  A sum out of range ends the program after the lines of the wakeups
until then, and nothing says that playback is over. -/
theorem instant_play_agrees (read : FileReader) (entropy entropy' : UInt64) (options : ProjectOptions)
    {seed : Nat} (hseed : options.seed = some seed) {l : Loaded} (hload : load read entropy options = .ok l)
    (n : Nat) :
    let compiled := execute read entropy (.compile options none)
    let played := execute read entropy' (.play options { instant := true, maxWakeups := n })
    compiled.exit = 0 ∧ compiled.out = l.table.encode.pretty ++ "\n" ∧
      (l.table.snapshots = [] →
        played.exit = 0 ∧ played.out = "" ∧ played.err = nothingLine l.flow ++ "\n") ∧
      (l.table.snapshots ≠ [] → ∃ pb, l.playback.play? l.flow = some (.ok (.started, pb)) ∧
        (∀ o, pb.drain? n = .ok o ↔ o = pb.drain n ∧ (pb.drain n).playback.InRange) ∧
        (l.playback.HasTime n → n < 2 * UInt32.size ∨ l.config.playback.maxRepeats.isSome →
          ∃ o, pb.drain? n = .ok o) ∧
        (∀ o, pb.drain? n = .ok o → played.exit = 0 ∧ ∃ es last,
          played.out = eventLines (es ++ [last]) ∧
          (es ++ [last]).head? = some (.started l.table.snapshots.length) ∧
          (es ++ [last]).filter Event.isOpening = l.table.shownFirst (min (n + 1) l.table.opening) ∧
          (∀ e ∈ es, e ≠ .finished ∧ e ≠ .stopped) ∧ (last = .finished ∨ last = .stopped) ∧
          (last = .stopped ↔ ∀ m ≤ n, (pb.drain m).playback.player.isRunning = true) ∧
          played.err = "played " ++ decimal ((es ++ [last]).countP Event.isRepeat) ++
            " repeat run(s), 0 timer(s) left\n") ∧
        ∀ o, pb.drain? n = .error o → o.fired < n ∧ played.exit = 101 ∧ ∃ es,
          played.out = eventLines es ∧
          es.head? = some (.started l.table.snapshots.length) ∧
          es.filter Event.isOpening = l.table.shownFirst (min (o.fired + 1) l.table.opening) ∧
          (∀ e ∈ es, e ≠ .finished ∧ e ≠ .stopped) ∧
          played.err = "overflow when adding durations\n") := by
  have hcompiled : execute read entropy (.compile options none) = compileReport l none := by
    simp only [execute, hload]
  have hplayed : execute read entropy' (.play options { instant := true, maxWakeups := n }) =
      playReport l { instant := true, maxWakeups := n } := by
    simp only [execute, load_congr read entropy' entropy hseed, hload]
  obtain ⟨hout, hexit⟩ := compileReport_out l
  dsimp only
  rw [hcompiled, hplayed]
  rcases hempty : l.table.isEmpty with _ | _
  · have hne : l.table.snapshots ≠ [] := List.isEmpty_eq_false_iff.mp hempty
    obtain ⟨pb, hplay⟩ := exists_play?_playback hempty
    obtain ⟨hstarts, hrange⟩ := Playback.starts_of_play? hplay
    rw [playReport_of_started hplay]
    refine ⟨hexit, hout, fun h => absurd h hne, fun _ => ⟨pb, hplay,
      fun o => Playback.drain?_eq_ok_iff hrange, fun htime hruns => ?_, fun o hdrain => ?_, fun o hdrain => ?_⟩⟩
    · have hclocked := Playback.clocked_drain n (hstarts.clocked rfl)
      have hranged : (pb.drain n).playback.Ranged l.config n :=
        hclocked.ranged (Playback.paced_drain hstarts rfl n) (pb.drain_fired_le n)
      exact ⟨_, hstarts.drain?_eq_of_hasTime rfl hrange (pb.drain_fired_le n) htime (hranged.repeats_lt hruns)⟩
    · obtain ⟨rfl, -⟩ := (Playback.drain?_eq_ok_iff hrange).mp hdrain
      obtain ⟨last, htold, hlast⟩ := exists_told_stopped hstarts rfl rfl n
      obtain ⟨hplayed, es, hlines, hhead, hopening, hongoing, hclosing⟩ := htold.report
      rw [instantReport_of_ok hdrain]
      refine ⟨hplayed, es, last, hlines, hhead, hopening, ne_end_of_ongoing hongoing, ?_, ?_, hclosing⟩
      · rcases hlast with ⟨rfl, -⟩ | ⟨rfl, -⟩
        · exact .inr rfl
        · exact .inl rfl
      · rw [← isRunning_drain_iff hstarts rfl n]
        rcases hlast with ⟨rfl, hrunning⟩ | ⟨rfl, hidle⟩
        · simp [hrunning]
        · simp [hidle]
    · obtain ⟨hlt, hrecords, hlog, hongoing⟩ := records_of_error hstarts rfl rfl hrange hdrain
      rw [instantReport_of_error hdrain]
      exact ⟨hlt, rfl, o.events, rfl, hlog ▸ hrecords.head_eq, hlog ▸ hrecords.opening_eq,
        ne_end_of_ongoing hongoing, rfl⟩
  · have hnil : l.table.snapshots = [] := List.isEmpty_iff.mp hempty
    rw [playReport_of_isEmpty hempty]
    exact ⟨hexit, hout, fun _ => ⟨rfl, rfl, rfl⟩, absurd hnil⟩

/-! ### A sample

One actor that takes a step and starts over, in a document of arrays. -/

namespace Sample

/-- A project, and a configuration with the longest delays. -/
def files : FileReader := fun path =>
  if path = "slow.json" then .ok "[[18446744073709551615,18446744073709551615]]".toUTF8
  else
    .ok ("[[[[\"a\",\"A\"]]],[[[\"f\",\"F\",[[\"1\",\"moveXBy50\",\"a\"]," ++
      "[\"2\",\"repeatWholeAnimation\",\"a\"]]]],\"f\"]]").toUTF8

def options : ProjectOptions := { input := "project.json", seed := some 7 }

def slowOptions : ProjectOptions := { options with config := some "slow.json" }

/-- Whether something can be loaded that goes around without end, with at least so long delays. -/
def circles (options : ProjectOptions) (delay : Nat) : Bool :=
  match load files 0 options with
  | .ok l =>
    l.table.snapshots.any (fun s => !s.repeaters.isEmpty) && l.config.playback.maxRepeats.isNone &&
      decide (delay ≤ l.config.playback.shortestDelay)
  | .error _ => false

theorem exists_of_circles {options : ProjectOptions} {delay : Nat} (h : circles options delay = true) :
    ∃ l k set, load files 0 options = .ok l ∧ l.table.snapshots ≠ [] ∧ l.table.TurnsAt k set ∧
      l.config.playback.maxRepeats = none ∧ delay ≤ l.config.playback.shortestDelay := by
  rw [circles] at h
  rcases hload : load files 0 options with f | l
  · simp [hload] at h
  · rw [hload] at h
    simp only [Bool.and_eq_true, decide_eq_true_eq, List.any_eq_true, Option.isNone_iff_eq_none] at h
    obtain ⟨⟨⟨s, hs, hrep⟩, hmost⟩, hdelay⟩ := h
    rcases l.table.exists_turnsAt_or with ⟨k, set, hturn⟩ | hempty
    · exact ⟨l, k, set, rfl, List.ne_nil_of_mem hs, hturn, hmost, hdelay⟩
    · obtain ⟨j, hj⟩ := List.mem_iff_getElem?.mp hs
      simp [hempty j s hj] at hrep

theorem circles_options : circles options 0 = true := by decide +kernel

theorem circles_slowOptions : circles slowOptions 18446744073709551615 = true := by decide +kernel

end Sample

/-- The sample repeats without end, so that it is stopped after any number of wakeups. -/
theorem instant_play_agrees_sample :
    ∃ l, load Sample.files 0 Sample.options = .ok l ∧ l.table.snapshots ≠ [] ∧
      (execute Sample.files 1 (.play Sample.options { instant := true, maxWakeups := 3 })).exit = 0 ∧
      ∃ es last, (execute Sample.files 1 (.play Sample.options { instant := true, maxWakeups := 3 })).out =
          eventLines (es ++ [last]) ∧
        (es ++ [last]).head? = some (.started l.table.snapshots.length) := by
  obtain ⟨l, -, -, hload, hne, -⟩ := Sample.exists_of_circles Sample.circles_options
  obtain ⟨-, -, -, hplay⟩ := instant_play_agrees Sample.files 0 1 Sample.options rfl hload 3
  obtain ⟨pb, -, -, hends, htold, -⟩ := hplay hne
  obtain ⟨o, hdrain⟩ := hends (Playback.hasTime_of_lt rfl (by decide)) (.inl (by decide))
  obtain ⟨hexit, es, last, hout, hhead, -⟩ := htold o hdrain
  exact ⟨l, hload, hne, hexit, es, last, hout, hhead⟩

/-- **With the longest delays a thousand wakeups are not told to the end.** -/
theorem instant_play_slow :
    ∃ l, load Sample.files 0 Sample.slowOptions = .ok l ∧ l.table.snapshots ≠ [] ∧
      (execute Sample.files 0 (.compile Sample.slowOptions none)).exit = 0 ∧
      (execute Sample.files 0 (.play Sample.slowOptions { instant := true, maxWakeups := 1000 })).exit =
        101 := by
  obtain ⟨l, k, set, hload, hne, hturn, hmost, hdelay⟩ :=
    Sample.exists_of_circles Sample.circles_slowOptions
  obtain ⟨pb, hplay⟩ := exists_play?_playback (List.isEmpty_eq_false_iff.mpr hne)
  obtain ⟨hstarts, hrange⟩ := Playback.starts_of_play? hplay
  have hbeyond : TimerQueue.horizon ≤ (1000 + 1) * l.config.playback.shortestDelay :=
    Nat.le_trans (by decide) (Nat.mul_le_mul_left 1001 hdelay)
  obtain ⟨o, herror⟩ : ∃ o, pb.drain? 1000 = .error o :=
    Playback.exists_drain?_eq_error_of_endless hstarts rfl hrange hturn hmost
      (.inl (Nat.le_trans hbeyond (Nat.le_add_left _ _)))
  refine ⟨l, hload, hne, ?_, ?_⟩
  · simp only [execute, hload]
    exact (compileReport_out l).2
  · simp only [execute, hload]
    rw [playReport_of_started hplay, instantReport_of_error herror]

end Cli

end Marionette

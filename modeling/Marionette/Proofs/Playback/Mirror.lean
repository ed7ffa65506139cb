import Marionette.Proofs.Playback.Drain

/-!
# What the events say of the display

Nothing is done to the display that an event does not tell, and no event tells of something that was not
done.  So what becomes of the display can be read off the events: playback begins with `started`, every
snapshot that is shown is written as one batch, and playback is over with `finished` or `stopped`.  Repeats
are scheduled and started without a write.

## Main definitions

* `Event.onDisplay` — what an event says has been done to the display.
* `Playback.Mirrors` — the new events say what has become of the display.

## Main results

* `Playback.mirrors_call` — every call mirrors.
* `Playback.display_drain_eq` — the display after a flow, read off the events.
-/

namespace Marionette

variable {σ : Type} [Display σ]

/-- What an event says has been done to the display. -/
def Event.onDisplay (d : σ) : Event → σ
  | .started _ => Display.started d
  | .stepApplied _ _ _ states _ =>
    Display.applyBatch d (states.entries.map fun e => (e.1, e.2.toPatch))
  | .repeatScheduled _ _ | .repeatStarted _ _ _ => d
  | .finished | .stopped => Display.finished d

namespace Playback

/-- What was noted since `pb` says what has become of the display. -/
def Mirrors (pb pb' : Playback σ) : Prop :=
  ∃ es, pb'.player.log = pb.player.log ++ es ∧ pb'.display = es.foldl Event.onDisplay pb.display

variable {pb pb' pb'' : Playback σ}

/-- Nothing was noted, and nothing was done to the display. -/
theorem Mirrors.of_eq (hlog : pb'.player.log = pb.player.log) (hdisplay : pb'.display = pb.display) :
    pb.Mirrors pb' :=
  ⟨[], by rw [hlog, List.append_nil], hdisplay⟩

/-- One event was noted, and what it says was done to the display. -/
theorem Mirrors.of_note (e : Event) (hlog : pb'.player.log = pb.player.log ++ [e])
    (hdisplay : pb'.display = e.onDisplay pb.display) : pb.Mirrors pb' :=
  ⟨[e], hlog, hdisplay⟩

theorem Mirrors.trans (h : pb.Mirrors pb') (h' : pb'.Mirrors pb'') : pb.Mirrors pb'' := by
  obtain ⟨es, hlog, hdisplay⟩ := h
  obtain ⟨es', hlog', hdisplay'⟩ := h'
  refine ⟨es ++ es', ?_, ?_⟩
  · rw [hlog', hlog, List.append_assoc]
  · rw [hdisplay', hdisplay, List.foldl_append]

/-! ### Wakeups -/

theorem mirrors_arm (pb : Playback σ) (wakeup : Wakeup) (delay : Nat) :
    pb.Mirrors (pb.arm wakeup delay) :=
  .of_eq (by rw [player_arm]) rfl

theorem mirrors_finish (pb : Playback σ) : pb.Mirrors (pb.finish .finished) := .of_note _ rfl rfl

theorem mirrors_present (pb : Playback σ) : pb.Mirrors pb.present := by
  rw [present]
  rcases pb.player.run? with _ | run
  · exact .of_eq rfl rfl
  · dsimp only
    rcases run.snapshot? with _ | s
    · exact .of_eq rfl rfl
    · exact .of_note _ rfl rfl

theorem mirrors_goOn (pb : Playback σ) (run : Run) (s : Snapshot) : pb.Mirrors (pb.goOn run s) := by
  rw [goOn]
  dsimp only
  split
  · split
    · exact mirrors_finish pb
    · exact (Mirrors.of_note _ rfl rfl).trans (mirrors_arm _ _ _)
  · split
    · exact mirrors_finish pb
    · exact mirrors_arm pb _ _

theorem mirrors_advance (pb : Playback σ) : pb.Mirrors pb.advance := by
  rw [advance]
  rcases pb.player.run? with _ | run
  · exact mirrors_finish pb
  · have htake : pb.Mirrors (pb.takeUp run.next) := .of_eq rfl rfl
    dsimp only
    rcases run.next.snapshot? with _ | s
    · exact htake.trans (mirrors_finish _)
    · exact htake.trans ((mirrors_present _).trans (mirrors_goOn _ _ _))

theorem mirrors_startRepeat (pb : Playback σ) : pb.Mirrors pb.startRepeat := by
  rw [startRepeat]
  rcases pb.player.run? with _ | run
  · exact mirrors_finish pb
  · dsimp only
    rcases run.snapshot? with _ | s
    · exact mirrors_finish pb
    · dsimp only
      split
      · exact .of_note _ rfl rfl
      · refine Mirrors.trans ?_ (mirrors_arm _ _ _)
        exact .of_note (.repeatStarted _ _ _) rfl rfl

theorem mirrors_onTimer (pb : Playback σ) (token : TimerToken) :
    pb.Mirrors (pb.onTimer token).2 := by
  rw [onTimer]
  rcases pb.player.pending? with _ | ⟨own, wakeup⟩
  · exact .of_eq rfl rfl
  · have htaken : pb.Mirrors { pb with player := { pb.player with pending? := none } } := .of_eq rfl rfl
    dsimp only
    split
    · cases wakeup with
      | advance => exact htaken.trans (mirrors_advance _)
      | restart => exact htaken.trans (mirrors_startRepeat _)
    · exact .of_eq rfl rfl

/-! ### Calls -/

theorem mirrors_start (pb : Playback σ) (flow : Flow) (table : StepTable) :
    pb.Mirrors (pb.start flow table) := by
  rw [start]
  refine Mirrors.trans ?_ ((mirrors_present _).trans (mirrors_arm _ _ _))
  exact .of_note (.started table.size) rfl rfl

/-- A call that plays says what it does to the display, also one that finds nothing to play. -/
theorem mirrors_play {flow : Flow} {outcome : PlayOutcome} (h : pb.play flow = .ok (outcome, pb')) :
    pb.Mirrors pb' := by
  rw [play] at h
  split at h
  · cases h
  · have hcompile : pb.Mirrors (pb.compile flow).2 := .of_eq rfl rfl
    dsimp only at h
    split at h
    · cases h
      exact hcompile
    · cases h
      exact hcompile.trans (mirrors_start _ _ _)

/-- **Every call tells what it does to the display**, but for the one that hands the events out. -/
theorem mirrors_call (pb : Playback σ) {c : Call} (hc : c ≠ .takeEvents) : pb.Mirrors (pb.call c) := by
  cases c with
  | play flow =>
    rw [call]
    split
    · next hplay => exact mirrors_play hplay
    · exact .of_eq rfl rfl
  | stop =>
    rw [call, stop]
    split
    · exact .of_note .stopped rfl rfl
    · exact .of_eq rfl rfl
  | onTimer token => exact mirrors_onTimer pb token
  | compile flow => exact .of_eq rfl rfl
  | takeEvents => exact absurd rfl hc

theorem mirrors_drain (pb : Playback σ) (limit : Nat) : pb.Mirrors (pb.drain limit).whole :=
  drain_induction (J := fun _ pb' => pb.Mirrors pb')
    (fun _ pb' t timers h _ => h.trans (mirrors_onTimer { pb' with timers } t.token)) limit
    (.of_eq rfl rfl)

/-- **The display after a flow** is what the events make of the display before it. -/
theorem display_drain_eq {flow : Flow} {outcome : PlayOutcome}
    (h : pb.play flow = .ok (outcome, pb')) (limit : Nat) :
    ∃ es, (pb'.drain limit).events = pb.player.log ++ es ∧
      (pb'.drain limit).playback.display = es.foldl Event.onDisplay pb.display := by
  rw [← log_whole_drain]
  exact (mirrors_play h).trans (mirrors_drain pb' limit)

end Playback

end Marionette

import Marionette.Proofs.Playback.Drain

/-!
# The first run, event by event

A wakeup in the first run shows the next snapshot of the flow's table, until one asks for a repeat run or
none is left.  After that no event of the first run follows, whatever the repeat runs are.  So the events
of the first run are known from the table and from the number of timers that were fired, and the number of
repeat runs is the number of events that announce one.

## Main definitions

* `StepTable.opening` — how many snapshots the first run shows; `StepTable.shownFirst` — its events.
* `Event.isOpening`, `Event.isRepeat`, `Event.isEnd` — events of the first run, of a new run, of the end.
* `Player.Follows`, `Player.Concluded` — what a player has told that still plays, or that has ended.

## Main results

* `Player.Follows.woken` — one timer shows one snapshot more, or none after the first run.
* `Playback.stands_follows_drain` — what a drain has told.
-/

namespace Marionette

/-! ### The snapshots of the first run -/

namespace StepTable

/-- How many snapshots the first run of a table shows: those up to the first that repeats somebody. -/
def opening (t : StepTable) : Nat :=
  min t.size (t.snapshots.findIdx (fun s => !s.repeaters.isEmpty) + 1)

/-- What the first run tells of the first `count` snapshots. -/
def shownFirst (t : StepTable) (count : Nat) : List Event :=
  (t.snapshots.take count).mapIdx fun i s => .stepApplied 0 i (t.size - 1) s.states s.repeaters

variable {t : StepTable} {k : Nat} {s : Snapshot}

theorem opening_le_size (t : StepTable) : t.opening ≤ t.size := Nat.min_le_left _ _

/-- A snapshot that repeats nobody is followed by the next one, if there is one. -/
theorem succ_lt_opening (hk : k < t.opening) (hs : t.snapshot? k = some s)
    (hempty : s.repeaters.isEmpty = true) (hlt : k + 1 < t.size) : k + 1 < t.opening := by
  obtain ⟨hsize, hget⟩ := List.getElem?_eq_some_iff.mp hs
  have hne : t.snapshots.findIdx (fun s => !s.repeaters.isEmpty) ≠ k := by
    rintro rfl
    have := List.findIdx_getElem (w := hsize)
    rw [hget, hempty] at this
    exact Bool.false_ne_true this
  simp only [opening] at hk ⊢
  omega

/-- The first snapshot that repeats somebody is the last one of the first run. -/
theorem opening_eq_succ (hk : k < t.opening) (hs : t.snapshot? k = some s)
    (hrep : s.repeaters.isEmpty = false) : t.opening = k + 1 := by
  obtain ⟨hsize, hget⟩ := List.getElem?_eq_some_iff.mp hs
  have hle : t.snapshots.findIdx (fun s => !s.repeaters.isEmpty) ≤ k := by
    refine Nat.not_lt.mp fun hlt => ?_
    have := List.not_of_lt_findIdx hlt
    simp [hget, hrep] at this
  have hsize' : k < t.size := hsize
  simp only [opening] at hk ⊢
  omega

theorem shownFirst_succ (hs : t.snapshot? k = some s) :
    t.shownFirst (k + 1) = t.shownFirst k ++ [.stepApplied 0 k (t.size - 1) s.states s.repeaters] := by
  obtain ⟨hsize, rfl⟩ := List.getElem?_eq_some_iff.mp hs
  rw [shownFirst, shownFirst, List.take_succ_eq_append_getElem hsize, List.mapIdx_concat,
    List.length_take_of_le (Nat.le_of_lt hsize)]

end StepTable

/-! ### Kinds of events -/

namespace Event

/-- Whether the event shows a snapshot of the first run. -/
def isOpening : Event → Bool
  | stepApplied run _ _ _ _ => run == 0
  | _ => false

/-- Whether the event announces a repeat run. -/
def isRepeat : Event → Bool
  | repeatStarted _ _ _ => true
  | _ => false

/-- Whether the event says that playback is over. -/
def isEnd : Event → Bool
  | finished | stopped => true
  | _ => false

end Event

/-! ### What a player has told -/

namespace Player

/-- The log of a player begins with the size of the table, has the snapshots of the first run that `n`
timers lead to, and counts the repeat runs. -/
structure Records (t : StepTable) (n : Nat) (p : Player) : Prop where
  head_eq : p.log.head? = some (.started t.size)
  opening_eq : p.log.filter Event.isOpening = t.shownFirst (min (n + 1) t.opening)
  repeats_eq : p.repeats = p.log.countP Event.isRepeat

/-- A player that plays `run` after `n` timers has told this much of the table.  As long as nothing was
repeated it is in the table, at the snapshot that the timers have led to. -/
structure Follows (t : StepTable) (n : Nat) (p : Player) (run : Run) : Prop where
  records : p.Records t n
  ongoing : ∀ e ∈ p.log, e.isEnd = false
  at_opening : p.repeats = 0 → run.table = t ∧ run.step = n ∧ n < t.opening
  past_opening : p.repeats ≠ 0 → t.opening ≤ n + 1

/-- A player whose playback has ended after `n` timers has told all of the first run, and the end once. -/
structure Concluded (t : StepTable) (n : Nat) (p : Player) : Prop where
  records : p.Records t n
  opening_le : t.opening ≤ n + 1
  log_eq : ∃ es, p.log = es ++ [.finished] ∧ ∀ e ∈ es, e.isEnd = false

variable {t : StepTable} {n : Nat} {p p' : Player} {run : Run} {actors : List ActorId} {s : Snapshot}
  {token : TimerToken}

theorem Records.head?_append (h : p.Records t n) (es : List Event) :
    (p.log ++ es).head? = some (.started t.size) := by
  rw [List.head?_append, h.head_eq]
  rfl

/-- Only the log and the number of repeat runs matter. -/
theorem Records.congr (h : p.Records t n) (hlog : p'.log = p.log) (hrepeats : p'.repeats = p.repeats) :
    p'.Records t n :=
  ⟨hlog ▸ h.head_eq, hlog ▸ h.opening_eq, by rw [hrepeats, hlog, h.repeats_eq]⟩

theorem Follows.congr (h : p.Follows t n run) (hlog : p'.log = p.log)
    (hrepeats : p'.repeats = p.repeats) : p'.Follows t n run where
  records := h.records.congr hlog hrepeats
  ongoing := hlog ▸ h.ongoing
  at_opening := hrepeats ▸ h.at_opening
  past_opening := hrepeats ▸ h.past_opening

/-- An event of another kind changes nothing in what counts. -/
theorem Records.note (h : p.Records t n) {e : Event} (hopening : e.isOpening = false)
    (hrepeat : e.isRepeat = false) : (p.note e).Records t n where
  head_eq := h.head?_append [e]
  opening_eq := by
    rw [Player.note, List.filter_append, h.opening_eq]
    simp [hopening]
  repeats_eq := by
    rw [Player.note, List.countP_append, ← h.repeats_eq]
    simp [hrepeat]

theorem ongoing_note (h : ∀ e ∈ p.log, e.isEnd = false) {e : Event} (he : e.isEnd = false) :
    ∀ e' ∈ (p.note e).log, e'.isEnd = false := by
  intro e' he'
  rcases List.mem_append.mp he' with he' | he'
  · exact h e' he'
  · rw [List.mem_singleton.mp he']
    exact he

theorem Follows.note (h : p.Follows t n run) {e : Event} (hopening : e.isOpening = false)
    (hrepeat : e.isRepeat = false) (hend : e.isEnd = false) : (p.note e).Follows t n run where
  records := h.records.note hopening hrepeat
  ongoing := ongoing_note h.ongoing hend
  at_opening := h.at_opening
  past_opening := h.past_opening

/-- Further timers would show nothing more of the first run. -/
theorem Concluded.records_of_le (h : p.Concluded t n) {m : Nat} (hle : n ≤ m) : p.Records t m where
  head_eq := h.records.head_eq
  opening_eq := by
    rw [h.records.opening_eq, Nat.min_eq_right h.opening_le,
      Nat.min_eq_right (Nat.le_trans h.opening_le (Nat.succ_le_succ hle))]
  repeats_eq := h.records.repeats_eq

/-! ### One timer -/

variable {σ : Type} [Display σ] {pb pb' : Playback σ}

/-- The next snapshot is the next one of the table, or one of a repeat run. -/
theorem Follows.shown (h : pb.player.Follows t n run) (hplays : pb.player.PlaysAt run actors s token)
    (hs : s.repeaters.isEmpty = true) {s' : Snapshot} (hs' : run.next.snapshot? = some s') :
    (pb.shown run s').player.Follows t (n + 1) run.next := by
  rcases Nat.eq_zero_or_pos pb.player.repeats with hzero | hpos
  · obtain ⟨rfl, rfl, hlt⟩ := h.at_opening hzero
    have hs'' : run.table.snapshot? (run.step + 1) = some s' := hs'
    have hopening : run.step + 1 < run.table.opening :=
      StepTable.succ_lt_opening hlt hplays.snapshot_eq hs (StepTable.lt_size_iff.mpr ⟨s', hs''⟩)
    refine ⟨⟨h.records.head?_append _, ?_, ?_⟩, ongoing_note h.ongoing rfl, fun _ => ⟨rfl, rfl, hopening⟩,
      absurd hzero⟩
    · change List.filter _ (pb.player.log ++ [_]) = _
      rw [List.filter_append, h.records.opening_eq, Nat.min_eq_left (Nat.succ_le_of_lt hlt),
        Nat.min_eq_left (Nat.succ_le_of_lt hopening), StepTable.shownFirst_succ hs'', hzero,
        show run.last = run.table.size - 1 from StepTable.last_eq _]
      rfl
    · change pb.player.repeats = List.countP _ (pb.player.log ++ [_])
      rw [List.countP_append, ← h.records.repeats_eq]
      rfl
  · have hne : pb.player.repeats ≠ 0 := Nat.ne_of_gt hpos
    have hle := h.past_opening hne
    refine ⟨⟨h.records.head?_append _, ?_, ?_⟩, ongoing_note h.ongoing rfl, fun hzero => absurd hzero hne,
      fun _ => Nat.le_succ_of_le hle⟩
    · change List.filter _ (pb.player.log ++ [_]) = _
      rw [List.filter_append, h.records.opening_eq, Nat.min_eq_right hle,
        Nat.min_eq_right (Nat.le_succ_of_le hle)]
      simp [Event.isOpening, hne]
    · change pb.player.repeats = List.countP _ (pb.player.log ++ [_])
      rw [List.countP_append, ← h.records.repeats_eq]
      rfl

/-- Where nothing follows the snapshot that a player waits at, the first run is over. -/
theorem Follows.opening_le (h : p.Follows t n run) (hsnap : run.snapshot? = some s)
    (hend : s.repeaters.isEmpty = true ∧ run.step = run.last ∨ s.repeaters.isEmpty = false) :
    t.opening ≤ n + 1 := by
  rcases Nat.eq_zero_or_pos p.repeats with hzero | hpos
  · obtain ⟨rfl, rfl, hlt⟩ := h.at_opening hzero
    rcases hend with ⟨-, hlast⟩ | hrep
    · have hsize := run.table.opening_le_size
      rw [show run.last = run.table.size - 1 from StepTable.last_eq _] at hlast
      omega
    · exact Nat.le_of_eq (StepTable.opening_eq_succ hlt hsnap hrep)
  · exact h.past_opening (Nat.ne_of_gt hpos)

omit [Display σ] in
/-- A repeat run shows nothing of the first run any more. -/
theorem Follows.restarted (h : pb.player.Follows t n run) (hplays : pb.player.PlaysAt run actors s token)
    (hs : s.repeaters.isEmpty = false) (out : StepTable × RandomSource) (run' : Run) :
    (pb.restarted run s out).player.Follows t (n + 1) run' := by
  have hle := h.opening_le hplays.snapshot_eq (.inr hs)
  refine ⟨⟨h.records.head?_append _, ?_, ?_⟩, ongoing_note h.ongoing rfl,
    fun hzero => absurd hzero (Nat.succ_ne_zero _), fun _ => Nat.le_succ_of_le hle⟩
  · change List.filter _ (pb.player.log ++ [_]) = _
    rw [List.filter_append, h.records.opening_eq, Nat.min_eq_right hle,
      Nat.min_eq_right (Nat.le_succ_of_le hle)]
    exact List.append_nil _
  · change pb.player.repeats + 1 = List.countP _ (pb.player.log ++ [_])
    rw [List.countP_append, ← h.records.repeats_eq]
    rfl

/-- **One timer shows one snapshot more of the first run**, or leads on where that is over. -/
theorem Follows.woken (hplays : pb.player.PlaysAt run actors s token) (h : pb.player.Follows t n run)
    (hwoken : Playback.Woken pb run actors s pb') :
    pb'.player.Stands (pb'.player.Concluded t (n + 1)) fun run' _ =>
      pb'.player.Follows t (n + 1) run' := by
  cases hwoken with
  | moved s' hs hs' heq hplays' =>
    refine .plays _ _ _ _ hplays' ((h.shown hplays hs hplays'.snapshot_eq).congr ?_ ?_) <;>
      rw [heq, Playback.player_arm]
  | asked s' hs hs' hcap heq hplays' =>
    have hnote := (h.shown hplays hs hplays'.snapshot_eq).note
      (e := .repeatScheduled s'.repeaters (.ofNat (pb.player.hold s' + pb.player.repeatDelay))) rfl rfl rfl
    refine .plays _ _ _ _ hplays' (hnote.congr ?_ ?_) <;> rw [heq, Playback.player_arm] <;> rfl
  | ended s' hs hsnap hend heq hrests =>
    have hshown := h.shown hplays hs hsnap
    subst heq
    have hnote : ((pb.shown run s').player.note .finished).Records t (n + 1) :=
      hshown.records.note rfl rfl
    refine .rests hrests ⟨hnote.congr rfl rfl, hshown.opening_le hsnap ?_, _, rfl, hshown.ongoing⟩
    exact hend.imp_right And.left
  | repeated out first hs hout heq hplays' =>
    subst heq
    exact .plays _ _ _ _ hplays' (h.restarted hplays hs out _)

end Player

/-! ### Draining -/

namespace Playback

variable {σ : Type} [Display σ] {pb pb' : Playback σ}

/-- A flow that starts has told the size of its table and the first snapshot. -/
theorem Starts.stands_follows {flow : Flow} (h : pb.Starts flow pb') (hlog : pb.player.log = []) :
    pb'.player.Stands (pb'.player.Concluded (pb.compile flow).1 0) fun run _ =>
      pb'.player.Follows (pb.compile flow).1 0 run := by
  obtain ⟨first, hstart, hplays⟩ := h.exists_playsAt
  have hsize := hplays.fits.two_le_size (by
    rw [StepTable.isEmpty_eq_false_iff]
    exact StepTable.lt_size_iff.mpr ⟨first, hplays.snapshot_eq⟩)
  have hopening : 0 < (pb.compile flow).1.opening :=
    Nat.lt_min.mpr ⟨Nat.lt_of_lt_of_le Nat.two_pos hsize, Nat.succ_pos _⟩
  refine .plays _ _ _ _ hplays ?_
  have hfirst : ((pb.compile flow).2.begun flow (pb.compile flow).1 first).player.log =
      [.started (pb.compile flow).1.size,
        .stepApplied 0 0 (pb.compile flow).1.last first.states first.repeaters] := by
    change pb.player.log ++ [_] ++ [_] = _
    rw [hlog]
    rfl
  rw [hstart]
  refine Player.Follows.congr (p := ((pb.compile flow).2.begun flow (pb.compile flow).1 first).player)
    ⟨⟨?_, ?_, ?_⟩, ?_, fun _ => ⟨rfl, rfl, hopening⟩, absurd rfl⟩ (by rw [player_arm]) (by rw [player_arm])
  · rw [hfirst]
    rfl
  · rw [hfirst, Nat.min_eq_left (Nat.succ_le_of_lt hopening), StepTable.shownFirst_succ hplays.snapshot_eq,
      StepTable.last_eq]
    rfl
  · rw [hfirst]
    rfl
  · rw [hfirst]
    simp [Event.isEnd]

/-- **What a drain has told**, when no other timer waits. -/
theorem stands_follows_drain {flow : Flow} (h : pb.Starts flow pb') (hlog : pb.player.log = [])
    (hqueue : pb.timers.pending = []) (limit : Nat) :
    (pb'.drain limit).whole.player.Stands
      ((pb'.drain limit).whole.player.Concluded (pb.compile flow).1 (pb'.drain limit).fired)
      fun run _ => (pb'.drain limit).whole.player.Follows (pb.compile flow).1 (pb'.drain limit).fired run :=
  stands_drain_of_lone (A := fun n p => p.Concluded (pb.compile flow).1 n)
    (B := fun n p run _ => p.Follows (pb.compile flow).1 n run)
    (fun _ _ _ _ _ _ _ hplays hfollows hwoken => hfollows.woken hplays hwoken) limit (h.lone hqueue)
    (h.stands_follows hlog)

end Playback

end Marionette

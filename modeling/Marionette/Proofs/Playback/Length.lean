import Marionette.Proofs.Playback.Horizon

/-!
# The length of a playback

A table that sends nobody back takes one timer for each of its steps.  One that is gone around takes so many
timers as the cap allows, and without a cap as many as the caller does.  That is so as long as all the times are
in range.  A playback that is broken off has told what one with a smaller allowance tells; and one that nothing
ends is broken off sooner or later.

## Main results

* `Playback.fired_drain?_eq` — how many timers are fired, and what is told.
-/

namespace Marionette

namespace Playback

variable {σ : Type} [Display σ] {pb pb' : Playback σ} {flow : Flow} {limit : Nat} {o : Observed σ}

/-! ### In range and out of range -/

/-- Without a cap a drain is in range as long as there is time for its timers and its runs can be counted. -/
theorem drain?_of_endless (hstarts : pb.Starts flow pb') (hqueue : pb.timers.pending = [])
    (hrange : pb'.InRange) {k : Nat} {set : ActorSet} (hturn : (pb.compile flow).1.TurnsAt k set)
    (hmost : pb.player.config.playback.maxRepeats = none) (htime : pb.HasTime limit)
    (hruns : limit / (k + 1) < UInt32.size) : pb'.drain? limit = .ok (pb'.drain limit) := by
  obtain ⟨hfired, -, hrepeats, -⟩ := drain_of_endless hstarts hqueue hturn hmost limit
  exact hstarts.drain?_eq_of_hasTime hqueue hrange (Nat.le_of_eq hfired) htime (hrepeats ▸ hruns)

/-- Without a cap a drain is broken off when the shortest delays add up to the horizon, or when there are more
runs than can be counted. -/
theorem exists_drain?_eq_error_of_endless (hstarts : pb.Starts flow pb') (hqueue : pb.timers.pending = [])
    (hrange : pb'.InRange) {k : Nat} {set : ActorSet} (hturn : (pb.compile flow).1.TurnsAt k set)
    (hmost : pb.player.config.playback.maxRepeats = none)
    (hbeyond : TimerQueue.horizon ≤
        pb.timers.now + (limit + 1) * pb.player.config.playback.shortestDelay ∨
      UInt32.size ≤ limit / (k + 1)) :
    ∃ o, pb'.drain? limit = .error o := by
  obtain ⟨hfired, hrunning, hrepeats, -⟩ := drain_of_endless hstarts hqueue hturn hmost limit
  have hclocked := clocked_drain limit (hstarts.clocked hqueue)
  rw [hfired] at hclocked
  rcases drain?_cases limit hrange with ⟨-, hlast⟩ | ⟨n, -, herror, -⟩
  · rcases hbeyond with htime | hruns
    · exact absurd hlast.timers (hclocked.not_inRange hrunning htime)
    · exact absurd (hrepeats ▸ hlast.repeats_lt) (Nat.not_lt.mpr hruns)
  · exact ⟨_, herror⟩

/-- **How long a playback is, and what it tells.**  A table that sends nobody back is shown once.  One whose
first repeat is at step `k` is gone around: with a cap as many more times as the cap allows, each time with
the same actors up to the same step, and without a cap until a stop, or until it leaves the range of the clock
or of the number of runs.  A drain ends exactly when what it comes to without a horizon is in range.  One that
does not has fired as many timers as were. -/
theorem fired_drain?_eq (pb : Playback σ) (flow : Flow) (hidle : pb.player.isRunning = false)
    (hqueue : pb.timers.pending = []) (hne : (pb.compile flow).1.isEmpty = false) :
    (pb.HasTime 0 → ∃ pb', pb.play? flow = some (.ok (.started, pb'))) ∧
    ∀ pb', pb.play? flow = some (.ok (.started, pb')) →
      (∀ limit o, pb'.drain? limit = .ok o ↔ o = pb'.drain limit ∧ (pb'.drain limit).playback.InRange) ∧
      (∀ limit o, pb'.drain? limit = .error o → o.fired < limit ∧ pb'.drain? o.fired = .ok o) ∧
      ((∀ j s, (pb.compile flow).1.snapshot? j = some s → s.repeaters.isEmpty = true) →
        ∀ limit, (pb.compile flow).1.last ≤ limit →
          (pb.HasTime (pb.compile flow).1.last → ∃ o, pb'.drain? limit = .ok o) ∧
          ∀ o, pb'.drain? limit = .ok o →
            o.fired = (pb.compile flow).1.last ∧ o.playback.player.isRunning = false ∧
            Tells pb.player.log o.events ([.started, .applied 0 0 pb.cast .empty] ++
              Milestone.steps 0 pb.cast (fun _ => .empty) (pb.compile flow).1.last ++ [.finished])) ∧
      ∀ k set, (pb.compile flow).1.TurnsAt k set →
        (∀ most, pb.player.config.playback.maxRepeats = some most →
          ∀ limit, k + most.toNat * (k + 1) ≤ limit →
            (pb.HasTime (k + most.toNat * (k + 1)) → ∃ o, pb'.drain? limit = .ok o) ∧
            ∀ o, pb'.drain? limit = .ok o →
              o.fired = k + most.toNat * (k + 1) ∧ o.playback.player.isRunning = false ∧
              o.playback.player.repeats = most.toNat ∧
              Tells pb.player.log o.events (Lap.upTo ⟨pb.cast, set, k⟩ most.toNat ++
                Lap.steps ⟨pb.cast, set, k⟩ most.toNat k ++ [.finished])) ∧
        (pb.player.config.playback.maxRepeats = none →
          (∀ limit,
            (pb.HasTime limit → limit / (k + 1) < UInt32.size → ∃ o, pb'.drain? limit = .ok o) ∧
            (TimerQueue.horizon ≤
                  pb.timers.now + (limit + 1) * pb.player.config.playback.shortestDelay ∨
                UInt32.size ≤ limit / (k + 1) →
              ∃ o, pb'.drain? limit = .error o) ∧
            ∀ o, pb'.drain? limit = .ok o →
              o.fired = limit ∧ o.playback.player.isRunning = true ∧
              ∃ es, o.events = pb.player.log ++ es ∧ Event.finished ∉ es ∧
                es.map Event.milestone =
                  Lap.path ⟨pb.cast, set, k⟩ (limit / (k + 1)) (limit % (k + 1))) ∧
          ∀ p', pb'.player.Leads (· ≠ .stop) p' → p'.isRunning = true) := by
  refine ⟨exists_play?_of_hasTime hidle hqueue hne, fun pb' hplay => ?_⟩
  obtain ⟨hstarts, hrange⟩ := starts_of_play? hplay
  refine ⟨fun limit o => drain?_eq_ok_iff hrange, fun limit o => drain?_fired_of_eq_error hrange,
    fun hempty limit hlimit => ?_,
    fun k set hturn => ⟨fun most hmost limit hlimit => ?_, fun hmost => ⟨fun limit => ⟨?_, ?_, ?_⟩, ?_⟩⟩⟩
  · obtain ⟨hfired, hends, hrepeats, htells⟩ := drain_of_straight hstarts hqueue hempty hlimit
    refine ⟨fun htime => ⟨_, hstarts.drain?_eq_of_hasTime hqueue hrange (Nat.le_of_eq hfired) htime ?_⟩,
      fun o hdrain => ?_⟩
    · rw [hrepeats]
      decide
    · obtain ⟨rfl, -⟩ := (drain?_eq_ok_iff hrange).mp hdrain
      exact ⟨hfired, hends, htells⟩
  · obtain ⟨hfired, hends, hrepeats, htells⟩ := drain_of_capped hstarts hqueue hturn hmost hlimit
    refine ⟨fun htime => ⟨_, hstarts.drain?_eq_of_hasTime hqueue hrange (Nat.le_of_eq hfired) htime ?_⟩,
      fun o hdrain => ?_⟩
    · rw [hrepeats]
      exact most.toNat_lt_size
    · obtain ⟨rfl, -⟩ := (drain?_eq_ok_iff hrange).mp hdrain
      exact ⟨hfired, hends, hrepeats, htells⟩
  · exact fun htime hruns => ⟨_, drain?_of_endless hstarts hqueue hrange hturn hmost htime hruns⟩
  · exact exists_drain?_eq_error_of_endless hstarts hqueue hrange hturn hmost
  · intro o hdrain
    obtain ⟨rfl, -⟩ := (drain?_eq_ok_iff hrange).mp hdrain
    obtain ⟨hfired, hrunning, -, es, hes, hmilestones⟩ :=
      drain_of_endless hstarts hqueue hturn hmost limit
    refine ⟨hfired, hrunning, es, hes, fun hmem => ?_, hmilestones⟩
    have hfinished := List.mem_map_of_mem (f := Event.milestone) hmem
    rw [hmilestones] at hfinished
    exact Lap.finished_notMem_path _ _ _ hfinished
  · exact fun p' hleads => ((endless_start hstarts hturn hmost).leads hleads).isRunning_eq

/-- The first actor of the sample is sent back by step 2.  With one repeat run, five timers are fired. -/
theorem fired_drain?_eq_sample :
    let pb := Sample.idle (some 1)
    pb.player.isRunning = false ∧ pb.timers.pending = [] ∧ (pb.compile Sample.flow).1.isEmpty = false ∧
      (pb.compile Sample.flow).1.TurnsAt 2 (.ofKeys [⟨"a"⟩]) ∧
      ∃ pb', pb.play? Sample.flow = some (.ok (.started, pb')) ∧ ∀ limit, 5 ≤ limit →
        ∃ o, pb'.drain? limit = .ok o ∧ o.fired = 5 ∧ o.playback.player.isRunning = false ∧
          o.playback.player.repeats = 1 := by
  have hturn : ((Sample.idle (some 1)).compile Sample.flow).1.TurnsAt 2 (.ofKeys [⟨"a"⟩]) :=
    Sample.turnsAt_timed _
  obtain ⟨hstarts, h⟩ := fired_drain?_eq (Sample.idle (some 1)) Sample.flow rfl rfl rfl
  obtain ⟨pb', hplay⟩ := hstarts (by decide)
  refine ⟨rfl, rfl, rfl, hturn, pb', hplay, fun limit hlimit => ?_⟩
  obtain ⟨hends, hended⟩ := ((h pb' hplay).2.2.2 2 _ hturn).1 1 rfl limit hlimit
  obtain ⟨o, hdrain⟩ := hends (by decide)
  obtain ⟨hfired, hidle, hrepeats, -⟩ := hended o hdrain
  exact ⟨o, hdrain, hfired, hidle, hrepeats⟩

/-- The longest delays that a configuration can name leave room for fewer than a thousand timers, although
nothing ends the playback. -/
theorem exists_drain?_slow_eq_error :
    Sample.slow.player.config.validate = .ok () ∧ Sample.slow.timers = .empty ∧
      (Sample.slow.compile Sample.flow).1.TurnsAt 2 (.ofKeys [⟨"a"⟩]) ∧
      Sample.slow.player.config.playback.maxRepeats = none ∧
      ∃ pb', Sample.slow.play? Sample.flow = some (.ok (.started, pb')) ∧
        ∃ o, pb'.drain? 1000 = .error o ∧ o.fired < 1000 := by
  obtain ⟨pb', hplay⟩ : ∃ pb', Sample.slow.play? Sample.flow = some (.ok (.started, pb')) :=
    exists_play?_of_hasTime rfl rfl rfl (by decide)
  obtain ⟨hstarts, hrange⟩ := starts_of_play? hplay
  obtain ⟨o, herror⟩ : ∃ o, pb'.drain? 1000 = .error o :=
    exists_drain?_eq_error_of_endless hstarts rfl hrange (Sample.turnsAt_timed _) rfl (.inl (by decide))
  exact ⟨by decide +kernel, rfl, Sample.turnsAt_timed _, rfl, pb', hplay, o, herror,
    (drain?_fired_of_eq_error hrange herror).1⟩

end Playback

end Marionette

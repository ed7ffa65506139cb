import Marionette.Proofs.Playback.Starting
import Marionette.Proofs.Playback.Timing

/-!
# The delay that is announced

When a repeat run is announced, its timer is set in the same call.  The announcement tells the delay in 64
bits.  The delay itself is a sum of two numbers of 64 bits: the hold for the messages of the step, and the
delay between runs.  So it may be longer than what can be told, and then 2^64 milliseconds, or a little less,
are missing from the announcement.  That is the only case in which it is wrong.

## Main definitions

* `Event.isAnnouncement` — whether an event announces a repeat run.
* `PlaybackConfig.repeatWait` — how long a repeat run is waited for.
* `Playback.Announces` — a timer is set in the call that announces its run.

## Main results

* `Playback.announced_in_call` — every announcement comes with a timer, and when it tells the right delay.
* `Playback.announced_in_call_lost` — an announcement without delay, of a run that is far away.
-/

namespace Marionette

/-- Whether the event announces a repeat run. -/
def Event.isAnnouncement : Event → Bool
  | .repeatScheduled _ _ => true
  | .started _ | .stepApplied _ _ _ _ _ | .repeatStarted _ _ _ | .finished | .stopped => false

/-- How long the repeat run is waited for that a step with these states asks for, in milliseconds. -/
def PlaybackConfig.repeatWait (c : PlaybackConfig) (states : StateMap) : Nat :=
  (if c.holdForMessages then longestMessage states else 0) + c.repeatDelay.toNat

namespace Playback

variable {σ : Type} {pb pb' : Playback σ}

/-- Between `pb` and `pb'` a step was shown that asks for a repeat run of some actors, and the timer `t` was set
for this run.  What was told of it is the delay modulo 2^64. -/
structure Announces (pb pb' : Playback σ) (news : List Event) (actors : ActorSet) (delay : UInt64)
    (t : Timer) : Prop where
  due_eq : ∃ run step last states, .stepApplied run step last states actors ∈ news ∧
    t.due = pb.timers.now + pb.player.config.playback.repeatWait states
  wakeup_eq : t.wakeup = .restart
  mem_pending : t ∈ pb'.timers.pending
  /-- The timer is a new one. -/
  notMem_pending : t ∉ pb.timers.pending
  pending_eq : pb'.player.pending? = some (t.token, .restart)
  delay_eq : delay = .ofNat (t.due - pb.timers.now)

/-- The clock stands between `pb` and `pb'`, and for every announcement a timer was set. -/
def Honours (pb pb' : Playback σ) : Prop :=
  ∃ news, pb'.player.log = pb.player.log ++ news ∧ pb'.timers.now = pb.timers.now ∧
    ∀ actors delay, .repeatScheduled actors delay ∈ news → ∃ t, pb.Announces pb' news actors delay t

/-- Where nothing is announced, nothing is to be shown. -/
theorem Honours.of_silent (news : List Event) (hsilent : ∀ e ∈ news, e.isAnnouncement = false)
    (hlog : pb'.player.log = pb.player.log ++ news) (hnow : pb'.timers.now = pb.timers.now) : pb.Honours pb' :=
  ⟨news, hlog, hnow, fun _ _ hmem => Bool.noConfusion (hsilent _ hmem)⟩

theorem Honours.refl (pb : Playback σ) : pb.Honours pb :=
  .of_silent [] (by simp) (List.append_nil _).symm rfl

variable [Display σ] {run : Run} {actors : List ActorId} {s : Snapshot} {token : TimerToken} {flow : Flow}

/-- **A wakeup that announces a repeat run sets the timer for it.** -/
theorem honours_woken (hwoken : Woken pb run actors s pb') : pb.Honours pb' := by
  cases hwoken with
  | moved s' hs hs' heq hplays' =>
    refine .of_silent [.stepApplied pb.player.repeats run.next.step run.last s'.states s'.repeaters]
      (by simp [Event.isAnnouncement]) (by rw [heq]; rfl) ?_
    rw [heq, now_arm]
    rfl
  | asked s' hs hs' hcap heq hplays' =>
    have htimers := (congrArg Playback.timers heq).trans (timers_arm ((pb.shown run s').note _) rfl _ _)
    refine ⟨[.stepApplied pb.player.repeats run.next.step run.last s'.states s'.repeaters,
      .repeatScheduled s'.repeaters (.ofNat (pb.player.hold s' + pb.player.repeatDelay))], ?_,
      by rw [htimers]; rfl, ?_⟩
    · rw [heq]
      exact List.append_assoc _ _ _
    · intro actors delay hmem
      obtain ⟨rfl, rfl⟩ : actors = s'.repeaters ∧
          delay = .ofNat (pb.player.hold s' + pb.player.repeatDelay) := by simpa using hmem
      have hwait : pb.player.hold s' + pb.player.repeatDelay =
          pb.player.config.playback.repeatWait s'.states := by
        rw [pb.player.hold_eq]
        rfl
      refine ⟨⟨pb.timers.now + (pb.player.hold s' + pb.player.repeatDelay), pb.timers.nextToken, .restart⟩,
        ⟨_, _, _, _, List.mem_cons_self, by rw [hwait]⟩, rfl, ?_, ?_, ?_, ?_⟩
      · rw [htimers]
        exact (TimerQueue.mem_pending_schedule _ _ _ _).mpr (Or.inl rfl)
      · intro hmem
        exact Nat.lt_irrefl _ (pb.timers.token_lt _ hmem)
      · rw [hplays'.pending_eq, s'.wakeup_eq_restart_iff.mpr hs']
      · rw [Nat.add_sub_cancel_left]
  | ended s' hs hsnap hend heq hrests =>
    refine .of_silent [.stepApplied pb.player.repeats run.next.step run.last s'.states s'.repeaters, .finished]
      (by simp [Event.isAnnouncement]) ?_ (by rw [heq]; rfl)
    rw [heq]
    exact List.append_assoc _ _ _
  | repeated out first hs hout heq hplays' =>
    exact .of_silent [.repeatStarted (pb.player.repeats + 1) s.repeaters out.1.size]
      (by simp [Event.isAnnouncement]) (by rw [heq]; rfl) (by rw [heq]; rfl)

theorem honours_play (hsound : pb.player.Sound) (flow : Flow) : pb.Honours (pb.call (.play flow)) := by
  by_cases hstarted : ∃ pb', pb.play flow = .ok (.started, pb')
  · obtain ⟨pb', hplay⟩ := hstarted
    have h := (starts_of_play hplay).begins (rests_of_play hsound hplay)
    rw [call, hplay]
    exact .of_silent _ (by simp [Event.isAnnouncement]) h.log_eq (by rw [h.timers_eq]; rfl)
  · rw [call_play_of_not_started fun pb' hplay => hstarted ⟨pb', hplay⟩]
    exact .refl pb

theorem honours_stop (pb : Playback σ) : pb.Honours (pb.call .stop) := by
  rw [call, stop]
  split
  · refine .of_silent [.stopped] (by simp [Event.isAnnouncement]) rfl ?_
    rcases hpending : pb.player.pending? with _ | ⟨own, _⟩ <;> simp [disarm, hpending, TimerQueue.cancel]
  · exact .refl pb

theorem honours_onTimer (hsound : pb.player.Sound) (token : TimerToken) : pb.Honours (pb.onTimer token).2 := by
  by_cases hown : pb.player.pendingToken? = some token
  · obtain ⟨run, actors, s, hplays⟩ := hsound.playsAt hown
    exact honours_woken (woken_of_playsAt hplays)
  · rw [onTimer_of_ne pb hown]
    exact .refl pb

/-- **Every announcement of a repeat run comes with its timer**, whichever call it is that announces it.  What is
told is the time from the clock to this timer, as long as it can be told in 64 bits. -/
theorem announced_in_call (pb : Playback σ) (hreach : pb.player.Reachable) {c : Call}
    (hc : c ≠ .takeEvents) :
    ∃ news, (pb.call c).player.log = pb.player.log ++ news ∧ (pb.call c).timers.now = pb.timers.now ∧
      ∀ actors delay, .repeatScheduled actors delay ∈ news →
        ∃ t, pb.Announces (pb.call c) news actors delay t ∧
          (delay.toNat = t.due - pb.timers.now ↔ t.due - pb.timers.now < UInt64.size) := by
  have hsound := Player.sound_of_reachable hreach
  have hhonours : pb.Honours (pb.call c) := by
    cases c with
    | play flow => exact honours_play hsound flow
    | stop => exact honours_stop pb
    | onTimer token => exact honours_onTimer hsound token
    | compile flow => exact .of_silent [] (by simp) (List.append_nil _).symm rfl
    | takeEvents => exact absurd rfl hc
  obtain ⟨news, hlog, hnow, hannounced⟩ := hhonours
  refine ⟨news, hlog, hnow, ?_⟩
  intro actors delay hmem
  obtain ⟨t, ht⟩ := hannounced actors delay hmem
  refine ⟨t, ht, ?_⟩
  rw [ht.delay_eq, UInt64.toNat_ofNat']
  exact Nat.mod_eq_iff_lt (by decide)

/-- The second step of the sample sends its first actor back, and the third timer is set for this. -/
theorem announced_in_call_sample :
    let pb := ((Sample.idle none).call (.play Sample.flow)).call (.onTimer ⟨0⟩)
    pb.player.Reachable ∧ ∃ news t, (pb.call (.onTimer ⟨1⟩)).player.log = pb.player.log ++ news ∧
      pb.Announces (pb.call (.onTimer ⟨1⟩)) news (.ofKeys [⟨"a"⟩]) 800 t ∧ t.token = ⟨2⟩ := by
  intro pb
  have hreach : pb.player.Reachable := ⟨_, _, _, .call _ _ trivial (.call _ _ trivial .refl)⟩
  obtain ⟨news, hlog, -, hannounced⟩ := announced_in_call pb hreach (c := .onTimer ⟨1⟩) nofun
  have hnews : (pb.player.log ++ news)[4]? = some (.repeatScheduled (.ofKeys [⟨"a"⟩]) 800) := hlog ▸ rfl
  have hmem : .repeatScheduled (.ofKeys [⟨"a"⟩]) 800 ∈ news := List.mem_of_getElem? hnews
  obtain ⟨t, ht, -⟩ := hannounced _ _ hmem
  exact ⟨hreach, news, t, hlog, ht, (Prod.mk.inj (Option.some.inj ht.pending_eq)).1.symm⟩

end Playback

namespace Sample

/-- An actor that greets for a millisecond and starts over. -/
def farewell : Flow :=
  let block (id : String) (b : BuiltIn) : ActionBlock := { id := ⟨id⟩, action := b.kind, target := some ⟨"a"⟩ }
  { id := ⟨"flow"⟩, name := "Flow", blocks := [block "1" .greetForAWhile, block "2" .repeatAnimation] }

/-- The longest delay between runs that a configuration can name. -/
def patient : Playback Stage :=
  { player := {
      registry := .builtIn
      config := {
        playback := { repeatDelay := 18446744073709551615 }
        motion := { greetingHold := 1 } }
      source := .scripted [] }
    display := stage }

end Sample

/-- **A run is announced for now that is due in 2^64 milliseconds.** -/
theorem Playback.announced_in_call_lost :
    Sample.patient.player.config.validate = .ok () ∧
      ∃ pb', Sample.patient.play Sample.farewell = .ok (.started, pb') ∧
        let o := pb'.drain 2
        o.events.getLast? = some (.repeatScheduled (.ofKeys [⟨"a"⟩]) 0) ∧
          o.playback.player.pending? = some (⟨2⟩, .restart) ∧
          o.playback.timers.pending = [⟨o.playback.timers.now + 2 ^ 64, ⟨2⟩, .restart⟩] :=
  ⟨by decide +kernel, _, rfl, rfl, rfl, rfl⟩

end Marionette

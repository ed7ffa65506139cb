import Marionette.Proofs.Playback.Reference
import Marionette.Proofs.Playback.Starting
import Marionette.Proofs.Playback.Tale
import Marionette.Proofs.StepTable.Wanderings
import Mathlib.Algebra.GroupWithZero.Nat

/-!
# Who gets which random value of a play

A play draws when its flow is compiled, and then each time a repeat run is compiled, for the actors of that
run.  Its events tell which actors these are.  So with the built-in actions the events of a play tell how many
values it has drawn, and every step shows the places that were drawn for it: for run number `run` they come
right after those of all runs before.

## Main definitions

* `castsOf` — the actors of the runs of a play, one run after the other.
* `drawsFor` — the number of values that are drawn for some runs.
* `Event.PlacesBy` — a step shows the places that were drawn for it.
* `Score.Drew`, `Score.DrawsAt` — what a play has drawn, and what it will show of this.

## Main results

* `Score.draws_woken` — a wakeup draws for the run that it starts, and for nothing else.
* `Playback.draws_in_turn` — who gets which value, when a flow is compiled and while it is played.
-/

namespace Marionette

/-! ### What events tell of draws -/

/-- The actors of the repeat run that begins. -/
def Event.cast? : Event → Option (List ActorId)
  | .repeatStarted _ actors _ => some actors.keys
  | .started _ | .stepApplied _ _ _ _ _ | .repeatScheduled _ _ | .finished | .stopped => none

/-- The actors of the runs of a play, one run after the other, where `actors` are those of the display. -/
def castsOf (actors : List ActorId) (es : List Event) : List (List ActorId) :=
  actors :: es.filterMap Event.cast?

/-- The number of values that are drawn for some runs. -/
def drawsFor (blocks : List ActionBlock) (casts : List (List ActorId)) : Nat :=
  (casts.map fun actors => 2 * (wanderings blocks actors).length).sum

/-- A step of a run shows the places that were drawn for it: the values for the run come after those for the
runs before it. -/
def Event.PlacesBy (m : MotionConfig) (source : RandomSource) (blocks : List ActionBlock)
    (casts : List (List ActorId)) : Event → Prop
  | .stepApplied run step _ states _ => ∃ cast, casts[run]? = some cast ∧
      ∀ i c, (wanderings blocks cast)[i]? = some c → c.step = step →
        ∃ state, states.get? c.actor = some state ∧
          state.PlacedBy m (source.skip (drawsFor blocks (casts.take run))) i
  | .started _ | .repeatScheduled _ _ | .repeatStarted _ _ _ | .finished | .stopped => True

section

variable {actors : List ActorId} {es : List Event} {e : Event} {m : MotionConfig} {source : RandomSource}
  {blocks : List ActionBlock} {casts : List (List ActorId)}

/-- A table whose wanderings are drawn for shows their places. -/
theorem places_of_wanders {t : StepTable} {cast : List ActorId} {run step : Nat}
    (hcast : casts[run]? = some cast)
    (h : t.Wanders blocks cast m (source.skip (drawsFor blocks (casts.take run)))) {s : Snapshot}
    (hs : t.snapshot? step = some s) (last : Nat) :
    (Event.stepApplied run step last s.states s.repeaters).PlacesBy m source blocks casts := by
  refine ⟨cast, hcast, ?_⟩
  intro i c hc hstep
  obtain ⟨s', state, hs', hstate, hplaced⟩ := h i c hc
  rw [hstep] at hs'
  obtain rfl : s' = s := Option.some.inj (hs'.symm.trans hs)
  exact ⟨state, hstate, hplaced⟩

theorem castsOf_concat (actors : List ActorId) (es : List Event) (e : Event) :
    castsOf actors (es ++ [e]) = castsOf actors es ++ e.cast?.toList := by
  rw [castsOf, castsOf, List.filterMap_append, List.cons_append, List.filterMap_cons]
  cases e.cast? <;> rfl

theorem drawsFor_concat (blocks : List ActionBlock) (casts : List (List ActorId)) (cast : List ActorId) :
    drawsFor blocks (casts ++ [cast]) = drawsFor blocks casts + 2 * (wanderings blocks cast).length := by
  simp [drawsFor]

/-- Runs that come later make no difference to a step. -/
theorem Event.PlacesBy.append (h : e.PlacesBy m source blocks casts) (later : List (List ActorId)) :
    e.PlacesBy m source blocks (casts ++ later) := by
  cases e with
  | stepApplied run step last states repeaters =>
    obtain ⟨cast, hcast, hplaced⟩ := h
    have hlt : run < casts.length := (List.getElem?_eq_some_iff.mp hcast).1
    refine ⟨cast, by rw [List.getElem?_append_left hlt, hcast], ?_⟩
    rwa [List.take_append_of_le_length (Nat.le_of_lt hlt)]
  | _ => trivial

end

/-! ### What a play has drawn -/

namespace Score

/-- The events `es` tell what was drawn from `source`, since `old` was told.  The observer has been given
`past`. -/
structure Drew (sc : Score) (actors : List ActorId) (source : RandomSource) (old past es : List Event)
    (p : Player) : Prop where
  log_eq : past ++ p.log = old ++ es
  source_eq : p.source = source.skip (drawsFor sc.blocks (castsOf actors es))
  places : ∀ e ∈ es, e.PlacesBy sc.config.motion source sc.blocks (castsOf actors es)

/-- In addition, the run that is on the display has all its places. -/
structure DrawsAt (sc : Score) (actors : List ActorId) (source : RandomSource) (old past es : List Event)
    (p : Player) (run : Run) (s : Snapshot) : Prop extends sc.Drew actors source old past es p where
  performs : sc.Performs p run s
  repeats_eq : (castsOf actors es).length = p.repeats + 1
  wanders : ∃ cast, (castsOf actors es)[p.repeats]? = some cast ∧
    run.table.Wanders sc.blocks cast sc.config.motion
      (source.skip (drawsFor sc.blocks ((castsOf actors es).take p.repeats)))

variable {sc : Score} {actors : List ActorId} {source : RandomSource} {old past es : List Event}
  {p p' : Player} {run run' : Run} {cast : List ActorId} {s s' : Snapshot} {token : TimerToken} {e : Event}

/-- An event that begins no run tells of no draws. -/
theorem Drew.note (h : sc.Drew actors source old past es p) (hcast : e.cast? = none)
    (he : e.PlacesBy sc.config.motion source sc.blocks (castsOf actors es))
    (hlog : p'.log = p.log ++ [e]) (hsource : p'.source = p.source) :
    sc.Drew actors source old past (es ++ [e]) p' := by
  have hcasts : castsOf actors (es ++ [e]) = castsOf actors es := by
    rw [castsOf_concat, hcast]
    exact List.append_nil _
  refine ⟨?_, ?_, ?_⟩
  · rw [hlog, ← List.append_assoc, h.log_eq, List.append_assoc]
  · rw [hcasts, hsource, h.source_eq]
  · rw [hcasts]
    intro e' he'
    rcases List.mem_append.mp he' with he' | he'
    · exact h.places e' he'
    · rw [List.mem_singleton.mp he']
      exact he

theorem DrawsAt.note (h : sc.DrawsAt actors source old past es p run s) (hcast : e.cast? = none)
    (he : e.PlacesBy sc.config.motion source sc.blocks (castsOf actors es))
    (hlog : p'.log = p.log ++ [e]) (hsource : p'.source = p.source) (hrepeats : p'.repeats = p.repeats)
    (hperforms : sc.Performs p' run' s') (htable : run'.table = run.table) :
    sc.DrawsAt actors source old past (es ++ [e]) p' run' s' := by
  have hcasts : castsOf actors (es ++ [e]) = castsOf actors es := by
    rw [castsOf_concat, hcast]
    exact List.append_nil _
  refine ⟨h.toDrew.note hcast he hlog hsource, hperforms, ?_, ?_⟩
  · rw [hcasts, hrepeats]
    exact h.repeats_eq
  · rw [hcasts, hrepeats, htable]
    exact h.wanders

/-- The next step of the run shows its places. -/
theorem DrawsAt.places_next (h : sc.DrawsAt actors source old past es p run s)
    (hs' : run.next.snapshot? = some s') :
    (Event.stepApplied p.repeats run.next.step run.last s'.states s'.repeaters).PlacesBy sc.config.motion source
      sc.blocks (castsOf actors es) := by
  obtain ⟨cast, hcast, hwanders⟩ := h.wanders
  exact places_of_wanders hcast hwanders hs' _

variable {σ : Type} {pb pb' : Playback σ}

/-- A repeat run draws after all runs before it. -/
theorem DrawsAt.repeated (h : sc.DrawsAt actors source old past es pb.player run s)
    (hregistry : sc.registry = .builtIn) (hplays : pb.player.PlaysAt run cast s token)
    {out : StepTable × RandomSource} {first : Snapshot} {token' : TimerToken}
    (hout : (pb.player.nextTable run s).run pb.player.source = out)
    (hplays' : (pb.restarted run s out).player.PlaysAt
      { blocks := Playback.blocksOf s.repeaters run.blocks, table := out.1 } s.repeaters.keys first token') :
    sc.DrawsAt actors source old past (es ++ [.repeatStarted (pb.player.repeats + 1) s.repeaters out.1.size])
      (pb.restarted run s out).player { blocks := Playback.blocksOf s.repeaters run.blocks, table := out.1 }
      first := by
  have hcasts : castsOf actors (es ++ [.repeatStarted (pb.player.repeats + 1) s.repeaters out.1.size]) =
      castsOf actors es ++ [s.repeaters.keys] := castsOf_concat _ _ _
  have hrepeats : (pb.restarted run s out).player.repeats = (castsOf actors es).length := h.repeats_eq.symm
  obtain ⟨hsource, hwanders⟩ := StepTable.wanders_recompile sc.config.surroundings sc.blocks
    (s.statesOf s.repeaters) s.repeaters pb.player.source
  rw [← hregistry, ← nextTable, h.performs.nextTable_eq hplays, hout] at hsource hwanders
  refine ⟨⟨?_, ?_, ?_⟩, h.performs.again hplays hplays' rfl rfl, ?_, ?_⟩
  · show past ++ (pb.player.log ++ [_]) = _
    rw [← List.append_assoc, h.log_eq, List.append_assoc]
  · rw [hcasts, drawsFor_concat, ← RandomSource.skip_skip, ← h.source_eq]
    exact hsource
  · rw [hcasts]
    intro e he
    rcases List.mem_append.mp he with he | he
    · exact (h.places e he).append _
    · rw [List.mem_singleton.mp he]
      trivial
  · rw [hcasts, List.length_append, h.repeats_eq]
    rfl
  · refine ⟨s.repeaters.keys, ?_, ?_⟩
    · rw [hcasts, hrepeats, List.getElem?_concat_length]
    · rw [hcasts, hrepeats, List.take_left, ← h.source_eq]
      exact hwanders

variable [Display σ]

/-- **A wakeup draws for the run that it starts**, and for nothing else. -/
theorem draws_woken (hregistry : sc.registry = .builtIn) (hplays : pb.player.PlaysAt run cast s token)
    (h : ∃ es, sc.DrawsAt actors source old past es pb.player run s)
    (hwoken : Playback.Woken pb run cast s pb') :
    pb'.player.Stands (∃ es, sc.Drew actors source old past es pb'.player)
      (fun run s => ∃ es, sc.DrawsAt actors source old past es pb'.player run s) := by
  obtain ⟨es, h⟩ := h
  cases hwoken with
  | moved s' hs hs' heq hplays' =>
    subst heq
    exact .plays _ _ _ _ hplays' ⟨_, h.note rfl (h.places_next hplays'.snapshot_eq) rfl rfl rfl
      (h.performs.next hplays hplays'.snapshot_eq rfl rfl) rfl⟩
  | asked s' hs hs' hcap heq hplays' =>
    subst heq
    have hshown : sc.DrawsAt actors source old past _ (pb.shown run s').player run.next s' :=
      h.note rfl (h.places_next hplays'.snapshot_eq) rfl rfl rfl
        (h.performs.next hplays hplays'.snapshot_eq rfl rfl) rfl
    exact .plays _ _ _ _ hplays' ⟨_, hshown.note (e := .repeatScheduled _ _) rfl trivial rfl rfl rfl
      (h.performs.next hplays hplays'.snapshot_eq rfl rfl) rfl⟩
  | ended s' hs hsnap hend heq hrests =>
    subst heq
    have hshown : sc.Drew actors source old past _ (pb.shown run s').player :=
      h.toDrew.note rfl (h.places_next hsnap) rfl rfl
    exact .rests hrests ⟨_, hshown.note (e := .finished) rfl trivial rfl rfl⟩
  | repeated out first hs hout heq hplays' =>
    subst heq
    exact .plays _ _ _ _ hplays' ⟨_, h.repeated hregistry hplays hout hplays'⟩

/-! ### Calls -/

/-- Whether a player rests or waits, its events tell what it has drawn. -/
def Draws (sc : Score) (actors : List ActorId) (source : RandomSource) (old past : List Event)
    (p : Player) : Prop :=
  p.Stands (∃ es, sc.Drew actors source old past es p)
    (fun run s => ∃ es, sc.DrawsAt actors source old past es p run s)

theorem Draws.exists_drew (h : sc.Draws actors source old past p) :
    ∃ es, sc.Drew actors source old past es p := by
  rcases h with ⟨-, h⟩ | ⟨run, cast, s, token, -, es, h⟩
  · exact h
  · exact ⟨es, h.toDrew⟩

/-- It makes no difference which of the events were handed out. -/
theorem Draws.handOut (h : sc.Draws actors source old past p) {told log : List Event}
    (hlog : told ++ log = past ++ p.log) : sc.Draws actors source old told { p with log } := by
  refine Player.Stands.imp (Player.Stands.congr h rfl rfl rfl rfl) ?_ ?_
  · rintro ⟨es, h⟩
    exact ⟨es, hlog.trans h.log_eq, h.source_eq, h.places⟩
  · rintro run s ⟨es, h⟩
    exact ⟨es, ⟨hlog.trans h.log_eq, h.source_eq, h.places⟩,
      ⟨h.performs.registry_eq, h.performs.config_eq, h.performs.laneOf_eq⟩, h.repeats_eq, h.wanders⟩

end Score

/-- The call begins no play and compiles nothing. -/
def Call.Continues : Call → Prop
  | .stop | .onTimer _ | .takeEvents => True
  | .play _ | .compile _ => False

namespace Playback

variable {σ : Type} [Display σ] {pb pb' : Playback σ} {flow : Flow} {sc : Score} {actors : List ActorId}
  {source : RandomSource} {old past : List Event}

/-- A flow that starts has drawn for the actors of the display. -/
theorem Starts.draws (h : pb.Starts flow pb') (hregistry : pb.player.registry = .builtIn) :
    (pb.score flow).Draws (Display.actorIds pb.display) pb.player.source pb.player.log [] pb'.player := by
  obtain ⟨first, hstart, hplays⟩ := h.exists_playsAt
  obtain ⟨hsource, hwanders⟩ := StepTable.wanders_compile pb.player.config.surroundings flow.blocks
    (Display.actorIds pb.display) (Display.currentStates pb.display) pb.player.source
  rw [← hregistry] at hsource hwanders
  refine .plays _ _ _ _ hplays ⟨[.started (pb.compile flow).1.size,
    .stepApplied 0 0 (pb.compile flow).1.last first.states first.repeaters], ⟨?_, ?_, ?_⟩, ?_, ?_, ?_⟩
  · rw [hstart, player_arm]
    exact List.append_assoc _ _ _
  · rw [hstart, player_arm]
    exact hsource
  · intro e he
    rcases List.mem_cons.mp he with rfl | he
    · trivial
    · rw [List.mem_singleton.mp he]
      exact places_of_wanders rfl hwanders hplays.snapshot_eq _
  · rw [hstart, player_arm]
    exact ⟨rfl, rfl, fun a _ => rfl⟩
  · rw [hstart, player_arm]
    rfl
  · rw [hstart, player_arm]
    exact ⟨Display.actorIds pb.display, rfl, hwanders⟩

theorem draws_call (h : sc.Draws actors source old past pb.player) (hregistry : sc.registry = .builtIn)
    {c : Call} (hc : c.Continues) :
    sc.Draws actors source old (past ++ pb.handedOut c) (pb.call c).player := by
  cases c with
  | play flow => exact hc.elim
  | compile flow => exact hc.elim
  | stop =>
    rw [handedOut, List.append_nil, call]
    rcases h with ⟨hrests, h⟩ | ⟨run, cast, s, token, hplays, es, h⟩
    · rw [stop_of_idle pb hrests.isRunning_eq]
      exact .rests hrests h
    · rw [stop, hplays.isRunning_eq]
      exact .rests ⟨rfl, rfl, rfl⟩ ⟨_, h.toDrew.note (e := .stopped) rfl trivial rfl rfl⟩
  | onTimer token =>
    rw [handedOut, List.append_nil]
    exact stands_onTimer (A := fun p _ => ∃ es, sc.Drew actors source old past es p)
      (B := fun p _ run s => ∃ es, sc.DrawsAt actors source old past es p run s)
      (fun _ _ _ _ _ _ hplays h hwoken => Score.draws_woken hregistry hplays h hwoken) pb token h
  | takeEvents =>
    exact h.handOut (List.append_nil _)

theorem draws_perform (h : sc.Draws actors source old past pb.player) (hregistry : sc.registry = .builtIn)
    {calls : List (TimerQueue × Call)} (hcalls : ∀ call ∈ calls, call.2.Continues) :
    sc.Draws actors source old (past ++ (pb.perform calls).1) (pb.perform calls).2.player := by
  induction calls generalizing pb past with
  | nil =>
    rw [perform, List.append_nil]
    exact h
  | cons call rest ih =>
    obtain ⟨timers, c⟩ := call
    rw [List.forall_mem_cons] at hcalls
    have htimers : sc.Draws actors source old past ({ pb with timers } : Playback σ).player := h
    rw [perform, ← List.append_assoc]
    exact ih (draws_call htimers hregistry hcalls.1) hcalls.2

/-- **Who gets which random value**, with the built-in actions.  List the blocks of the listed actors that go
to a random place by their steps, and within a step as their actors are listed.  A table that is compiled draws
two values for each of them and none besides: for the one at index `i` the values `2 * i` and `2 * i + 1`, which
are its `x` and its `y`.

A play draws for its runs one after the other, for the actors of the display first and then for those of each
repeat run in the order of the set.  Its events tell whom it has drawn for, and every step shows the places
that were drawn for it.  A flow that is refused or has nothing to play draws nothing. -/
theorem draws_in_turn (pb : Playback σ) (flow : Flow) (hregistry : pb.player.registry = .builtIn) :
    (∀ (blocks : List ActionBlock) (actors : List ActorId),
      (∀ c, c ∈ wanderings blocks actors ↔
        c.actor ∈ actors ∧ c.block.action = BuiltIn.goToRandomPlace.kind ∧
          ∃ k, c.step = k + 1 ∧ (laneOf blocks c.actor)[k]? = some c.block) ∧
      (wanderings blocks actors).Pairwise (Cue.Before actors)) ∧
    (∀ around blocks actors seed (source : RandomSource),
      let out := (StepTable.compile .builtIn around blocks actors seed).run source
      out.2 = source.skip (2 * (wanderings blocks actors).length) ∧
        out.1.Wanders blocks actors around.motion source) ∧
    (∀ pb', pb.play flow = .ok (.started, pb') →
      ∀ calls, (∀ call ∈ calls, call.2.Continues) →
        let (told, now) := pb'.perform calls
        ∃ es, told ++ now.player.log = pb.player.log ++ es ∧
          let casts := castsOf (Display.actorIds pb.display) es
          now.player.source = pb.player.source.skip (drawsFor flow.blocks casts) ∧
            ∀ e ∈ es, e.PlacesBy pb.player.config.motion pb.player.source flow.blocks casts) ∧
    ((∀ pb', pb.play flow ≠ .ok (.started, pb')) →
      (pb.call (.play flow)).player.source = pb.player.source) := by
  refine ⟨fun blocks actors => ⟨fun c => mem_wanderings_iff, pairwise_wanderings blocks actors⟩,
    StepTable.wanders_compile, ?_, ?_⟩
  · intro pb' hplay calls hcalls
    have hdraws := draws_perform ((starts_of_play hplay).draws hregistry) hregistry hcalls
    obtain ⟨es, hdrew⟩ := hdraws.exists_drew
    exact ⟨es, hdrew.log_eq, hdrew.source_eq, hdrew.places⟩
  · intro hnot
    rw [call_play_of_not_started hnot]

end Playback

/-! ### A sample

Two actors go to a random place, and the first of them starts over. -/

namespace Sample

def wanderers : Flow :=
  let block (id : String) (b : BuiltIn) (actor : String) : ActionBlock :=
    { id := ⟨id⟩, action := b.kind, target := some ⟨actor⟩ }
  { id := ⟨"flow"⟩
    name := "Flow"
    blocks := [block "1" .goToRandomPlace "b", block "2" .goToRandomPlace "a", block "3" .repeatAnimation "a"] }

/-- A new player of the built-in actions in front of them. -/
def aimless : Playback Stage :=
  { player := { registry := .builtIn, config := {}, source := .scripted [0.25, 0.5, 0.75] }, display := stage }

end Sample

/-- The play has drawn four values for both of them and then two for the first. -/
theorem Playback.draws_in_turn_sample :
    let pb := Sample.aimless
    pb.player.registry = .builtIn ∧ ∃ pb', pb.play Sample.wanderers = .ok (.started, pb') ∧
      (pb'.perform (.replicate 3 (.empty, .onTimer ⟨0⟩))).2.player.source = pb.player.source.skip (4 + 2) := by
  obtain ⟨-, -, hplayed, -⟩ := draws_in_turn Sample.aimless Sample.wanderers rfl
  refine ⟨rfl, _, rfl, ?_⟩
  obtain ⟨es, hlog, hsource, -⟩ :=
    hplayed _ rfl (.replicate 3 (.empty, .onTimer ⟨0⟩)) (by simp [Call.Continues])
  have hcasts : castsOf (Display.actorIds Sample.aimless.display) es = [[⟨"a"⟩, ⟨"b"⟩], [⟨"a"⟩]] := by
    rw [show es = _ from hlog.symm]
    rfl
  rw [hcasts] at hsource
  exact hsource

end Marionette

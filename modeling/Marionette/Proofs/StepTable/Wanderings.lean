import Marionette.Proofs.BuiltIn
import Marionette.Proofs.StepTable.Accounts

/-!
# Who gets which random value

Of the built-in actions only going to a random place draws, and it draws twice.  So a table that is compiled
with them says by itself what it has drawn: list the blocks of the listed actors that go to a random place, by
their steps and within a step as the actors are listed.  The one at index `i` stands where the values `2 * i`
and `2 * i + 1` have put it, and nothing else is drawn.

## Main definitions

* `Cue.wanders`, `wanderings` — the blocks that go to a random place, in the order in which they come.
* `ActorState.PlacedBy` — a state is where two values of a source have put it.
* `StepTable.Wanders` — a table shows all wanderings where the values of a source have put them.

## Main results

* `mem_wanderings_iff`, `pairwise_wanderings` — which blocks these are, and in which order they come.
* `wanders_carryOut` — blocks that are done one after the other draw for the wanderings among them.
* `StepTable.wanders_compile`, `StepTable.wanders_recompile` — so does a table.
-/

namespace Marionette

/-! ### Wanderings -/

/-- Whether the block goes to a random place. -/
def Cue.wanders (c : Cue) : Bool := c.block.action = BuiltIn.goToRandomPlace.kind

/-- The blocks of the listed actors that go to a random place, in the order in which they come. -/
def wanderings (blocks : List ActionBlock) (actors : List ActorId) : List Cue :=
  (programme (lanesOf blocks actors) 0 (longest (lanesOf blocks actors))).filter Cue.wanders

theorem mem_wanderings_iff {blocks : List ActionBlock} {actors : List ActorId} {c : Cue} :
    c ∈ wanderings blocks actors ↔
      c.actor ∈ actors ∧ c.block.action = BuiltIn.goToRandomPlace.kind ∧
        ∃ k, c.step = k + 1 ∧ (laneOf blocks c.actor)[k]? = some c.block := by
  rw [wanderings, List.mem_filter, mem_programme_iff, Cue.wanders, decide_eq_true_eq]
  constructor
  · rintro ⟨⟨ha, k, -, -, hstep, hb⟩, hkind⟩
    exact ⟨ha, hkind, k, hstep, hb⟩
  · rintro ⟨ha, hkind, k, hstep, hb⟩
    have hlt := Nat.lt_of_lt_of_le (List.getElem?_eq_some_iff.mp hb).1 (length_laneOf_le_longest blocks ha)
    exact ⟨⟨ha, k, Nat.zero_le k, (Nat.zero_add _).symm ▸ hlt, hstep, hb⟩, hkind⟩

/-- They come by their steps and within a step as their actors are listed. -/
theorem pairwise_wanderings (blocks : List ActionBlock) (actors : List ActorId) :
    (wanderings blocks actors).Pairwise (Cue.Before actors) :=
  (pairwise_programme blocks actors 0 _).filter _

/-- The built-in registry knows what wanders. -/
theorem Cue.knows_of_wanders {c : Cue} (h : c.wanders = true) : Registry.builtIn.knows c = true := by
  rw [wanders, decide_eq_true_eq] at h
  rw [Registry.knows, Registry.contains, Registry.find?_builtIn, h, BuiltIn.named?_kind]
  rfl

/-! ### Places -/

namespace ActorState

/-- The state is where the values `2 * i` and `2 * i + 1` that the source has from now on have put it. -/
structure PlacedBy (s : ActorState) (m : MotionConfig) (source : RandomSource) (i : Nat) : Prop where
  x_eq : s.x = wholeBetween m.randomMin m.randomMax (source.value (source.drawn + 2 * i))
  y_eq : s.y = wholeBetween m.randomMin m.randomMax (source.value (source.drawn + (2 * i + 1)))

theorem placedBy_skip_iff {s : ActorState} {m : MotionConfig} {source : RandomSource} {n i : Nat} :
    s.PlacedBy m (source.skip (2 * n)) i ↔ s.PlacedBy m source (n + i) := by
  have hx : source.drawn + 2 * n + 2 * i = source.drawn + 2 * (n + i) := by omega
  have hy : source.drawn + 2 * n + (2 * i + 1) = source.drawn + (2 * (n + i) + 1) := by omega
  constructor
  · rintro ⟨h, h'⟩
    exact ⟨hx ▸ h, hy ▸ h'⟩
  · rintro ⟨h, h'⟩
    exact ⟨hx.symm ▸ h, hy.symm ▸ h'⟩

end ActorState

namespace Registry

variable {c : Cue}

/-- A block that goes to a random place draws twice. -/
theorem run_turn_of_wanders (around : Surroundings) (h : c.wanders = true) (s : ActorState)
    (source : RandomSource) :
    ∃ s', (builtIn.turn around c.actor s (some c.block)).run source = (s', source.skip 2) ∧
      s'.PlacedBy around.motion source 0 := by
  rw [Cue.wanders, decide_eq_true_eq] at h
  rw [turn_builtIn, h, BuiltIn.named?_kind]
  exact ⟨_, s.run_goToRandomPlace around source, rfl, rfl⟩

/-- Every other block draws nothing. -/
theorem exists_turn_eq_done (around : Surroundings) (h : c.wanders = false) (s : ActorState) :
    ∃ s', builtIn.turn around c.actor s (some c.block) = .done s' := by
  rw [Cue.wanders, decide_eq_false_iff_not] at h
  rw [turn_builtIn]
  rcases hnamed : BuiltIn.named? c.block.action with _ | act
  · exact ⟨s, rfl⟩
  · refine BuiltIn.exists_transition_eq_done ?_ around c.actor s
    rintro rfl
    exact h (BuiltIn.kind_of_named? hnamed).symm

end Registry

/-! ### Tables -/

theorem run_carryOut_cons {r : Registry} {around : Surroundings} {c : Cue} {pose : ActorId → ActorState}
    {s : ActorState} {source source' : RandomSource}
    (h : (r.turn around c.actor (pose c.actor) (some c.block)).run source = (s, source')) (cs : List Cue) :
    (carryOut r around (c :: cs) pose).run source =
      let later := (carryOut r around cs (Function.update pose c.actor s)).run source'
      ((c, s) :: later.1, later.2) := by
  rw [carryOut, Chance.run_bind, h, Chance.run_bind]
  rfl

/-- **Blocks that are done one after the other draw for the wanderings among them**, twice for each, and for
nothing else. -/
theorem wanders_carryOut (around : Surroundings) (cs : List Cue) (pose : ActorId → ActorState)
    (source : RandomSource) :
    let out := (carryOut .builtIn around cs pose).run source
    out.2 = source.skip (2 * (cs.filter Cue.wanders).length) ∧
      ∀ (i : Nat) (e : Cue × ActorState), (out.1.filter (·.1.wanders))[i]? = some e →
        e.2.PlacedBy around.motion source i := by
  induction cs generalizing pose source with
  | nil => exact ⟨rfl, fun i e he => by simp [carryOut] at he⟩
  | cons c cs ih =>
    rcases hwanders : c.wanders with _ | _
    · obtain ⟨s, hs⟩ := Registry.exists_turn_eq_done around hwanders (pose c.actor)
      have hrun := congrArg (Chance.run · source) hs
      obtain ⟨hsource, hplaced⟩ := ih (Function.update pose c.actor s) source
      rw [run_carryOut_cons hrun]
      dsimp only
      rw [List.filter_cons_of_neg (by simp [hwanders]), List.filter_cons_of_neg (by simp [hwanders])]
      exact ⟨hsource, hplaced⟩
    · obtain ⟨s, hs, hplace⟩ :=
        Registry.run_turn_of_wanders around hwanders (pose c.actor) source
      obtain ⟨hsource, hplaced⟩ := ih (Function.update pose c.actor s) (source.skip (2 * 1))
      rw [run_carryOut_cons hs]
      dsimp only
      rw [List.filter_cons_of_pos hwanders, List.filter_cons_of_pos (by exact hwanders), List.length_cons]
      constructor
      · rw [Nat.mul_succ, Nat.add_comm, ← RandomSource.skip_skip]
        exact hsource
      · intro i e he
        cases i with
        | zero =>
          cases he
          exact hplace
        | succ i =>
          rw [Nat.add_comm, ← ActorState.placedBy_skip_iff]
          exact hplaced i e he

namespace StepTable

/-- The table shows all wanderings where the values of the source have put them. -/
def Wanders (t : StepTable) (blocks : List ActionBlock) (actors : List ActorId) (m : MotionConfig)
    (source : RandomSource) : Prop :=
  ∀ i c, (wanderings blocks actors)[i]? = some c → ∃ s state, t.snapshot? c.step = some s ∧
    s.state? c.actor = some state ∧ state.PlacedBy m source i

variable {around : Surroundings} {blocks : List ActionBlock} {actors : List ActorId} {seed : StateMap}
  {source : RandomSource}

theorem wanders_ofLanes (around : Surroundings) (blocks : List ActionBlock) (actors : List ActorId)
    (seed : StateMap) (source : RandomSource) :
    let out := (ofLanes .builtIn around (lanesOf blocks actors) seed).run source
    out.2 = source.skip (2 * (wanderings blocks actors).length) ∧
      out.1.Wanders blocks actors around.motion source := by
  obtain ⟨-, done, hdone, hshown⟩ :=
    run_ofLanes .builtIn around (nodup_actor_lanesOf blocks actors) seed source
  obtain ⟨cues, hcues⟩ :
    ∃ cues, programme (lanesOf blocks actors) 0 (longest (lanesOf blocks actors)) = cues := ⟨_, rfl⟩
  have hwanderings : (cues.filter Registry.builtIn.knows).filter Cue.wanders = wanderings blocks actors := by
    rw [wanderings, hcues, List.filter_filter]
    refine List.filter_congr fun c _ => ?_
    rcases hwanders : c.wanders with _ | _
    · rfl
    · rw [Cue.knows_of_wanders hwanders]
      rfl
  rw [hcues] at hdone
  obtain ⟨hsource, hplaced⟩ := wanders_carryOut around (cues.filter Registry.builtIn.knows)
    (fun a => (seed.get? a).getD default) source
  rw [hdone, hwanderings] at hsource
  rw [hdone] at hplaced
  have hdoneCues : done.map (·.1) = cues.filter Registry.builtIn.knows :=
    map_fst_of_yields_carryOut (hdone ▸ Chance.yields_run _ source)
  have hfst : (done.filter (·.1.wanders)).map (·.1) = wanderings blocks actors := by
    rw [← hwanderings, ← hdoneCues, List.filter_map]
    rfl
  refine ⟨hsource, ?_⟩
  intro i c hc
  rw [← hfst, List.getElem?_map] at hc
  obtain ⟨e, he, rfl⟩ := Option.map_eq_some_iff.mp hc
  obtain ⟨s, hs, hstate⟩ := hshown e (List.mem_filter.mp (List.mem_of_getElem? he)).1
  exact ⟨s, e.2, hs, hstate, hplaced i e he⟩

/-- **A compiled table draws for its wanderings.** -/
theorem wanders_compile (around : Surroundings) (blocks : List ActionBlock) (actors : List ActorId)
    (seed : StateMap) (source : RandomSource) :
    let out := (compile .builtIn around blocks actors seed).run source
    out.2 = source.skip (2 * (wanderings blocks actors).length) ∧
      out.1.Wanders blocks actors around.motion source := by
  rw [run_compile]
  exact wanders_ofLanes around blocks actors seed source

/-- A table of a repeat run draws for its wanderings, where the actors are in the order of the set. -/
theorem wanders_recompile (around : Surroundings) (blocks : List ActionBlock) (seed : StateMap)
    (set : ActorSet) (source : RandomSource) :
    let out := (recompile .builtIn around blocks seed set).run source
    out.2 = source.skip (2 * (wanderings blocks set.keys).length) ∧
      out.1.Wanders blocks set.keys around.motion source :=
  wanders_ofLanes around blocks set.keys seed source

end StepTable

end Marionette

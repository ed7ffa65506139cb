import Marionette.Proofs.StepTable.Fates
import Mathlib.Logic.Function.Basic

/-!
# A table accounts for every block

Compiling is nothing but its programme carried out: the blocks of listed actors are done one after the other,
each once, from the state in which its actor is by then, and nothing else is drawn.  What a block makes of its
actor is what the snapshot of its step shows of this actor.  Together with the fates of the blocks this
accounts for a whole flow.

## Main definitions

* `carryOut` — do blocks one after the other, each once.
* `StepTable.Accounts` — a table accounts for every block.

## Main results

* `Snapshot.next_eq`, `Snapshot.run_following` — compiling carries out the programme.
* `StepTable.accounts_compile` — a compiled table accounts for every block.
-/

namespace Marionette

/-! ### Carrying the programme out -/

/-- Do blocks one after the other, each from the state that its actor is in by then.  The result says what
each of them has made of its actor. -/
def carryOut (r : Registry) (around : Surroundings) :
    List Cue → (ActorId → ActorState) → Chance (List (Cue × ActorState))
  | [], _ => pure []
  | c :: cs, pose => do
    let s ← r.turn around c.actor (pose c.actor) (some c.block)
    let rest ← carryOut r around cs (Function.update pose c.actor s)
    pure ((c, s) :: rest)

/-- The states of all actors after some blocks were done. -/
def posedBy (done : List (Cue × ActorState)) (pose : ActorId → ActorState) : ActorId → ActorState :=
  done.foldl (fun pose e => Function.update pose e.1.actor e.2) pose

variable {r : Registry} {around : Surroundings}

theorem carryOut_append (cs cs' : List Cue) (pose : ActorId → ActorState) :
    carryOut r around (cs ++ cs') pose = (carryOut r around cs pose >>= fun done =>
      carryOut r around cs' (posedBy done pose) >>= fun done' => pure (done ++ done')) := by
  induction cs generalizing pose with
  | nil => exact (Chance.bind_done _).symm
  | cons c cs ih =>
    simp only [List.cons_append, carryOut, ih, bind_assoc, pure_bind]
    rfl

/-- What is carried out are the cues, each once. -/
theorem map_fst_of_yields_carryOut {cs : List Cue} {pose : ActorId → ActorState}
    {done : List (Cue × ActorState)} (h : (carryOut r around cs pose).Yields done) :
    done.map (·.1) = cs := by
  induction cs generalizing pose done with
  | nil =>
    cases h
    rfl
  | cons c cs ih =>
    obtain ⟨s, -, h⟩ := (Chance.yields_bind_iff _ _ _).mp h
    obtain ⟨rest, hrest, h⟩ := (Chance.yields_bind_iff _ _ _).mp h
    cases h
    exact congrArg (c :: ·) (ih hrest)

namespace Snapshot

/-- The state of an actor; one without a state is in the default. -/
def pose (s : Snapshot) (a : ActorId) : ActorState := (s.state? a).getD default

/-- The snapshot with what a block has made of its actor. -/
def record (r : Registry) (s : Snapshot) (e : Cue × ActorState) : Snapshot :=
  { states := s.states.insert e.1.actor e.2
    repeaters := if r.isRepeat e.1.block.action then s.repeaters.insert e.1.actor () else s.repeaters }

theorem pose_record (s : Snapshot) (e : Cue × ActorState) :
    (s.record r e).pose = Function.update s.pose e.1.actor e.2 := by
  funext a
  rcases eq_or_ne a e.1.actor with rfl | hne
  · rw [Function.update_self, pose, record, state?, SortedMap.get?_insert_self]
    rfl
  · rw [Function.update_of_ne hne, pose, record, state?, SortedMap.get?_insert_of_ne _ _ hne]
    rfl

theorem pose_foldl_record (s : Snapshot) (done : List (Cue × ActorState)) :
    (done.foldl (record r) s).pose = posedBy done s.pose := by
  induction done generalizing s with
  | nil => rfl
  | cons e done ih => rw [List.foldl_cons, ih, pose_record]; rfl

theorem state?_foldl_record_of_notMem (s : Snapshot) {done : List (Cue × ActorState)} {a : ActorId}
    (ha : a ∉ done.map (·.1.actor)) : (done.foldl (record r) s).state? a = s.state? a := by
  induction done generalizing s with
  | nil => rfl
  | cons e done ih =>
    rw [List.map_cons, List.mem_cons, not_or] at ha
    rw [List.foldl_cons, ih _ ha.2]
    exact SortedMap.get?_insert_of_ne _ _ ha.1

/-- What a block has made of its actor stays on record where no other block is for this actor. -/
theorem state?_foldl_record (s : Snapshot) {done : List (Cue × ActorState)}
    (hnodup : (done.map (·.1.actor)).Nodup) {e : Cue × ActorState} (he : e ∈ done) :
    (done.foldl (record r) s).state? e.1.actor = some e.2 := by
  induction done generalizing s with
  | nil => cases he
  | cons e' done ih =>
    rw [List.map_cons, List.nodup_cons] at hnodup
    rw [List.foldl_cons]
    rcases List.mem_cons.mp he with rfl | he
    · rw [state?_foldl_record_of_notMem _ hnodup.1]
      exact SortedMap.get?_insert_self _ _ _
    · exact ih _ hnodup.2 he

end Snapshot

/-- A turn does the block of its lane, or leaves a note. -/
theorem Lane.act_eq (l : Lane) (prior : Snapshot) (k : Nat) (t : Turn) :
    l.act r around prior (k + 1) t =
      match l.cue? k with
      | none => pure t
      | some c =>
        if r.knows c then do
          let s ← r.turn around c.actor (prior.pose c.actor) (some c.block)
          pure { t with snapshot := t.snapshot.record r (c, s) }
        else pure { t with skipped := t.skipped ++ [c.note] } := by
  rw [act, cue?, Nat.add_sub_cancel]
  rcases l.blocks[k]? with _ | b
  · rfl
  · dsimp only [Option.map_some]
    rcases hfind : r.find? b.action with _ | action
    · simp [Registry.perform?, Registry.knows, Registry.contains, hfind]
      rfl
    · simp [Registry.perform?, Registry.knows, Registry.contains, Registry.turn, hfind]
      rfl

namespace Snapshot

variable {lanes : List Lane}

/-- A step carries the cues of its lanes out. -/
theorem foldlM_act_eq (hnodup : (lanes.map (·.actor)).Nodup) (prior : Snapshot) (k : Nat) (t : Turn)
    (hpose : ∀ l ∈ lanes, t.snapshot.pose l.actor = prior.pose l.actor) :
    (lanes.foldlM (fun t l => l.act r around prior (k + 1) t) t) =
      (carryOut r around ((cuesAt lanes k).filter r.knows) t.snapshot.pose >>= fun done =>
        pure {
          snapshot := done.foldl (record r) t.snapshot
          skipped := t.skipped ++ ((cuesAt lanes k).filter (!r.knows ·)).map Cue.note }) := by
  induction lanes generalizing t with
  | nil => simp [cuesAt, carryOut]
  | cons l ls ih =>
    rw [List.map_cons, List.nodup_cons] at hnodup
    rw [List.foldlM_cons, Lane.act_eq, cuesAt_cons]
    rcases hcue : l.cue? k with _ | c
    · exact ih hnodup.2 t fun m hm => hpose m (List.mem_cons_of_mem _ hm)
    · have hactor : c.actor = l.actor := by
        obtain ⟨b, -, rfl⟩ := Option.map_eq_some_iff.mp hcue
        rfl
      rw [Option.toList_some, List.singleton_append]
      dsimp only
      rcases hknows : r.knows c with _ | _
      · rw [List.filter_cons_of_neg (by simp [hknows]), List.filter_cons_of_pos (by simp [hknows])]
        have hrest := ih hnodup.2 { t with skipped := t.skipped ++ [c.note] } fun m hm =>
          hpose m (List.mem_cons_of_mem _ hm)
        rw [if_neg Bool.false_ne_true, pure_bind, hrest]
        simp
      · rw [List.filter_cons_of_pos hknows, List.filter_cons_of_neg (by simp [hknows]), carryOut,
          hactor, hpose l List.mem_cons_self]
        simp only [if_true, bind_assoc, pure_bind]
        refine bind_congr fun s => ?_
        have hpose' : ∀ m ∈ ls, (t.snapshot.record r (c, s)).pose m.actor = prior.pose m.actor := by
          intro m hm
          have hne : m.actor ≠ c.actor := fun he => hnodup.1 (hactor ▸ he ▸ List.mem_map_of_mem hm)
          rw [pose_record, Function.update_of_ne hne, hpose m (List.mem_cons_of_mem _ hm)]
        rw [ih hnodup.2 _ hpose', pose_record, hactor]
        rfl

/-- A step carries its cues out, beginning with the states of the snapshot before. -/
theorem next_eq (hnodup : (lanes.map (·.actor)).Nodup) (prior : Snapshot) (k : Nat) :
    next r around lanes (k + 1) prior =
      (carryOut r around ((cuesAt lanes k).filter r.knows) prior.pose >>= fun done =>
        pure {
          snapshot := done.foldl (record r) { states := prior.states }
          skipped := ((cuesAt lanes k).filter (!r.knows ·)).map Cue.note }) :=
  foldlM_act_eq hnodup prior k { snapshot := { states := prior.states } } fun _ _ => rfl

/-- In one step no actor has two cues. -/
theorem nodup_actor_cues (hnodup : (lanes.map (·.actor)).Nodup) (k : Nat) :
    ((cuesAt lanes k).map (·.actor)).Nodup := by
  rw [List.Nodup, List.pairwise_map, cuesAt, List.pairwise_filterMap]
  refine (List.pairwise_map.mp hnodup).imp ?_
  intro l l' hne c hc c' hc'
  obtain ⟨b, -, rfl⟩ := Option.map_eq_some_iff.mp hc
  obtain ⟨b', -, rfl⟩ := Option.map_eq_some_iff.mp hc'
  exact hne

/-- **Compiling carries out the programme.**  What the cues make of their actors is in the snapshots, and the
cues of unknown kinds are noted. -/
theorem run_following (r : Registry) (around : Surroundings) (hnodup : (lanes.map (·.actor)).Nodup)
    (count k : Nat) (prior : Snapshot) (source : RandomSource) :
    let out := (following r around lanes count (k + 1) prior).run source
    let cues := programme lanes k count
    out.1.2 = (cues.filter (!r.knows ·)).map Cue.note ∧
      ∃ done, (carryOut r around (cues.filter r.knows) prior.pose).run source = (done, out.2) ∧
        ∀ e ∈ done, ∃ j s, e.1.step = k + j + 1 ∧ out.1.1[j]? = some s ∧ s.state? e.1.actor = some e.2 := by
  induction count generalizing k prior source with
  | zero => exact ⟨rfl, [], rfl, by simp⟩
  | succ count ih =>
    -- what the first step has made of its actors, and the snapshot and the source after it
    obtain ⟨⟨now, source'⟩, hnow⟩ : ∃ out,
        (carryOut r around ((cuesAt lanes k).filter r.knows) prior.pose).run source = out := ⟨_, rfl⟩
    obtain ⟨s, hs⟩ : ∃ s, now.foldl (record r) { states := prior.states } = s := ⟨_, rfl⟩
    have hpose : s.pose = posedBy now prior.pose := by
      rw [← hs, pose_foldl_record]
      rfl
    have hrun : (following r around lanes (count + 1) (k + 1) prior).run source =
        let later := (following r around lanes count (k + 1 + 1) s).run source'
        ((s :: later.1.1, ((cuesAt lanes k).filter (!r.knows ·)).map Cue.note ++ later.1.2), later.2) := by
      rw [following, next_eq hnodup, bind_assoc, Chance.run_bind, hnow]
      simp only [pure_bind, hs, Chance.run_bind]
      rfl
    obtain ⟨hnotes, later, hlater, hshown⟩ := ih (k + 1) s source'
    rw [hrun]
    dsimp only
    rw [programme_succ, List.filter_append, List.filter_append, List.map_append]
    refine ⟨congrArg _ hnotes, now ++ later, ?_, ?_⟩
    · rw [carryOut_append, Chance.run_bind, hnow, ← hpose, Chance.run_bind, hlater]
      rfl
    · intro e he
      rcases List.mem_append.mp he with he | he
      · have hcues : now.map (·.1) = (cuesAt lanes k).filter r.knows :=
          map_fst_of_yields_carryOut (hnow ▸ Chance.yields_run _ source)
        have hmem : e.1 ∈ cuesAt lanes k := by
          have he' := List.mem_map_of_mem (f := (·.1)) he
          rw [hcues] at he'
          exact (List.mem_filter.mp he').1
        have hnodup' : (now.map (·.1.actor)).Nodup := by
          have hsub : (now.map (·.1)).Sublist (cuesAt lanes k) := hcues ▸ List.filter_sublist
          have hactors := (hsub.map (·.actor)).nodup (nodup_actor_cues hnodup k)
          rwa [List.map_map] at hactors
        exact ⟨0, s, (mem_cuesAt_iff.mp hmem).1, rfl, hs ▸ state?_foldl_record _ hnodup' he⟩
      · obtain ⟨j, s', hstep, hs', hstate⟩ := hshown e he
        exact ⟨j + 1, s', by omega, hs', hstate⟩

end Snapshot

theorem carryOut_congr {cs : List Cue} {pose pose' : ActorId → ActorState}
    (h : ∀ c ∈ cs, pose c.actor = pose' c.actor) : carryOut r around cs pose = carryOut r around cs pose' := by
  induction cs generalizing pose pose' with
  | nil => rfl
  | cons c cs ih =>
    rw [carryOut, carryOut, h c List.mem_cons_self]
    refine bind_congr fun s => ?_
    rw [ih]
    intro c' hc'
    rw [Function.update_apply, Function.update_apply, h c' (List.mem_cons_of_mem _ hc')]

/-! ### The account -/

namespace StepTable

/-- The table accounts for every block of a flow, where the blocks that are done make this of their actors. -/
structure Accounts (t : StepTable) (r : Registry) (blocks : List ActionBlock) (actors : List ActorId)
    (done : List (Cue × ActorState)) : Prop where
  /-- A block leaves the note that goes with its fate, if there is one, and nothing else is noted. -/
  skipped_perm : t.skipped.Perm ((fates r actors blocks).filterMap Fate.note?)
  /-- Blocks of nobody on the list are noted first, as they stand in the flow.  Then come those of unknown
  kinds, by their steps and within a step as their actors are listed. -/
  skipped_eq : ∃ cues : List Cue, t.skipped = blocks.filterMap (foreignNote? actors) ++ cues.map Cue.note ∧
    cues.Pairwise (Cue.Before actors)
  /-- A block whose fate it is to be done is done once, and no other is. -/
  done_perm : (done.map (·.1)).Perm ((fates r actors blocks).filterMap Fate.performed?)
  done_ordered : (done.map (·.1)).Pairwise (Cue.Before actors)
  /-- The snapshot of its step has what it makes of its actor, and sends the actor back if the block is a
  repeat marker. -/
  shown : ∀ e ∈ done, ∃ s, t.snapshot? e.1.step = some s ∧ s.state? e.1.actor = some e.2 ∧
    s.repeaters.contains e.1.actor = r.isRepeat e.1.block.action
  first : ∀ s, t.snapshot? 0 = some s → s.repeaters.isEmpty = true

/-- A table carries out the programme of its lanes. -/
theorem run_ofLanes (r : Registry) (around : Surroundings) {lanes : List Lane}
    (hnodup : (lanes.map (·.actor)).Nodup) (seed : StateMap) (source : RandomSource) :
    let out := (ofLanes r around lanes seed).run source
    let cues := programme lanes 0 (longest lanes)
    out.1.skipped = (cues.filter (!r.knows ·)).map Cue.note ∧
      ∃ done, (carryOut r around (cues.filter r.knows) fun a => (seed.get? a).getD default).run source =
          (done, out.2) ∧
        ∀ e ∈ done, ∃ s, out.1.snapshot? e.1.step = some s ∧ s.state? e.1.actor = some e.2 := by
  rcases hlong : longest lanes with _ | count
  · rw [ofLanes, hlong]
    exact ⟨rfl, [], rfl, by simp⟩
  · have hrun : (ofLanes r around lanes seed).run source =
        let out := (Snapshot.following r around lanes (count + 1) 1 (.start lanes seed)).run source
        ({ snapshots := .start lanes seed :: out.1.1, skipped := out.1.2 }, out.2) := by
      rw [ofLanes, hlong]
      exact Chance.run_bind _ _ _
    obtain ⟨hnotes, done, hdone, hshown⟩ := Snapshot.run_following r around hnodup (count + 1) 0
      (Snapshot.start lanes seed) source
    have hpose : ∀ c ∈ (programme lanes 0 (count + 1)).filter r.knows,
        (Snapshot.start lanes seed).pose c.actor = (seed.get? c.actor).getD default := by
      intro c hc
      obtain ⟨k, -, hk⟩ := List.mem_flatMap.mp (List.mem_filter.mp hc).1
      obtain ⟨-, l, hl, hactor, -⟩ := mem_cuesAt_iff.mp hk
      rw [Snapshot.pose, Snapshot.state?_start, if_pos (hactor ▸ List.mem_map_of_mem hl)]
      rfl
    rw [hrun]
    refine ⟨hnotes, done, ?_, ?_⟩
    · rw [← carryOut_congr hpose]
      exact hdone
    · intro e he
      obtain ⟨j, s, hstep, hs, hstate⟩ := hshown e he
      refine ⟨s, ?_, hstate⟩
      rw [hstep, Nat.zero_add]
      exact hs

/-- The snapshot of a cue sends its actor back if the block is a repeat marker. -/
theorem Fits.contains_repeaters_eq {t : StepTable} {blocks : List ActionBlock} {actors : List ActorId}
    (h : t.Fits r blocks actors) {c : Cue} {k count : Nat}
    (hc : c ∈ programme (lanesOf blocks actors) k count) {s : Snapshot}
    (hs : t.snapshot? c.step = some s) : s.repeaters.contains c.actor = r.isRepeat c.block.action := by
  obtain ⟨ha, j, -, -, hstep, hb⟩ := mem_programme_iff.mp hc
  rw [Bool.eq_iff_iff, h.repeaters_iff _ s hs, hstep, Registry.repeatsAt, hb]
  exact and_iff_right ha

/-- **A compiled table accounts for every block.**  A block without a target, one whose target is not listed
and one of an unknown kind leave one note each, and every other block is done once.  What is done is done one
after the other, and nothing else is drawn. -/
theorem accounts_compile (r : Registry) (around : Surroundings) (blocks : List ActionBlock)
    (actors : List ActorId) (seed : StateMap) (source : RandomSource) :
    let out := (compile r around blocks actors seed).run source
    ∃ done, out.1.Accounts r blocks actors done ∧
      (carryOut r around (done.map (·.1)) fun a => (seed.get? a).getD default).run source =
        (done, out.2) := by
  intro out
  have hplays : out.1.Plays r around (lanesOf blocks actors) seed :=
    plays_of_yields_compile (Chance.yields_run _ source)
  obtain ⟨cues, hcues⟩ :
    ∃ cues, programme (lanesOf blocks actors) 0 (longest (lanesOf blocks actors)) = cues := ⟨_, rfl⟩
  have hperm : cues.Perm ((fates r actors blocks).filterMap Fate.cue?) :=
    hcues ▸ programme_perm r blocks actors
  have hordered : cues.Pairwise (Cue.Before actors) := hcues ▸ pairwise_programme blocks actors 0 _
  obtain ⟨hnotes, done, hdone, hshown⟩ := run_ofLanes r around (nodup_actor_lanesOf blocks actors) seed source
  rw [hcues] at hnotes hdone
  have hfst : done.map (·.1) = cues.filter r.knows :=
    map_fst_of_yields_carryOut (hdone ▸ Chance.yields_run _ source)
  have hrun := run_compile r around blocks actors seed source
  have hskipped : out.1.skipped =
      blocks.filterMap (foreignNote? actors) ++ (cues.filter (!r.knows ·)).map Cue.note := by
    rw [← hnotes]
    exact congrArg (·.1.skipped) hrun
  refine ⟨done, ?_, ?_⟩
  · constructor
    · rw [hskipped]
      refine ((notes_perm [] blocks).trans (.append_left _ (.map _ ?_))).symm
      rw [unknown_eq]
      exact (hperm.filter _).symm
    · exact ⟨_, hskipped, hordered.filter _⟩
    · rw [hfst, fates, performed_eq]
      exact hperm.filter _
    · rw [hfst]
      exact hordered.filter _
    · intro e he
      obtain ⟨s, hs, hstate⟩ := hshown e he
      have hmem : e.1 ∈ cues.filter r.knows := hfst ▸ List.mem_map_of_mem (f := (·.1)) he
      have hs' : out.1.snapshot? e.1.step = some s := by
        rw [← hs]
        exact congrArg (·.1.snapshot? e.1.step) hrun
      exact ⟨s, hs', hstate, hplays.fits.contains_repeaters_eq (hcues ▸ (List.mem_filter.mp hmem).1) hs'⟩
    · exact fun s hs => hplays.fits.repeaters_zero hs
  · rw [hfst, hdone]
    exact congrArg (fun o => (done, o.2)) hrun.symm

end StepTable

/-- Of the greetings the four that are not done are noted: one of nobody, one of an actor who is not listed,
and two that nobody knows, the one in the first step of its lane and the other in the second. -/
example :
    (((StepTable.compile Sample.naming {} Sample.greetings [⟨"a"⟩, ⟨"b"⟩, ⟨"a"⟩] .empty).run
      (.scripted [])).1.skipped.map fun note => (note.block.text, note.step)) =
      [("3", none), ("5", none), ("2", some 1), ("4", some 2)] := rfl

end Marionette

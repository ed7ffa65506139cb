import Marionette.Proofs.StepTable.Lanes
import Mathlib.Data.Finset.Dedup
import Mathlib.Data.Finset.Lattice.Fold
import Mathlib.Order.Lattice.Nat

/-!
# Tables read by columns

A table is made row by row: in each step all actors move, from the snapshot before.  Read the other way, the
states of one actor in all snapshots are a column.  Where nothing is drawn, a column is its actor's own lane,
carried out block by block.  It does not matter what the other actors do, where they start, or in which order
the actors are listed, and a column stands still when its lane is over.

## Main definitions

* `StepTable.Columns` — the size of a table, its actors and its columns are those of the lanes.

## Main results

* `longest_lanesOf` — the longest lane, as a maximum over the listed actors.
* `StepTable.Plays.columns` — a table that plays some lanes has their columns.
* `StepTable.Columns.state?_congr` — a column is determined by its lane and its first state.
* `StepTable.columns_compile` — a compiled table has the columns of its blocks.
* `StepTable.run_compile_congr` — only the lanes of the listed actors count, also where something is drawn.
-/

namespace Marionette

/-! ### The longest lane -/

theorem longest_le_iff {lanes : List Lane} {n : Nat} :
    longest lanes ≤ n ↔ ∀ l ∈ lanes, l.blocks.length ≤ n := by
  induction lanes with
  | nil => simp [longest]
  | cons l ls ih =>
    show max l.blocks.length (longest ls) ≤ n ↔ _
    rw [Nat.max_le, ih, List.forall_mem_cons]

/-- An actor that is listed twice has one lane. -/
theorem longest_lanesOf (blocks : List ActionBlock) (actors : List ActorId) :
    longest (lanesOf blocks actors) = actors.toFinset.sup fun a => (laneOf blocks a).length := by
  refine eq_of_forall_ge_iff fun n => ?_
  rw [longest_le_iff, Finset.sup_le_iff, lanesOf, List.forall_mem_map]
  simp only [List.mem_eraseDups, List.mem_toFinset]

/-- Nobody has a lane exactly when no block has a target on the list. -/
theorem longest_lanesOf_eq_zero_iff {blocks : List ActionBlock} {actors : List ActorId} :
    longest (lanesOf blocks actors) = 0 ↔ ∀ b ∈ blocks, ∀ a ∈ actors, b.target ≠ some a := by
  rw [← Nat.le_zero, longest_le_iff]
  constructor
  · intro h b hb a ha htarget
    have hmem : b ∈ laneOf blocks a := List.mem_filter.mpr ⟨hb, by simp [htarget]⟩
    have hle := h _ (mem_lanesOf_iff.mpr ⟨a, ha, rfl⟩)
    exact absurd (List.length_pos_of_mem hmem) (Nat.not_lt.mpr hle)
  · rintro h l hl
    obtain ⟨a, ha, rfl⟩ := mem_lanesOf_iff.mp hl
    have hnil : laneOf blocks a = [] := by
      refine List.filter_eq_nil_iff.mpr ?_
      intro b hb
      simpa using h b hb a ha
    simp [hnil]

/-! ### Columns -/

namespace StepTable

/-- The size of the table, its actors and its columns are those of the lanes that some blocks have for the
listed actors.  In snapshot `k` an actor has done the first `k` blocks of its lane, or all of them. -/
structure Columns (t : StepTable) (r : Registry) (around : Surroundings) (blocks : List ActionBlock)
    (actors : List ActorId) (seed : StateMap) : Prop where
  isEmpty_iff : t.isEmpty = true ↔ ∀ b ∈ blocks, ∀ a ∈ actors, b.target ≠ some a
  size_eq : t.isEmpty = false → t.size = 1 + actors.toFinset.sup fun a => (laneOf blocks a).length
  mem_keys_iff : ∀ k s, t.snapshot? k = some s → ∀ a, a ∈ s.states.keys ↔ a ∈ actors
  state?_eq : ∀ k s, t.snapshot? k = some s → ∀ a ∈ actors,
    s.state? a = some (r.after around a ((laneOf blocks a).take k) ((seed.get? a).getD default))

variable {r : Registry} {around : Surroundings} {blocks blocks' : List ActionBlock}
  {actors actors' : List ActorId} {seed seed' : StateMap} {t t' : StepTable}

/-- A table is empty when no lane has a block. -/
theorem Plays.isEmpty_iff {lanes : List Lane} (h : t.Plays r around lanes seed) :
    t.isEmpty = true ↔ longest lanes = 0 := by
  rw [← Bool.not_eq_false, isEmpty_eq_false_iff, h.size_eq]
  split <;> simp_all

/-- **A table that plays some lanes has their columns**, where nothing is drawn. -/
theorem Plays.columns (h : t.Plays r around (lanesOf blocks actors) seed)
    (hstill : r.Still around blocks) : t.Columns r around blocks actors seed := by
  have hsize := h.size_eq
  have hempty := h.isEmpty_iff
  constructor
  · rw [hempty, longest_lanesOf_eq_zero_iff]
  · intro hne
    have hpos : longest (lanesOf blocks actors) ≠ 0 := fun h0 => by
      rw [hempty.mpr h0] at hne
      cases hne
    rw [hsize, if_neg hpos, longest_lanesOf, Nat.add_comm]
  · intro k s hs a
    rw [SortedMap.mem_keys_iff]
    exact h.fits.isSome_state?_iff k s hs a
  · intro k s hs a ha
    exact h.state?_eq_after hstill hs ha

namespace Columns

/-- A column is determined by its lane and its first state. -/
theorem state?_congr (h : t.Columns r around blocks actors seed)
    (h' : t'.Columns r around blocks' actors' seed') {a : ActorId} (ha : a ∈ actors) (ha' : a ∈ actors')
    (hlane : laneOf blocks a = laneOf blocks' a) (hseed : seed.get? a = seed'.get? a) {k : Nat}
    {s s' : Snapshot} (hs : t.snapshot? k = some s) (hs' : t'.snapshot? k = some s') :
    s.state? a = s'.state? a := by
  rw [h.state?_eq k s hs a ha, h'.state?_eq k s' hs' a ha', hlane, hseed]

/-- A column stands still when its lane is over. -/
theorem state?_of_length_le (h : t.Columns r around blocks actors seed) {a : ActorId} (ha : a ∈ actors)
    {k k' : Nat} (hk : (laneOf blocks a).length ≤ k) (hk' : (laneOf blocks a).length ≤ k')
    {s s' : Snapshot} (hs : t.snapshot? k = some s) (hs' : t.snapshot? k' = some s') :
    s.state? a = s'.state? a := by
  rw [h.state?_eq k s hs a ha, h.state?_eq k' s' hs' a ha, List.take_of_length_le hk,
    List.take_of_length_le hk']

end Columns

/-- **A compiled table has the columns of its blocks.**  Every actor starts from its seed or from the default
state and carries out its own lane.  Its column stands still when the lane is over, and comes out the same in
every other table that is compiled with the same lane and the same seed for it, whatever blocks, actors and
seeds there are besides, in whichever order. -/
theorem columns_compile (hstill : r.Still around blocks) (actors : List ActorId) (seed : StateMap)
    (source : RandomSource) :
    let t := ((compile r around blocks actors seed).run source).1
    t.Columns r around blocks actors seed ∧
      (∀ a ∈ actors, ∀ k k' s s', (laneOf blocks a).length ≤ k → (laneOf blocks a).length ≤ k' →
        t.snapshot? k = some s → t.snapshot? k' = some s' → s.state? a = s'.state? a) ∧
      ∀ blocks' actors' seed' source', r.Still around blocks' →
        let t' := ((compile r around blocks' actors' seed').run source').1
        ∀ a ∈ actors, a ∈ actors' → laneOf blocks a = laneOf blocks' a → seed.get? a = seed'.get? a →
          ∀ k s s', t.snapshot? k = some s → t'.snapshot? k = some s' → s.state? a = s'.state? a := by
  intro t
  have hcolumns : ∀ {blocks} actors seed source, r.Still around blocks →
      ((compile r around blocks actors seed).run source).1.Columns r around blocks actors seed :=
    fun _ _ source hstill => (plays_of_yields_compile (Chance.yields_run _ source)).columns hstill
  have h : t.Columns r around blocks actors seed := hcolumns actors seed source hstill
  refine ⟨h, ?_, ?_⟩
  · intro a ha k k' s s' hk hk' hs hs'
    exact h.state?_of_length_le ha hk hk' hs hs'
  · intro blocks' actors' seed' source' hstill' t' a ha ha' hlane hseed k s s' hs hs'
    exact h.state?_congr (hcolumns actors' seed' source' hstill') ha ha' hlane hseed hs hs'

/-! ### Blocks in another order -/

/-- Blocks that are in no lane are noted, and nothing else. -/
theorem run_compile (r : Registry) (around : Surroundings) (blocks : List ActionBlock)
    (actors : List ActorId) (seed : StateMap) (source : RandomSource) :
    (compile r around blocks actors seed).run source =
      let out := (ofLanes r around (lanesOf blocks actors) seed).run source
      ({ out.1 with skipped := blocks.filterMap (foreignNote? actors) ++ out.1.skipped }, out.2) :=
  Chance.run_bind _ _ _

theorem reason_ne_of_mem_foreignNotes {note : SkippedBlock}
    (h : note ∈ blocks.filterMap (foreignNote? actors)) : note.reason ≠ .unknownAction := by
  obtain ⟨b, -, hb⟩ := List.mem_filterMap.mp h
  rw [foreignNote?] at hb
  split at hb
  · cases hb
    nofun
  · split at hb
    · cases hb
    · cases hb
      nofun

/-- Notes on blocks that are in no lane are not on unknown kinds. -/
theorem filter_foreignNotes (blocks : List ActionBlock) (actors : List ActorId) :
    (blocks.filterMap (foreignNote? actors)).filter (fun note => note.reason = .unknownAction) = [] := by
  refine List.filter_eq_nil_iff.mpr ?_
  intro note hnote
  simpa using reason_ne_of_mem_foreignNotes hnote

/-- The notes on blocks of unknown kinds. -/
def unknownNotes (t : StepTable) : List SkippedBlock :=
  t.skipped.filter fun note => note.reason = .unknownAction

/-- **Only the lanes of the listed actors count.**  However their blocks stand among each other and among
other blocks, the snapshots are the same, the same is drawn, and the same kinds are noted as unknown. -/
theorem run_compile_congr (h : ∀ a ∈ actors, laneOf blocks a = laneOf blocks' a) (r : Registry)
    (around : Surroundings) (seed : StateMap) (source : RandomSource) :
    let out := (compile r around blocks actors seed).run source
    let out' := (compile r around blocks' actors seed).run source
    out'.1.snapshots = out.1.snapshots ∧ out'.2 = out.2 ∧ out'.1.unknownNotes = out.1.unknownNotes := by
  rw [run_compile, run_compile, lanesOf_congr h]
  refine ⟨rfl, rfl, ?_⟩
  simp only [unknownNotes, List.filter_append, filter_foreignNotes]

end StepTable

/-! ### A sample

Two actors, one of whom is listed twice, and a kind that nobody knows. -/

namespace Sample

/-- A registry of one kind, which makes an actor say what it is called. -/
def naming : Registry := Registry.empty.add "name" (.steady fun _ a s => { s with message := some a.text })

def greetings : List ActionBlock :=
  [⟨⟨"1"⟩, "name", some ⟨"a"⟩⟩, ⟨⟨"2"⟩, "wave", some ⟨"b"⟩⟩, ⟨⟨"3"⟩, "name", some ⟨"c"⟩⟩,
    ⟨⟨"4"⟩, "wave", some ⟨"a"⟩⟩, ⟨⟨"5"⟩, "name", none⟩]

theorem still_greetings : naming.Still {} greetings := by
  rintro b - action hfind actor s
  obtain rfl : action = .steady fun _ a s => { s with message := some a.text } := by
    rw [naming, Registry.find?_add] at hfind
    split at hfind
    · exact (Option.some.inj hfind).symm
    · cases hfind
  exact ⟨_, rfl⟩

end Sample

/-- The first actor has named itself after one step and has nothing to do in the other, the second never has
anything to do that is known, and the third is not listed. -/
theorem StepTable.columns_compile_sample :
    Sample.naming.Still {} Sample.greetings ∧
      let t := ((compile Sample.naming {} Sample.greetings [⟨"a"⟩, ⟨"b"⟩, ⟨"a"⟩] .empty).run (.scripted [])).1
      t.size = 3 ∧ ∃ s, t.snapshot? 2 = some s ∧
        s.state? ⟨"a"⟩ = some { message := some "a" } ∧ s.state? ⟨"b"⟩ = some {} ∧
        ⟨"c"⟩ ∉ s.states.keys := by
  obtain ⟨h, -, -⟩ :=
    columns_compile Sample.still_greetings [⟨"a"⟩, ⟨"b"⟩, ⟨"a"⟩] .empty (.scripted [])
  refine ⟨Sample.still_greetings, h.size_eq rfl, ?_⟩
  obtain ⟨s, hs⟩ := lt_size_iff.mp (Nat.lt_of_lt_of_eq (by decide : 2 < 3) (h.size_eq rfl).symm)
  refine ⟨s, hs, h.state?_eq 2 s hs ⟨"a"⟩ (by decide), h.state?_eq 2 s hs ⟨"b"⟩ (by decide), ?_⟩
  rw [h.mem_keys_iff 2 s hs]
  decide

end Marionette

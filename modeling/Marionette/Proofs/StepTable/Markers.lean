import Marionette.Proofs.StepTable.Lanes
import Mathlib.Data.List.Induction

/-!
# Repeat markers

A registry keeps what a kind does and whether it is a repeat marker side by side, and compiling asks for both.
They agree, because a registry comes about by registrations, and the latest registration of a kind settles
both at once: a kind is either a marker, which leaves its actor alone, or it has a transition and sends nobody
back.

So a block that sends its actor back cannot be seen and draws nothing, in every table that is compiled with
such a registry.

## Main definitions

* `Registration`, `Registry.enter` — one registration of a kind.
* `Registry.Entered` — a registry comes about by these registrations.
* `latest?` — the latest registration of a kind.
* `StepTable.Neutral` — whoever is sent back has only met a repeat marker.

## Main results

* `Registry.Entered.find?_eq` — the latest registration of a kind says what it does.
* `Registry.Entered.find?_of_isRepeat` — a kind that sends actors back is a marker.
* `Registry.Entered.markers_neutral` — a repeat marker does nothing but send its actor back.
-/

namespace Marionette

/-! ### Registrations -/

/-- One registration of a kind. -/
inductive Registration
  | transition (kind : String) (t : Transition)
  | marker (kind : String)

namespace Registration

/-- The kind that is registered. -/
def kind : Registration → String
  | transition kind _ => kind
  | marker kind => kind

/-- What the kind does from then on. -/
def action : Registration → Action
  | transition _ t => { transition := t }
  | marker _ => .repeatMarker

theorem eq_marker {e : Registration} (h : e.action.repeats = true) : e = marker e.kind := by
  cases e with
  | transition kind t => cases h
  | marker kind => rfl

end Registration

/-- The registration that stands behind a built-in action. -/
def BuiltIn.registration (b : BuiltIn) : Registration :=
  if b = .repeatAnimation then .marker b.kind else .transition b.kind b.action.transition

/-- The latest registration of a kind. -/
def latest? (history : List Registration) (kind : String) : Option Registration :=
  history.reverse.find? fun e => e.kind = kind

theorem latest?_concat (history : List Registration) (e : Registration) (kind : String) :
    latest? (history ++ [e]) kind = if e.kind = kind then some e else latest? history kind := by
  rw [latest?, List.reverse_append, List.reverse_singleton, List.singleton_append, List.find?_cons]
  split <;> simp_all [latest?]

theorem kind_of_latest? {history : List Registration} {kind : String} {e : Registration}
    (h : latest? history kind = some e) : e.kind = kind := by
  simpa using List.find?_some h

namespace Registry

/-- Register a kind. -/
def enter (r : Registry) : Registration → Registry
  | .transition kind t => r.register kind t
  | .marker kind => r.registerRepeat kind

theorem enter_eq_add (r : Registry) (e : Registration) : r.enter e = r.add e.kind e.action := by
  cases e <;> rfl

theorem add_builtIn (r : Registry) (b : BuiltIn) : r.add b.kind b.action = r.enter b.registration := by
  cases b <;> rfl

/-- The registry has come about by these registrations, the oldest first. -/
inductive Entered : List Registration → Registry → Prop
  | empty : Entered [] .empty
  | builtIn : Entered (BuiltIn.all.map BuiltIn.registration) .builtIn
  | enter {history : List Registration} {r : Registry} (h : Entered history r) (e : Registration) :
    Entered (history ++ [e]) (r.enter e)

/-- The built-in actions are registered one after the other. -/
theorem builtIn_eq : builtIn = (BuiltIn.all.map BuiltIn.registration).foldl enter empty := by
  rw [builtIn, List.foldl_map]
  exact congrArg (List.foldl · empty BuiltIn.all) (funext fun r => funext fun b => r.add_builtIn b)

theorem find?_foldl_enter (history : List Registration) (kind : String) :
    (history.foldl enter empty).find? kind = (latest? history kind).map (·.action) := by
  induction history using List.reverseRecOn with
  | nil => rfl
  | append_singleton history e ih =>
    rw [List.foldl_append, List.foldl_cons, List.foldl_nil, enter_eq_add, find?_add, latest?_concat]
    by_cases h : e.kind = kind
    · rw [if_pos h.symm, if_pos h, Option.map_some]
    · rw [if_neg fun he => h he.symm, if_neg h, ih]

namespace Entered

variable {history : List Registration} {r : Registry} {kind : String}

theorem eq_foldl (h : Entered history r) : r = history.foldl Registry.enter .empty := by
  induction h with
  | empty => rfl
  | builtIn => exact builtIn_eq
  | enter h e ih => rw [List.foldl_append, ← ih]; rfl

/-- **The latest registration of a kind says what it does.** -/
theorem find?_eq (h : Entered history r) (kind : String) :
    r.find? kind = (latest? history kind).map (·.action) := by
  rw [h.eq_foldl, find?_foldl_enter]

theorem isRepeat_iff (h : Entered history r) (kind : String) :
    r.isRepeat kind = true ↔ latest? history kind = some (.marker kind) := by
  rw [isRepeat, h.find?_eq]
  constructor
  · intro hrep
    rcases hlatest : latest? history kind with _ | e
    · rw [hlatest] at hrep
      cases hrep
    · rw [hlatest] at hrep
      rw [Registration.eq_marker hrep, kind_of_latest? hlatest]
  · intro hlatest
    rw [hlatest]
    rfl

/-- A kind that sends actors back is a marker. -/
theorem find?_of_isRepeat (h : Entered history r) (hrep : r.isRepeat kind = true) :
    r.find? kind = some .repeatMarker := by
  rw [h.find?_eq, (h.isRepeat_iff kind).mp hrep]
  rfl

end Entered

end Registry

/-! ### Tables -/

namespace StepTable

/-- Whoever is sent back has only met a repeat marker, and whoever meets one is sent back. -/
structure Neutral (t : StepTable) (r : Registry) (around : Surroundings) (blocks : List ActionBlock)
    (actors : List ActorId) : Prop where
  /-- An actor that is sent back looks as it did in the snapshot before, and its turn draws nothing. -/
  unchanged : ∀ k s', t.snapshot? (k + 1) = some s' → ∃ s, t.snapshot? k = some s ∧
    ∀ a, s'.repeaters.contains a = true →
      (∃ state, s.state? a = some state ∧ s'.state? a = some state) ∧
      ∀ turn, ∃ turn', Lane.act r around s (k + 1) { actor := a, blocks := laneOf blocks a } turn = .done turn'
  sent : ∀ k a b, a ∈ actors → (laneOf blocks a)[k]? = some b → r.isRepeat b.action = true →
    ∃ s', t.snapshot? (k + 1) = some s' ∧ s'.repeaters.contains a = true

variable {history : List Registration} {r : Registry} {around : Surroundings}
  {blocks : List ActionBlock} {actors : List ActorId} {seed : StateMap} {t : StepTable}

/-- The turn of a repeat marker draws nothing. -/
theorem act_of_repeatMarker {l : Lane} {k : Nat} {b : ActionBlock} (hb : l.blocks[k]? = some b)
    (hfind : r.find? b.action = some .repeatMarker) (prior : Snapshot) (turn : Turn) :
    ∃ turn', l.act r around prior (k + 1) turn = .done turn' := by
  rw [Lane.act, Nat.add_sub_cancel, hb]
  dsimp only
  rw [Registry.perform?, hfind]
  exact ⟨_, rfl⟩

/-- A table that plays some lanes is neutral, where the registry has come about by registrations. -/
theorem Plays.neutral (h : t.Plays r around (lanesOf blocks actors) seed) (hr : r.Entered history) :
    t.Neutral r around blocks actors := by
  constructor
  · intro k s' hs'
    obtain ⟨s, hs⟩ := lt_size_iff.mp (Nat.lt_of_succ_lt (lt_size_of_snapshot? hs'))
    refine ⟨s, hs, ?_⟩
    intro a hback
    obtain ⟨ha, hrep⟩ := (h.fits.repeaters_iff _ s' hs' a).mp hback
    obtain ⟨b, hb, hrep⟩ := (Option.any_eq_true _ _).mp hrep
    have hfind := hr.find?_of_isRepeat hrep
    refine ⟨?_, act_of_repeatMarker hb hfind s⟩
    obtain ⟨before, hbefore⟩ := Option.isSome_iff_exists.mp ((h.fits.isSome_state?_iff k s hs a).mpr ha)
    obtain ⟨after, hafter, hturn⟩ :=
      (h.next k s s' hs hs').exists_state (mem_lanesOf_iff.mpr ⟨a, ha, rfl⟩) hbefore
    have hsame : r.turn around a before (laneOf blocks a)[k]? = .done before := by
      rw [hb, Registry.turn, Registry.perform?, hfind]
      rfl
    rw [hsame] at hturn
    exact ⟨before, hbefore, hturn ▸ hafter⟩
  · intro k a b ha hb hrep
    obtain ⟨hlt, -⟩ := List.getElem?_eq_some_iff.mp hb
    have hk : k + 1 < t.size := by
      rw [h.fits.size_eq_of_pos ha (Nat.zero_lt_of_lt hlt)]
      exact Nat.succ_lt_succ (Nat.lt_of_lt_of_le hlt (length_laneOf_le_longest blocks ha))
    obtain ⟨s', hs'⟩ := lt_size_iff.mp hk
    refine ⟨s', hs', (h.fits.repeaters_iff _ s' hs' a).mpr ⟨ha, ?_⟩⟩
    rw [Registry.repeatsAt, hb]
    exact hrep

end StepTable

/-- **A repeat marker does nothing but send its actor back.**  Register kinds in any order, anew and in either
direction, beginning with nothing or with the built-in actions.  A kind is a repeat marker exactly when its
latest registration says so.  In every table, whether it is compiled for a flow or for a repeat run, whoever is
sent back looks as before and has drawn nothing, and whoever meets a repeat marker is sent back. -/
theorem Registry.Entered.markers_neutral {history : List Registration} {r : Registry}
    (h : r.Entered history) :
    (∀ kind, r.isRepeat kind = true ↔ latest? history kind = some (.marker kind)) ∧
      (∀ around blocks actors seed source,
        ((StepTable.compile r around blocks actors seed).run source).1.Neutral r around blocks actors) ∧
      ∀ around blocks seed (set : ActorSet) source,
        ((StepTable.recompile r around blocks seed set).run source).1.Neutral r around blocks set.keys := by
  refine ⟨h.isRepeat_iff, ?_, ?_⟩
  · intro around blocks actors seed source
    exact (StepTable.plays_of_yields_compile (Chance.yields_run _ source)).neutral h
  · intro around blocks seed set source
    exact (StepTable.plays_of_yields_recompile (Chance.yields_run _ source)).neutral h

namespace Sample

/-- The repeat marker of the built-in actions becomes an ordinary kind. -/
def unmarking : Registration :=
  .transition "repeatWholeAnimation" fun _ _ s => .done { s with visible := false }

/-- Greeting becomes a repeat marker. -/
def marking : Registration := .marker "sayHello"

def swapped : Registry := (Registry.builtIn.enter unmarking).enter marking

def swappedBlocks : List ActionBlock :=
  [⟨⟨"1"⟩, "repeatWholeAnimation", some ⟨"a"⟩⟩, ⟨⟨"2"⟩, "sayHello", some ⟨"a"⟩⟩]

end Sample

/-- After kinds were registered anew in either direction, an actor that greets is sent back as it was. -/
theorem Registry.Entered.markers_neutral_sample :
    Sample.swapped.Entered
        (BuiltIn.all.map BuiltIn.registration ++ [Sample.unmarking] ++ [Sample.marking]) ∧
      Sample.swapped.isRepeat "repeatWholeAnimation" = false ∧
      let t := ((StepTable.compile Sample.swapped {} Sample.swappedBlocks [⟨"a"⟩] .empty).run (.scripted [])).1
      ∃ s s', t.snapshot? 1 = some s ∧ t.snapshot? 2 = some s' ∧ s'.repeaters.contains ⟨"a"⟩ = true ∧
        s'.state? ⟨"a"⟩ = s.state? ⟨"a"⟩ := by
  have h : Sample.swapped.Entered _ := (Registry.Entered.builtIn.enter Sample.unmarking).enter Sample.marking
  obtain ⟨hrep, hcompile, -⟩ := h.markers_neutral
  have hneutral := hcompile {} Sample.swappedBlocks [⟨"a"⟩] .empty (.scripted [])
  refine ⟨h, ?_, ?_⟩
  · rw [Bool.eq_false_iff, Ne, hrep]
    simp [latest?, Sample.marking, Sample.unmarking, Registration.kind]
  · obtain ⟨s', hs', hback⟩ := hneutral.sent 1 ⟨"a"⟩ ⟨⟨"2"⟩, "sayHello", some ⟨"a"⟩⟩ (by simp) rfl
      ((hrep "sayHello").mpr rfl)
    obtain ⟨s, hs, hsame⟩ := hneutral.unchanged 1 s' hs'
    obtain ⟨⟨state, hstate, hstate'⟩, -⟩ := hsame _ hback
    exact ⟨s, s', hs, hs', hback, hstate'.trans hstate.symm⟩

end Marionette

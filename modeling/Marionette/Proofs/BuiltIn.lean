import Marionette.Proofs.StepTable.Markers

/-!
# What the built-in actions do

The built-in registry knows a kind exactly when it is the kind of a built-in action, and then it does this
action.  So what a block makes of its actor is settled action by action: which of them draw, and what becomes
of the actor's message.

## Main definitions

* `BuiltIn.named?` — the built-in action of a kind.
* `BuiltIn.speaks` — whether an action puts a message up.
* `RandomSource.skip` — a source after some draws.

## Main results

* `Registry.find?_builtIn`, `Registry.turn_builtIn` — the built-in registry does the built-in actions.
* `BuiltIn.exists_transition_eq_done` — only going to a random place draws.
* `ActorState.run_goToRandomPlace` — it draws twice, first for `x`.
* `BuiltIn.speech_of_yields` — what an action makes of the message and of its duration.
-/

namespace Marionette

/-- The source after `count` draws. -/
def RandomSource.skip (s : RandomSource) (count : Nat) : RandomSource := { s with drawn := s.drawn + count }

theorem RandomSource.skip_skip (s : RandomSource) (m n : Nat) : (s.skip m).skip n = s.skip (m + n) := by
  simp [skip, Nat.add_assoc]

/-! ### Looking up -/

/-- The built-in action of a kind. -/
def BuiltIn.named? (kind : String) : Option BuiltIn := all.find? fun b => b.kind = kind

theorem BuiltIn.kind_of_named? {kind : String} {b : BuiltIn} (h : named? kind = some b) : b.kind = kind := by
  simpa using List.find?_some h

namespace BuiltIn

theorem named?_kind (b : BuiltIn) : named? b.kind = some b := by
  rcases hnamed : named? b.kind with _ | b'
  · have hne := List.find?_eq_none.mp hnamed b b.mem_all
    simp at hne
  · rw [kind_injective (kind_of_named? hnamed)]

theorem kind_registration (b : BuiltIn) : b.registration.kind = b.kind := by
  cases b <;> rfl

theorem action_registration (b : BuiltIn) : b.registration.action = b.action := by
  cases b <;> rfl

/-- A kind has been registered for the built-in action that it names, and for no other. -/
theorem latest?_registrations (kind : String) :
    latest? (all.map registration) kind = (named? kind).map registration := by
  rcases hlatest : latest? (all.map registration) kind with _ | e
  · rcases hnamed : named? kind with _ | b
    · rfl
    · have hmem : b.registration ∈ (all.map registration).reverse :=
        List.mem_reverse.mpr (List.mem_map_of_mem b.mem_all)
      have hne := List.find?_eq_none.mp hlatest b.registration hmem
      rw [kind_registration, kind_of_named? hnamed] at hne
      simp at hne
  · obtain ⟨b, -, rfl⟩ := List.mem_map.mp (List.mem_reverse.mp (List.mem_of_find?_eq_some hlatest))
    have hkind : b.kind = kind := b.kind_registration ▸ kind_of_latest? hlatest
    rw [← hkind, named?_kind]
    rfl

end BuiltIn

namespace Registry

/-- The built-in registry does the built-in actions and knows nothing else. -/
theorem find?_builtIn (kind : String) : builtIn.find? kind = (BuiltIn.named? kind).map BuiltIn.action := by
  rw [Entered.builtIn.find?_eq, BuiltIn.latest?_registrations, Option.map_map]
  exact congrArg (Option.map · (BuiltIn.named? kind)) (funext BuiltIn.action_registration)

/-- What a block makes of its actor is what the built-in action of its kind does, if there is one. -/
theorem turn_builtIn (around : Surroundings) (actor : ActorId) (s : ActorState) (b : ActionBlock) :
    builtIn.turn around actor s (some b) =
      match BuiltIn.named? b.action with
      | none => .done s
      | some act => act.action.transition around actor s := by
  rw [turn, perform?, find?_builtIn]
  cases BuiltIn.named? b.action <;> rfl

end Registry

/-! ### Drawing -/

/-- Only going to a random place draws. -/
theorem BuiltIn.exists_transition_eq_done {b : BuiltIn} (h : b ≠ .goToRandomPlace) (around : Surroundings)
    (actor : ActorId) (s : ActorState) : ∃ s', b.action.transition around actor s = .done s' := by
  cases b with
  | goToRandomPlace => exact absurd rfl h
  | _ => exact ⟨_, rfl⟩

/-- Going to a random place draws twice, first for `x`. -/
theorem ActorState.run_goToRandomPlace (around : Surroundings) (s : ActorState) (source : RandomSource) :
    (s.goToRandomPlace around).run source =
      ({ s.quiet with
          x := wholeBetween around.motion.randomMin around.motion.randomMax (source.value source.drawn)
          y := wholeBetween around.motion.randomMin around.motion.randomMax
            (source.value (source.drawn + 1)) },
        source.skip 2) := rfl

/-! ### Speaking -/

/-- Whether the action puts a message up. -/
def BuiltIn.speaks : BuiltIn → Bool
  | greet | greetForAWhile => true
  | _ => false

/-- What an action other than the repeat marker makes of the message and of its duration.  It settles by itself
whether a message is up; the duration is left as it was by all of them but one. -/
theorem BuiltIn.speech_of_yields {b : BuiltIn} (hb : b ≠ .repeatAnimation) {around : Surroundings}
    {actor : ActorId} {s s' : ActorState} (h : (b.action.transition around actor s).Yields s') :
    s'.message.isSome = b.speaks ∧
      s'.messageDuration =
        if b = .greetForAWhile then some around.motion.greetingHold else s.messageDuration := by
  cases b with
  | repeatAnimation => exact absurd rfl hb
  | goToRandomPlace =>
    obtain ⟨r, r', rfl⟩ := h
    exact ⟨rfl, rfl⟩
  | moveXY =>
    obtain rfl : s' = s.moveXY around := h
    simp only [ActorState.moveXY]
    split <;> exact ⟨rfl, rfl⟩
  | _ =>
    obtain rfl := h
    exact ⟨rfl, rfl⟩

end Marionette

import Marionette.Proofs.BuiltIn

/-!
# Greetings and how long they hold playback up

An actor has a message and, apart from it, a duration for its messages.  A greeting for a while writes both, a
plain greeting writes only the message, and every other action takes the message away and leaves the duration.
So the duration stays for the messages to come: once an actor has greeted for a while, its plain greetings are
held for as long.

After some deeds an actor asks for a hold exactly when its last deed is a greeting, of either sort, and one of
its deeds so far is a greeting for a while.  A plain greeting before that asks for none.

## Main definitions

* `deedsOf` — what some blocks make their actor do.
* `ActorState.SpeaksAfter` — the message and its duration after some deeds.

## Main results

* `StepTable.Plays.exists_speaksAfter` — every snapshot shows an actor as it speaks after its deeds so far.
* `StepTable.messageHold_compile` — the message and the duration of an actor, and the hold that it asks for.
* `StepTable.messageHold_compile_revived` — a plain greeting that is held.
-/

namespace Marionette

/-! ### Deeds -/

/-- What a block makes its actor do: the built-in action of its kind.  A block of an unknown kind makes it do
nothing, and neither does a repeat marker. -/
def ActionBlock.deed? (b : ActionBlock) : Option BuiltIn :=
  (BuiltIn.named? b.action).filter (· ≠ .repeatAnimation)

/-- What some blocks make their actor do. -/
def deedsOf (blocks : List ActionBlock) : List BuiltIn := blocks.filterMap ActionBlock.deed?

theorem deedsOf_concat (blocks : List ActionBlock) (b : ActionBlock) :
    deedsOf (blocks ++ [b]) = deedsOf blocks ++ b.deed?.toList := by
  rw [deedsOf, List.filterMap_append, List.filterMap_cons]
  cases b.deed? <;> rfl

theorem ActionBlock.ne_repeatAnimation {b : ActionBlock} {act : BuiltIn} (h : b.deed? = some act) :
    act ≠ .repeatAnimation := by
  simpa using (Option.filter_eq_some_iff.mp h).2

/-- What a block makes of its actor is what its deed does, if there is one. -/
theorem Registry.turn_eq_deed (around : Surroundings) (actor : ActorId) (s : ActorState) (b : ActionBlock) :
    builtIn.turn around actor s (some b) =
      match b.deed? with
      | none => .done s
      | some act => act.action.transition around actor s := by
  rw [turn_builtIn, ActionBlock.deed?]
  rcases BuiltIn.named? b.action with _ | act
  · rfl
  · cases act <;> rfl

namespace ActorState

/-- The message of an actor and its duration after some deeds, the first of them done in the state `first`. -/
structure SpeaksAfter (s : ActorState) (m : MotionConfig) (first : ActorState) (deeds : List BuiltIn) :
    Prop where
  /-- The last deed decides whether a message is up. -/
  isSome_message : s.message.isSome = (deeds.getLast?.map BuiltIn.speaks).getD first.message.isSome
  /-- The duration stays from the first greeting for a while on. -/
  messageDuration_eq : s.messageDuration =
    if .greetForAWhile ∈ deeds then some m.greetingHold else first.messageDuration

variable {m : MotionConfig} {around : Surroundings} {first s s' : ActorState} {deeds : List BuiltIn}

theorem SpeaksAfter.nil (m : MotionConfig) (first : ActorState) : first.SpeaksAfter m first [] :=
  ⟨rfl, rfl⟩

/-- One more deed. -/
theorem SpeaksAfter.concat (h : s.SpeaksAfter around.motion first deeds) {b : BuiltIn}
    (hb : b ≠ .repeatAnimation) {actor : ActorId}
    (hyields : (b.action.transition around actor s).Yields s') :
    s'.SpeaksAfter around.motion first (deeds ++ [b]) := by
  obtain ⟨hmessage, hduration⟩ := BuiltIn.speech_of_yields hb hyields
  constructor
  · rw [hmessage, List.getLast?_concat]
    rfl
  · rw [hduration, h.messageDuration_eq]
    simp only [List.mem_append, List.mem_singleton, eq_comm (a := BuiltIn.greetForAWhile)]
    by_cases hlast : b = .greetForAWhile <;> simp [hlast]

/-- One more block. -/
theorem SpeaksAfter.turn {blocks : List ActionBlock} (h : s.SpeaksAfter around.motion first (deedsOf blocks))
    {b : ActionBlock} {actor : ActorId}
    (hyields : (Registry.builtIn.turn around actor s (some b)).Yields s') :
    s'.SpeaksAfter around.motion first (deedsOf (blocks ++ [b])) := by
  rw [Registry.turn_eq_deed] at hyields
  rw [deedsOf_concat]
  rcases hdeed : b.deed? with _ | act
  · rw [hdeed] at hyields
    obtain rfl : s' = s := hyields
    simpa using h
  · rw [hdeed] at hyields
    exact h.concat (b.ne_repeatAnimation hdeed) hyields

/-- An actor that began with nothing to say has a message when its last deed is a greeting. -/
theorem SpeaksAfter.isSome_message_eq_any (h : s.SpeaksAfter m first deeds) (hmessage : first.message = none) :
    s.message.isSome = deeds.getLast?.any BuiltIn.speaks := by
  rw [h.isSome_message, hmessage]
  cases deeds.getLast? <;> rfl

/-- The hold that an actor asks for that began with nothing to say. -/
theorem SpeaksAfter.messageHold_eq (h : s.SpeaksAfter m first deeds) (hmessage : first.message = none)
    (hduration : first.messageDuration = none) :
    s.messageHold =
      if deeds.getLast?.any BuiltIn.speaks ∧ .greetForAWhile ∈ deeds then m.greetingHold else 0 := by
  rw [messageHold, h.messageDuration_eq, hduration, ← h.isSome_message_eq_any hmessage]
  cases s.message with
  | none => simp
  | some text => by_cases hmem : BuiltIn.greetForAWhile ∈ deeds <;> simp [hmem]

end ActorState

/-! ### Tables -/

namespace StepTable

/-- Every snapshot shows an actor as it speaks after its deeds so far. -/
theorem Plays.exists_speaksAfter {around : Surroundings} {blocks : List ActionBlock} {actors : List ActorId}
    {seed : StateMap} {t : StepTable} (h : t.Plays .builtIn around (lanesOf blocks actors) seed) {k : Nat}
    {s : Snapshot} (hs : t.snapshot? k = some s) {a : ActorId} (ha : a ∈ actors) :
    ∃ state, s.state? a = some state ∧
      state.SpeaksAfter around.motion ((seed.get? a).getD default)
        (deedsOf ((laneOf blocks a).take k)) := by
  refine h.exists_of_turns ha (I := fun k state =>
    state.SpeaksAfter around.motion ((seed.get? a).getD default) (deedsOf ((laneOf blocks a).take k)))
    (.nil _ _) ?_ hs
  intro k before after hspeaks hyields
  rw [List.take_add_one]
  rcases hb : (laneOf blocks a)[k]? with _ | b
  · rw [hb] at hyields
    obtain rfl : after = before := hyields
    simpa using hspeaks
  · rw [hb] at hyields
    exact hspeaks.turn hyields

/-- **The hold that an actor asks for.**  Compile a flow with the built-in actions, for an actor that begins
without a message and without a duration.  In every snapshot its message is up exactly when its last deed is a
greeting of either sort, and its duration is set from its first greeting for a while on, whatever it does then.
It asks for a hold exactly when it has both.

So a greeting for a while is held, and a plain greeting is held if it comes after one, and nothing else is. -/
theorem messageHold_compile (around : Surroundings) (blocks : List ActionBlock) {actors : List ActorId}
    (seed : StateMap) (source : RandomSource) {a : ActorId} (ha : a ∈ actors)
    (hmessage : ((seed.get? a).getD default).message = none)
    (hduration : ((seed.get? a).getD default).messageDuration = none) :
    let t := ((compile .builtIn around blocks actors seed).run source).1
    ∀ k s, t.snapshot? k = some s →
      let deeds := deedsOf ((laneOf blocks a).take k)
      let hold := around.motion.greetingHold
      ∃ state, s.state? a = some state ∧
        state.message.isSome = deeds.getLast?.any BuiltIn.speaks ∧
        state.messageDuration = (if .greetForAWhile ∈ deeds then some hold else none) ∧
        state.messageHold =
          (if deeds.getLast?.any BuiltIn.speaks ∧ .greetForAWhile ∈ deeds then hold else 0) ∧
        (state.messageHold = (if deeds.getLast? = some .greetForAWhile then hold else 0) ↔
          ¬(deeds.getLast? = some .greet ∧ .greetForAWhile ∈ deeds ∧ hold ≠ 0)) := by
  intro t k s hs deeds hold
  have hplays : t.Plays .builtIn around (lanesOf blocks actors) seed :=
    plays_of_yields_compile (Chance.yields_run _ source)
  obtain ⟨state, hstate, hspeaks⟩ := hplays.exists_speaksAfter hs ha
  have hhold := hspeaks.messageHold_eq hmessage hduration
  refine ⟨state, hstate, hspeaks.isSome_message_eq_any hmessage, ?_, hhold, ?_⟩
  · rw [hspeaks.messageDuration_eq, hduration]
  · rw [hhold]
    change ((if deeds.getLast?.any BuiltIn.speaks ∧ .greetForAWhile ∈ deeds then hold else 0) =
      if deeds.getLast? = some .greetForAWhile then hold else 0) ↔ _
    rcases hlast : deeds.getLast? with _ | b
    · simp
    · have hmem : b ∈ deeds := List.mem_of_getLast? hlast
      by_cases htimed : b = .greetForAWhile
      · subst htimed
        simp [BuiltIn.speaks, hmem]
      · cases b <;> simp_all [BuiltIn.speaks]

end StepTable

/-! ### A sample

An actor that greets for a while, moves on, and then greets. -/

namespace Sample

def twiceGreeted : List ActionBlock :=
  [⟨⟨"1"⟩, "sayHelloFor1Sec", some ⟨"a"⟩⟩, ⟨⟨"2"⟩, "moveXBy50", some ⟨"a"⟩⟩,
    ⟨⟨"3"⟩, "sayHello", some ⟨"a"⟩⟩]

end Sample

namespace StepTable

/-- When it has moved it has a duration and asks for no hold. -/
theorem messageHold_compile_sample :
    let t := ((compile .builtIn {} Sample.twiceGreeted [⟨"a"⟩] .empty).run (.scripted [])).1
    ∃ s state, t.snapshot? 2 = some s ∧ s.state? ⟨"a"⟩ = some state ∧ state.messageHold = 0 ∧
      state.messageDuration = some 1000 := by
  have ha : (⟨"a"⟩ : ActorId) ∈ [⟨"a"⟩] := List.mem_cons_self
  obtain ⟨s, hs⟩ : ∃ s, ((compile .builtIn {} Sample.twiceGreeted [⟨"a"⟩] .empty).run
      (.scripted [])).1.snapshot? 2 = some s := ⟨_, rfl⟩
  obtain ⟨state, hstate, -, hduration, hhold, -⟩ :=
    messageHold_compile {} Sample.twiceGreeted .empty (.scripted []) ha rfl rfl 2 s hs
  exact ⟨s, state, hs, hstate, hhold, hduration⟩

/-- **A plain greeting is held.**  The duration of the greeting for a while is still there, and the plain greeting
takes it up. -/
theorem messageHold_compile_revived :
    let t := ((compile .builtIn {} Sample.twiceGreeted [⟨"a"⟩] .empty).run (.scripted [])).1
    deedsOf ((laneOf Sample.twiceGreeted ⟨"a"⟩).take 3) = [.greetForAWhile, .moveX, .greet] ∧
      ∃ s state, t.snapshot? 3 = some s ∧ s.state? ⟨"a"⟩ = some state ∧ state.messageHold = 1000 :=
  ⟨by decide, _, _, rfl, rfl, rfl⟩

end StepTable

end Marionette

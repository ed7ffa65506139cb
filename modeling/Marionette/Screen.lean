import Marionette.Stage

/-!
# Screens

A display whose kind is chosen when the program runs: the stage itself, a board, or a logged board.

## Main definitions

* `Screen`, and its `Display` instance, which passes every call on.
-/

namespace Marionette

/-- A display of one of three kinds. -/
inductive Screen where
  | stage (s : Stage)
  | board (b : Board)
  | logged (b : LoggedBoard)

namespace Screen

/-- Apply a change to whichever display it is. -/
def update (f : {σ : Type} → [Display σ] → σ → σ) : Screen → Screen
  | stage s => stage (f s)
  | board b => board (f b)
  | logged b => logged (f b)

/-- Ask whichever display it is. -/
def ask {α : Type} (f : {σ : Type} → [Display σ] → σ → α) : Screen → α
  | stage s => f s
  | board b => f b
  | logged b => f b

instance : Display Screen where
  actorIds s := s.ask Display.actorIds
  state? s a := s.ask fun d => Display.state? d a
  merge s a p := s.update fun d => Display.merge d a p
  applyBatch s batch := s.update fun d => Display.applyBatch d batch
  currentStates s := s.ask Display.currentStates
  started s := s.update Display.started
  finished s := s.update Display.finished

end Screen

end Marionette

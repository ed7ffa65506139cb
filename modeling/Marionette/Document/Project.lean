import Marionette.Document.State
import Marionette.Json.Writer
import Marionette.Project

/-!
# Documents: projects

A project document holds the actors of the stage and the book of flows.  Whether the stage is locked and
how often it changed is not written; a stage that is read is unlocked and unchanged.

## Main definitions

* `Flow.encode`, `Flow.decode`, `FlowBook.encode`, `FlowBook.decode`.
* `Actor.encode`, `Stage.encode`, `Project.encode` and their decoders.
* `Project.toText`, `Project.ofText`.
-/

namespace Marionette

open Json (Fields Decoder)

namespace ActionBlock

/-- A block as an object. -/
def encode (b : ActionBlock) : Json := .record [
  ("id", b.id.encode),
  ("action", .text b.action),
  ("target", .optional ActorId.encode b.target)]

/-- The fields of a block.  The target has a second name. -/
def fields : Fields [BlockId, String, Option ActorId] :=
  .required "id" BlockId.decode <|
  .required "action" Json.decodeText <|
  .cons "target" ["targetActorId"] (Json.decodeOptional ActorId.decode) (some none) .nil

/-- A block from an object. -/
def decode : Decoder ActionBlock := fields.decode fun (id, action, target, ()) => { id, action, target }

end ActionBlock

namespace Flow

/-- A flow as an object. -/
def encode (f : Flow) : Json := .record [
  ("id", f.id.encode),
  ("name", .text f.name),
  ("blocks", .list (f.blocks.map ActionBlock.encode))]

/-- The fields of a flow. -/
def fields : Fields [FlowId, String, List ActionBlock] :=
  .required "id" FlowId.decode <|
  .required "name" Json.decodeText <|
  .defaulted "blocks" (Json.decodeList ActionBlock.decode) [] .nil

/-- A flow from an object. -/
def decode : Decoder Flow := fields.decode fun (id, name, blocks, ()) => { id, name, blocks }

end Flow

namespace FlowBook

/-- A book as an object. -/
def encode (b : FlowBook) : Json := .record [
  ("flows", .list (b.flows.map Flow.encode)),
  ("active", b.active.encode)]

/-- The fields of a book. -/
def fields : Fields [List Flow, FlowId] :=
  .required "flows" (Json.decodeList Flow.decode) <|
  .required "active" FlowId.decode .nil

/-- A book from an object. -/
def decode : Decoder FlowBook := fields.decode fun (flows, active, ()) => { flows, active }

end FlowBook

namespace Actor

/-- An actor as an object. -/
def encode (a : Actor) : Json := .record [
  ("id", a.id.encode),
  ("name", .text a.name),
  ("costume", .text a.costume),
  ("state", a.state.encode)]

/-- The fields of an actor. -/
def fields : Fields [ActorId, String, String, ActorState] :=
  .required "id" ActorId.decode <|
  .required "name" Json.decodeText <|
  .defaulted "costume" Json.decodeText "cat" <|
  .defaulted "state" ActorState.decode {} .nil

/-- An actor from an object. -/
def decode : Decoder Actor := fields.decode fun (id, name, costume, state, ()) => { id, name, costume, state }

end Actor

namespace Stage

/-- The actors of a stage as an object. -/
def encode (s : Stage) : Json := .record [("actors", .list (s.actors.map Actor.encode))]

/-- The fields of a stage. -/
def fields : Fields [List Actor] := .required "actors" (Json.decodeList Actor.decode) .nil

/-- A stage from an object, unlocked and unchanged. -/
def decode : Decoder Stage := fields.decode fun (actors, ()) => { actors }

end Stage

namespace Project

/-- A project as an object. -/
def encode (p : Project) : Json := .record [("stage", p.stage.encode), ("flows", p.book.encode)]

/-- The fields of a project. -/
def fields : Fields [Stage, FlowBook] :=
  .defaulted "stage" Stage.decode {} <|
  .defaulted "flows" FlowBook.decode {} .nil

/-- A project from an object, which is not checked. -/
def decode : Decoder Project := fields.decode fun (stage, book, ()) => { stage, book }

/-- The document of a project. -/
def toText (p : Project) : String := p.encode.pretty

/-- Read a project from a text and check it. -/
def ofText (cs : List Char) : Except Error Project := do
  let p ← (Json.parse decode cs).mapError (·.error)
  p.validate.mapError (·.error)
  pure p

end Project

end Marionette

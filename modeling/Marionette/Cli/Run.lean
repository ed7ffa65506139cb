import Marionette.Cli.Arguments
import Marionette.Document.Config
import Marionette.Document.Playback
import Marionette.Document.Project
import Marionette.Document.Table
import Marionette.FileTree
import Marionette.Playback.Realtime
import Marionette.Random.Seeded
import Marionette.Text.Bytes

/-!
# The command line

The commands list the actions, compile a flow into a table, and play a flow and print its events.  A command
reads files through a function that is given to it, and asks for at most one file to be written; so what
it does is a value.

## Main definitions

* `Cli.Failure` — why a command fails; `Cli.Report` — what it prints and writes.
* `Cli.load` — the project, flow, configuration and random source that the options name.
* `Cli.compileReport`, `Cli.playReport`, `Cli.execute`.
* `Cli.instantReport` — a play without waiting, which a sum of times out of range breaks off.
* `Cli.run` — a whole invocation in a file tree.
-/

namespace Marionette

namespace Cli

/-- The most that a play in real time may do before it counts as endless. -/
def patience : Nat := 1 <<< 62

/-! ### Failures -/

/-- Why a command fails. -/
inductive Failure
  | openProject (path : String)
  | parseProject
  | noFlow (id path : String)
  | noActiveFlow
  | createFolder (path : String)
  | writeTable (path : String)
  | error (e : Error)
  deriving DecidableEq, Repr

/-- The failure in words. -/
def Failure.message : Failure → String
  | openProject path => "open project '" ++ path ++ "'"
  | parseProject => "parse project JSON"
  | noFlow id path => "no flow '" ++ id ++ "' in '" ++ path ++ "'"
  | noActiveFlow => "project has no active flow"
  | createFolder path => "create output dir '" ++ path ++ "'"
  | writeTable path => "write step table '" ++ path ++ "'"
  | error e => e.display

/-! ### Loading -/

/-- A way to read files. -/
abbrev FileReader := String → Except FileFault ByteArray

/-- Read a configuration file and check it. -/
def loadConfig (read : FileReader) (path : String) : Except Error Config :=
  match read path >>= utf8Text with
  | .error f => .error ⟨.config, "read config '" ++ path ++ "': " ++ f.message⟩
  | .ok s => Config.ofText s.toList

/-- Read a project file and check it. -/
def loadProject (read : FileReader) (path : String) : Except Failure Project :=
  match read path with
  | .error .isDirectory => .error .parseProject
  | .error _ => .error (.openProject path)
  | .ok bytes =>
    match Json.parse Project.decode (Text.ofBytes bytes) with
    | .error _ => .error .parseProject
    | .ok p =>
      match p.validate with
      | .error d => .error (.error d.error)
      | .ok () => .ok p

/-- What a command works on. -/
structure Loaded where
  project : Project
  flow : Flow
  config : Config
  source : RandomSource

/-- The flow that is named, or else the selected one. -/
def chooseFlow (p : Project) (o : ProjectOptions) : Except Failure Flow :=
  match o.flow with
  | some id => (p.book.find? ⟨id⟩).elim (.error (.noFlow id o.input)) .ok
  | none => p.book.activeFlow?.elim (.error .noActiveFlow) .ok

/-- Load what the options name, with `entropy` as the seed where none is given. -/
def load (read : FileReader) (entropy : UInt64) (o : ProjectOptions) : Except Failure Loaded := do
  let project ← loadProject read o.input
  let flow ← chooseFlow project o
  let config ←
    match o.config with
    | some path => (loadConfig read path).mapError .error
    | none => pure {}
  let seed := (o.seed.map UInt64.ofNat).getD entropy
  pure { project, flow, config, source := .seeded seed }

/-! ### Reports -/

/-- A file that is to be written. -/
structure Output where
  path : String
  content : String
  deriving DecidableEq, Repr

/-- What a command prints, what it ends with, and the file that it still has to write. -/
structure Report where
  exit : Nat := 0
  out : String := ""
  err : String := ""
  output : Option Output := none
  deriving DecidableEq, Repr

namespace Report

/-- The report with one more line of diagnostics. -/
def diagnose (r : Report) (s : String) : Report := { r with err := r.err ++ s ++ "\n" }

/-- The report with one more line of output. -/
def print (r : Report) (s : String) : Report := { r with out := r.out ++ s ++ "\n" }

/-- The report of a command that fails. -/
def fail (r : Report) (f : Failure) : Report :=
  { r with exit := 1, output := none }.diagnose ("Error: " ++ f.message)

/-- The report after its file was written. -/
def wrote (r : Report) (o : Output) : Report := { r with output := none }.diagnose ("wrote " ++ o.path)

/-- The report of a program that is ended by a sum of times beyond the horizon of the clock, without the place in
the program. -/
def breakOff (r : Report) : Report := { r with exit := 101 }.diagnose "overflow when adding durations"

end Report

/-! ### Commands -/

/-- The built-in actions, one a line. -/
def actionsReport : Report :=
  Registry.builtIn.kinds.foldl
    (fun r k => r.print (if k.2 then k.1 ++ "\t(repeat)" else k.1)) {}

/-- The table that a flow compiles to on the project's stage. -/
def Loaded.table (l : Loaded) : StepTable :=
  let stage := l.project.stage
  ((StepTable.compile .builtIn l.config.surroundings l.flow.blocks (Display.actorIds stage)
    (Display.currentStates stage)).run l.source).1

/-- The reason as it is named in diagnostics. -/
def skipWord : SkipReason → String
  | .unknownAction => "UnknownAction"
  | .unassigned => "Unassigned"
  | .unknownActor => "UnknownActor"

/-- The line about a skipped block. -/
def skipLine (b : SkippedBlock) : String :=
  "skipped " ++ b.block.text ++ " (" ++ b.action ++ "): " ++ skipWord b.reason

/-- Compile a flow, and print its table or ask for it to be written. -/
def compileReport (l : Loaded) (out : Option String) : Report :=
  let r := l.table.skipped.foldl (fun r b => r.diagnose (skipLine b)) ({} : Report)
  let text := l.table.encode.pretty
  match out with
  | some path => { r with output := some ⟨path, text⟩ }
  | none => r.print text

/-- The playback of a loaded flow before it is started. -/
def Loaded.playback (l : Loaded) : Playback Stage :=
  { player := { registry := .builtIn, config := l.config, source := l.source }, display := l.project.stage }

/-- The line of an event. -/
def eventLine (e : Event) : String := e.encode.line

/-- The last line of a play. -/
def closingLine (pb : Playback Stage) : String :=
  "played " ++ decimal pb.player.repeats ++ " repeat run(s), " ++ decimal pb.timers.size ++ " timer(s) left"

/-- The report of the events of a play. -/
def eventsReport (o : Observed Stage) : Report :=
  o.events.foldl (fun r e => r.print (eventLine e)) {}

/-- The report of the events of a play and of what it leaves. -/
def playedReport (o : Observed Stage) : Report := (eventsReport o).diagnose (closingLine o.playback)

/-- What is said of a flow that has nothing to play. -/
def nothingLine (f : Flow) : String := "flow '" ++ f.id.text ++ "' has nothing to play"

/-- Stop what is still running. -/
def stopped (o : Observed Stage) : Observed Stage := if o.playback.player.isRunning then o.cancel else o

/-- The report of a play without waiting.  A sum out of range breaks it off after the events until then. -/
def instantReport (pb : Playback Stage) (limit : Nat) : Report :=
  match pb.drain? limit with
  | .ok o => playedReport (stopped o)
  | .error o => (eventsReport o).breakOff

/-- Play a flow and print its events.  In real time nobody lives to see the horizon of the clock. -/
def playReport (l : Loaded) (options : PlayOptions) : Report :=
  match l.playback.play? l.flow with
  | none => ({} : Report).breakOff
  | some (.error f) => ({} : Report).fail (.error f.error)
  | some (.ok (.empty, _)) => ({} : Report).diagnose (nothingLine l.flow)
  | some (.ok (.started, pb)) =>
    if options.instant then instantReport pb options.maxWakeups
    else
      match pb.runRealtime? patience none with
      | some (_, o) => playedReport o
      | none => {}

/-- The version that the command reports. -/
def versionLine : String := "flowmotion 0.1.0"

/-- How the command is used. -/
def usage : String :=
  "Usage: flowmotion <COMMAND>\n\nCommands:\n" ++
  "  actions  List the registered action kinds\n" ++
  "  compile  Compile a flow into its step table and print it as JSON\n" ++
  "  play     Play a flow and print playback events as JSON lines"

/-- Do what a command says, reading files with `read`. -/
def execute (read : FileReader) (entropy : UInt64) : Command → Report
  | .help => ({} : Report).print usage
  | .version => ({} : Report).print versionLine
  | .actions => actionsReport
  | .compile project out =>
    match load read entropy project with
    | .error f => ({} : Report).fail f
    | .ok l => compileReport l out
  | .play project options =>
    match load read entropy project with
    | .error f => ({} : Report).fail f
    | .ok l => playReport l options

/-- The report of arguments that are rejected. -/
def rejected : Report := { exit := 2, err := usage ++ "\n" }

/-- Write the file that a report asks for. -/
def save (t : FileTree) (r : Report) : Report × FileTree :=
  match r.output with
  | none => (r, t)
  | some o =>
    match t.makePath [] (pathParts (parentPath o.path)) with
    | none => (r.fail (.createFolder (parentPath o.path)), t)
    | some made =>
      match made.write o.path o.content.toUTF8 with
      | none => (r.fail (.writeTable o.path), made)
      | some written => (r.wrote o, written)

/-- A whole invocation in a file tree. -/
def run (t : FileTree) (entropy : UInt64) (args : List String) : Report × FileTree :=
  match Command.parse args with
  | none => (rejected, t)
  | some command => save t (execute t.read entropy command)

end Cli

end Marionette

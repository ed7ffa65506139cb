import Marionette.Cli.Run

/-!
# The program

Reads the files that the command line names, carries the command out and prints its report.  A play that is
not instant waits for each due time and prints events as they come.

## Main definitions

* `main`.
-/

namespace Marionette

namespace Cli

/-- Read a file of the computer. -/
def readFile (path : String) : IO (Except FileFault ByteArray) := do
  try
    return .ok (← IO.FS.readBinFile path)
  catch
    | .noFileOrDirectory .. => return .error .notFound
    | .inappropriateType _ code _ => return .error (if code = 21 then .isDirectory else .notDirectory)
    | _ => return .error .notDirectory

/-- The paths that a command reads. -/
def Command.inputs : Command → List String
  | .compile project _ => project.input :: project.config.toList
  | .play project _ => project.input :: project.config.toList
  | _ => []

/-- Read all files that a command may ask for. -/
def readerFor (c : Command) : IO FileReader := do
  let contents ← c.inputs.mapM fun path => return (path, ← readFile path)
  return fun path => (contents.lookup path).getD (.error .notFound)

/-- Print a report and end with its exit code. -/
def finish (r : Report) : IO UInt32 := do
  IO.print r.out
  IO.eprint r.err
  return UInt32.ofNat r.exit

/-- Write the file that a report asks for. -/
def saveFile (r : Report) : IO Report := do
  match r.output with
  | none => return r
  | some o =>
    let folder := parentPath o.path
    try
      if folder != "" then IO.FS.createDirAll folder
    catch _ => return r.fail (.createFolder folder)
    try
      IO.FS.writeFile o.path o.content
      return r.wrote o
    catch _ => return r.fail (.writeTable o.path)

/-- Print the events that have come, and give the playback without them. -/
def printEvents (pb : Playback Stage) : IO (Playback Stage) := do
  let (events, pb) := pb.takeEvents
  for e in events do
    IO.println (eventLine e)
  (← IO.getStdout).flush
  return pb

/-- Wait for due times and fire until playback has ended. -/
partial def playAlong (pb : Playback Stage) : IO (Playback Stage) := do
  let pb ← printEvents pb
  if !pb.player.isRunning then return pb
  match pb.timers.nextDue? with
  | none => return pb
  | some due =>
    IO.sleep (UInt32.ofNat (due - pb.timers.now))
    match { pb with timers := pb.timers.advanceTo due }.fireDue? patience with
    | some pb => playAlong pb
    | none => return pb

/-- Play a loaded flow in real time. -/
def playLive (l : Loaded) : IO UInt32 := do
  match l.playback.play? l.flow with
  | none => finish ({} : Report).breakOff
  | some (.error f) => finish (({} : Report).fail (.error f.error))
  | some (.ok (.empty, _)) => finish (({} : Report).diagnose (nothingLine l.flow))
  | some (.ok (.started, pb)) =>
    let pb ← playAlong pb
    finish (({} : Report).diagnose (closingLine pb))

/-- Carry a command out. -/
def perform (c : Command) : IO UInt32 := do
  let read ← readerFor c
  let entropy := UInt64.ofNat (← IO.rand 0 (UInt64.size - 1))
  match c with
  | .play project { instant := false, .. } =>
    match load read entropy project with
    | .error f => finish (({} : Report).fail f)
    | .ok l => playLive l
  | c => finish (← saveFile (execute read entropy c))

end Cli

end Marionette

/-- Carry out the command of the arguments. -/
def main (args : List String) : IO UInt32 :=
  match Marionette.Cli.Command.parse args with
  | none => Marionette.Cli.finish Marionette.Cli.rejected
  | some c => Marionette.Cli.perform c

import ComponentPasses.CommandLine.Run
import ComponentPasses.Data.Json.Printer

/-!
# The program

Everything the program decides is decided by `CommandLine.run`, on a disk that is a value.  What is
left here is to read that disk before the run and to carry out its changes after it.  The stack is
taken to be without bounds: where that of the system gives out, so does the program.

A run looks at few places: those that lead to its snapshot and its output directory, a settings file
beside each directory on the way, and what stands in the output directory.
-/

namespace ComponentPasses.CommandLine

open Disk (Place Entry)

/-- A place as the system knows it. -/
def systemName (place : Place) : String :=
  "/" ++ "/".intercalate place

/-- What stands at a place. -/
def probe (place : Place) : IO (Option Entry) := do
  try
    pure (some (.file (← IO.FS.readBinFile (systemName place)).data.toList))
  catch _ =>
    if ← (← IO.FS.realPath (systemName place)).isDir then pure (some .directory) else pure none

/-- The places of what stands in a directory. -/
def listed (place : Place) : IO (List Place) := do
  try
    let found ← (← IO.FS.realPath (systemName place)).readDir
    pure (found.toList.map fun entry => place ++ [entry.fileName])
  catch _ => pure []

/-- The directories that a place stands in, and the place itself. -/
def lineage (place : Place) : List Place :=
  (List.range (place.length + 1)).map fun count => place.take count

/-- The places that a command looks at. -/
def placesOf (command : Command) (current : Place) : IO (List Place) := do
  let way := (command.request.snapshot.way current).flatMap lineage
  let target := match command.destination with
    | .directory path => path.way current
    | _ => []
  let inside ← match target.getLast? with
    | some place => listed place
    | none => pure []
  pure (way ++ way.map (· ++ [Settings.filename]) ++ target.flatMap lineage ++ inside)

/-- Reads the disk as far as the arguments ask for it. -/
def readDisk (arguments : List String) (current : Place) : IO Disk := do
  let places ← match Command.read arguments with
    | .ok command => placesOf command current
    | .error _ => pure []
  let found ← places.eraseDups.filterMapM fun place => do
    pure ((← probe place).map fun entry => (place, entry))
  pure ⟨found, current⟩

/-- Carries out the changes that a run made. -/
def writeChanges (before after : Disk) : IO Unit := do
  for (place, entry) in after.entries do
    if entry = .directory && before.entry? place = none then
      IO.FS.createDirAll (systemName place)
  for (place, bytes) in before.changedFiles after do
    IO.FS.writeBinFile (systemName place) ⟨bytes.toArray⟩

/-- Prints what a run leaves: its log and report, or its data alone on standard output. -/
def printOutcome (outcome : Outcome) : IO UInt32 := do
  let log := outcome.journal.map fun record => Console.plain record.message
  match outcome.data with
  | some data =>
    log.forM IO.eprintln
    IO.println (Data.Json.pretty data)
  | none =>
    log.forM IO.println
    IO.print outcome.printed
    IO.print outcome.console
  match outcome.usageMessage with
  | none | some "" => pure ()
  | some message => IO.eprintln message
  match outcome.ending with
  | .ok status => pure status.toUInt32
  | .error failure => do
    IO.eprintln failure.message
    pure 1

end ComponentPasses.CommandLine

/-- Runs the program on the disk of the system. -/
def main (arguments : List String) : IO UInt32 := do
  let current := (ComponentPasses.Disk.Path.ofText (← IO.currentDir).toString).parts
  let before ← ComponentPasses.CommandLine.readDisk arguments current
  let outcome := ComponentPasses.CommandLine.run arguments .unbounded before
  ComponentPasses.CommandLine.writeChanges before outcome.disk
  ComponentPasses.CommandLine.printOutcome outcome

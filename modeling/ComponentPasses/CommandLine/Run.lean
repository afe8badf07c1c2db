import ComponentPasses.CommandLine.Command
import ComponentPasses.CommandLine.Report
import ComponentPasses.Findings
import ComponentPasses.Settings.Lookup
import ComponentPasses.Settings.Overrides
import ComponentPasses.Snapshot.Loading

/-!
# Running commands

A command looks up the settings that hold where its snapshot stands, loads the snapshot, runs the
passes and tells what came of it.

**Failing.**  What is wrong with the settings or the snapshot is logged as one error and ends the
command with status 1, and so do findings that are errors.  Some failures are not the command's to
report and end the whole run instead: a settings section that is no table, a snapshot that is no
text or has an integer beyond all bounds, a path with a name that is too long, a directory that
cannot be written to or was not named, an artifact name that comes twice, and a stack that is too
small for how deep a file or a program is nested.

**Outside the model.**  What a command writes, it writes to a `Disk`: links, permissions and full
devices are outside the model.
-/

namespace ComponentPasses

open Console (LogRecord)
open Data (Value Entries)
open Snapshot (Compilation LoadFault)
open Settings (LookupFault)

/-! ## 1. The stack -/

/-- What the stack of the machine has room for.  Whoever reads a file or walks a program goes as
deep as that is nested, and how deep is too deep is the machine's affair: nothing is assumed about
it. -/
structure Stack where
  /-- Whether the settings file of these bytes can be read. -/
  readsSettings : List UInt8 → Bool
  /-- Whether the snapshot of these bytes can be read. -/
  readsSnapshot : List UInt8 → Bool
  /-- How many records the passes log before there is no room for more, unless there is enough. -/
  endsPasses? : Settings → Compilation → Option Nat

namespace Stack

/-- A stack with room for everything. -/
def unbounded : Stack where
  readsSettings _ := true
  readsSnapshot _ := true
  endsPasses? _ _ := none

/-- Whether the stack has room for reading the settings file that is in force in a directory, if
there is one. -/
def holdsSettings (stack : Stack) (disk : Disk) (directory : Disk.Path) : Bool :=
  match disk.nearestFile Settings.filename (directory.resolve disk.current) with
  | .ok (some bytes) => stack.readsSettings bytes
  | _ => true

/-- Whether the stack has room for reading the snapshot that a path leads to, if there is one. -/
def holdsSnapshot (stack : Stack) (disk : Disk) (path : Disk.Path) : Bool :=
  match disk.readFile path with
  | .ok bytes => stack.readsSnapshot bytes
  | .error _ => true

end Stack

namespace CommandLine

/-! ## 2. One attempt -/

/-- A failure that ends the whole run. -/
inductive Escape
  | loading (fault : LoadFault)
  | lookup (fault : LookupFault)
  | access (fault : Disk.AccessError)
  | duplicate (refusal : DuplicateArtifact)
  | unnamedDirectory
  | stackExhausted
deriving Repr

/-- The failure in words. -/
def Escape.message : Escape → String
  | .loading fault => fault.message
  | .lookup fault => fault.message?.getD "The section of the settings is not a table."
  | .access fault => fault.message
  | .duplicate refusal => refusal.message
  | .unnamedDirectory => "The directory for the artifacts is not named."
  | .stackExhausted => "maximum recursion depth exceeded"

/-- How an attempt to run the passes ends: with a result, with an error to log, or not at all. -/
inductive Attempt
  | finished (generation : Generation)
  | refused (message : String)
  | escaped (failure : Escape)

/-- A failed lookup is refused in the words of what failed, if that is about what the file says. -/
def Attempt.ofLookupFault (fault : LookupFault) : Attempt :=
  match fault.message? with
  | some message => .refused (Console.escape message)
  | none => .escaped (.lookup fault)

/-- A failed loading is refused if it is about the snapshot as such. -/
def Attempt.ofLoadFault (fault : LoadFault) : Attempt :=
  if fault.isAboutSnapshot then .refused (Console.escape fault.message)
  else .escaped (.loading fault)

/-- Where the search for the settings of the snapshot that a path leads to starts: in its
directory. -/
def settingsDirectory (disk : Disk) (path : Disk.Path) : Disk.Path :=
  ⟨"/", (path.resolve disk.current).dropLast⟩

/-- Runs the passes with settings over a compilation; also gives their log. -/
def attemptPasses (stack : Stack) (settings : Settings) (compilation : Compilation) :
    Attempt × List LogRecord :=
  let outcome := ComponentPasses.run settings compilation
  match stack.endsPasses? settings compilation, outcome.result with
  | some logged, _ => (.escaped .stackExhausted, outcome.journal.take logged)
  | none, .ok generation => (.finished generation, outcome.journal)
  | none, .error duplicate => (.escaped (.duplicate duplicate), outcome.journal)

/-- Runs the passes on the snapshot that a path leads to, where something stands there, with the
settings in force in its directory and the given ones laid over them; also gives the log of the
passes. -/
def attemptFound (stack : Stack) (disk : Disk) (path : Disk.Path) (overrides : Entries Value) :
    Attempt × List LogRecord :=
  if stack.holdsSettings disk (settingsDirectory disk path) then
    match Settings.load disk (settingsDirectory disk path) overrides with
    | .error fault => (.ofLookupFault fault, [])
    | .ok settings =>
      if stack.holdsSnapshot disk path then
        match Snapshot.load disk path with
        | .error fault => (.ofLoadFault fault, [])
        | .ok snapshot => attemptPasses stack settings (.ofSnapshot snapshot)
      else (.escaped .stackExhausted, [])
  else (.escaped .stackExhausted, [])

/-- Runs the passes on the snapshot that a path leads to, if there is one. -/
def attempt (stack : Stack) (disk : Disk) (path : Disk.Path) (overrides : Entries Value) :
    Attempt × List LogRecord :=
  match disk.contains path with
  | .error fault => (.escaped (.access fault), [])
  | .ok false => (.refused ("Snapshot not found: " ++ path.text), [])
  | .ok true => attemptFound stack disk path overrides

/-! ## 3. Artifacts -/

/-- Writes artifacts into a directory one by one; the disk as far as that went. -/
def writeFiles (disk : Disk) (directory : Disk.Path) :
    List Artifact → Disk × Except Disk.AccessError Unit
  | [] => (disk, .ok ())
  | artifact :: rest =>
    let path := directory.join (.ofText artifact.filename)
    match disk.writeFile path artifact.content.toUTF8.data.toList with
    | .error fault => (disk, .error fault)
    | .ok disk => writeFiles disk directory rest

/-- Makes a directory, if need be, and writes artifacts into it; the disk as far as that went. -/
def writeArtifacts (disk : Disk) (directory : Disk.Path) (artifacts : List Artifact) :
    Disk × Except Disk.AccessError Unit :=
  match disk.makeDirectories directory with
  | (disk, .error fault) => (disk, .error fault)
  | (disk, .ok ()) => writeFiles disk directory artifacts

/-- The note about an artifact that is not written anywhere. -/
def generatedNote (artifact : Artifact) : LogRecord :=
  ⟨.info, "Generated " ++ styled "path" artifact.filename⟩

/-- The note about artifacts that were written. -/
def writtenNote (directory : Disk.Path) (count : Nat) : LogRecord :=
  ⟨.success, "Wrote " ++ toString count ++ " files to " ++ styled "path" directory.text⟩

/-! ## 4. Commands -/

/-- What a run of the program leaves: its exit status or the failure that ended it, what it says
when it leaves on account of its arguments, what it prints as text and as data, what it shows on the
console, its log, and the disk. -/
structure Outcome where
  ending : Except Escape Nat
  usageMessage : Option String := none
  printed : String := ""
  data : Option Value := none
  console : String := ""
  journal : List LogRecord := []
  disk : Disk

/-- The exit status after a result. -/
def statusOf (generation : Generation) : Nat :=
  if generation.success then 0 else 1

/-- The settings that a command lays over all others. -/
def Command.overrides (command : Command) (given : Entries Value) : Entries Value :=
  match command with
  | .generate .. => given
  | .analyze _ =>
    (given.put "generate_dispatch" (.flag false)).put "analyze_keys" (.flag true)

/-- The title of a command's summary. -/
def Command.title (command : Command) : String :=
  let name := command.request.snapshot.name
  match command with
  | .generate .. => "Generation Summary for " ++ name
  | .analyze _ => "Key Analysis Summary for " ++ name

/-- Where a command's artifacts go. -/
def Command.destination : Command → Destination
  | .generate _ destination => destination
  | .analyze _ => .log

/-- Does with the artifacts what a command asks for: they are written, or else named in the log. -/
def Command.deliver (command : Command) (disk : Disk) (artifacts : List Artifact) :
    Disk × Except Escape (List LogRecord) :=
  match command.destination with
  | .log => (disk, .ok (artifacts.map generatedNote))
  | .unnamed => (disk, .error .unnamedDirectory)
  | .directory path =>
    let (disk, written) := writeArtifacts disk path artifacts
    (disk, (written.map fun _ => [writtenNote path artifacts.length]).mapError .access)

/-- Runs a command. -/
def Command.run (command : Command) (stack : Stack) (disk : Disk) : Outcome :=
  let (given, warnings) := Settings.readOverrides command.request.overrides
  let (ended, journal) := attempt stack disk command.request.snapshot (command.overrides given)
  let journal := warnings ++ journal
  match ended with
  | .escaped failure => { ending := .error failure, journal, disk }
  | .refused message => { ending := .ok 1, journal := journal ++ [⟨.error, message⟩], disk }
  | .finished generation =>
    match command.deliver disk generation.artifacts with
    | (disk, .error failure) => { ending := .error failure, journal, disk }
    | (disk, .ok notes) =>
      let done : Outcome :=
        { ending := .ok (statusOf generation), journal := journal ++ notes, disk }
      if command.request.asData then
        { done with data := some (generation.write (command.destination = .log)) }
      else { done with console := report command.title generation }

/-- How to call the program. -/
def usage : String :=
  "usage: " ++ programName ++
    " generate [--out DIRECTORY] [--json] [--config KEY=VALUE ...] SNAPSHOT\n" ++
  "       " ++ programName ++ " analyze [--json] [--config KEY=VALUE ...] SNAPSHOT\n"

/-- What the program leaves when it runs no command. -/
def Departure.outcome (departure : Departure) (disk : Disk) : Outcome :=
  match departure with
  | .notice .help => { ending := .ok 0, usageMessage := some "", printed := usage, disk }
  | .notice .version =>
    { ending := .ok 0, usageMessage := some "", printed := programName ++ " " ++ version ++ "\n"
      disk }
  | .misuse program fault =>
    { ending := .ok 2, usageMessage := some (program ++ ": error: " ++ fault.message), disk }

/-- Runs the program. -/
def run (arguments : List String) (stack : Stack) (disk : Disk) : Outcome :=
  match Command.read arguments with
  | .ok command => command.run stack disk
  | .error departure => departure.outcome disk

end CommandLine

end ComponentPasses

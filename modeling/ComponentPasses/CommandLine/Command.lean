import ComponentPasses.CommandLine.Grammar
import ComponentPasses.Disk.Path

/-!
# Commands

The program has two commands: `generate` runs both passes on a snapshot and can write the artifacts
to a directory, `analyze` runs the loop analysis alone.  The arguments are read twice: the grammar
of the program finds the command, and the grammar of the command reads what comes after it.
-/

namespace ComponentPasses.CommandLine

/-- The name of the program. -/
def programName : String := "blazorgen"

/-- The version of the program. -/
def version : String := "0.1.0"

/-! ## 1. What is asked for -/

/-- What both commands are told. -/
structure Request where
  snapshot : Disk.Path
  /-- Whether the result is printed as data. -/
  asData : Bool := false
  /-- Settings for this run, as items `key=value`. -/
  overrides : List String := []
deriving DecidableEq, Repr

/-- Where artifacts go: they are only named in the log, or written to a directory, or meant for a
directory that was not named. -/
inductive Destination
  | log
  | directory (path : Disk.Path)
  | unnamed
deriving DecidableEq, Repr

/-- What the program is asked to do. -/
inductive Command
  | generate (request : Request) (destination : Destination)
  | analyze (request : Request)
deriving DecidableEq, Repr

/-- What both commands are told. -/
def Command.request : Command → Request
  | .generate request _ => request
  | .analyze request => request

/-- Why the program leaves without running a command. -/
inductive Departure
  | notice (notice : Notice)
  | misuse (program : String) (fault : UsageFault)
deriving DecidableEq, Repr

/-! ## 2. The grammars -/

/-- Asks for help. -/
def helpOption : OptionRule := ⟨["-h", "--help"], .leave .help⟩

/-- Asks for the version. -/
def versionOption : OptionRule := ⟨["--version"], .leave .version⟩

/-- The directory that artifacts are written to. -/
def directoryOption : OptionRule := ⟨["--out"], .one⟩

/-- Asks for the result as data. -/
def dataOption : OptionRule := ⟨["--json"], .nothing⟩

/-- Settings for this run. -/
def overridesOption : OptionRule := ⟨["--config"], .several⟩

/-- The grammar of the program. -/
def programGrammar : Grammar where
  program := programName
  options := [helpOption, versionOption]
  operand := "command"
  takesRest := true

/-- The grammar of the command `generate`. -/
def generateGrammar : Grammar where
  program := programName ++ " generate"
  options := [helpOption, directoryOption, dataOption, overridesOption]
  operand := "snapshot"

/-- The grammar of the command `analyze`. -/
def analyzeGrammar : Grammar where
  program := programName ++ " analyze"
  options := [helpOption, dataOption, overridesOption]
  operand := "snapshot"

/-- The commands by name. -/
def commands : List (String × Grammar) :=
  [("generate", generateGrammar), ("analyze", analyzeGrammar)]

/-! ## 3. Reading -/

/-- What a reading by the grammar of a command says to both commands. -/
def Request.ofReading (reading : Reading) : Request where
  snapshot := .ofText (reading.operand.head?.getD "")
  asData := reading.has dataOption
  overrides := reading.values overridesOption

/-- Where artifacts go by a reading. -/
def Destination.ofReading (reading : Reading) : Destination :=
  if reading.has directoryOption then
    match reading.values directoryOption with
    | text :: _ => .directory (.ofText text)
    | [] => .unnamed
  else .log

/-- The command of a name with what a reading by its grammar says. -/
def Command.ofReading (name : String) (reading : Reading) : Command :=
  if name = "analyze" then .analyze (.ofReading reading)
  else .generate (.ofReading reading) (.ofReading reading)

/-- Reads arguments by a grammar. -/
def Grammar.readOrLeave (grammar : Grammar) (arguments : List String) :
    Except Departure Reading :=
  (grammar.read arguments).mapError fun
    | .left notice => .notice notice
    | .refused fault => .misuse grammar.program fault

/-- Reads the arguments of the program.  What neither grammar has a use for is refused at the
end. -/
def Command.read (arguments : List String) : Except Departure Command := do
  let outer ← programGrammar.readOrLeave arguments
  let name := outer.operand.head?.getD ""
  match commands.lookup name with
  | none =>
    throw (.misuse programName (.unknownChoice programGrammar.operand name (commands.map (·.1))))
  | some grammar =>
    let inner ← grammar.readOrLeave (outer.operand.drop 1)
    match outer.leftOver ++ inner.leftOver with
    | [] => pure (.ofReading name inner)
    | leftOver => throw (.misuse programName (.unrecognized leftOver))

end ComponentPasses.CommandLine

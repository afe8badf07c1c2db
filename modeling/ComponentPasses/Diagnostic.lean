import ComponentPasses.Data.Value
import ComponentPasses.Snapshot.Location

/-!
# Diagnostics

What the passes find wrong with the source is reported as diagnostics.  A **rule** describes one
kind of finding once: its identifier, texts and severity, and a message with numbered gaps.  A
**diagnostic** is one finding: a rule with its gaps filled, at one or more locations, the first of
which is where it is shown.

There are two rules: parameters whose names agree up to case (`nameConflict`, an error) and loops
that render without a key (`keylessLoop`, a warning).
-/

namespace ComponentPasses

open Snapshot (Location)

/-! ## 1. Rules -/

/-- How much a finding matters. -/
inductive Severity
  | error
  | warning
  | info
deriving DecidableEq, Repr, Inhabited

/-- The name of a severity. -/
def Severity.name : Severity → String
  | .error => "error"
  | .warning => "warning"
  | .info => "info"

/-- The severities by their names, in the order messages list them. -/
def Severity.choices : List (String × Severity) :=
  [Severity.error, .warning, .info].map fun severity => (severity.name, severity)

/-- A part of a message: fixed text, or a gap for the argument with a number. -/
inductive MessagePart
  | text (s : String)
  | gap (index : Nat)
deriving DecidableEq, Repr

/-- One kind of finding. -/
structure Rule where
  id : String
  title : String
  messageFormat : List MessagePart
  category : String
  severity : Severity
  description : String := ""
deriving Repr

/-- A message needs an argument that was not given. -/
structure MissingArgument where
  index : Nat
deriving DecidableEq, Repr

/-- How a missing argument is described. -/
def MissingArgument.message (missing : MissingArgument) : String :=
  "Replacement index " ++ toString missing.index ++
    " out of range for positional args tuple"

/-- The message format with its gaps as numbers in braces. -/
def Rule.formatText (rule : Rule) : String :=
  String.join <| rule.messageFormat.map fun
    | .text s => s
    | .gap index => "\x7b" ++ toString index ++ "\x7d"

/-- The message with its gaps filled; the first gap without an argument is refused. -/
def Rule.fill (rule : Rule) (arguments : List String) : Except MissingArgument String := do
  let parts ← rule.messageFormat.mapM fun
    | .text s => pure s
    | .gap index =>
      match arguments[index]? with
      | some argument => pure argument
      | none => throw ⟨index⟩
  pure (String.join parts)

/-- Two parameters of a class whose names agree up to case. -/
def Rule.nameConflict : Rule where
  id := "BB0001"
  title := "Parameter name conflict"
  messageFormat :=
    [.text "Parameter names are case insensitive. ", .gap 0, .text " conflicts with ", .gap 1]
  category := "Conflict"
  severity := .error
  description :=
    "Parameter names must be case insensitive to be usable in routes. " ++
    "Rename the parameter to not be in conflict with other parameters."

/-- A loop that renders elements or components at its top level without a key. -/
def Rule.keylessLoop : Rule where
  id := "BB0003"
  title := "foreach without key"
  messageFormat := [.text "A key must be used when rendering loops in Blazor"]
  category := "Correctness"
  severity := .warning
  description :=
    "Not using a @key within a for-loop or foreach-loop in Blazor not only can have a negative " ++
    "performance impact, but also cause problems with disposable components."

/-! ## 2. Findings -/

/-- One finding. -/
structure Diagnostic where
  id : String
  severity : Severity
  message : String
  locations : List Location := []
deriving DecidableEq, Repr, Inhabited

namespace Diagnostic

/-- The finding of a rule with its gaps filled. -/
def ofRule (rule : Rule) (locations : List Location) (arguments : List String) :
    Except MissingArgument Diagnostic := do
  let message ← rule.fill arguments
  pure ⟨rule.id, rule.severity, message, locations⟩

/-- The finding that one parameter's name conflicts with another's. -/
def nameConflict (location : Location) (name other : String) : Diagnostic :=
  ⟨Rule.nameConflict.id, Rule.nameConflict.severity,
    "Parameter names are case insensitive. " ++ name ++ " conflicts with " ++ other, [location]⟩

/-- The finding that a loop, given by where its keyword stands, renders without a key. -/
def keylessLoop (keyword : Location) : Diagnostic :=
  ⟨Rule.keylessLoop.id, Rule.keylessLoop.severity,
    "A key must be used when rendering loops in Blazor", [keyword]⟩

/-- The conflict finding is the conflict rule with both gaps filled. -/
theorem ofRule_nameConflict (location : Location) (name other : String) :
    ofRule .nameConflict [location] [name, other] = .ok (nameConflict location name other) := by
  simp [ofRule, Rule.fill, Rule.nameConflict, nameConflict, String.join, bind, Except.bind, pure,
    Except.pure]

/-- The loop finding is the loop rule, which has no gap. -/
theorem ofRule_keylessLoop (keyword : Location) :
    ofRule .keylessLoop [keyword] [] = .ok (keylessLoop keyword) := by
  simp [ofRule, Rule.fill, Rule.keylessLoop, keylessLoop, String.join, bind, Except.bind, pure,
    Except.pure]

/-- Where the finding is shown. -/
def location (diagnostic : Diagnostic) : Location :=
  diagnostic.locations.head?.getD {}

/-- The finding on one line. -/
def text (diagnostic : Diagnostic) : String :=
  diagnostic.location.text ++ ": " ++ diagnostic.severity.name ++ " " ++ diagnostic.id ++ ": " ++
    diagnostic.message

/-- Whether the finding is an error. -/
def isError (diagnostic : Diagnostic) : Bool :=
  diagnostic.severity = .error

end Diagnostic

end ComponentPasses

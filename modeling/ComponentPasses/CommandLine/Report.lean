import ComponentPasses.Console.Table
import ComponentPasses.Generation

/-!
# What is shown of a run

A run is shown as the table of its findings, if it has any, and a summary with three counts.
-/

namespace ComponentPasses.CommandLine

/-- Marked-up text in a style. -/
def styled (style text : String) : String :=
  "[" ++ style ++ "]" ++ text ++ "[/" ++ style ++ "]"

/-- The row of a finding. -/
def findingRow (diagnostic : Diagnostic) : List String :=
  [diagnostic.id, styled diagnostic.severity.name diagnostic.severity.name,
    diagnostic.location.text, diagnostic.message]

/-- The table of findings. -/
def findingTable (diagnostics : List Diagnostic) : Console.Table where
  title := "Diagnostics"
  headings := ["Id", "Severity", "Location", "Message"]
  rows := diagnostics.map findingRow

/-- The lines of the summary, as marked-up text. -/
def summary (title : String) (generation : Generation) : List String :=
  [styled "bold" title,
    "Artifacts:  " ++ toString generation.artifacts.length,
    "Errors:     " ++ styled "red" (toString generation.errors.length),
    "Warnings:   " ++ styled "yellow" (toString generation.warnings.length)]

/-- The lines that marked-up text takes on the console. -/
def shownLines (text : String) : List String :=
  (Console.wrap .fold Console.consoleWidth (Console.glyphs text)).map fun line =>
    String.ofList (Console.chars line)

/-- What is shown of a run. -/
def report (title : String) (generation : Generation) : String :=
  let table := match generation.diagnostics with
    | [] => []
    | diagnostics => (findingTable diagnostics).draw
  String.join ((table ++ (summary title generation).flatMap shownLines).map (· ++ "\n"))

end ComponentPasses.CommandLine

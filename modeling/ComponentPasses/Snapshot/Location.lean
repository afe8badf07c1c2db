/-!
# Source locations

Where a declaration, a call or a loop stands in the source.  Findings are reported with their
location, written as the path followed by line and column in round brackets.
-/

namespace ComponentPasses.Snapshot

/-- A position in a source file; line and column count from one. -/
structure Location where
  path : String := ""
  line : Int := 0
  column : Int := 0
deriving DecidableEq, Repr, Inhabited

/-- The location as messages show it. -/
def Location.text (location : Location) : String :=
  location.path ++ "(" ++ toString location.line ++ "," ++ toString location.column ++ ")"

end ComponentPasses.Snapshot

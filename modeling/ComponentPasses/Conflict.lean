import ComponentPasses.Data.Entries
import ComponentPasses.Diagnostic
import ComponentPasses.Parameter

/-!
# Conflicting parameter names

The second tier of a dispatcher matches names in lower case, so two parameters of one class must
not share a lowered name.  A **conflict group** holds the parameters that share one, in extraction
order; groups come in the order of their first members.

Every member of a group is reported once for each place it is declared at.  The report cites a
member whose name is spelled differently, if there is one, and else another member of the same
spelling.
-/

namespace ComponentPasses

open Data (Entries)

/-- Parameters that share a lowered name. -/
structure ConflictGroup where
  key : String
  members : List Parameter
deriving DecidableEq, Repr, Inhabited

/-- Adds a parameter to the group of its lowered name, which is begun at the end if need be. -/
def addToGroup (parameter : Parameter) : Entries (List Parameter) → Entries (List Parameter)
  | [] => [(parameter.loweredName, [parameter])]
  | (key, group) :: rest =>
    if key = parameter.loweredName then (key, group ++ [parameter]) :: rest
    else (key, group) :: addToGroup parameter rest

/-- The parameters by lowered name, in order of first appearance. -/
def groupByLoweredName (parameters : List Parameter) : Entries (List Parameter) :=
  parameters.foldl (fun groups parameter => addToGroup parameter groups) []

namespace ConflictGroup

/-- The groups of parameters that share a lowered name with another one. -/
def ofParameters (parameters : List Parameter) : List ConflictGroup :=
  (groupByLoweredName parameters).filterMap fun (key, group) =>
    if 1 < group.length then some ⟨key, group⟩ else none

/-- The name cited against the member with the given index: that of the first member spelled
differently, or else of the first other member. -/
def citedName (group : ConflictGroup) (index : Nat) (parameter : Parameter) : String :=
  match group.members.find? (·.name ≠ parameter.name) with
  | some other => other.name
  | none =>
    match group.members.zipIdx.find? (·.2 ≠ index) with
    | some (other, _) => other.name
    | none => parameter.name

/-- The findings about a group: one for each member and each place it is declared at. -/
def diagnostics (group : ConflictGroup) : List Diagnostic :=
  group.members.zipIdx.flatMap fun (parameter, index) =>
    parameter.locations.map fun location =>
      .nameConflict location parameter.name (group.citedName index parameter)

end ConflictGroup

/-- The findings about all conflicts among the parameters of a class. -/
def conflictDiagnostics (parameters : List Parameter) : List Diagnostic :=
  (ConflictGroup.ofParameters parameters).flatMap (·.diagnostics)

end ComponentPasses

import ComponentPasses.Data.Toml.Reader

/-!
# What a TOML text says

The lines of a TOML text build one table.  A header chooses the table that the pairs after it go to;
the header of a list of tables adds a new last table to the list.  Four rules keep each thing said
once:

* a key is given one value;
* a table is declared by one header at most, and a list of tables by no plain header;
* a table that the points of a key have made may be extended within the same section only;
* a list or table that is the value of a pair is complete: nothing reaches into it.
-/

namespace ComponentPasses.Data.Toml

/-- What has been built so far. -/
structure Builder where
  root : Entries Value := []
  /-- The header in force. -/
  header : Key := []
  /-- The keys that no header may declare and no points of a key may lead through. -/
  declared : List Key := []
  /-- The keys of complete values. -/
  sealedKeys : List Key := []
  /-- The keys of tables made by points in this section, declared once it ends. -/
  pending : List Key := []

namespace Builder

/-- Whether a complete value stands at the key or on the way to it. -/
def isSealed (builder : Builder) (key : Key) : Bool :=
  builder.sealedKeys.any (·.isPrefixOf key)

/-- Ends the section of the header in force. -/
def endSection (builder : Builder) : Builder :=
  { builder with declared := builder.pending ++ builder.declared, pending := [] }

/-- Begins the section of a table. -/
def beginTable (builder : Builder) (key : Key) : Option Builder :=
  let builder := builder.endSection
  if builder.declared.contains key || builder.isSealed key then none
  else
    (changeAt true some key builder.root).map fun root =>
      { builder with root, header := key, declared := key :: builder.declared }

/-- Adds an empty table to the end of a list of tables. -/
def addEmptyTable (part : String) (table : Entries Value) : Option (Entries Value) :=
  match table.get? part with
  | none => some (table.put part (.list [.record []]))
  | some (.list items) => some (table.put part (.list (items ++ [.record []])))
  | some _ => none

/-- Begins the section of the next table of a list.  What was said about the table before it does
not hold for this one. -/
def beginNextTable (builder : Builder) (key : Key) : Option Builder :=
  let builder := builder.endSection
  if builder.isSealed key then none
  else
    (changeAt true (addEmptyTable (key.getLast?.getD "")) key.dropLast builder.root).map fun root =>
      { builder with
        root, header := key
        declared := key :: builder.declared.filter fun other => !key.isPrefixOf other
        sealedKeys := builder.sealedKeys.filter fun other => !key.isPrefixOf other }

/-- The keys of the tables that the points of a key lead through, in a section. -/
def waypoints (header key : Key) : List Key :=
  (List.range (key.length - 1)).map fun i => header ++ key.take (i + 1)

/-- Adds a pair to the section. -/
def addPair (builder : Builder) (key : Key) (value : Value) : Option Builder :=
  let way := waypoints builder.header key
  let full := builder.header ++ key
  if way.any builder.declared.contains || builder.isSealed full.dropLast then none
  else
    (Toml.addPair true full value builder.root).map fun root =>
      { builder with
        root
        pending := way ++ builder.pending
        sealedKeys := if isContainer value then full :: builder.sealedKeys else builder.sealedKeys }

/-- Does what a line says; none where a rule forbids it. -/
def addLine (builder : Builder) : Line → Option Builder
  | .pair key value => builder.addPair key value
  | .table key => builder.beginTable key
  | .nextTable key => builder.beginNextTable key

end Builder

/-- Reads a whole text. -/
def read (text : List Char) : Except Fault (Entries Value) :=
  let rec dropReturns : List Char → List Char
    | '\r' :: '\n' :: rest => '\n' :: dropReturns rest
    | c :: rest => c :: dropReturns rest
    | [] => []
  let (lines, fault) := readLines (dropReturns text)
  match lines.foldlM Builder.addLine {} with
  | none => .error .malformed
  | some builder =>
    match fault with
    | some fault => .error fault
    | none => .ok builder.root

end ComponentPasses.Data.Toml

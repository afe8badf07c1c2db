import ComponentPasses.Data.Json.Fault
import ComponentPasses.Data.Toml.Document
import ComponentPasses.Disk.Basic
import ComponentPasses.Settings.Reading
import ComponentPasses.Text.Utf8

/-!
# Looking settings up

Settings stand in the table `tool.blazorgen` of the nearest file `pyproject.toml`: the one in the
directory where the search starts, or in the closest one above it.  The nearest file decides alone;
where it has no such table, or is no TOML, every setting has its default.

Settings given for the single run are laid over those of the file, and what results is checked by
the schema.
-/

namespace ComponentPasses.Settings

open Data (Value Entries)
open Schema (Violation Checked)

/-! ## 1. Refusals -/

/-- Why settings cannot be looked up. -/
inductive LookupFault
  /-- The file cannot be searched for along the path where the search is to start. -/
  | unsearchable (fault : Disk.AccessError)
  | undecodable (fault : Text.DecodingFault)
  | longInteger (digits : Nat)
  /-- The name `tool` does not stand for a table. -/
  | toolNotTable
  /-- The name `blazorgen` inside it does not stand for a table. -/
  | sectionNotTable
  | invalid (violations : List Violation)
deriving DecidableEq, Repr

namespace LookupFault

/-- The refusal in words, where it is about what the file says; of a report on the schema, its
first line. -/
def message? : LookupFault → Option String
  | .unsearchable fault => some fault.message
  | .undecodable fault => some fault.message
  | .longInteger digits => some (Data.Json.longIntegerMessage digits)
  | .toolNotTable => none
  | .sectionNotTable => none
  | .invalid violations =>
    some ("Generator configuration validation failed: " ++
      Schema.reportTitle modelName violations)

end LookupFault

/-! ## 2. Lookup -/

/-- The name of the files that settings are looked up in. -/
def filename : String := "pyproject.toml"

/-- The settings table of a document. -/
def sectionOf (document : Entries Value) : Except LookupFault (Entries Value) :=
  match document.get? "tool" with
  | none => .ok []
  | some (.record tools) =>
    match Entries.get? tools "blazorgen" with
    | none => .ok []
    | some (.record fields) => .ok fields
    | some _ => .error .sectionNotTable
  | some _ => .error .toolNotTable

/-- The settings table in the bytes of a file; a file that is no TOML has an empty one. -/
def sectionOfBytes (bytes : List UInt8) : Except LookupFault (Entries Value) := do
  let text ← (Text.decodeUtf8 bytes).mapError .undecodable
  match Data.Toml.read text.toList with
  | .ok document => sectionOf document
  | .error .malformed => .ok []
  | .error (.longInteger digits) => .error (.longInteger digits)

/-- The settings table that is in force at a place. -/
def sectionAt (disk : Disk) (place : Disk.Place) : Except LookupFault (Entries Value) :=
  match disk.nearestFile filename place with
  | .error fault => .error (.unsearchable fault)
  | .ok none => .ok []
  | .ok (some bytes) => sectionOfBytes bytes

/-- Looks up the settings in force where a path leads, the given ones laid over them.  The path need
not lead to anything. -/
def load (disk : Disk) (path : Disk.Path) (overrides : Entries Value) :
    Except LookupFault Settings := do
  if path.text.contains '\x00' then throw (.unsearchable ⟨.nullCharacter, path⟩)
  let fields ← sectionAt disk (path.resolve disk.current)
  match ofFields (fields.override overrides) with
  | .valid settings => .ok settings
  | .invalid violations => .error (.invalid violations)

end ComponentPasses.Settings

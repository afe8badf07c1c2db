import ComponentPasses.Data.Json.Reader
import ComponentPasses.Disk.Basic
import ComponentPasses.Snapshot.Reading
import ComponentPasses.Text.Utf8

/-!
# Loading snapshots

A snapshot is a file of UTF-8 text, every line end counted as one line feed, that holds one JSON
object which fits the schema.  Each of these can fail, in this order: the file cannot be read, its
bytes are no text, the text is no JSON, the value is no object, the object does not fit.
-/

namespace ComponentPasses.Snapshot

open Data (Value)
open Schema (Violation Checked)

/-! ## 1. Refusals -/

/-- Why a snapshot cannot be loaded. -/
inductive LoadFault
  | unreadable (path : Disk.Path) (fault : Disk.AccessError)
  | undecodable (fault : Text.DecodingFault)
  | malformed (path : Disk.Path) (text : List Char) (cause : Data.Json.Cause) (position : Nat)
  | longInteger (digits : Nat)
  | notRecord (path : Disk.Path)
  | invalid (violations : List Violation)
deriving Repr

namespace LoadFault

/-- The refusal in words; of a report on the schema, its first line. -/
def message : LoadFault → String
  | .unreadable path fault =>
    if fault.cause = .nullCharacter then fault.message
    else "Cannot read snapshot " ++ path.text ++ ": " ++ fault.message
  | .undecodable fault => fault.message
  | .malformed path text cause position =>
    "Snapshot " ++ path.text ++ " is not valid JSON: " ++
      Data.Json.placedMessage text cause position
  | .longInteger digits => Data.Json.longIntegerMessage digits
  | .notRecord path =>
    "Snapshot " ++ path.text ++ " must contain a JSON object at the top level."
  | .invalid violations =>
    "Invalid compilation snapshot: " ++ Schema.reportTitle "CompilationSnapshot" violations

/-- Whether the refusal is about the snapshot as such.  A path with a null character, bytes that are
no text and integers that are too long are refused below that, by what reads them. -/
def isAboutSnapshot : LoadFault → Bool
  | .unreadable _ fault => fault.cause ≠ .nullCharacter
  | .undecodable _ => false
  | .longInteger _ => false
  | _ => true

end LoadFault

/-! ## 2. Loading -/

/-- The snapshot that a value is. -/
def ofValue (v : Value) : Except LoadFault Snapshot :=
  match Snapshot.read v with
  | .valid snapshot => .ok snapshot
  | .invalid violations => .error (.invalid violations)

/-- The snapshot that the bytes of a file hold. -/
def ofBytes (path : Disk.Path) (bytes : List UInt8) : Except LoadFault Snapshot := do
  let decoded ← (Text.decodeUtf8 bytes).mapError .undecodable
  let text := Text.unifyLineEnds decoded.toList
  let value ← (Data.Json.read text).mapError fun
    | .malformed cause position => .malformed path text cause position
    | .longInteger digits => .longInteger digits
  match value with
  | .record _ => ofValue value
  | _ => .error (.notRecord path)

/-- Loads the snapshot that a path leads to. -/
def load (disk : Disk) (path : Disk.Path) : Except LoadFault Snapshot := do
  let bytes ← (disk.readFile path).mapError (.unreadable path)
  ofBytes path bytes

end ComponentPasses.Snapshot

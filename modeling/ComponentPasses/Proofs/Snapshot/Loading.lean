import ComponentPasses.Snapshot.Loading

/-!
# What the loading of a snapshot refuses

A snapshot that does not load is refused as such, for what it is or says.  There are two exceptions,
both from the readers below: bytes that are no text, and an integer with too many digits
(`ofBytes_eq_error_iff`).
-/

namespace ComponentPasses.Disk

variable {disk : Disk} {path : Path} {place : Place}

theorem readFile_of_file {bytes : List UInt8}
    (found : disk.find path = .ok (place, .file bytes)) : disk.readFile path = .ok bytes := by
  simp [readFile, found, bind, Except.bind]

theorem readFile_of_directory (found : disk.find path = .ok (place, .directory)) :
    disk.readFile path = .error ⟨.isDirectory, path⟩ := by
  simp [readFile, found, bind, Except.bind]

end ComponentPasses.Disk

namespace ComponentPasses.Snapshot

variable {disk : Disk} {path : Disk.Path} {place : Disk.Place}

theorem load_of_file {bytes : List UInt8} (found : disk.find path = .ok (place, .file bytes)) :
    load disk path = ofBytes path bytes := by
  rw [load, Disk.readFile_of_file found]
  rfl

theorem load_of_directory (found : disk.find path = .ok (place, .directory)) :
    load disk path = .error (.unreadable path ⟨.isDirectory, path⟩) := by
  rw [load, Disk.readFile_of_directory found]
  rfl

section Bytes

variable {bytes : List UInt8}

theorem ofBytes_of_undecodable {cause : Text.DecodingFault}
    (undecodable : Text.decodeUtf8 bytes = .error cause) :
    ofBytes path bytes = .error (.undecodable cause) := by
  rw [ofBytes, undecodable]
  rfl

section Decoded

variable {text : String}

theorem ofBytes_of_malformed (decoded : Text.decodeUtf8 bytes = .ok text) {cause : Data.Json.Cause}
    {position : Nat}
    (malformed :
      Data.Json.read (Text.unifyLineEnds text.toList) = .error (.malformed cause position)) :
    ofBytes path bytes =
      .error (.malformed path (Text.unifyLineEnds text.toList) cause position) := by
  rw [ofBytes, decoded]
  change (Data.Json.read (Text.unifyLineEnds text.toList)).mapError _ >>= _ = _
  rw [malformed]
  rfl

theorem ofBytes_of_longInteger (decoded : Text.decodeUtf8 bytes = .ok text) {digits : Nat}
    (long : Data.Json.read (Text.unifyLineEnds text.toList) = .error (.longInteger digits)) :
    ofBytes path bytes = .error (.longInteger digits) := by
  rw [ofBytes, decoded]
  change (Data.Json.read (Text.unifyLineEnds text.toList)).mapError _ >>= _ = _
  rw [long]
  rfl

/-- What is refused of a value that was read is the value. -/
theorem isAboutSnapshot_of_value (decoded : Text.decodeUtf8 bytes = .ok text) {value : Data.Value}
    (read : Data.Json.read (Text.unifyLineEnds text.toList) = .ok value) {fault : LoadFault}
    (fails : ofBytes path bytes = .error fault) : fault.isAboutSnapshot = true := by
  rw [ofBytes, decoded] at fails
  change (Data.Json.read (Text.unifyLineEnds text.toList)).mapError _ >>= _ = _ at fails
  rw [read] at fails
  cases value with
  | record fields =>
    change ofValue (.record fields) = .error fault at fails
    unfold ofValue at fails
    split at fails <;> cases fails
    rfl
  | null | flag | integer | real | text | moment | list =>
    cases fails
    rfl

end Decoded

/-- What is refused below the snapshot are bytes that are no text and integers that are too long. -/
theorem ofBytes_eq_error_iff {fault : LoadFault} (below : fault.isAboutSnapshot = false) :
    ofBytes path bytes = .error fault ↔
      (∃ cause, Text.decodeUtf8 bytes = .error cause ∧ fault = .undecodable cause) ∨
        ∃ text digits, Text.decodeUtf8 bytes = .ok text ∧
          Data.Json.read (Text.unifyLineEnds text.toList) = .error (.longInteger digits) ∧
          fault = .longInteger digits := by
  cases decoded : Text.decodeUtf8 bytes with
  | error cause => simp [ofBytes_of_undecodable decoded, eq_comm]
  | ok text =>
    cases read : Data.Json.read (Text.unifyLineEnds text.toList) with
    | error refusal =>
      cases refusal with
      | malformed cause position =>
        have other : .malformed path (Text.unifyLineEnds text.toList) cause position ≠ fault := by
          rintro rfl
          cases below
        simp [ofBytes_of_malformed decoded read, read, other]
      | longInteger digits => simp [ofBytes_of_longInteger decoded read, read, eq_comm]
    | ok value =>
      refine iff_of_false (fun fails => ?_) (by simp [read])
      rw [isAboutSnapshot_of_value decoded read fails] at below
      cases below

end Bytes

end ComponentPasses.Snapshot

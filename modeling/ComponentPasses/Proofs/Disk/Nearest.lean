import ComponentPasses.Proofs.Disk.Changing

/-!
# The nearest file of a name

A search for a file looks into the directory where it starts and then into each directory above.  It
goes on where no file of the name stands (`PassedOver`), so what it finds is the file of the nearest
directory that has one (`nearestFile_eq_some_iff`), and it finds nothing where every directory is
passed over (`nearestFile_eq_none_iff`).

**Further out.**  The search ends at the latest in a directory that has a file of the name.  What
has that name in the directories above makes no difference to it, since the way to a file never
leads through there (`nearestFile_of_differAbove`).  The directories on the way have to stay what
they are, though: one of them may have the very name that is looked for.
-/

namespace ComponentPasses.Disk

variable {disk other : Disk} {name : String} {directory start home : Place} {bytes : List UInt8}

/-! ## 1. Looking into a directory -/

/-- Whether a file of a name stands in a directory, with these bytes. -/
def HoldsFile (disk : Disk) (name : String) (directory : Place) (bytes : List UInt8) : Prop :=
  ∃ place, disk.walk [] .directory (directory ++ [name]) = .ok (place, .file bytes)

/-- Whether a search goes on above a directory: there is no file of the name in it, and no name on
the way is too long. -/
structure PassedOver (disk : Disk) (name : String) (directory : Place) : Prop where
  noFile : ∀ bytes, ¬ disk.HoldsFile name directory bytes
  short : disk.walk [] .directory (directory ++ [name]) ≠ .error .nameTooLong

theorem passedOver_of_walk
    (noFile : ∀ place bytes,
      disk.walk [] .directory (directory ++ [name]) = .ok (place, .file bytes) → False)
    (short : disk.walk [] .directory (directory ++ [name]) ≠ .error .nameTooLong) :
    disk.PassedOver name directory :=
  ⟨fun bytes ⟨place, walked⟩ => noFile place bytes walked, short⟩

/-- Whether a directory is the nearest that has a file of a name: the one where the search starts or
the closest above it. -/
structure IsNearest (disk : Disk) (name : String) (start home : Place) (bytes : List UInt8) :
    Prop where
  above : home <+: start
  holds : disk.HoldsFile name home bytes
  first : ∀ between, home <+: between → between ≠ home → between <+: start →
    disk.PassedOver name between

/-! ## 2. What a search finds -/

/-- A directory is above another one if it is above the parent of that. -/
theorem prefix_iff_dropLast (below : start ≠ []) :
    directory <+: start ↔ directory = start ∨ directory <+: start.dropLast := by
  conv_lhs => rw [← List.dropLast_append_getLast below, List.prefix_concat_iff]
  rw [List.dropLast_append_getLast below]

/-- A directory that has a file is the nearest to itself. -/
theorem isNearest_self (holds : disk.HoldsFile name start bytes) :
    disk.IsNearest name start start bytes :=
  ⟨List.prefix_rfl, holds, fun _ down apart up => absurd (up.eq_of_length_le down.length_le) apart⟩

/-- No directory above is the nearest where the start of the search is not passed over. -/
theorem IsNearest.home_eq (nearest : disk.IsNearest name start home bytes)
    (ends : ¬ disk.PassedOver name start) : home = start := by
  by_contra apart
  exact ends (nearest.first start nearest.above (Ne.symm apart) List.prefix_rfl)

theorem isNearest_iff_dropLast (below : start ≠ []) (passed : disk.PassedOver name start) :
    disk.IsNearest name start home bytes ↔ disk.IsNearest name start.dropLast home bytes := by
  constructor
  · rintro ⟨above, holds, first⟩
    rcases (prefix_iff_dropLast below).mp above with rfl | above
    · exact absurd holds (passed.noFile bytes)
    · exact ⟨above, holds, fun between down apart up =>
        first between down apart (up.trans start.dropLast_prefix)⟩
  · rintro ⟨above, holds, first⟩
    refine ⟨above.trans start.dropLast_prefix, holds, fun between down apart up => ?_⟩
    rcases (prefix_iff_dropLast below).mp up with rfl | up
    · exact passed
    · exact first between down apart up

/-- **What a search finds** is the file of the nearest directory that has one. -/
theorem nearestFile_eq_some_iff :
    disk.nearestFile name start = .ok (some bytes) ↔
      ∃ home, disk.IsNearest name start home bytes := by
  fun_induction disk.nearestFile name start with
  | case1 start place found walked =>
    have holds : disk.HoldsFile name start found := ⟨place, walked⟩
    constructor
    · rintro ⟨⟩
      exact ⟨start, isNearest_self holds⟩
    · rintro ⟨home, nearest⟩
      obtain rfl := nearest.home_eq fun passed => passed.noFile found holds
      obtain ⟨_, walked'⟩ := nearest.holds
      cases walked.symm.trans walked'
      rfl
  | case2 start long =>
    refine iff_of_false nofun ?_
    rintro ⟨home, nearest⟩
    obtain rfl := nearest.home_eq fun passed => passed.short long
    obtain ⟨_, walked⟩ := nearest.holds
    cases long.symm.trans walked
  | case3 noFile short =>
    refine iff_of_false nofun ?_
    rintro ⟨home, nearest⟩
    obtain rfl := List.prefix_nil.mp nearest.above
    exact (passedOver_of_walk noFile short).noFile bytes nearest.holds
  | case4 start below noFile short ih =>
    have passed := passedOver_of_walk noFile short
    simp only [ih, isNearest_iff_dropLast below passed]

/-- A search finds nothing where it passes over every directory. -/
theorem nearestFile_eq_none_iff :
    disk.nearestFile name start = .ok none ↔
      ∀ directory, directory <+: start → disk.PassedOver name directory := by
  fun_induction disk.nearestFile name start with
  | case1 start place found walked =>
    refine iff_of_false nofun fun all => ?_
    exact (all start List.prefix_rfl).noFile found ⟨place, walked⟩
  | case2 start long => exact iff_of_false nofun fun all => (all start List.prefix_rfl).short long
  | case3 noFile short =>
    refine iff_of_true rfl fun directory above => ?_
    obtain rfl := List.prefix_nil.mp above
    exact passedOver_of_walk noFile short
  | case4 start below noFile short ih =>
    have passed := passedOver_of_walk noFile short
    rw [ih]
    constructor
    · intro all directory above
      rcases (prefix_iff_dropLast below).mp above with rfl | above
      · exact passed
      · exact all directory above
    · exact fun all directory above => all directory (above.trans start.dropLast_prefix)

/-! ## 3. Further out -/

/-- Whether two disks differ in nothing but what has a name in the directories above a given one,
and not in the directories on the way to it. -/
structure DifferAbove (disk other : Disk) (name : String) (home : Place) : Prop where
  current : other.current = disk.current
  above : ∀ place, other.entry? place ≠ disk.entry? place →
    ¬ place <+: home ∧ ∃ further, further <+: home ∧ further ≠ home ∧ place = further ++ [name]

/-- What is put somewhere further out has the disks differ there only. -/
theorem differAbove_put {further : Place} (above : further <+: home) (apart : further ≠ home)
    (kept : ¬ further ++ [name] <+: home) (entry : Entry) :
    disk.DifferAbove (disk.put (further ++ [name]) entry) name home where
  current := rfl
  above := by
    intro place differs
    by_cases there : place = further ++ [name]
    · exact ⟨there ▸ kept, further, above, apart, there⟩
    · rw [entry?_put (List.concat_ne_nil _ _), if_neg there] at differs
      exact absurd rfl differs

/-- Following names from the root down sees nothing but the places on the way. -/
theorem walk_congr {place : Place} {entry : Entry} {parts : List String} (plain : ".." ∉ parts)
    (same : ∀ front, front <+: parts →
      other.entry? (place ++ front) = disk.entry? (place ++ front)) :
    other.walk place entry parts = disk.walk place entry parts := by
  induction parts generalizing place entry with
  | nil => rfl
  | cons part rest ih =>
    rw [List.mem_cons, not_or] at plain
    obtain ⟨down, plain⟩ := plain
    have next : other.entry? (place ++ [part]) = disk.entry? (place ++ [part]) :=
      same [part] (List.prefix_append [part] rest)
    have on : ∀ entry, other.walk (place ++ [part]) entry rest =
        disk.walk (place ++ [part]) entry rest := fun entry => by
      refine ih plain fun front above => ?_
      rw [List.append_assoc]
      exact same (part :: front) ((List.prefix_cons_inj part).mpr above)
    cases entry with
    | file bytes => rfl
    | directory => simp only [walk, if_neg (Ne.symm down), next, on]

/-- The way to a file of the name in a directory further in is the same on both disks. -/
theorem walk_of_differAbove (differ : disk.DifferAbove other name home) (plain : ".." ∉ directory)
    (down : name ≠ "..") (inside : home <+: directory) :
    other.walk [] .directory (directory ++ [name]) =
      disk.walk [] .directory (directory ++ [name]) := by
  refine walk_congr (by simp [plain, Ne.symm down]) fun place onWay => ?_
  rw [List.nil_append]
  by_contra differs
  obtain ⟨kept, further, above, apart, rfl⟩ := differ.above place differs
  rcases List.prefix_concat_iff.mp onWay with same | onWay
  · obtain ⟨rfl, -⟩ := List.append_inj' same rfl
    exact apart (above.eq_of_length_le inside.length_le)
  · -- a directory on the way that has the name is on the way to the one given
    refine kept (List.prefix_of_prefix_length_le onWay inside ?_)
    have shorter : further.length < home.length :=
      Nat.lt_of_le_of_ne above.length_le fun same => apart (above.eq_of_length same)
    rwa [List.length_append]

/-- **What stands further out makes no difference** to a search: where a directory has a file of the
name, the outcome is the same whatever has that name in the directories above. -/
theorem nearestFile_of_differAbove (differ : disk.DifferAbove other name home)
    (plain : ".." ∉ start) (down : name ≠ "..") (above : home <+: start)
    (holds : disk.HoldsFile name home bytes) :
    other.nearestFile name start = disk.nearestFile name start := by
  fun_induction disk.nearestFile name start with
  | case1 start place found walked =>
    rw [nearestFile, walk_of_differAbove differ plain down above, walked]
  | case2 start long => rw [nearestFile, walk_of_differAbove differ plain down above, long]
  | case3 noFile short =>
    obtain rfl := List.prefix_nil.mp above
    exact absurd holds ((passedOver_of_walk noFile short).noFile bytes)
  | case4 start below noFile short ih =>
    have passed := passedOver_of_walk noFile short
    have further : home <+: start.dropLast :=
      ((prefix_iff_dropLast below).mp above).resolve_left fun same =>
        passed.noFile bytes (same ▸ holds)
    rw [nearestFile, walk_of_differAbove differ plain down above, dif_neg below,
      ih (fun up => plain (start.dropLast_subset up)) further]
    split
    · rename_i place found walked
      exact absurd walked (noFile place found)
    · rename_i long
      exact absurd long short
    · rfl

/-! ## 4. Where a path leads -/

theorem Path.plain_follow {place : Place} (plain : ".." ∉ place) (parts : List String) :
    ".." ∉ Path.follow place parts := by
  induction parts generalizing place with
  | nil => exact plain
  | cons part rest ih =>
    rw [Path.follow]
    split
    · exact ih fun up => plain (place.dropLast_subset up)
    · rename_i down
      exact ih (by simp [plain, Ne.symm down])

/-- A path leads to a place that is told by names, since two points in it are followed. -/
theorem Path.plain_resolve {current : Place} (plain : ".." ∉ current) (path : Path) :
    ".." ∉ path.resolve current := by
  rw [Path.resolve]
  split
  · exact plain_follow plain _
  · exact plain_follow List.not_mem_nil _

end ComponentPasses.Disk

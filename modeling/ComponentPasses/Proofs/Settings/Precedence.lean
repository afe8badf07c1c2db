import ComponentPasses.Proofs.Data.Entries
import ComponentPasses.Proofs.Data.LongIntegers
import ComponentPasses.Proofs.Disk.Nearest
import ComponentPasses.Proofs.Settings.Lookup
import ComponentPasses.Proofs.Settings.Reading
import ComponentPasses.Proofs.Text.Utf8

/-!
# Where settings come from

A setting that is looked up comes from the overrides, or else from the table of the settings file
that is in force, or else it has its default (`Setting.ComesFrom`).  Settings are looked up exactly
where there is such a table and each setting can be read from where it comes from
(`load_eq_ok_iff`).

Two things follow about what a lookup does not depend on, and `load_precedence` states them
together.  The file in force is the nearest one, and it is in force whatever it says; so the files
further out make no difference.  And a value in its table under a key that is overridden is never
read, so it makes none either.

**What no override hides.**  The file is read before anything is laid over it.  Where that gives no
table, as with an integer that is too long, the lookup fails whatever is overridden, if only that
integer is (`load_longDepth`).
-/

namespace ComponentPasses

open Data (Value Entries)

/-! ## 1. The table in force -/

namespace Settings

variable {disk other : Disk} {start : Disk.Place} {path : Disk.Path}
  {overrides table : Entries Value}

/-- The settings table in force where a search starts: the one in the nearest settings file.
Without such a file the table is empty, and also where the file is no TOML.  No table is in force
where the search fails, or where the file is no text, has an integer that is too long to be read, or
has something else than a table in its place; then nothing is looked up at all. -/
inductive TableInForce (disk : Disk) (start : Disk.Place) : Entries Value → Prop
  | nowhere
      (all : ∀ directory, directory <+: start → disk.PassedOver filename directory) :
      TableInForce disk start []
  | malformed {home : Disk.Place} {bytes : List UInt8} {text : String}
      (nearest : disk.IsNearest filename start home bytes)
      (decoded : Text.decodeUtf8 bytes = .ok text)
      (refused : Data.Toml.read text.toList = .error .malformed) : TableInForce disk start []
  | document {home : Disk.Place} {bytes : List UInt8} {text : String}
      {document table : Entries Value}
      (nearest : disk.IsNearest filename start home bytes)
      (decoded : Text.decodeUtf8 bytes = .ok text)
      (read : Data.Toml.read text.toList = .ok document)
      (there : sectionOf document = .ok table) : TableInForce disk start table

theorem sectionOfBytes_eq_ok_iff {bytes : List UInt8} :
    sectionOfBytes bytes = .ok table ↔
      ∃ text, Text.decodeUtf8 bytes = .ok text ∧
        (Data.Toml.read text.toList = .error .malformed ∧ table = [] ∨
          ∃ document, Data.Toml.read text.toList = .ok document ∧
            sectionOf document = .ok table) := by
  cases decoded : Text.decodeUtf8 bytes with
  | error cause => simp [sectionOfBytes_of_undecodable decoded]
  | ok text =>
    rw [sectionOfBytes_of_text decoded]
    cases read : Data.Toml.read text.toList with
    | ok document => simp [read]
    | error refusal => cases refusal <;> simp [read, eq_comm]

theorem sectionAt_eq_ok_iff : sectionAt disk start = .ok table ↔ TableInForce disk start table := by
  unfold sectionAt
  constructor
  · intro found
    split at found
    · cases found
    · rename_i nothing
      cases found
      exact .nowhere (Disk.nearestFile_eq_none_iff.mp nothing)
    · rename_i bytes file
      obtain ⟨home, nearest⟩ := Disk.nearestFile_eq_some_iff.mp file
      obtain ⟨text, decoded, ⟨refused, rfl⟩ | ⟨document, read, there⟩⟩ :=
        sectionOfBytes_eq_ok_iff.mp found
      · exact .malformed nearest decoded refused
      · exact .document nearest decoded read there
  · intro inForce
    cases inForce with
    | nowhere all => rw [Disk.nearestFile_eq_none_iff.mpr all]
    | malformed nearest decoded refused =>
      rw [Disk.nearestFile_eq_some_iff.mpr ⟨_, nearest⟩]
      exact sectionOfBytes_eq_ok_iff.mpr ⟨_, decoded, .inl ⟨refused, rfl⟩⟩
    | document nearest decoded read there =>
      rw [Disk.nearestFile_eq_some_iff.mpr ⟨_, nearest⟩]
      exact sectionOfBytes_eq_ok_iff.mpr ⟨_, decoded, .inr ⟨_, read, there⟩⟩

end Settings

/-! ## 2. Settings over a table -/

/-- Where a setting comes from: it is read from the overrides if it is there, or else from a table
if it is there, or else it has its default. -/
inductive Setting.ComesFrom (setting : Setting) (overrides table : Entries Value)
    (settings : Settings) : Prop
  | overridden {value : Value} (given : overrides.get? setting.key = some value)
      (read : setting.ofValue value = .valid (setting.of settings))
  | written {value : Value} (absent : overrides.get? setting.key = none)
      (given : table.get? setting.key = some value)
      (read : setting.ofValue value = .valid (setting.of settings))
  | standard (absent : overrides.get? setting.key = none) (absent' : table.get? setting.key = none)
      (same : setting.of settings = setting.of {})

namespace Settings

variable {disk other : Disk} {start : Disk.Place} {path : Disk.Path}
  {overrides table : Entries Value}

/-- What stands under a key once a table is overridden. -/
theorem lookup_override (distinct : overrides.keys.Nodup) (key : String) :
    (table.override overrides).lookup key = (overrides.get? key).or (table.get? key) := by
  show (table.override overrides).get? key = _
  rw [Entries.get?_override, Entries.get?_reverse distinct]

theorem ofFields_override_iff (distinct : overrides.keys.Nodup) {settings : Settings} :
    ofFields (table.override overrides) = .valid settings ↔
      ∀ setting : Setting, setting.ComesFrom overrides table settings := by
  rw [ofFields_eq_valid_iff]
  refine forall_congr' fun setting => ?_
  rw [readIn_eq_valid_iff, lookup_override distinct]
  cases given : overrides.get? setting.key with
  | some value =>
    constructor
    · exact .overridden given
    · rintro (⟨given', read⟩ | ⟨absent, -, -⟩ | ⟨absent, -, -⟩)
      · cases given.symm.trans given'
        exact read
      · cases given.symm.trans absent
      · cases given.symm.trans absent
  | none =>
    cases there : table.get? setting.key with
    | some value =>
      constructor
      · exact .written given there
      · rintro (⟨given', -⟩ | ⟨-, there', read⟩ | ⟨-, absent, -⟩)
        · cases given.symm.trans given'
        · cases there.symm.trans there'
          exact read
        · cases there.symm.trans absent
    | none =>
      constructor
      · exact fun read => .standard given there (Schema.Checked.valid.inj read).symm
      · rintro (⟨given', -⟩ | ⟨-, there', -⟩ | ⟨-, -, same⟩)
        · cases given.symm.trans given'
        · cases there.symm.trans there'
        · exact congrArg Schema.Checked.valid same.symm

/-! ## 3. Looking settings up -/

theorem load_of_tableInForce (plain : path.text.contains '\x00' = false)
    (inForce : TableInForce disk (path.resolve disk.current) table) :
    load disk path overrides =
      match ofFields (table.override overrides) with
      | .valid settings => .ok settings
      | .invalid violations => .error (.invalid violations) := by
  rw [load_eq plain, sectionAt_eq_ok_iff.mpr inForce]
  rfl

/-- Settings are looked up where a table is in force and each of them can be read. -/
theorem load_eq_ok_iff (distinct : overrides.keys.Nodup) {settings : Settings} :
    load disk path overrides = .ok settings ↔
      path.text.contains '\x00' = false ∧ ∃ table,
        TableInForce disk (path.resolve disk.current) table ∧
          ∀ setting : Setting, setting.ComesFrom overrides table settings := by
  cases null : path.text.contains '\x00' with
  | true => exact iff_of_false (by rw [load_of_null null]; nofun) nofun
  | false =>
    simp only [load_eq null, Source.bind_eq_ok_iff, sectionAt_eq_ok_iff, true_and,
      ← ofFields_override_iff distinct]
    refine exists_congr fun table => and_congr_right fun _ => ?_
    split
    · rename_i read
      rw [read, Except.ok.injEq, Schema.Checked.valid.injEq]
    · rename_i refused
      rw [refused]
      exact iff_of_false nofun nofun

/-- A lookup depends on the disk through the current directory and the table in force only. -/
theorem load_congr (current : other.current = disk.current)
    (same : sectionAt other (path.resolve disk.current) =
      sectionAt disk (path.resolve disk.current)) :
    load other path overrides = load disk path overrides := by
  rw [load, load, current, same]

/-- Tables that agree where nothing is overridden are read as the same settings. -/
theorem ofFields_override_congr (distinct : overrides.keys.Nodup) {table' : Entries Value}
    (same : ∀ setting : Setting, setting.key ∉ overrides.keys →
      table.get? setting.key = table'.get? setting.key) :
    ofFields (table.override overrides) = ofFields (table'.override overrides) := by
  refine ofFields_congr fun setting => ?_
  rw [lookup_override distinct, lookup_override distinct]
  cases given : overrides.get? setting.key with
  | some value => rfl
  | none => rw [same setting (Entries.get?_eq_none_iff.mp given)]

/-- Where no table is in force a lookup fails, and nothing that is laid over it makes a difference.
-/
theorem load_of_no_table (none : ¬∃ table, TableInForce disk (path.resolve disk.current) table) :
    ∃ fault, ∀ overrides, load disk path overrides = .error fault := by
  cases null : path.text.contains '\x00' with
  | true => exact ⟨_, fun overrides => load_of_null null⟩
  | false =>
    cases found : sectionAt disk (path.resolve disk.current) with
    | ok table => exact absurd ⟨table, sectionAt_eq_ok_iff.mp found⟩ none
    | error fault =>
      refine ⟨fault, fun overrides => ?_⟩
      rw [load_eq null, found]
      rfl

/-- **Where settings come from.**  Let the overrides have each key once, and the current directory
no two points in it.  Settings are looked up where a table is in force and each setting can be read:
from the overrides, or else from the table, or else by its default.  What stands further out than a
settings file makes no difference, whatever that file says; and no value in the table in force makes
one whose key is overridden.  Where no table is in force the lookup fails, whatever the overrides
are. -/
theorem load_precedence (distinct : overrides.keys.Nodup) (plain : ".." ∉ disk.current)
    (path : Disk.Path) :
    let start := path.resolve disk.current
    (∀ settings, load disk path overrides = .ok settings ↔
      path.text.contains '\x00' = false ∧ ∃ table, TableInForce disk start table ∧
        ∀ setting : Setting, setting.ComesFrom overrides table settings) ∧
    (∀ other home bytes, home <+: start → disk.HoldsFile filename home bytes →
      disk.DifferAbove other filename home →
        load other path overrides = load disk path overrides) ∧
    (∀ other table table', other.current = disk.current →
      TableInForce disk start table → TableInForce other start table' →
      (∀ setting : Setting, setting.key ∉ overrides.keys →
        table.get? setting.key = table'.get? setting.key) →
        load other path overrides = load disk path overrides) ∧
    ((¬∃ table, TableInForce disk start table) →
      ∃ fault, ∀ overrides, load disk path overrides = .error fault) := by
  refine ⟨fun settings => load_eq_ok_iff distinct, ?furtherOut, ?overridden, load_of_no_table⟩
  case furtherOut =>
    intro other home bytes above holds differ
    refine load_congr differ.current ?_
    rw [sectionAt, sectionAt, Disk.nearestFile_of_differAbove differ
      (Disk.Path.plain_resolve plain path) (by decide) above holds]
  case overridden =>
    intro other table table' current inForce inForce' same
    cases null : path.text.contains '\x00' with
    | true => rw [load_of_null null, load_of_null null]
    | false =>
      rw [load_of_tableInForce null inForce, load_of_tableInForce null (current ▸ inForce'),
        ofFields_override_congr distinct same]

namespace Example

open Data.Toml (IsBare BeginsScalar pairLine readLines readScalar readScalar_text readLines_nil
  readLines_pair readLines_unclosed read_section dropReturns_of_not_mem)

/-- A settings file in which a depth is not natural and a single name stands for a list. -/
def wrongDepth : String := "[tool.blazorgen]\nmax_inline_depth = -1\nopen_calls = \"Open\"\n"

/-- The same file without the depth. -/
def noDepth : String := "[tool.blazorgen]\nopen_calls = \"Open\"\n"

/-- A settings file that is no TOML. -/
def unclosed : String := "[tool.blazorgen"

/-- A settings file that says nothing. -/
def emptySection : String := "[tool.blazorgen]\n"

/-- A settings file in which a depth has so many digits. -/
def longDepth (digits : Nat) : String :=
  String.ofList (emptySection.toList ++ Data.Toml.depthLine digits [])

/-- A disk with a settings file at the root and another one at `/w`.  At `/w/a`, where the search
starts, a directory has the name. -/
def nested (inner : String) : Disk where
  entries := [
    (["pyproject.toml"], .file "[tool.blazorgen]\nanalyze_keys = false\n".toUTF8.data.toList),
    (["w"], .directory),
    (["w", "pyproject.toml"], .file inner.toUTF8.data.toList),
    (["w", "a"], .directory),
    (["w", "a", "pyproject.toml"], .directory)]
  current := ["w", "a"]

theorem isNearest_nested (inner : String) :
    (nested inner).IsNearest filename ["w", "a"] ["w"] inner.toUTF8.data.toList where
  above := ⟨["a"], rfl⟩
  holds := ⟨["w", "pyproject.toml"], rfl⟩
  first between down apart up := by
    have start : between = ["w", "a"] := by
      rcases List.prefix_concat_iff.mp (show between <+: ["w"] ++ ["a"] from up) with same | up
      · exact same
      · exact absurd (up.eq_of_length_le down.length_le) apart
    have walked : (nested inner).walk [] .directory (["w", "a"] ++ [filename]) =
        .ok (["w", "a", "pyproject.toml"], .directory) := rfl
    subst start
    refine ⟨?_, by rw [walked]; nofun⟩
    rintro bytes ⟨place, found⟩
    cases walked.symm.trans found

/-- The line of a single call. -/
def callLine : List Char :=
  pairLine "open_calls" "\"Open\"".toList []

theorem readLines_callLine :
    readLines callLine = ([.pair ["open_calls"] (.text "Open")], none) := by
  have bare : IsBare "open_calls" := by decide
  have begins : BeginsScalar '"' := by decide
  have scalar : readScalar ('"' :: ("Open".toList ++ '"' :: ['\n'])) = .ok (.text "Open", ['\n']) :=
    readScalar_text (by decide) (by decide)
  refine (readLines_pair bare begins scalar).trans ?_
  rw [readLines_nil]

theorem tableInForce_wrongDepth :
    TableInForce (nested wrongDepth) ["w", "a"]
      [("max_inline_depth", .integer (-1)), ("open_calls", .text "Open")] := by
  have spelled : wrongDepth.toList =
      emptySection.toList ++ pairLine "max_inline_depth" "-1".toList callLine := by
    decide +kernel
  have lines : readLines (pairLine "max_inline_depth" "-1".toList callLine) =
      ([.pair ["max_inline_depth"] (.integer (-1)), .pair ["open_calls"] (.text "Open")],
        none) := by
    have bare : IsBare "max_inline_depth" := by decide
    have begins : BeginsScalar '-' := by decide
    have scalar : readScalar ('-' :: (['1'] ++ '\n' :: callLine)) =
        .ok (.integer (-1), '\n' :: callLine) :=
      rfl
    refine (readLines_pair bare begins scalar).trans ?_
    rw [readLines_callLine]
  have read : Data.Toml.read wrongDepth.toList = .ok [("tool", .record [("blazorgen", .record
      [("max_inline_depth", .integer (-1)), ("open_calls", .text "Open")])])] :=
    spelled ▸ read_section (by decide +kernel) lines rfl
  exact .document (isNearest_nested _) (Text.decodeUtf8_toUTF8 _) read rfl

theorem tableInForce_noDepth :
    TableInForce (nested noDepth) ["w", "a"] [("open_calls", .text "Open")] := by
  have spelled : noDepth.toList = emptySection.toList ++ callLine := by decide +kernel
  have read : Data.Toml.read noDepth.toList =
      .ok [("tool", .record [("blazorgen", .record [("open_calls", .text "Open")])])] :=
    spelled ▸ read_section (by decide +kernel) readLines_callLine rfl
  exact .document (isNearest_nested _) (Text.decodeUtf8_toUTF8 _) read rfl

theorem tableInForce_unclosed : TableInForce (nested unclosed) ["w", "a"] [] := by
  have tool : IsBare "tool" := by decide
  have blazorgen : IsBare "blazorgen" := by decide
  have lines : readLines unclosed.toList = ([], some .malformed) :=
    readLines_unclosed tool blazorgen
  have refused : Data.Toml.read unclosed.toList = .error .malformed := by
    rw [Data.Toml.read, dropReturns_of_not_mem (by decide +kernel), lines]
    rfl
  exact .malformed (isNearest_nested _) (Text.decodeUtf8_toUTF8 _) refused

theorem tableInForce_emptySection : TableInForce (nested emptySection) ["w", "a"] [] := by
  have spelled : emptySection.toList = emptySection.toList ++ [] := (List.append_nil _).symm
  have read : Data.Toml.read emptySection.toList =
      .ok [("tool", .record [("blazorgen", .record [])])] :=
    spelled ▸ read_section List.not_mem_nil readLines_nil rfl
  exact .document (isNearest_nested _) (Text.decodeUtf8_toUTF8 _) read rfl

/-- The path to the current directory has no null character. -/
theorem plain_path : (Disk.Path.text {}).contains '\x00' = false := by
  rw [String.contains_char_eq]
  decide

end Example

/-- An overridden depth hides a wrong one, the calls are those of the nearest file, and the rest has
its default, though a file further out says otherwise; without the wrong depth the outcome is the
same.  Where the nearest file is no TOML only the override counts, also if the file further out
gives way to a directory. -/
theorem load_precedence_nested :
    load (Example.nested Example.wrongDepth) {} [("max_inline_depth", .integer 2)] =
        .ok { openCalls := ["Open"], maxInlineDepth := 2 } ∧
      load (Example.nested Example.noDepth) {} [("max_inline_depth", .integer 2)] =
        load (Example.nested Example.wrongDepth) {} [("max_inline_depth", .integer 2)] ∧
      load (Example.nested Example.unclosed) {} [("max_inline_depth", .integer 2)] =
        .ok { maxInlineDepth := 2 } ∧
      load ((Example.nested Example.unclosed).put ["pyproject.toml"] .directory) {}
          [("max_inline_depth", .integer 2)] =
        load (Example.nested Example.unclosed) {} [("max_inline_depth", .integer 2)] := by
  have distinct : (Entries.keys [("max_inline_depth", Value.integer 2)]).Nodup :=
    List.nodup_singleton _
  have plain : ".." ∉ ["w", "a"] := by decide
  obtain ⟨known, -, overridden, -⟩ :=
    load_precedence distinct (show ".." ∉ (Example.nested Example.wrongDepth).current from plain) {}
  obtain ⟨known', furtherOut, -, -⟩ :=
    load_precedence distinct (show ".." ∉ (Example.nested Example.unclosed).current from plain) {}
  refine ⟨(known _).mpr
      ⟨Example.plain_path, _, Example.tableInForce_wrongDepth, fun setting => ?calls⟩,
    overridden _ _ _ rfl Example.tableInForce_wrongDepth Example.tableInForce_noDepth ?agree,
    (known' _).mpr ⟨Example.plain_path, _, Example.tableInForce_unclosed, fun setting => ?depth⟩,
    furtherOut _ ["w"] _ ⟨["a"], rfl⟩ (Example.isNearest_nested _).holds
      (Disk.differAbove_put List.nil_prefix (by decide) (by decide) .directory)⟩
  case calls =>
    cases setting with
    | maxInlineDepth => exact .overridden rfl rfl
    | names list =>
      cases list with
      | openCalls => exact .written rfl rfl rfl
      | _ => exact .standard rfl rfl rfl
    | _ => exact .standard rfl rfl rfl
  case agree =>
    intro setting kept
    cases setting with
    | maxInlineDepth => exact absurd (.head _) kept
    | names list => cases list <;> rfl
    | _ => rfl
  case depth =>
    cases setting with
    | maxInlineDepth => exact .overridden rfl rfl
    | names list => cases list <;> exact .standard rfl rfl rfl
    | _ => exact .standard rfl rfl rfl

/-- An override does not hide a depth that is too long to be read: the lookup fails over it, and
succeeds in the same place without it. -/
theorem load_longDepth :
    load (Example.nested (Example.longDepth 4301)) {} [("max_inline_depth", .integer 2)] =
        .error (.longInteger 4301) ∧
      load (Example.nested Example.emptySection) {} [("max_inline_depth", .integer 2)] =
        .ok { maxInlineDepth := 2 } := by
  have long : Data.Toml.read (Example.longDepth 4301).toList = .error (.longInteger 4301) := by
    rw [Example.longDepth, String.toList_ofList]
    exact Data.Toml.read_section_ones (by decide)
  have fails : sectionAt (Example.nested (Example.longDepth 4301)) ["w", "a"] =
      .error (.longInteger 4301) := by
    rw [sectionAt, Disk.nearestFile_eq_some_iff.mpr ⟨_, Example.isNearest_nested _⟩]
    simp only [sectionOfBytes_of_text (Text.decodeUtf8_toUTF8 _), long]
  have start : Disk.Path.resolve (Example.nested (Example.longDepth 4301)).current {} =
      ["w", "a"] := rfl
  constructor
  · rw [load_eq Example.plain_path, start, fails]
    rfl
  · rw [load_of_tableInForce Example.plain_path Example.tableInForce_emptySection]
    rfl

end Settings

end ComponentPasses

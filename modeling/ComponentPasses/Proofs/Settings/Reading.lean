import ComponentPasses.Proofs.Schema.Checked
import ComponentPasses.Proofs.Schema.Reading
import ComponentPasses.Proofs.Text.Blank
import ComponentPasses.Proofs.Text.Cut
import ComponentPasses.Settings.Reading

/-!
# Settings that have been read

The settings are a family.  Each `Setting` has a key, a reader and a place in the record, and seven
of them are lists of names.  The record is read setting by setting: it can be read exactly where
each setting can, with what each of them reads (`ofFields_eq_valid_iff`), and nothing about it
depends on anything but the values of the twelve keys (`ofFields_congr`).

**What reading leaves.**  The names by which something is recognised are trimmed on the way in and
none of them is blank, and the defaults are so as well.  Trimming them again would change nothing,
so the settings read back as they are once they are written (`read_stable`).
-/

namespace ComponentPasses

open Data (Value Entries)
open Schema (Checked Fields)

/-! ## 1. The settings one by one -/

/-- The settings that are lists of names. -/
inductive NameList
  | inclusionMarkers
  | exclusionMarkers
  | parameterMarkers
  | builderMarkers
  | openCalls
  | closeCalls
  | setKeyCalls
deriving DecidableEq, Repr

/-- The settings. -/
inductive Setting
  | names (list : NameList)
  | importsClassName
  | renderMethodName
  | maxInlineDepth
  | generateDispatch
  | analyzeKeys
deriving DecidableEq, Repr

namespace NameList

/-- The key of a list. -/
def key : NameList → String
  | inclusionMarkers => "inclusion_markers"
  | exclusionMarkers => "exclusion_markers"
  | parameterMarkers => "parameter_markers"
  | builderMarkers => "builder_markers"
  | openCalls => "open_calls"
  | closeCalls => "close_calls"
  | setKeyCalls => "set_key_calls"

/-- The names of a list in a record of settings. -/
def of : NameList → Settings → List String
  | inclusionMarkers => (·.inclusionMarkers)
  | exclusionMarkers => (·.exclusionMarkers)
  | parameterMarkers => (·.parameterMarkers)
  | builderMarkers => (·.builderMarkers)
  | openCalls => (·.openCalls)
  | closeCalls => (·.closeCalls)
  | setKeyCalls => (·.setKeyCalls)

/-- Whether a list has the names by which identifiers, properties or calls are recognised. -/
def recognises : NameList → Bool
  | inclusionMarkers | exclusionMarkers => false
  | _ => true

/-- Reads a list. -/
def ofValue : NameList → Value → Checked (List String)
  | inclusionMarkers | exclusionMarkers => Settings.asNames
  | _ => Settings.asTrimmedNames

end NameList

namespace Setting

/-- What a setting is. -/
abbrev Content : Setting → Type
  | names _ => List String
  | importsClassName | renderMethodName => String
  | maxInlineDepth => Nat
  | generateDispatch | analyzeKeys => Bool

/-- The key of a setting. -/
def key : Setting → String
  | names list => list.key
  | importsClassName => "imports_class_name"
  | renderMethodName => "render_method_name"
  | maxInlineDepth => "max_inline_depth"
  | generateDispatch => "generate_dispatch"
  | analyzeKeys => "analyze_keys"

/-- The setting in a record of settings. -/
def of : (setting : Setting) → Settings → setting.Content
  | names list => list.of
  | importsClassName => (·.importsClassName)
  | renderMethodName => (·.renderMethodName)
  | maxInlineDepth => (·.maxInlineDepth)
  | generateDispatch => (·.generateDispatch)
  | analyzeKeys => (·.analyzeKeys)

/-- Reads a setting. -/
def ofValue : (setting : Setting) → Value → Checked setting.Content
  | names list => list.ofValue
  | importsClassName | renderMethodName => Schema.asText
  | maxInlineDepth => Schema.asNatural
  | generateDispatch | analyzeKeys => Schema.asFlag

/-- Writes a setting. -/
def toValue : (setting : Setting) → setting.Content → Value
  | names _ => Value.texts
  | importsClassName | renderMethodName => Value.text
  | maxInlineDepth => fun n : Nat => .integer n
  | generateDispatch | analyzeKeys => Value.flag

/-- Reads a setting in the fields of a record; where it is not there it has its default. -/
def readIn (setting : Setting) (fields : Fields) : Checked setting.Content :=
  Schema.defaulted fields setting.key (setting.of {}) setting.ofValue

/-- No two settings have the same key. -/
theorem key_injective : Function.Injective key := by
  intro setting other same
  rcases setting with (_ | _ | _ | _ | _ | _ | _) | _ | _ | _ | _ | _ <;>
    rcases other with (_ | _ | _ | _ | _ | _ | _) | _ | _ | _ | _ | _ <;>
    first
    | rfl
    | exact absurd same (by decide)

end Setting

namespace Settings

variable {fields fields' : Fields} {settings : Settings}

/-! ## 2. Reading -/

/-- The settings are read one by one. -/
theorem ofFields_eq (fields : Fields) :
    ofFields fields = Settings.mk
      <$> Setting.readIn (.names .inclusionMarkers) fields
      <*> Setting.readIn (.names .exclusionMarkers) fields
      <*> Setting.readIn .importsClassName fields
      <*> Setting.readIn (.names .parameterMarkers) fields
      <*> Setting.readIn .renderMethodName fields
      <*> Setting.readIn (.names .builderMarkers) fields
      <*> Setting.readIn (.names .openCalls) fields
      <*> Setting.readIn (.names .closeCalls) fields
      <*> Setting.readIn (.names .setKeyCalls) fields
      <*> Setting.readIn .maxInlineDepth fields
      <*> Setting.readIn .generateDispatch fields
      <*> Setting.readIn .analyzeKeys fields := rfl

/-- The settings can be read exactly where each of them can. -/
theorem ofFields_eq_valid_iff :
    ofFields fields = .valid settings ↔
      ∀ setting : Setting, setting.readIn fields = .valid (setting.of settings) := by
  rw [ofFields_eq]
  simp only [Checked.seq_eq_valid_iff, Checked.map_eq_valid_iff]
  constructor
  · rintro ⟨_, ⟨_, ⟨_, ⟨_, ⟨_, ⟨_, ⟨_, ⟨_, ⟨_, ⟨_, ⟨_, ⟨_, inclusionMarkers, rfl⟩, _,
      exclusionMarkers, rfl⟩, _, importsClassName, rfl⟩, _, parameterMarkers, rfl⟩, _,
      renderMethodName, rfl⟩, _, builderMarkers, rfl⟩, _, openCalls, rfl⟩, _, closeCalls, rfl⟩, _,
      setKeyCalls, rfl⟩, _, maxInlineDepth, rfl⟩, _, generateDispatch, rfl⟩, _, analyzeKeys, rfl⟩
      setting
    cases setting with
    | names list => cases list <;> assumption
    | _ => assumption
  · intro each
    exact ⟨_, ⟨_, ⟨_, ⟨_, ⟨_, ⟨_, ⟨_, ⟨_, ⟨_, ⟨_, ⟨_, ⟨_, each (.names .inclusionMarkers), rfl⟩, _,
      each (.names .exclusionMarkers), rfl⟩, _, each .importsClassName, rfl⟩, _,
      each (.names .parameterMarkers), rfl⟩, _, each .renderMethodName, rfl⟩, _,
      each (.names .builderMarkers), rfl⟩, _, each (.names .openCalls), rfl⟩, _,
      each (.names .closeCalls), rfl⟩, _, each (.names .setKeyCalls), rfl⟩, _,
      each .maxInlineDepth, rfl⟩, _, each .generateDispatch, rfl⟩, _, each .analyzeKeys, rfl⟩

/-- Settings can be read if there is something to be read for each of them. -/
theorem exists_ofFields_eq_valid
    (each : ∀ setting : Setting, ∃ content, setting.readIn fields = .valid content) :
    ∃ settings, ofFields fields = .valid settings := by
  choose content read using each
  refine ⟨⟨content (.names .inclusionMarkers), content (.names .exclusionMarkers),
    content .importsClassName, content (.names .parameterMarkers), content .renderMethodName,
    content (.names .builderMarkers), content (.names .openCalls), content (.names .closeCalls),
    content (.names .setKeyCalls), content .maxInlineDepth, content .generateDispatch,
    content .analyzeKeys⟩, ofFields_eq_valid_iff.mpr fun setting => ?_⟩
  cases setting with
  | names list => cases list <;> exact read _
  | _ => exact read _

/-- Reading looks at nothing but what stands under the keys of the settings. -/
theorem ofFields_congr
    (same : ∀ setting : Setting, fields.lookup setting.key = fields'.lookup setting.key) :
    ofFields fields = ofFields fields' := by
  have each : ∀ setting : Setting, setting.readIn fields = setting.readIn fields' := by
    intro setting
    rw [Setting.readIn, Setting.readIn, Schema.defaulted_eq, Schema.defaulted_eq, same]
  rw [ofFields_eq, ofFields_eq]
  simp only [each]

theorem read_eq_valid_iff {v : Value} :
    read v = .valid settings ↔
      ∃ fields, v = .record fields ∧ ofFields fields = .valid settings := by
  constructor
  · intro ok
    cases v with
    | record fields => exact ⟨fields, rfl, ok⟩
    | _ => cases ok
  · rintro ⟨fields, rfl, ok⟩
    exact ok

/-- A setting that is read has the value that stands under its key, or its default. -/
theorem readIn_eq_valid_iff {setting : Setting} {content : setting.Content} :
    setting.readIn fields = .valid content ↔
      (fields.lookup setting.key).elim (.valid (setting.of {})) setting.ofValue =
        .valid content := by
  rw [Setting.readIn, Schema.defaulted_eq, Checked.under_eq_valid_iff]

/-! ## 3. What reading leaves -/

theorem asTrimmedNames_eq_valid_iff {v : Value} {names : List String} :
    asTrimmedNames v = .valid names ↔
      ∃ given, asNames v = .valid given ∧ given.map Text.trim = names ∧ "" ∉ names := by
  rw [asTrimmedNames, Checked.andThen_eq_valid_iff]
  refine exists_congr fun given => and_congr_right fun _ => ?_
  dsimp only
  split
  · rename_i blank
    rw [List.contains_iff_mem] at blank
    exact iff_of_false nofun fun ⟨same, plain⟩ => plain (same ▸ blank)
  · rename_i plain
    rw [List.contains_iff_mem] at plain
    rw [Checked.valid.injEq]
    exact ⟨fun same => ⟨same, same ▸ plain⟩, fun h => h.1⟩

theorem asNatural_eq_valid_iff {v : Value} {n : Nat} :
    Schema.asNatural v = .valid n ↔ Schema.asInteger v = .valid (n : Int) := by
  rw [Schema.asNatural, Checked.andThen_eq_valid_iff]
  constructor
  · rintro ⟨m, read, natural⟩
    split at natural
    · rename_i nonneg
      cases natural
      rw [read, Int.toNat_of_nonneg nonneg]
    · cases natural
  · intro read
    exact ⟨n, read, by simp⟩

theorem ofValue_of_recognises {list : NameList} (recognises : list.recognises = true) :
    list.ofValue = asTrimmedNames := by
  cases list with
  | inclusionMarkers | exclusionMarkers => cases recognises
  | _ => rfl

theorem ofValue_of_not_recognises {list : NameList} (taken : list.recognises = false) :
    list.ofValue = asNames := by
  cases list with
  | inclusionMarkers | exclusionMarkers => rfl
  | _ => cases taken

/-- Whether the names by which something is recognised are trimmed and none of them is blank. -/
def Recognisable (settings : Settings) : Prop :=
  ∀ list : NameList, list.recognises = true → ∀ name ∈ list.of settings,
    name ≠ "" ∧ Text.Trimmed name

theorem recognisable_default : Recognisable {} := by
  intro list
  cases list <;> decide

/-- Settings that have been read are recognisable. -/
theorem recognisable_of_ofFields (ok : ofFields fields = .valid settings) :
    Recognisable settings := by
  intro list recognises name listed
  have read := readIn_eq_valid_iff.mp (ofFields_eq_valid_iff.mp ok (.names list))
  cases there : fields.lookup (Setting.names list).key with
  | none =>
    rw [there] at read
    have standard : list.of {} = list.of settings := Checked.valid.inj read
    exact recognisable_default list recognises name (standard ▸ listed)
  | some v =>
    rw [there] at read
    have trimming : asTrimmedNames v = .valid (list.of settings) :=
      ofValue_of_recognises recognises ▸ read
    obtain ⟨given, -, trimmed, plain⟩ := asTrimmedNames_eq_valid_iff.mp trimming
    refine ⟨fun blank => plain (blank ▸ listed), ?_⟩
    rw [← trimmed] at listed
    obtain ⟨name, -, rfl⟩ := List.mem_map.mp listed
    exact Text.trimmed_trim name

/-! ## 4. Reading again -/

theorem asNames_texts (names : List String) : asNames (.texts names) = .valid names :=
  Schema.listOf_texts names

theorem asTrimmedNames_texts {names : List String}
    (each : ∀ name ∈ names, name ≠ "" ∧ Text.Trimmed name) :
    asTrimmedNames (.texts names) = .valid names := by
  have trimmed := Text.map_trim_of_trimmed fun name listed => (each name listed).2
  exact asTrimmedNames_eq_valid_iff.mpr
    ⟨names, asNames_texts names, trimmed, fun blank => (each "" blank).1 rfl⟩

/-- A single text is read as the list of that one name. -/
theorem ofValue_text (list : NameList) (name : String) :
    list.ofValue (.text name) = list.ofValue (.texts [name]) := by
  have single : asNames (.text name) = asNames (.texts [name]) := (asNames_texts [name]).symm
  cases recognises : list.recognises with
  | true => rw [ofValue_of_recognises recognises, asTrimmedNames, asTrimmedNames, single]
  | false => rw [ofValue_of_not_recognises recognises, single]

/-- A list of names reads back, if they are fit to recognise something where they have to. -/
theorem ofValue_texts {list : NameList} {names : List String}
    (fit : list.recognises = true → ∀ name ∈ names, name ≠ "" ∧ Text.Trimmed name) :
    list.ofValue (.texts names) = .valid names := by
  cases recognises : list.recognises with
  | true => rw [ofValue_of_recognises recognises, asTrimmedNames_texts (fit recognises)]
  | false => rw [ofValue_of_not_recognises recognises, asNames_texts]

/-- What is written for a setting reads as that setting. -/
theorem ofValue_toValue (recognisable : Recognisable settings) (setting : Setting) :
    setting.ofValue (setting.toValue (setting.of settings)) = .valid (setting.of settings) := by
  cases setting with
  | names list => exact ofValue_texts (recognisable list)
  | maxInlineDepth => exact asNatural_eq_valid_iff.mpr rfl
  | _ => rfl

/-- Written settings have all of them, each under its key. -/
theorem exists_write_eq (settings : Settings) :
    ∃ fields, settings.write = .record fields ∧
      ∀ setting : Setting,
        fields.lookup setting.key = some (setting.toValue (setting.of settings)) := by
  refine ⟨_, rfl, fun setting => ?_⟩
  cases setting with
  | names list => cases list <;> rfl
  | _ => rfl

theorem read_write (recognisable : Recognisable settings) :
    read settings.write = .valid settings := by
  obtain ⟨fields, written, under⟩ := exists_write_eq settings
  refine read_eq_valid_iff.mpr ⟨fields, written, ofFields_eq_valid_iff.mpr fun setting => ?_⟩
  rw [readIn_eq_valid_iff, under]
  exact ofValue_toValue recognisable setting

/-! ## 5. Builders -/

theorem isBuilderName_iff {identifier : String} :
    settings.isBuilderName identifier = true ↔
      ∃ marker ∈ settings.builderMarkers, marker.toList <:+: identifier.toList := by
  simp [isBuilderName, Text.occursIn_iff]

/-- The empty identifier denotes no builder, since no marker is blank. -/
theorem isBuilderName_empty (recognisable : Recognisable settings) :
    settings.isBuilderName "" = false := by
  rw [Bool.eq_false_iff]
  intro builds
  obtain ⟨marker, listed, inside⟩ := isBuilderName_iff.mp builds
  refine (recognisable .builderMarkers rfl marker listed).1 (String.toList_inj.mp ?_)
  exact List.infix_nil.mp inside

/-- What an identifier denotes a builder by is inside every text that the identifier is inside. -/
theorem isBuilderName_of_infix {inner outer : String} (inside : inner.toList <:+: outer.toList)
    (builds : settings.isBuilderName inner = true) : settings.isBuilderName outer = true := by
  obtain ⟨marker, listed, within⟩ := isBuilderName_iff.mp builds
  exact isBuilderName_iff.mpr ⟨marker, listed, within.trans inside⟩

/-! ## 6. Settings that have been read -/

/-- **What can be said of settings that have been read.**  Written and read again they are the same.
Their depth is the integer that was given for it, if one was, and not negative.  The names by which
something is recognised are trimmed and not blank; so the empty identifier denotes no builder, and
an identifier that denotes one does so in every text that holds it. -/
theorem read_stable {v : Value} {settings : Settings} (ok : read v = .valid settings) :
    read settings.write = .valid settings ∧
      (∃ depth : Int, 0 ≤ depth ∧ depth = settings.maxInlineDepth ∧
        ∀ fields given, v = .record fields →
          Entries.get? fields Setting.maxInlineDepth.key = some given →
          Schema.asInteger given = .valid depth) ∧
      (∀ list : NameList, list.recognises = true → ∀ name ∈ list.of settings,
        name ≠ "" ∧ Text.Trimmed name) ∧
      settings.isBuilderName "" = false ∧
      ∀ inner outer : String, inner.toList <:+: outer.toList →
        settings.isBuilderName inner = true → settings.isBuilderName outer = true := by
  obtain ⟨fields, rfl, ok⟩ := read_eq_valid_iff.mp ok
  have recognisable := recognisable_of_ofFields ok
  refine ⟨read_write recognisable, ?depth, recognisable, isBuilderName_empty recognisable,
    fun _ _ => isBuilderName_of_infix⟩
  case depth =>
    refine ⟨settings.maxInlineDepth, Int.natCast_nonneg _, rfl, ?_⟩
    rintro _ given ⟨⟩ present
    have read := readIn_eq_valid_iff.mp (ofFields_eq_valid_iff.mp ok .maxInlineDepth)
    rw [show fields.lookup Setting.maxInlineDepth.key = some given from present] at read
    exact asNatural_eq_valid_iff.mp read

namespace Example

/-- Settings as they may be given: names with blanks around them, one name for a list of one, an
integer and a truth value in other forms, and a field that is none of the settings. -/
def loose : Value := .record [
  ("builder_markers", .texts [" rt\u3000", "build er"]),
  ("set_key_calls", .text "\tKey\n"),
  ("max_inline_depth", .text "+1_0.0 "),
  ("generate_dispatch", .integer 0),
  ("inclusion_markers", .list []),
  ("surplus", .null)]

/-- The settings that these are read as. -/
def loosened : Settings where
  inclusionMarkers := []
  builderMarkers := ["rt", "build er"]
  setKeyCalls := ["Key"]
  maxInlineDepth := 10
  generateDispatch := false

theorem read_loose : read loose = .valid loosened := by
  refine read_eq_valid_iff.mpr ⟨_, rfl, ofFields_eq_valid_iff.mpr fun setting => ?_⟩
  cases setting with
  | names list => cases list <;> rfl
  | _ => rfl

end Example

/-- Loosely given settings read back once they are written; the depth is the integer that stood in a
text, and a part of a word that denotes a builder makes the word denote one. -/
theorem read_stable_loose :
    read Example.loose = .valid Example.loosened ∧
      read Example.loosened.write = .valid Example.loosened ∧
      Schema.asInteger (.text "+1_0.0 ") = .valid 10 ∧
      ("rt" ≠ "" ∧ Text.Trimmed "rt") ∧
      Example.loosened.isBuilderName "" = false ∧
      Example.loosened.isBuilderName "start" = true ∧
      Example.loosened.isBuilderName "restarted" = true := by
  obtain ⟨again, ⟨depth, -, same, given⟩, fit, empty, inside⟩ := read_stable Example.read_loose
  have part : Example.loosened.isBuilderName "start" = true := by decide
  have depth : Schema.asInteger (.text "+1_0.0 ") = .valid 10 := by
    rw [given _ (.text "+1_0.0 ") rfl rfl, same]
    rfl
  exact ⟨Example.read_loose, again, depth, fit .builderMarkers rfl "rt" (.head _), empty, part,
    inside "start" "restarted" ⟨"re".toList, "ed".toList, rfl⟩ part⟩

end Settings

end ComponentPasses

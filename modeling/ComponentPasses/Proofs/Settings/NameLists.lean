import ComponentPasses.Proofs.Settings.Overrides
import ComponentPasses.Proofs.Settings.Reading

/-!
# Lists of names as overrides

A list of names can be given in one item, with commas between the names.  The item says as much as
the list does (`read_joined`), by two different ways:

* more than one name: the text has a comma, so it is a list whatever its names look like
  (`inferValue_joined`), and taking it apart gives the names back;
* a single name: it is read as a text, and a single text as the list of it (`ofValue_text`); but
  only where it writes neither a truth value nor an integer, since those are looked for first.

Only the first equals sign divides the item, and no key has one; so names may have them.
-/

namespace ComponentPasses

namespace Text

/-- A character that is its own small letter stays in the lowercase text. -/
theorem mem_lowerAfter {c : Char} (small : smallOf c = c) (dotted : c ≠ '\u0130')
    (sigma : c ≠ '\u03a3') {s : List Char} (present : c ∈ s) (before : List Char) :
    c ∈ lowerAfter before s := by
  induction s generalizing before with
  | nil => cases present
  | cons d rest ih =>
    rw [lowerAfter]
    rcases List.mem_cons.mp present with rfl | further
    · rw [if_neg dotted, if_neg sigma, small]
      exact .head _
    · have stays := ih further (d :: before)
      split
      · exact .tail _ (.tail _ stays)
      · split <;> exact .tail _ stays

theorem comma_mem_lowercase {s : String} (comma : ',' ∈ s.toList) : ',' ∈ (lowercase s).toList := by
  rw [lowercase, String.toList_ofList]
  exact mem_lowerAfter (by decide) (by decide) (by decide) comma []

end Text

namespace Settings

open Data (Value Entries)

variable {names : List String}

/-! ## 1. What is inferred -/

theorem inferValue_of_comma {s : String} (comma : ',' ∈ s.toList) :
    inferValue s = .texts (((Text.split ',' s).map Text.trim).filter (· ≠ "")) := by
  have noWord : ∀ word : String, ',' ∉ word.toList → Text.lowercase s ≠ word := by
    rintro _ plain rfl
    exact plain (Text.comma_mem_lowercase comma)
  rw [inferValue]
  simp only [noWord "true" (by decide), noWord "false" (by decide), comma, if_false,
    List.contains_iff_mem, if_true]

/-- Names that are joined are told apart again, whatever they look like. -/
theorem inferValue_joined {first second : String} {rest : List String}
    (names_eq : names = first :: second :: rest)
    (each : ∀ name ∈ names, name ≠ "" ∧ Text.Trimmed name ∧ ',' ∉ name.toList) :
    inferValue (",".intercalate names) = .texts names := by
  have comma : ',' ∈ (",".intercalate names).toList := by
    rw [names_eq, String.intercalate_cons_cons]
    simp
  have apart : Text.split ',' (",".intercalate names) = names :=
    Text.split_intercalate rfl (names_eq ▸ List.cons_ne_nil _ _) fun name listed =>
      (each name listed).2.2
  have trimmed := Text.map_trim_of_trimmed fun name listed => (each name listed).2.1
  rw [inferValue_of_comma comma, apart, trimmed, List.filter_eq_self.mpr]
  exact fun name listed => decide_eq_true (each name listed).1

/-- A name that writes neither a truth value nor an integer stands for itself. -/
theorem inferValue_single {name : String} (plain : ',' ∉ name.toList)
    (noTruth : Text.lowercase name ≠ "true" ∧ Text.lowercase name ≠ "false")
    (noInteger : Text.readInteger? name = none) : inferValue name = .text name := by
  rw [inferValue]
  simp only [noTruth, plain, noInteger, if_false, List.contains_iff_mem]

/-! ## 2. What is read -/

/-- What is inferred from joined names is read as the list of them is. -/
theorem ofValue_inferValue_joined (list : NameList) (nonempty : names ≠ [])
    (each : ∀ name ∈ names, name ≠ "" ∧ Text.Trimmed name ∧ ',' ∉ name.toList)
    (alone : ∀ name, names = [name] →
      (Text.lowercase name ≠ "true" ∧ Text.lowercase name ≠ "false") ∧
        Text.readInteger? name = none) :
    list.ofValue (inferValue (",".intercalate names)) = list.ofValue (.texts names) := by
  cases names with
  | nil => exact absurd rfl nonempty
  | cons first rest =>
    cases rest with
    | nil =>
      obtain ⟨noTruth, noInteger⟩ := alone first rfl
      rw [String.intercalate_singleton,
        inferValue_single (each first (.head _)).2.2 noTruth noInteger, ofValue_text]
    | cons second others => rw [inferValue_joined rfl each]

theorem readOverrides_singleton {item key : String} {value : Value}
    (writes : Writes item key value) :
    readOverrides [item] = ([(key, value)], []) := by
  rw [readOverrides_eq, List.filterMap_cons_some (readItem?_eq_some_iff.mpr writes),
    List.filter_cons_of_neg (by simpa using writes.mem_item)]
  rfl

/-- Keys are trimmed and have no equals sign. -/
theorem plain_key (list : NameList) : Text.trim list.key = list.key ∧ '=' ∉ list.key.toList := by
  cases list <;> decide

/-- One setting alone is set, and the others have their defaults. -/
theorem exists_read_single {setting : Setting} {value : Value} {content : setting.Content}
    (read : setting.ofValue value = .valid content) :
    ∃ settings, Settings.read (.record [(setting.key, value)]) = .valid settings ∧
      setting.of settings = content ∧
      ∀ other : Setting, other ≠ setting → other.of settings = other.of {} := by
  have here : setting.readIn [(setting.key, value)] = .valid content := by
    rw [readIn_eq_valid_iff]
    simpa using read
  have elsewhere : ∀ other : Setting, other ≠ setting →
      other.readIn [(setting.key, value)] = .valid (other.of {}) := by
    intro other apart
    have absent : List.lookup other.key [(setting.key, value)] = none := by
      rw [List.lookup_cons, beq_false_of_ne fun same => apart (Setting.key_injective same)]
      rfl
    rw [readIn_eq_valid_iff, absent]
    rfl
  have readable : ∀ other : Setting, ∃ content,
      other.readIn [(setting.key, value)] = .valid content := by
    intro other
    by_cases same : other = setting
    · subst same
      exact ⟨content, here⟩
    · exact ⟨_, elsewhere other same⟩
  obtain ⟨settings, ok⟩ := exists_ofFields_eq_valid readable
  have each := ofFields_eq_valid_iff.mp ok
  refine ⟨settings, read_eq_valid_iff.mpr ⟨_, rfl, ok⟩, ?_, fun other apart => ?_⟩
  · exact Schema.Checked.valid.inj ((each setting).symm.trans here)
  · exact Schema.Checked.valid.inj ((each other).symm.trans (elsewhere other apart))

/-! ## 3. Lists in one item -/

/-- **A list of names can be given in one item.**  Where no name is blank, has blanks around it or a
comma in it, and a name that stands alone writes neither a truth value nor an integer, the item of a
list is read without a warning, and what it writes is read as exactly that list; every other setting
has its default. -/
theorem read_joined (list : NameList) (nonempty : names ≠ [])
    (each : ∀ name ∈ names, name ≠ "" ∧ Text.Trimmed name ∧ ',' ∉ name.toList)
    (alone : ∀ name, names = [name] →
      (Text.lowercase name ≠ "true" ∧ Text.lowercase name ≠ "false") ∧
        Text.readInteger? name = none) :
    let given := readOverrides [list.key ++ "=" ++ ",".intercalate names]
    given.2 = [] ∧ ∃ settings, read (.record given.1) = .valid settings ∧
      list.of settings = names ∧
      ∀ other : Setting, other ≠ .names list → other.of settings = other.of {} := by
  have fit : ∀ name ∈ names, name ≠ "" ∧ Text.Trimmed name := fun name listed =>
    ⟨(each name listed).1, (each name listed).2.1⟩
  obtain ⟨trimmedKey, plainKey⟩ := plain_key list
  have trimmed : Text.trim (",".intercalate names) = ",".intercalate names :=
    Text.trim_eq_self_iff.mpr (Text.trimmed_intercalate fit)
  have writes : Writes (list.key ++ "=" ++ ",".intercalate names) list.key
      (inferValue (",".intercalate names)) :=
    ⟨list.key, ",".intercalate names, rfl, plainKey, trimmedKey.symm, by rw [trimmed]⟩
  have value : (Setting.names list).ofValue (inferValue (",".intercalate names)) = .valid names :=
    (ofValue_inferValue_joined list nonempty each alone).trans (ofValue_texts fun _ => fit)
  obtain ⟨settings, read⟩ := exists_read_single value
  dsimp only
  rw [readOverrides_singleton writes]
  exact ⟨rfl, settings, read⟩

/-- Four names of which one has an equals sign, one a blank inside, and one is a truth value and one
an integer where it stands alone; and a name with an equals sign that does stand alone. -/
theorem read_joined_markers :
    (let given := readOverrides ["builder_markers=a=b,render tree,true,7"]
     given.2 = [] ∧ ∃ settings, read (.record given.1) = .valid settings ∧
      settings.builderMarkers = ["a=b", "render tree", "true", "7"] ∧
      ∀ other : Setting, other ≠ .names .builderMarkers → other.of settings = other.of {}) ∧
    (let given := readOverrides ["open_calls=open=x"]
     given.2 = [] ∧ ∃ settings, read (.record given.1) = .valid settings ∧
      settings.openCalls = ["open=x"] ∧
      ∀ other : Setting, other ≠ .names .openCalls → other.of settings = other.of {}) := by
  have several := read_joined .builderMarkers
    (List.cons_ne_nil "a=b" ["render tree", "true", "7"]) (by decide) (fun _ alone => nomatch alone)
  have single := read_joined .openCalls (List.cons_ne_nil "open=x" []) (by decide) (by
    rintro _ ⟨⟩
    decide +kernel)
  exact ⟨several, single⟩

end Settings

end ComponentPasses

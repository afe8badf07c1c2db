import ComponentPasses.Proofs.Data.Entries
import ComponentPasses.Proofs.Text.Cut
import ComponentPasses.Settings.Overrides

/-!
# How overrides accumulate

An item **writes** a value for a key if it has an equals sign: the key stands in front of the first
one, and the value is read off what stands behind it (`Writes`).  The overrides of a list of items
are the pairs that its items write, put into entries one after the other, and every other item is
warned about (`readOverrides_eq`).

So the overrides of two lists after one another are those of the first, overridden by those of the
second (`readOverrides_accumulate`).  A key keeps the place where it was first written, and has the
value that was written last.
-/

namespace ComponentPasses.Settings

open Data (Value Entries)

variable {item key : String} {value : Value} {items : List String}

/-! ## 1. One item -/

/-- Whether an item writes a value for a key: the key stands in front of its first equals sign, and
the value is read off what stands behind. -/
def Writes (item key : String) (value : Value) : Prop :=
  ∃ left right : String, item = left ++ "=" ++ right ∧ '=' ∉ left.toList ∧
    key = Text.trim left ∧ value = inferValue (Text.trim right)

theorem readItem?_eq_some_iff : readItem? item = some (key, value) ↔ Writes item key value := by
  rw [readItem?, Option.map_eq_some_iff]
  constructor
  · rintro ⟨⟨left, right⟩, cut, read⟩
    simp only [Prod.mk.injEq] at read
    obtain ⟨spelled, absent⟩ := Text.cutAtFirst_eq_some_iff.mp cut
    refine ⟨String.ofList left, String.ofList right, String.toList_inj.mp ?_,
      by rwa [String.toList_ofList], read.1.symm, read.2.symm⟩
    simp [spelled]
  · rintro ⟨left, right, spelled, absent, sameKey, sameValue⟩
    refine ⟨(left.toList, right.toList),
      Text.cutAtFirst_eq_some_iff.mpr ⟨by simp [spelled], absent⟩, ?_⟩
    simp only [String.ofList_toList, sameKey, sameValue]

theorem readItem?_eq_none_iff : readItem? item = none ↔ '=' ∉ item.toList := by
  rw [readItem?, Option.map_eq_none_iff, Text.cutAtFirst_eq_none_iff]

theorem Writes.mem_item (writes : Writes item key value) : '=' ∈ item.toList := by
  obtain ⟨left, right, spelled, -⟩ := writes
  simp [spelled]

/-! ## 2. Lists of items -/

/-- Items put what they write over the entries before, and each one without an equals sign is warned
about. -/
theorem addItems_eq (overrides : Entries Value) (items : List String) :
    addItems overrides items =
      (overrides.override (items.filterMap readItem?),
        (items.filter fun item => '=' ∉ item.toList).map badItemWarning) := by
  induction items generalizing overrides with
  | nil => rfl
  | cons item rest ih =>
    rw [addItems, addItem]
    cases written : readItem? item with
    | none =>
      have malformed : '=' ∉ item.toList := readItem?_eq_none_iff.mp written
      rw [List.filterMap_cons_none written, List.filter_cons_of_pos (by simpa using malformed)]
      simp only [ih, List.singleton_append, List.map_cons]
    | some pair =>
      obtain ⟨key, value⟩ := pair
      have wellFormed : '=' ∈ item.toList := (readItem?_eq_some_iff.mp written).mem_item
      rw [List.filterMap_cons_some written, List.filter_cons_of_neg (by simpa using wellFormed),
        Entries.override_cons]
      simp only [ih, List.nil_append]

theorem readOverrides_eq (items : List String) :
    readOverrides items =
      (Entries.ofPairs (items.filterMap readItem?),
        (items.filter fun item => '=' ∉ item.toList).map badItemWarning) :=
  addItems_eq [] items

/-- Items that write nothing change nothing. -/
theorem readOverrides_filter (items : List String) :
    (readOverrides (items.filter fun item => '=' ∈ item.toList)).1 = (readOverrides items).1 := by
  have writers : (items.filter fun item => '=' ∈ item.toList).filterMap readItem? =
      items.filterMap readItem? := by
    rw [List.filterMap_filter]
    refine List.filterMap_congr fun item _ => ?_
    split
    · rfl
    · rename_i malformed
      exact (readItem?_eq_none_iff.mpr (by simpa using malformed)).symm
  rw [readOverrides_eq, readOverrides_eq, writers]

/-! ## 3. The last item of a key -/

/-- Whether an item of a list writes the value for the key, and no item behind it writes the key. -/
def LastWritten (items : List String) (key : String) (value : Value) : Prop :=
  ∃ before item after, items = before ++ item :: after ∧ Writes item key value ∧
    ∀ later ∈ after, ∀ other, ¬ Writes later key other

/-- With one more item, what is last written for a key is what this item writes, if it writes the
key, and otherwise what it was before. -/
theorem lastWritten_concat_iff :
    LastWritten (items ++ [item]) key value ↔
      Writes item key value ∨ (∀ other, ¬ Writes item key other) ∧ LastWritten items key value := by
  constructor
  · rintro ⟨before, found, after, split, writes, last⟩
    rcases List.eq_nil_or_concat' after with rfl | ⟨after, final, rfl⟩
    · obtain ⟨-, same⟩ := List.append_inj' split rfl
      cases same
      exact .inl writes
    · rw [← List.cons_append, ← List.append_assoc] at split
      obtain ⟨rfl, same⟩ := List.append_inj' split rfl
      cases same
      refine .inr ⟨last item (by simp), before, found, after, rfl, writes, fun later present => ?_⟩
      exact last later (List.mem_append_left _ present)
  · rintro (writes | ⟨silent, before, found, after, rfl, writes, last⟩)
    · exact ⟨items, item, [], rfl, writes, List.forall_mem_nil _⟩
    · refine ⟨before, found, after ++ [item], by simp, writes, fun later present => ?_⟩
      rcases List.mem_append.mp present with inside | added
      · exact last later inside
      · exact List.mem_singleton.mp added ▸ silent

/-- A key has the value that is last written for it. -/
theorem get?_readOverrides_eq_some_iff :
    Entries.get? (readOverrides items).1 key = some value ↔ LastWritten items key value := by
  rw [readOverrides_eq]
  induction items using List.reverseRecOn with
  | nil =>
    refine iff_of_false nofun ?_
    rintro ⟨before, item, after, none, -⟩
    exact List.append_ne_nil_of_right_ne_nil _ (List.cons_ne_nil _ _) none.symm
  | append_singleton items item ih =>
    rw [lastWritten_concat_iff, ← ih, List.filterMap_append]
    cases written : readItem? item with
    | none =>
      have silent : ∀ key value, ¬ Writes item key value := by
        intro key value writes
        rw [readItem?_eq_some_iff.mpr writes] at written
        cases written
      rw [List.filterMap_cons_none written, List.filterMap_nil, List.append_nil]
      simp [silent]
    | some pair =>
      obtain ⟨key', value'⟩ := pair
      have writes : ∀ key value, Writes item key value ↔ key = key' ∧ value = value' := by
        intro key value
        rw [← readItem?_eq_some_iff, written, Option.some.injEq, Prod.mk.injEq, eq_comm,
          @eq_comm _ value']
      rw [List.filterMap_cons_some written, List.filterMap_nil, Entries.ofPairs_concat,
        Entries.get?_put]
      simp only [writes]
      by_cases asked : key = key'
      · simp [asked, eq_comm]
      · simp [asked]

/-! ## 4. Lists after one another -/

/-- **How overrides accumulate.**  The overrides of two lists after one another are those of the
first, overridden by those of the second: a key has its value in the second if it has one there, and
the keys of the first come first, then the new ones.  The warnings come after one another as well.
Each item without an equals sign is warned about and changes nothing, and a key has the value that
the last item of the key writes. -/
theorem readOverrides_accumulate :
    (∀ front back : List String,
      let first := readOverrides front
      let second := readOverrides back
      readOverrides (front ++ back) = (first.1.override second.1, first.2 ++ second.2) ∧
        (∀ key, Entries.get? (first.1.override second.1) key =
          (Entries.get? second.1 key).or (Entries.get? first.1 key)) ∧
        (first.1.override second.1).keys =
          first.1.keys ++ second.1.keys.filter (· ∉ first.1.keys)) ∧
      ∀ items : List String,
        (readOverrides items).2 =
            (items.filter fun item => '=' ∉ item.toList).map badItemWarning ∧
          (readOverrides (items.filter fun item => '=' ∈ item.toList)).1 =
            (readOverrides items).1 ∧
          ∀ key value, Entries.get? (readOverrides items).1 key = some value ↔
            LastWritten items key value := by
  refine ⟨fun front back => ?lists, fun items => ⟨by rw [readOverrides_eq],
    readOverrides_filter items, fun key value => get?_readOverrides_eq_some_iff⟩⟩
  case lists =>
    dsimp only
    rw [readOverrides_eq, readOverrides_eq front, readOverrides_eq back, List.filterMap_append,
      List.filter_append, List.map_append, Entries.ofPairs_append]
    exact ⟨rfl, Entries.get?_override_ofPairs _ _, Entries.keys_override_ofPairs _ _⟩

end ComponentPasses.Settings

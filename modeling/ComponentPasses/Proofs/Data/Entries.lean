import ComponentPasses.Data.Entries
import ComponentPasses.Proofs.FirstOccurrences

/-!
# Laws of keyed entries

Entries are told by what they answer and by the order of their keys.  Writing a pair changes the
answer for its key alone (`get?_put`) and adds a key at the end if it is new (`keys_put`).  So where
pairs are written one after the other, the last value of a key stays (`get?_override`), and the keys
stand in the order in which they first came (`keys_ofPairs`).

Pairs may be written in any grouping: to override by what pairs have built is to write these pairs
(`override_ofPairs`).  That rests on each key standing once in what is built, since a pair that is
written changes the first entry of its key and leaves the others as they were (`override_put`).
-/

namespace ComponentPasses.Data.Entries

variable {α : Type}

/-! ## 1. Look-ups -/

theorem get?_cons (first : String) (value : α) (rest : Entries α) (k : String) :
    get? ((first, value) :: rest) k = if k = first then some value else rest.get? k := by
  simp only [get?, List.lookup_cons]
  by_cases h : k = first
  · simp [h]
  · rw [if_neg h, beq_false_of_ne h]

/-- A pair that is written is the answer for its key, and any other look-up is as before. -/
theorem get?_put (entries : Entries α) (key k : String) (value : α) :
    (entries.put key value).get? k = if k = key then some value else entries.get? k := by
  induction entries with
  | nil => exact get?_cons key value [] k
  | cons entry rest ih =>
    obtain ⟨first, v⟩ := entry
    rw [put]
    by_cases here : first = key
    · subst here
      rw [if_pos rfl, get?_cons, get?_cons]
      by_cases asked : k = first <;> simp [asked]
    · rw [if_neg here, get?_cons, get?_cons, ih]
      by_cases asked : k = first
      · rw [if_pos asked, if_pos asked, if_neg fun same => here (asked.symm.trans same)]
      · rw [if_neg asked, if_neg asked]

/-- A new key is found under its value, and any other look-up is as before. -/
theorem get?_putNew (entries : Entries α) (key k : String) (value : α) :
    (entries.putNew key value).get? k =
      (entries.get? k).or (if k = key then some value else none) := by
  induction entries with
  | nil => exact get?_cons key value [] k
  | cons entry rest ih =>
    obtain ⟨first, v⟩ := entry
    simp only [putNew]
    by_cases here : first = key
    · subst here
      rw [if_pos rfl, get?_cons]
      by_cases asked : k = first <;> simp [asked]
    · rw [if_neg here, get?_cons, get?_cons, ih]
      by_cases asked : k = first <;> simp [asked]

theorem get?_eq_none_iff {entries : Entries α} {key : String} :
    entries.get? key = none ↔ key ∉ entries.keys := by
  induction entries with
  | nil => simp [get?, keys]
  | cons entry rest ih =>
    obtain ⟨first, v⟩ := entry
    rw [get?_cons, keys, List.map_cons, List.mem_cons, not_or, ← keys, ← ih]
    by_cases asked : key = first <;> simp [asked]

/-- Where each key stands once, the order of the entries makes no difference to look-ups. -/
theorem get?_eq_some_iff {entries : Entries α} (distinct : entries.keys.Nodup) {key : String}
    {value : α} : entries.get? key = some value ↔ (key, value) ∈ entries := by
  induction entries with
  | nil => simp [get?]
  | cons entry rest ih =>
    obtain ⟨first, v⟩ := entry
    obtain ⟨fresh, others⟩ := List.nodup_cons.mp distinct
    rw [get?_cons, List.mem_cons, Prod.mk.injEq]
    by_cases asked : key = first
    · subst asked
      have absent : (key, value) ∉ rest := fun present =>
        fresh (List.mem_map.mpr ⟨_, present, rfl⟩)
      simp [absent, eq_comm]
    · simp [asked, ih others]

theorem get?_reverse {entries : Entries α} (distinct : entries.keys.Nodup) (key : String) :
    get? entries.reverse key = entries.get? key := by
  have distinct' : keys entries.reverse = entries.keys.reverse := List.map_reverse
  refine Option.ext fun value => ?_
  rw [get?_eq_some_iff distinct, get?_eq_some_iff (by rwa [distinct', List.nodup_reverse]),
    List.mem_reverse]

/-! ## 2. Keys -/

theorem keys_cons (key : String) (value : α) (rest : Entries α) :
    keys ((key, value) :: rest) = key :: rest.keys := rfl

theorem keys_put (entries : Entries α) (key : String) (value : α) :
    (entries.put key value).keys =
      if key ∈ entries.keys then entries.keys else entries.keys ++ [key] := by
  induction entries with
  | nil => rfl
  | cons entry rest ih =>
    obtain ⟨first, v⟩ := entry
    rw [put]
    by_cases here : first = key
    · simp [here, keys_cons]
    · rw [if_neg here, keys_cons, keys_cons, ih]
      by_cases present : key ∈ keys rest <;> simp [present, Ne.symm here]

theorem ofPairs_concat (pairs : List (String × α)) (pair : String × α) :
    ofPairs (pairs ++ [pair]) = (ofPairs pairs).put pair.1 pair.2 :=
  List.foldl_append

/-- The keys of pairs that are written in turn stand in the order in which they first came. -/
theorem keys_ofPairs (pairs : List (String × α)) :
    (ofPairs pairs).keys = (pairs.map (·.1)).eraseDups := by
  induction pairs using List.reverseRecOn with
  | nil => rfl
  | append_singleton pairs pair ih =>
    rw [ofPairs_concat, keys_put, ih, List.map_append, List.map_cons, List.map_nil,
      eraseDups_concat]
    simp only [List.mem_eraseDups]

theorem nodup_keys_ofPairs (pairs : List (String × α)) : (ofPairs pairs).keys.Nodup := by
  rw [keys_ofPairs]
  exact nodup_eraseDups _

/-! ## 3. Overriding -/

theorem override_cons (base : Entries α) (key : String) (value : α)
    (changes : List (String × α)) :
    base.override ((key, value) :: changes) = (base.put key value).override changes := rfl

theorem override_append (base : Entries α) (front back : List (String × α)) :
    base.override (front ++ back) = (base.override front).override back :=
  List.foldl_append

/-- The last value that is written for a key stays; other keys keep the value they had. -/
theorem get?_override (base changes : Entries α) (key : String) :
    (base.override changes).get? key = (get? changes.reverse key).or (base.get? key) := by
  induction changes using List.reverseRecOn with
  | nil => rfl
  | append_singleton changes change ih =>
    rw [override_append, List.reverse_concat, get?_cons]
    show ((base.override changes).put change.1 change.2).get? key = _
    rw [get?_put, ih]
    split <;> rfl

theorem put_put (entries : Entries α) (key : String) (value value' : α) :
    (entries.put key value).put key value' = entries.put key value' := by
  induction entries with
  | nil => simp [put]
  | cons entry rest ih =>
    obtain ⟨first, v⟩ := entry
    by_cases here : first = key <;> simp [put, here, ih]

/-- A key that is there already may as well get its value before another key does. -/
theorem put_comm {entries : Entries α} {key other : String} (apart : key ≠ other)
    (present : key ∈ entries.keys) (value value' : α) :
    (entries.put other value').put key value = (entries.put key value).put other value' := by
  induction entries with
  | nil => cases present
  | cons entry rest ih =>
    obtain ⟨first, v⟩ := entry
    by_cases here : first = key
    · subst here
      simp [put, apart]
    · have further : key ∈ keys rest :=
        (List.mem_cons.mp present).resolve_left (Ne.symm here)
      by_cases there : first = other <;> simp [put, here, there, ih further, Ne.symm apart]

theorem mem_keys_put {entries : Entries α} {k : String} (key : String) (value : α)
    (present : k = key ∨ k ∈ entries.keys) : k ∈ (entries.put key value).keys := by
  rw [keys_put]
  split
  · rename_i there
    exact present.elim (fun same => same ▸ there) id
  · exact present.elim (fun same => same ▸ List.mem_append_right _ (.head _))
      (List.mem_append_left _)

/-- A key that is there may get its value before others are overridden, if those do not include
it. -/
theorem put_override {base : Entries α} {changes : List (String × α)} {key : String}
    (present : key ∈ base.keys) (absent : key ∉ keys changes) (value : α) :
    (base.override changes).put key value = (base.put key value).override changes := by
  induction changes generalizing base with
  | nil => rfl
  | cons change rest ih =>
    obtain ⟨other, value'⟩ := change
    rw [keys_cons, List.mem_cons, not_or] at absent
    rw [override_cons, override_cons, ih (mem_keys_put _ _ (.inr present)) absent.2,
      put_comm absent.1 present]

/-- To override by entries to which a pair has been written is to write the pair afterwards, where
each key stands once among the entries. -/
theorem override_put (base : Entries α) {changes : Entries α} (distinct : changes.keys.Nodup)
    (key : String) (value : α) :
    base.override (changes.put key value) = (base.override changes).put key value := by
  induction changes generalizing base with
  | nil => rfl
  | cons change rest ih =>
    obtain ⟨first, v⟩ := change
    obtain ⟨fresh, others⟩ := List.nodup_cons.mp distinct
    rw [put]
    by_cases here : first = key
    · subst here
      rw [if_pos rfl, override_cons, override_cons,
        put_override (mem_keys_put _ _ (.inl rfl)) fresh, put_put]
    · rw [if_neg here, override_cons, override_cons, ih _ others]

/-- To override by what pairs have built is to write the pairs. -/
theorem override_ofPairs (base : Entries α) (pairs : List (String × α)) :
    base.override (ofPairs pairs) = base.override pairs := by
  induction pairs using List.reverseRecOn with
  | nil => rfl
  | append_singleton pairs pair ih =>
    rw [ofPairs_concat, override_put _ (nodup_keys_ofPairs pairs), ih, override_append]
    rfl

theorem ofPairs_append (front back : List (String × α)) :
    ofPairs (front ++ back) = (ofPairs front).override (ofPairs back) := by
  rw [override_ofPairs]
  exact override_append [] front back

/-- The keys that overriding adds come behind those that are there, in their order. -/
theorem keys_override_ofPairs (front back : List (String × α)) :
    ((ofPairs front).override (ofPairs back)).keys =
      (ofPairs front).keys ++ (ofPairs back).keys.filter (· ∉ (ofPairs front).keys) := by
  rw [← ofPairs_append, keys_ofPairs, keys_ofPairs, keys_ofPairs, List.map_append,
    List.eraseDups_append, List.removeAll, eraseDups_filter]
  congr 1
  refine List.filter_congr fun key _ => ?_
  rw [Bool.eq_iff_iff]
  simp

/-- After overriding by what pairs have built, a key has the value there, or else the one before. -/
theorem get?_override_ofPairs (base : Entries α) (pairs : List (String × α)) (key : String) :
    (base.override (ofPairs pairs)).get? key = ((ofPairs pairs).get? key).or (base.get? key) := by
  rw [get?_override, get?_reverse (nodup_keys_ofPairs pairs)]

end ComponentPasses.Data.Entries

import Mathlib.Data.List.Induction
import Mathlib.Data.List.Nodup

/-!
# First occurrences

`eraseDups` keeps the first occurrence of each item of a list.  What it keeps has no repeats
(`nodup_eraseDups`), and the items that fail a test can be dropped before or after
(`eraseDups_filter`).  Both go by the length of the list, since what comes after an item is filtered
before it is looked at.  Which items are kept depends on the items alone, and only their order on
the order of the list (`eraseDups_perm`).

Where items are known by keys, the keys that `eraseDups` keeps come in the order in which the items
of these keys first come (`pairwise_findIdx_eraseDups`).
-/

namespace ComponentPasses

theorem length_filter_lt {α : Type} (p : α → Bool) (item : α) (rest : List α) :
    (rest.filter p).length < (item :: rest).length :=
  Nat.lt_succ_of_le (List.length_filter_le p rest)

variable {α : Type} [BEq α] [LawfulBEq α]

/-- The first occurrences among the items that pass a test are those first occurrences that do. -/
theorem eraseDups_filter (p : α → Bool) (items : List α) :
    (items.filter p).eraseDups = items.eraseDups.filter p := by
  cases items with
  | nil => rfl
  | cons item rest =>
    have others := eraseDups_filter p (rest.filter fun other => !other == item)
    rw [List.filter_filter] at others
    rw [List.eraseDups_cons, List.filter_cons, List.filter_cons, ← others]
    split
    · rw [List.eraseDups_cons, List.filter_filter]
      congr 2
      exact List.filter_congr fun other _ => Bool.and_comm _ _
    · rename_i fails
      congr 1
      refine List.filter_congr fun other _ => ?_
      by_cases same : other = item
      · simp [same, fails]
      · simp [same]
termination_by items.length
decreasing_by exact length_filter_lt _ _ _

theorem nodup_eraseDups (items : List α) : items.eraseDups.Nodup := by
  cases items with
  | nil => exact List.nodup_nil
  | cons item rest =>
    rw [List.eraseDups_cons]
    refine List.nodup_cons.mpr ⟨?_, nodup_eraseDups _⟩
    rw [List.mem_eraseDups]
    simp
termination_by items.length
decreasing_by exact length_filter_lt _ _ _

/-- Lists with the same items have the same first occurrences, in some order. -/
theorem eraseDups_perm {items items' : List α} (same : ∀ item, item ∈ items ↔ item ∈ items') :
    items.eraseDups.Perm items'.eraseDups := by
  refine (List.perm_ext_iff_of_nodup (nodup_eraseDups _) (nodup_eraseDups _)).mpr fun item => ?_
  rw [List.mem_eraseDups, List.mem_eraseDups]
  exact same item

theorem eraseDups_concat (items : List α) (item : α) :
    (items ++ [item]).eraseDups =
      if item ∈ items then items.eraseDups else items.eraseDups ++ [item] := by
  rw [List.eraseDups_append]
  by_cases known : item ∈ items <;> simp [List.removeAll, known, List.eraseDups_cons]

section Keys

variable {β : Type} {keyOf : β → Option α} {items : List β} {key : α}

theorem findIdx_lt_length_iff :
    items.findIdx (keyOf · == some key) < items.length ↔ key ∈ items.filterMap keyOf := by
  rw [List.findIdx_lt_length, List.mem_filterMap]
  simp

/-- A key keeps the place of its first item when an item is added. -/
theorem findIdx_concat_of_mem (item : β) (known : key ∈ items.filterMap keyOf) :
    (items ++ [item]).findIdx (keyOf · == some key) = items.findIdx (keyOf · == some key) := by
  rw [List.findIdx_append, if_pos (findIdx_lt_length_iff.mpr known)]

/-- A new key has the place of the item that is added. -/
theorem length_le_findIdx_concat (item : β) (fresh : key ∉ items.filterMap keyOf) :
    items.length ≤ (items ++ [item]).findIdx (keyOf · == some key) := by
  rw [List.findIdx_append, if_neg (mt findIdx_lt_length_iff.mp fresh)]
  exact Nat.le_add_left _ _

/-- The keys that are kept come in the order of the first items that have them. -/
theorem pairwise_findIdx_eraseDups (keyOf : β → Option α) (items : List β) :
    (items.filterMap keyOf).eraseDups.Pairwise fun key key' =>
      items.findIdx (keyOf · == some key) < items.findIdx (keyOf · == some key') := by
  induction items using List.reverseRecOn with
  | nil => exact .nil
  | append_singleton items item ih =>
    have before : (items.filterMap keyOf).eraseDups.Pairwise fun key key' =>
        (items ++ [item]).findIdx (keyOf · == some key) <
          (items ++ [item]).findIdx (keyOf · == some key') := by
      refine ih.imp_of_mem fun known known' first => ?_
      rwa [findIdx_concat_of_mem item (List.mem_eraseDups.mp known),
        findIdx_concat_of_mem item (List.mem_eraseDups.mp known')]
    rw [List.filterMap_append]
    cases keyed : keyOf item with
    | none => simpa [keyed] using before
    | some key =>
      rw [List.filterMap_cons_some keyed, List.filterMap_nil, eraseDups_concat]
      split
      · exact before
      · rename_i fresh
        refine List.pairwise_append.mpr ⟨before, List.pairwise_singleton _ _, ?_⟩
        intro known present new added
        obtain rfl := List.mem_singleton.mp added
        have present := List.mem_eraseDups.mp present
        rw [findIdx_concat_of_mem item present]
        exact Nat.lt_of_lt_of_le (findIdx_lt_length_iff.mpr present)
          (length_le_findIdx_concat item fresh)

end Keys

end ComponentPasses

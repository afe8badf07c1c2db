import ComponentPasses.Text.Blank
import Mathlib.Data.List.DropRight

/-!
# Trimmed texts

A text is trimmed where neither its first nor its last character is blank.  Trimming makes every
text trimmed (`trimmed_trim`) and keeps those that are (`trim_eq_self_iff`), so a second trimming
changes nothing.  Trimmed texts that are joined make a trimmed one, if none of them is empty
(`trimmed_intercalate`).
-/

namespace ComponentPasses.Text

/-! ## 1. Trimming -/

/-- Whether a text neither begins nor ends with a blank. -/
def Trimmed (s : String) : Prop :=
  (∀ c ∈ s.toList.head?, isBlank c = false) ∧ ∀ c ∈ s.toList.getLast?, isBlank c = false

instance (s : String) : Decidable (Trimmed s) :=
  decidable_of_iff
    (s.toList.head?.all (fun c => !isBlank c) && s.toList.getLast?.all fun c => !isBlank c)
    (by simp [Trimmed, Option.all_eq_true])

theorem dropWhile_eq_self_of_head? {drop : Char → Bool} {s : List Char}
    (kept : ∀ c ∈ s.head?, drop c = false) : s.dropWhile drop = s := by
  cases s with
  | nil => rfl
  | cons c rest => exact List.dropWhile_cons_of_neg (Bool.not_eq_true _ ▸ kept c rfl)

theorem trimEnds_of_kept {drop : Char → Bool} {s : List Char}
    (first : ∀ c ∈ s.head?, drop c = false) (last : ∀ c ∈ s.getLast?, drop c = false) :
    trimEnds drop s = s := by
  rw [trimEnds, dropWhile_eq_self_of_head? first,
    dropWhile_eq_self_of_head? (by rwa [List.head?_reverse]), List.reverse_reverse]

/-- What is left after the ends have been taken off begins with a character that stays. -/
theorem head?_trimEnds {drop : Char → Bool} {s : List Char} {c : Char}
    (first : c ∈ (trimEnds drop s).head?) : drop c = false := by
  obtain ⟨dropped, whole⟩ : trimEnds drop s <+: s.dropWhile drop := List.rdropWhile_prefix drop _
  have found : s.find? (fun c => !drop c) = some c := by
    rw [List.find?_not_eq_head?_dropWhile, ← whole, List.head?_append, Option.mem_def.mp first]
    rfl
  simpa using List.find?_some found

theorem getLast?_trimEnds {drop : Char → Bool} {s : List Char} {c : Char}
    (last : c ∈ (trimEnds drop s).getLast?) : drop c = false := by
  rw [trimEnds, List.getLast?_reverse, ← List.find?_not_eq_head?_dropWhile, Option.mem_def] at last
  simpa using List.find?_some last

theorem trimmed_trim (s : String) : Trimmed (trim s) := by
  unfold Trimmed trim trimBlanks
  rw [String.toList_ofList]
  exact ⟨fun _ => head?_trimEnds, fun _ => getLast?_trimEnds⟩

theorem trim_eq_self_iff {s : String} : trim s = s ↔ Trimmed s := by
  refine ⟨fun same => same ▸ trimmed_trim s, fun ⟨first, last⟩ => ?_⟩
  rw [trim, trimBlanks, trimEnds_of_kept first last, String.ofList_toList]

theorem map_trim_of_trimmed {names : List String} (each : ∀ name ∈ names, Trimmed name) :
    names.map trim = names :=
  (List.map_congr_left fun name listed => trim_eq_self_iff.mpr (each name listed)).trans
    (List.map_id names)

/-! ## 2. Joined texts -/

section Joined

variable {s first last separator : String}

/-- A text is trimmed if it begins and ends with trimmed texts that are not empty. -/
theorem Trimmed.of_ends (someFirst : first ≠ "") (begins : first.toList <+: s.toList)
    (trimmedFirst : Trimmed first) (someLast : last ≠ "") (ends : last.toList <:+ s.toList)
    (trimmedLast : Trimmed last) : Trimmed s := by
  obtain ⟨back, spelled⟩ := begins
  obtain ⟨front, spelled'⟩ := ends
  refine ⟨?_, ?_⟩
  · rw [← spelled, List.head?_append_of_ne_nil _ (by simpa using someFirst)]
    exact trimmedFirst.1
  · rw [← spelled', List.getLast?_append_of_ne_nil _ (by simpa using someLast)]
    exact trimmedLast.2

theorem prefix_intercalate (separator first : String) (rest : List String) :
    first.toList <+: (separator.intercalate (first :: rest)).toList := by
  cases rest with
  | nil => simp only [String.intercalate_singleton, List.prefix_rfl]
  | cons next later =>
    rw [String.intercalate_cons_cons, String.append_assoc, String.toList_append]
    exact List.prefix_append _ _

theorem suffix_intercalate (separator last : String) (front : List String) :
    last.toList <:+ (separator.intercalate (front ++ [last])).toList := by
  by_cases alone : front = []
  · simp only [alone, List.nil_append, String.intercalate_singleton, List.suffix_rfl]
  · rw [String.intercalate_append_of_ne_nil alone (List.cons_ne_nil _ _),
      String.intercalate_singleton, String.toList_append]
    exact List.suffix_append _ _

theorem trimmed_intercalate {parts : List String}
    (each : ∀ part ∈ parts, part ≠ "" ∧ Trimmed part) : Trimmed (separator.intercalate parts) := by
  cases parts with
  | nil => exact ⟨nofun, nofun⟩
  | cons first rest =>
    obtain ⟨front, last, split⟩ := (List.eq_nil_or_concat' (first :: rest)).resolve_left
      (List.cons_ne_nil _ _)
    have begins := prefix_intercalate separator first rest
    have ends := suffix_intercalate separator last front
    rw [← split] at ends
    obtain ⟨someFirst, trimmedFirst⟩ := each first (.head _)
    obtain ⟨someLast, trimmedLast⟩ := each last (split ▸ List.mem_append_right _ (.head _))
    exact .of_ends someFirst begins trimmedFirst someLast ends trimmedLast

end Joined

end ComponentPasses.Text

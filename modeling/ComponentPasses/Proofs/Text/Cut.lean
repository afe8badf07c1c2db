import ComponentPasses.Text.Cut

/-!
# The pieces of a text

The first occurrence of the mark is cut at where no mark stands before it
(`cutAtFirst_eq_some_iff`).

There is always a piece (`pieces_ne_nil`).  A text without the mark is one piece
(`pieces_of_not_mem`), and in front of a mark it is the first (`pieces_append`); so joining parts
without the mark is undone (`split_intercalate`).  Together the pieces hold all characters but the
mark (`flatten_pieces`).

A text occurs in another exactly if it is a stretch of it (`occursIn_iff`).
-/

namespace ComponentPasses.Text

variable {mark : Char}

theorem cutAtFirst_append {front : List Char} (absent : mark ∉ front) (rest : List Char) :
    cutAtFirst mark (front ++ mark :: rest) = some (front, rest) := by
  induction front with
  | nil => simp [cutAtFirst]
  | cons c others ih =>
    rw [List.mem_cons, not_or] at absent
    rw [List.cons_append, cutAtFirst, if_neg (Ne.symm absent.1), ih absent.2]
    rfl

theorem cutAtFirst_eq_none_iff {s : List Char} : cutAtFirst mark s = none ↔ mark ∉ s := by
  induction s with
  | nil => simp [cutAtFirst]
  | cons c rest ih =>
    rw [cutAtFirst]
    split
    · simp [*]
    · rename_i other
      rw [Option.map_eq_none_iff, ih, List.mem_cons, not_or, and_iff_right (Ne.symm other)]

theorem cutAtFirst_eq_some_iff {s before after : List Char} :
    cutAtFirst mark s = some (before, after) ↔ s = before ++ mark :: after ∧ mark ∉ before := by
  constructor
  · intro cut
    induction s generalizing before with
    | nil => cases cut
    | cons c rest ih =>
      rw [cutAtFirst] at cut
      split at cut
      · rename_i marks
        cases cut
        exact ⟨congrArg (· :: after) marks, List.not_mem_nil⟩
      · rename_i other
        obtain ⟨⟨front, back⟩, first, same⟩ := Option.map_eq_some_iff.mp cut
        cases same
        obtain ⟨rfl, absent⟩ := ih first
        exact ⟨rfl, List.not_mem_cons_of_ne_of_not_mem (Ne.symm other) absent⟩
  · rintro ⟨rfl, absent⟩
    exact cutAtFirst_append absent after

theorem pieces_ne_nil (mark : Char) (s : List Char) : pieces mark s ≠ [] := by
  cases s with
  | nil => exact List.cons_ne_nil _ _
  | cons c rest =>
    rw [pieces]
    split
    · exact List.cons_ne_nil _ _
    · split <;> exact List.cons_ne_nil _ _

theorem pieces_of_not_mem {s : List Char} (absent : mark ∉ s) : pieces mark s = [s] := by
  induction s with
  | nil => rfl
  | cons c rest ih =>
    rw [List.mem_cons, not_or] at absent
    rw [pieces, if_neg (Ne.symm absent.1), ih absent.2]

/-- A text without the mark in front of a mark is the first piece. -/
theorem pieces_append {front : List Char} (absent : mark ∉ front) (rest : List Char) :
    pieces mark (front ++ mark :: rest) = front :: pieces mark rest := by
  induction front with
  | nil => simp [pieces]
  | cons c others ih =>
    rw [List.mem_cons, not_or] at absent
    rw [List.cons_append, pieces, if_neg (Ne.symm absent.1), ih absent.2]

/-- Parts that are joined with the mark, and have none in them, are the pieces. -/
theorem pieces_intercalate {parts : List (List Char)} (some : parts ≠ [])
    (absent : ∀ part ∈ parts, mark ∉ part) : pieces mark ([mark].intercalate parts) = parts := by
  induction parts with
  | nil => exact absurd rfl some
  | cons first rest ih =>
    obtain ⟨absentFirst, absent⟩ := List.forall_mem_cons.mp absent
    cases rest with
    | nil => rw [List.intercalate_singleton, pieces_of_not_mem absentFirst]
    | cons next later =>
      rw [List.intercalate_cons_cons, List.append_assoc, List.singleton_append,
        pieces_append absentFirst, ih (List.cons_ne_nil _ _) absent]

theorem split_intercalate {separator : String} (single : separator.toList = [mark])
    {parts : List String} (some : parts ≠ []) (absent : ∀ part ∈ parts, mark ∉ part.toList) :
    split mark (separator.intercalate parts) = parts := by
  rw [split, String.toList_intercalate, single,
    pieces_intercalate (by simpa using some) (List.forall_mem_map.mpr absent), List.map_map]
  exact (List.map_congr_left fun _ _ => String.ofList_toList).trans (List.map_id parts)

/-- The pieces hold all characters but the mark, in order. -/
theorem flatten_pieces (mark : Char) (s : List Char) :
    (pieces mark s).flatten = s.filter (· ≠ mark) := by
  induction s with
  | nil => rfl
  | cons c rest ih =>
    rw [pieces]
    split
    · rename_i marks
      rw [List.filter_cons_of_neg (by simpa using marks), ← ih]
      rfl
    · rename_i other
      rw [List.filter_cons_of_pos (by simpa using other), ← ih]
      split <;> simp [*]

/-- A character other than the mark stands in one of the pieces. -/
theorem exists_mem_split {s : String} {c : Char} (h : c ∈ s.toList) (other : c ≠ mark) :
    ∃ piece ∈ split mark s, c ∈ piece.toList := by
  have kept : c ∈ (pieces mark s.toList).flatten := by
    rw [flatten_pieces]
    exact List.mem_filter.mpr ⟨h, by simpa using other⟩
  obtain ⟨piece, present, inside⟩ := List.mem_flatten.mp kept
  exact ⟨String.ofList piece, List.mem_map_of_mem present, by rwa [String.toList_ofList]⟩

theorem occursIn_iff {inner s : List Char} : occursIn inner s = true ↔ inner <:+: s := by
  induction s with
  | nil => rw [occursIn, List.isEmpty_iff, List.infix_nil]
  | cons c rest ih =>
    rw [occursIn, Bool.or_eq_true, List.isPrefixOf_iff_prefix, ih, List.infix_cons_iff]

end ComponentPasses.Text

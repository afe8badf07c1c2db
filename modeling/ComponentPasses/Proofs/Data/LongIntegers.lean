import ComponentPasses.Proofs.Data.TomlLines

/-!
# Integers that are too long

A decimal integer with more digits than the limit is no malformed TOML: reading stops at it with a
fault of its own.  Nothing that stands further on in the text is read, and nothing that stands
before is kept (`read_section_ones`).

The numerals here are runs of ones that a line end closes, and the reader's way over such a run is
an induction on its length.
-/

namespace ComponentPasses.Data.Toml

open Text (digitLimit)

variable {digits : Nat} {rest : List Char}

/-! ## 1. A long run of digits -/

/-- So many ones, and the end of their line. -/
def ones (digits : Nat) (rest : List Char) : List Char :=
  List.replicate digits '1' ++ '\n' :: rest

theorem ones_succ (digits : Nat) (rest : List Char) :
    ones (digits + 1) rest = '1' :: ones digits rest := rfl

theorem moreDigits_ones (digits : Nat) (rest : List Char) :
    moreDigits Char.isDigit (ones digits rest) = (List.replicate digits '1', '\n' :: rest) := by
  induction digits with
  | zero => rfl
  | succ digits ih =>
    rw [ones_succ, moreDigits, if_pos (by decide), ih]
    · rfl
    · nofun

theorem decimal?_ones (long : digitLimit < digits) :
    decimal? (ones digits rest) = some (.error (.longInteger digits)) := by
  obtain ⟨more, rfl⟩ := Nat.exists_eq_add_of_lt long
  have whole : wholeDigits? ('1' :: ones (digitLimit + more) rest) =
      some ('1' :: List.replicate (digitLimit + more) '1', '\n' :: rest) := by
    rw [wholeDigits?, digits?, if_pos (by decide), moreDigits_ones]
    nofun
  have unsigned : Text.takeSign ('1' :: ones (digitLimit + more) rest) =
      (false, '1' :: ones (digitLimit + more) rest) := rfl
  have size : ('1' :: List.replicate (digitLimit + more) '1').length =
      digitLimit + more + 1 := by
    rw [List.length_cons, List.length_replicate]
  rw [ones_succ, decimal?, unsigned]
  simp only [whole, Option.map_some, fraction?, exponent?, size, long, if_true]
  rfl

/-- No other kind of value begins with five ones. -/
theorem readScalar_ones (long : digitLimit < digits) :
    readScalar (ones digits rest) = .error (.longInteger digits) := by
  have number : decimal? (ones digits rest) = _ := decimal?_ones long
  obtain ⟨more, rfl⟩ : ∃ more, digits = more + 5 :=
    Nat.exists_eq_add_of_le' (Nat.le_trans (by decide) (Nat.le_of_lt long))
  have text : readText? (ones (more + 5) rest) = none := rfl
  have word : word? flagWords (ones (more + 5) rest) = none := rfl
  have moment : moment? (ones (more + 5) rest) = none := rfl
  have based : basedInteger? (ones (more + 5) rest) = none := rfl
  simp only [readScalar, text, word, moment, based, number]

/-! ## 2. A settings section with it -/

/-- A line that gives the long integer to a setting. -/
def depthLine (digits : Nat) (rest : List Char) : List Char :=
  pairLine "max_inline_depth" (List.replicate digits '1') rest

/-- A settings section in which an integer is too long is not read. -/
theorem read_section_ones (long : digitLimit < digits) :
    read ("[tool.blazorgen]\n".toList ++ depthLine digits []) = .error (.longInteger digits) := by
  have noReturn : '\r' ∉ depthLine digits [] := by
    intro inside
    rcases List.mem_append.mp inside with key | value
    · exact absurd key (by decide)
    rcases List.mem_append.mp value with one | ended
    · exact absurd (List.eq_of_mem_replicate one) (by decide)
    · exact absurd ended (by decide)
  have stopped : readLines (depthLine digits []) = ([], some (.longInteger digits)) := by
    have scalar : readScalar (ones digits []) = _ := readScalar_ones long
    obtain ⟨more, rfl⟩ := Nat.exists_eq_add_of_lt long
    exact readLines_pair_error (by decide) (by decide) scalar
  exact read_section noReturn stopped rfl

end ComponentPasses.Data.Toml

import ComponentPasses.Data.Toml.Document

/-!
# Plain lines of a TOML text

A line is plain if it declares a table or gives a value to a key, each part of a key is written
without quotes, and the value is neither a list nor a table.  Such a line is read without a look at
the lines after it, so plain lines are read one after the other (`readLines_table`,
`readLines_pair`), up to the first header or value that is none (`readLines_unclosed`,
`readLines_pair_error`).  The lines after the header of a settings section build what the section
says (`read_section`).

A part of a key is the longest run of characters of its kind (`takeWhile_run`, `dropWhile_run`), and
what follows a key in a plain line begins with another character.
-/

namespace ComponentPasses.Data.Toml

variable {part : String} {parts : Key} {c : Char} {s spelled more rest : List Char}
  {value : Value} {fault : Fault}

/-! ## 1. Keys -/

/-- The part of a key can be written without quotes. -/
def IsBare (part : String) : Prop :=
  part ≠ "" ∧ part.toList.all isBareKeyChar = true

instance (part : String) : Decidable (IsBare part) :=
  inferInstanceAs (Decidable (_ ∧ _))

/-- What does not go on with a key. -/
def EndsPart (rest : List Char) : Prop :=
  ∀ c ∈ rest.head?, isBareKeyChar c = false

theorem endsPart_cons (h : isBareKeyChar c = false) : EndsPart (c :: rest) :=
  fun _ first => Option.mem_some.mp first ▸ h

theorem takeWhile_run {run : List Char} (inside : run.all isBareKeyChar = true)
    (ends : EndsPart rest) : (run ++ rest).takeWhile isBareKeyChar = run := by
  have stop : rest.takeWhile isBareKeyChar = [] := by
    cases rest with
    | nil => rfl
    | cons c rest => rw [List.takeWhile_cons, ends c rfl]; rfl
  rw [List.takeWhile_append_of_pos (List.all_eq_true.mp inside), stop, List.append_nil]

theorem dropWhile_run {run : List Char} (inside : run.all isBareKeyChar = true)
    (ends : EndsPart rest) : (run ++ rest).dropWhile isBareKeyChar = rest := by
  rw [List.dropWhile_append_of_pos (List.all_eq_true.mp inside)]
  cases rest with
  | nil => rfl
  | cons c rest => rw [List.dropWhile_cons, ends c rfl]; rfl

namespace IsBare

/-- A part without quotes has a first character, which is one of a key. -/
theorem exists_cons (bare : IsBare part) :
    ∃ first others, part.toList = first :: others ∧ isBareKeyChar first = true := by
  have inside := bare.2
  cases spelled : part.toList with
  | nil => exact absurd (String.toList_eq_nil_iff.mp spelled) bare.1
  | cons first others =>
    rw [spelled, List.all_cons, Bool.and_eq_true] at inside
    exact ⟨first, others, rfl, inside.1⟩

/-- A part without quotes does not begin with any other character. -/
theorem ne_cons (bare : IsBare part) (other : isBareKeyChar c = false) (rest more : List Char) :
    part.toList ++ rest ≠ c :: more := by
  obtain ⟨first, others, begins, isKey⟩ := bare.exists_cons
  rw [begins, List.cons_append]
  intro same
  rw [List.head_eq_of_cons_eq same, other] at isKey
  cases isKey

/-- No blank stands before a part. -/
theorem skipTomlBlank_append (bare : IsBare part) (rest : List Char) :
    skipTomlBlank (part.toList ++ rest) = part.toList ++ rest := by
  obtain ⟨first, others, same, isKey⟩ := bare.exists_cons
  have visible : isTomlBlank first = false := by
    refine Bool.eq_false_iff.mpr fun blank => ?_
    rcases (by simpa [isTomlBlank] using blank : first = ' ' ∨ first = '\t') with rfl | rfl
    · cases isKey
    · cases isKey
  rw [same, List.cons_append, skipTomlBlank, List.dropWhile_cons, visible]
  rfl

theorem readKeyPart (bare : IsBare part) (ends : EndsPart rest) :
    readKeyPart (part.toList ++ rest) = .ok (part, rest) := by
  obtain ⟨first, others, begins, -⟩ := bare.exists_cons
  rw [Toml.readKeyPart]
  · simp only [takeWhile_run bare.2 ends, dropWhile_run bare.2 ends]
    rw [begins, if_neg (by simp), ← begins, String.ofList_toList]
  · exact fun after same => bare.ne_cons (by decide) rest after same
  · exact fun after same => bare.ne_cons (by decide) rest after same

/-- A single part is a key, unless a point follows. -/
theorem readKey (bare : IsBare part) (ends : EndsPart rest)
    (last : (skipTomlBlank rest).head? ≠ some '.') :
    readKey (part.toList ++ rest) = .ok ([part], skipTomlBlank rest) := by
  rw [Toml.readKey, bare.readKeyPart ends]
  simp only [bind, Except.bind]
  split
  · rename_i point
    exact absurd (congrArg List.head? point) last
  · rfl

/-- A part before a point goes before the key that follows. -/
theorem readKey_point (bare : IsBare part) (tight : skipTomlBlank more = more)
    (after : Toml.readKey more = .ok (parts, rest)) :
    Toml.readKey (part.toList ++ '.' :: more) = .ok (part :: parts, rest) := by
  have shorter : more.length < (part.toList ++ '.' :: more).length := by
    rw [List.length_append, List.length_cons]
    omega
  have point : skipTomlBlank ('.' :: more) = '.' :: more := rfl
  have advanced : advance (part.toList ++ '.' :: more) more = .ok ⟨more, shorter⟩ :=
    dif_pos shorter
  rw [Toml.readKey, bare.readKeyPart (endsPart_cons (by decide))]
  simp only [bind, Except.bind, point, tight, advanced, after]

end IsBare

/-! ## 2. Lines -/

/-- A pair on a line of its own, before other lines. -/
def pairLine (part : String) (spelled rest : List Char) : List Char :=
  part.toList ++ " = ".toList ++ (spelled ++ '\n' :: rest)

/-- What can begin a value, if the value is neither a list nor a table. -/
def BeginsScalar (c : Char) : Prop :=
  c ≠ '[' ∧ c ≠ '\x7b' ∧ isTomlBlank c = false

instance (c : Char) : Decidable (BeginsScalar c) :=
  inferInstanceAs (Decidable (_ ∧ _))

theorem readValue_scalar (begins : BeginsScalar c)
    (scalar : readScalar (c :: s) = .ok (value, rest)) (shorter : rest.length < (c :: s).length) :
    readValue (c :: s) = .ok (value, ⟨rest, shorter⟩) := by
  have advanced : advance (c :: s) rest = .ok ⟨rest, shorter⟩ := dif_pos shorter
  rw [readValue, scalar]
  · simp only [bind, Except.bind, advanced]
  · exact fun _ same => begins.1 (List.head_eq_of_cons_eq same)
  · exact fun _ same => begins.2.1 (List.head_eq_of_cons_eq same)

theorem readValue_error (begins : BeginsScalar c) (scalar : readScalar (c :: s) = .error fault) :
    readValue (c :: s) = .error fault := by
  rw [readValue, scalar]
  · rfl
  · exact fun _ same => begins.1 (List.head_eq_of_cons_eq same)
  · exact fun _ same => begins.2.1 (List.head_eq_of_cons_eq same)

/-- Whether a text can hold the character as it is. -/
def isPlainInText (c : Char) : Bool :=
  c != '"' && c != '\\' && !isForbidden c

theorem isPlainInText_eq_true_iff :
    isPlainInText c = true ↔ c ≠ '"' ∧ c ≠ '\\' ∧ isForbidden c = false := by
  simp [isPlainInText, and_assoc]

theorem basicText_plain {text : List Char} (plain : text.all isPlainInText = true) :
    basicText false .nothing (text ++ '"' :: rest) = .ok (text, rest) := by
  induction text with
  | nil =>
    rw [List.nil_append, basicText.eq_def]
    rfl
  | cons first others ih =>
    rw [List.all_cons, Bool.and_eq_true, isPlainInText_eq_true_iff] at plain
    obtain ⟨⟨noQuote, noEscape, allowed⟩, plainOthers⟩ := plain
    rw [List.cons_append, basicText.eq_def]
    simp only [ih plainOthers]
    simp [noQuote, noEscape, allowed, Except.map]

/-- A text in quotes is a value. -/
theorem readScalar_text {text : List Char} (some : text ≠ [])
    (plain : text.all isPlainInText = true) :
    readScalar ('"' :: (text ++ '"' :: rest)) = .ok (.text (String.ofList text), rest) := by
  have body : basicText false .nothing (text ++ '"' :: rest) = _ := basicText_plain plain
  cases text with
  | nil => exact absurd rfl some
  | cons first others =>
    have noQuote : first ≠ '"' := by
      rw [List.all_cons, Bool.and_eq_true, isPlainInText_eq_true_iff] at plain
      exact plain.1.1
    have quoted : readText? ('"' :: (first :: others ++ '"' :: rest)) =
        Option.some (basicText false .nothing (first :: others ++ '"' :: rest)) := by
      rw [readText?]
      intro more same
      exact noQuote (List.head_eq_of_cons_eq same)
    rw [readScalar, quoted, body]
    rfl

/-- A line after which the text goes on is read, and then the lines after it. -/
theorem readLines_of_ok {line : Line}
    (here : readLine (skipTomlBlank s) = .ok (some line, '\n' :: rest))
    (shorter : rest.length < s.length) :
    readLines s = (line :: (readLines rest).1, (readLines rest).2) := by
  have ended : readLineEnd ('\n' :: rest) = .ok rest := rfl
  cases s with
  | nil => cases shorter
  | cons first others =>
    rw [readLines, here]
    simp only [bind, Except.bind, ended]
    rw [dif_pos shorter]
    rfl

/-- Reading stops at a line that is none. -/
theorem readLines_of_error (here : readLine (skipTomlBlank s) = .error fault) :
    readLines s = ([], some fault) := by
  cases s with
  | nil => cases here
  | cons first others =>
    rw [readLines, here]
    rfl

section Pairs

variable (bare : IsBare part) (begins : BeginsScalar c)

include bare

theorem skipTomlBlank_pairLine (spelled rest : List Char) :
    skipTomlBlank (pairLine part spelled rest) = pairLine part spelled rest := by
  rw [pairLine, List.append_assoc]
  exact bare.skipTomlBlank_append _

include begins

theorem readPairKey_pairLine :
    readPairKey (pairLine part (c :: spelled) rest) =
      .ok ([part], c :: (spelled ++ '\n' :: rest)) := by
  have ends : EndsPart (" = ".toList ++ (c :: spelled ++ '\n' :: rest)) :=
    endsPart_cons (by decide)
  have tight : skipTomlBlank (c :: (spelled ++ '\n' :: rest)) = c :: (spelled ++ '\n' :: rest) := by
    rw [skipTomlBlank, List.dropWhile_cons, begins.2.2]
    rfl
  have noPoint :
      (skipTomlBlank (" = ".toList ++ (c :: spelled ++ '\n' :: rest))).head? ≠ some '.' :=
    show some '=' ≠ some '.' by decide
  rw [pairLine, List.append_assoc, readPairKey, bare.readKey ends noPoint]
  show Except.ok ([part], skipTomlBlank (c :: (spelled ++ '\n' :: rest))) = _
  rw [tight]

theorem readLine_pairLine :
    readLine (pairLine part (c :: spelled) rest) =
      (readValue (c :: (spelled ++ '\n' :: rest))).map fun (value, rest) =>
        (some (.pair [part] value), rest.1) := by
  have key : readPairKey (pairLine part (c :: spelled) rest) = _ := readPairKey_pairLine bare begins
  have other : ∀ first more, isBareKeyChar first = false →
      pairLine part (c :: spelled) rest ≠ first :: more := by
    intro first more outside
    rw [pairLine, List.append_assoc]
    exact bare.ne_cons outside _ _
  have some : pairLine part (c :: spelled) rest ≠ [] := by simp [pairLine]
  rw [readLine, key]
  · show (readValue (c :: (spelled ++ '\n' :: rest)) >>= _) = _
    cases readValue (c :: (spelled ++ '\n' :: rest)) <;> rfl
  · exact some
  all_goals exact fun _ => other _ _ (by decide)

/-- The line of a pair is read, and then the lines after it. -/
theorem readLines_pair
    (scalar : readScalar (c :: (spelled ++ '\n' :: rest)) = .ok (value, '\n' :: rest)) :
    readLines (pairLine part (c :: spelled) rest) =
      (.pair [part] value :: (readLines rest).1, (readLines rest).2) := by
  have shorter : ('\n' :: rest).length < (c :: (spelled ++ '\n' :: rest)).length := by
    simp only [List.length_cons, List.length_append]
    omega
  have within : rest.length < (pairLine part (c :: spelled) rest).length := by
    simp only [pairLine, List.length_cons, List.length_append]
    omega
  refine readLines_of_ok ?_ within
  rw [skipTomlBlank_pairLine bare, readLine_pairLine bare begins,
    readValue_scalar begins scalar shorter]
  rfl

/-- Reading stops at a pair whose value is none. -/
theorem readLines_pair_error
    (scalar : readScalar (c :: (spelled ++ '\n' :: rest)) = .error fault) :
    readLines (pairLine part (c :: spelled) rest) = ([], some fault) := by
  refine readLines_of_error ?_
  rw [skipTomlBlank_pairLine bare, readLine_pairLine bare begins, readValue_error begins scalar]
  rfl

end Pairs

section Tables

variable {inner : String} (bare : IsBare part) (bareInner : IsBare inner)

include bare bareInner

/-- The header of a table in a table is read up to its closing bracket. -/
theorem readLine_header (ends : EndsPart rest) (last : (skipTomlBlank rest).head? ≠ some '.') :
    readLine ('[' :: (part.toList ++ '.' :: (inner.toList ++ rest))) =
      match afterWord? [']'] (skipTomlBlank rest) with
      | some after => .ok (some (.table [part, inner]), after)
      | none => .error .malformed := by
  have key : readKey (part.toList ++ '.' :: (inner.toList ++ rest)) =
      .ok ([part, inner], skipTomlBlank rest) :=
    bare.readKey_point (bareInner.skipTomlBlank_append rest) (bareInner.readKey ends last)
  have single : ∀ more, part.toList ++ '.' :: (inner.toList ++ rest) ≠ '[' :: more :=
    bare.ne_cons (by decide) _
  rw [readLine, readHeader, bare.skipTomlBlank_append, key]
  · simp only [bind, Except.bind]
    cases afterWord? [']'] (skipTomlBlank rest) <;> rfl
  · exact single

/-- The line of a header is read, and then the lines after it. -/
theorem readLines_table (rest : List Char) :
    readLines ('[' :: (part.toList ++ '.' :: (inner.toList ++ ']' :: '\n' :: rest))) =
      (.table [part, inner] :: (readLines rest).1, (readLines rest).2) := by
  have ends : EndsPart (']' :: '\n' :: rest) := endsPart_cons (by decide)
  have noPoint : (skipTomlBlank (']' :: '\n' :: rest)).head? ≠ some '.' :=
    show some ']' ≠ some '.' by decide
  refine readLines_of_ok ?_ ?_
  · show readLine ('[' :: (part.toList ++ '.' :: (inner.toList ++ ']' :: '\n' :: rest))) = _
    rw [readLine_header bare bareInner ends noPoint]
    rfl
  · simp only [List.length_cons, List.length_append]
    omega

/-- Reading stops at a header without its closing bracket. -/
theorem readLines_unclosed :
    readLines ('[' :: (part.toList ++ '.' :: inner.toList)) = ([], some .malformed) := by
  have ends : EndsPart [] := fun _ none => nomatch none
  have noPoint : (skipTomlBlank []).head? ≠ some '.' := show none ≠ some '.' by decide
  refine readLines_of_error ?_
  show readLine ('[' :: (part.toList ++ '.' :: inner.toList)) = _
  rw [← List.append_nil inner.toList, readLine_header bare bareInner ends noPoint]
  rfl

end Tables

/-! ## 3. Texts -/

/-- Without returns a text is read as it is. -/
theorem dropReturns_of_not_mem (none : '\r' ∉ s) : read.dropReturns s = s := by
  fun_induction read.dropReturns s with
  | case1 => exact absurd List.mem_cons_self none
  | case2 c rest _ ih => rw [ih (List.not_mem_of_not_mem_cons none)]
  | case3 => rfl

/-- No line follows the last one. -/
theorem readLines_nil : readLines [] = ([], none) := by
  rw [readLines]

/-- A settings section begins with the header of a table in a table. -/
theorem readLines_section (rest : List Char) :
    readLines ("[tool.blazorgen]\n".toList ++ rest) =
      (.table ["tool", "blazorgen"] :: (readLines rest).1, (readLines rest).2) := by
  have tool : IsBare "tool" := by decide
  have blazorgen : IsBare "blazorgen" := by decide
  exact readLines_table tool blazorgen rest

/-- A settings section says what its lines build, unless reading stops in it. -/
theorem read_section {lines : List Line} {stop : Option Fault} {root : Entries Value}
    (noReturn : '\r' ∉ rest) (after : readLines rest = (lines, stop))
    (built : ((Line.table ["tool", "blazorgen"] :: lines).foldlM Builder.addLine {}).map
      Builder.root = some root) :
    read ("[tool.blazorgen]\n".toList ++ rest) = stop.elim (.ok root) .error := by
  have noneAtAll : '\r' ∉ "[tool.blazorgen]\n".toList ++ rest :=
    List.not_mem_append (by decide) noReturn
  obtain ⟨builder, folded, rfl⟩ := Option.map_eq_some_iff.mp built
  rw [read, dropReturns_of_not_mem noneAtAll, readLines_section, after]
  simp only [folded]
  cases stop <;> rfl

end ComponentPasses.Data.Toml

import ComponentPasses.Source.Writer

/-!
# What a layout writes

Writing a layout leaves the scopes as they were, and the lines that it appends depend on nothing but
the layout and the number of scopes that are open (`write_eq`).  So the text of layouts is made of
their lines, each of them ended (`toList_text`).
-/

namespace ComponentPasses.Source.Layout

/-! ## 1. Lines -/

mutual

/-- The lines that a layout writes inside `level` scopes. -/
def linesAt (level : Nat) : Layout → List String
  | .line text => [Writer.indentLine level text]
  | .block header body =>
    (header.toList ++ ["\x7b"]).map (Writer.indentLine level) ++
      (linesOfAll (level + 1) body ++ [Writer.indentLine level "\x7d"])
  | .indented body => linesOfAll (level + 1) body

/-- The lines that layouts write one after the other inside `level` scopes. -/
def linesOfAll (level : Nat) : List Layout → List String
  | [] => []
  | layout :: rest => linesAt level layout ++ linesOfAll level rest

end

theorem linesOfAll_append (level : Nat) (front back : List Layout) :
    linesOfAll level (front ++ back) = linesOfAll level front ++ linesOfAll level back := by
  induction front with
  | nil => rfl
  | cons layout rest ih => simp only [List.cons_append, linesOfAll, ih, List.append_assoc]

/-! ## 2. Writing -/

/-- Opening a block writes its header, if it has one, and the opening brace. -/
theorem openBlock_eq (writer : Writer) (header : Option String) :
    writer.openBlock header =
      { lines := writer.lines ++
          (header.toList ++ ["\x7b"]).map (Writer.indentLine writer.level)
        scopes := .block :: writer.scopes } := by
  cases header with
  | none => rfl
  | some text => simp [Writer.openBlock, Writer.line, Writer.level]

mutual

/-- A layout leaves the scopes as they were and appends its lines. -/
theorem write_eq (layout : Layout) (writer : Writer) :
    write layout writer =
      { writer with lines := writer.lines ++ linesAt writer.level layout } := by
  cases layout with
  | line text => rfl
  | block header body =>
    rw [write, writeAll_eq body, openBlock_eq, linesAt]
    simp [Writer.close, Writer.line, Writer.level]
  | indented body =>
    rw [write, writeAll_eq body, linesAt]
    simp [Writer.openIndentation, Writer.close, Writer.level]

/-- Layouts leave the scopes as they were and append their lines, in order. -/
theorem writeAll_eq (layouts : List Layout) (writer : Writer) :
    writeAll layouts writer =
      { writer with lines := writer.lines ++ linesOfAll writer.level layouts } := by
  cases layouts with
  | nil => simp [writeAll, linesOfAll]
  | cons layout rest =>
    rw [writeAll, write_eq layout, writeAll_eq rest, linesOfAll]
    simp [Writer.level]

end

/-! ## 3. The text -/

/-- The characters of lines, each of them ended. -/
def ended (lines : List String) : List Char :=
  lines.flatMap fun line => line.toList ++ ['\n']

theorem ended_append (front back : List String) :
    ended (front ++ back) = ended front ++ ended back :=
  List.flatMap_append

theorem toList_intercalate_append (line : String) (rest : List String) :
    ("\n".intercalate (line :: rest) ++ "\n").toList = ended (line :: rest) := by
  induction rest generalizing line with
  | nil => simp [ended]
  | cons next rest ih =>
    rw [String.intercalate_cons_cons, String.append_assoc, String.append_assoc,
      String.toList_append, String.toList_append, ih]
    simp [ended]

/-- The text of layouts is made of their lines. -/
theorem toList_text {layouts : List Layout} (written : linesOfAll 0 layouts ≠ []) :
    (text layouts).toList = ended (linesOfAll 0 layouts) := by
  obtain ⟨line, rest, lines⟩ := List.exists_cons_of_ne_nil written
  rw [text, writeAll_eq, Writer.render]
  exact (congrArg (fun all => ("\n".intercalate all ++ "\n").toList) lines).trans
    (lines ▸ toList_intercalate_append line rest)

end ComponentPasses.Source.Layout

import ComponentPasses.Proofs.Source.Writer
import Mathlib.Algebra.GroupWithZero.Nat
import Mathlib.Data.List.Induction

/-!
# What a writer has written at any moment

A layout is a **complete** program for a writer: each scope that it opens it also closes.  Written
one level deeper it writes the same entries, each shifted by four blanks unless it is empty
(`linesOfAll_succ`), so a block is its header, a brace, the shifted entries of its body, and a
brace.

In the middle of its work a writer has done something else: it has opened scopes that it has not
closed yet.  A **draft** says what: for each open scope the layouts in front of it and how it was
opened, and the layouts that are complete since.  The sequences of operations that never close more
than is open are those of drafts, and what a writer has written then is read off the draft
(`writing_composes`): every line stands at the level of the scopes around it, and a closing brace
has been written for the blocks that are closed and no others.
-/

namespace ComponentPasses.Source

/-! ## 1. Operations -/

/-- What can be done with a writer. -/
inductive Operation
  | line (text : String)
  | openBlock (header : Option String)
  | openIndentation
  | close
deriving DecidableEq, Repr

/-- The texts that an operation writes; to close a scope writes a brace if the scope is a block. -/
def Operation.texts (innermost : Option Scope) : Operation → List String
  | .line text => [text]
  | .openBlock header => header.toList ++ ["\x7b"]
  | .openIndentation => []
  | .close => if innermost = some .block then ["\x7d"] else []

namespace Writer

/-- Does one thing with a writer. -/
def perform (writer : Writer) : Operation → Writer
  | .line text => writer.line text
  | .openBlock header => writer.openBlock header
  | .openIndentation => writer.openIndentation
  | .close => writer.close

/-- Does one thing after the other with a writer. -/
def performAll (writer : Writer) (operations : List Operation) : Writer :=
  operations.foldl perform writer

/-- The number of closing lines that operations write. -/
def closingLines (writer : Writer) : List Operation → Nat
  | [] => 0
  | operation :: rest =>
    (if operation = .close then (operation.texts writer.scopes.head?).length else 0) +
      closingLines (writer.perform operation) rest

variable (writer : Writer) (front back : List Operation)

theorem performAll_append :
    writer.performAll (front ++ back) = (writer.performAll front).performAll back :=
  List.foldl_append

theorem closingLines_append :
    writer.closingLines (front ++ back) =
      writer.closingLines front + (writer.performAll front).closingLines back := by
  induction front generalizing writer with
  | nil => rw [List.nil_append, closingLines, Nat.zero_add]; rfl
  | cons operation rest ih =>
    rw [List.cons_append, closingLines, closingLines, ih, Nat.add_assoc]
    rfl

/-- An operation writes its texts at the lower one of the levels before and after it: a scope is
opened after its header and brace are written, and closed before its closing brace is. -/
theorem lines_perform (operation : Operation) :
    (writer.perform operation).lines =
      writer.lines ++ (operation.texts writer.scopes.head?).map
        (indentLine (min writer.level (writer.perform operation).level)) := by
  cases operation with
  | line text =>
    have level : (writer.perform (.line text)).level = writer.level := rfl
    rw [level, Nat.min_self]
    rfl
  | openBlock header =>
    rw [perform, Layout.openBlock_eq]
    simp [Operation.texts, level]
  | openIndentation => simp [perform, openIndentation, Operation.texts]
  | close =>
    obtain ⟨lines, scopes⟩ := writer
    match scopes with
    | [] => simp [perform, close, Operation.texts]
    | .block :: outer => simp [perform, close, Operation.texts, line, level]
    | .indentation :: outer => simp [perform, close, Operation.texts]

end Writer

/-! ## 2. Complete programs -/

namespace Layout

mutual

/-- The operations of a layout. -/
def operations : Layout → List Operation
  | .line text => [.line text]
  | .block header body => .openBlock header :: (operationsOfAll body ++ [.close])
  | .indented body => .openIndentation :: (operationsOfAll body ++ [.close])

/-- The operations of layouts, one after the other. -/
def operationsOfAll : List Layout → List Operation
  | [] => []
  | layout :: rest => operations layout ++ operationsOfAll rest

end

mutual

/-- The number of blocks in a layout. -/
def blocks : Layout → Nat
  | .line _ => 0
  | .block _ body => blocksOfAll body + 1
  | .indented body => blocksOfAll body

/-- The number of blocks in layouts. -/
def blocksOfAll : List Layout → Nat
  | [] => 0
  | layout :: rest => blocks layout + blocksOfAll rest

end

theorem operationsOfAll_concat (front : List Layout) (layout : Layout) :
    operationsOfAll (front ++ [layout]) = operationsOfAll front ++ operations layout := by
  induction front with
  | nil => simp [operationsOfAll]
  | cons first rest ih => simp only [List.cons_append, operationsOfAll, ih, List.append_assoc]

mutual

/-- To write a layout is to perform its operations. -/
theorem performAll_operations (layout : Layout) (writer : Writer) :
    writer.performAll (operations layout) = write layout writer := by
  cases layout with
  | line text => rfl
  | block header body =>
    have inside := performAll_operationsOfAll body (writer.openBlock header)
    rw [operations, write, ← inside]
    exact Writer.performAll_append (writer.openBlock header) (operationsOfAll body) [.close]
  | indented body =>
    have inside := performAll_operationsOfAll body writer.openIndentation
    rw [operations, write, ← inside]
    exact Writer.performAll_append writer.openIndentation (operationsOfAll body) [.close]

theorem performAll_operationsOfAll (layouts : List Layout) (writer : Writer) :
    writer.performAll (operationsOfAll layouts) = writeAll layouts writer := by
  cases layouts with
  | nil => rfl
  | cons layout rest =>
    rw [operationsOfAll, Writer.performAll_append, performAll_operations layout,
      performAll_operationsOfAll rest, writeAll]

end

mutual

/-- A layout writes one closing line for each of its blocks. -/
theorem closingLines_operations (layout : Layout) (writer : Writer) :
    writer.closingLines (operations layout) = blocks layout := by
  cases layout with
  | line text => rfl
  | block header body =>
    have inside := closingLines_operationsOfAll body (writer.openBlock header)
    have scopes : (writeAll body (writer.openBlock header)).scopes = .block :: writer.scopes := by
      rw [writeAll_eq, openBlock_eq]
    rw [operations, Writer.closingLines, if_neg nofun, Nat.zero_add, Writer.perform,
      Writer.closingLines_append, inside, performAll_operationsOfAll, blocks, Writer.closingLines,
      scopes]
    rfl
  | indented body =>
    have inside := closingLines_operationsOfAll body writer.openIndentation
    have scopes :
        (writeAll body writer.openIndentation).scopes = .indentation :: writer.scopes := by
      rw [writeAll_eq]
      rfl
    rw [operations, Writer.closingLines, if_neg nofun, Nat.zero_add, Writer.perform,
      Writer.closingLines_append, inside, performAll_operationsOfAll, blocks, Writer.closingLines,
      scopes]
    rfl

theorem closingLines_operationsOfAll (layouts : List Layout) (writer : Writer) :
    writer.closingLines (operationsOfAll layouts) = blocksOfAll layouts := by
  cases layouts with
  | nil => rfl
  | cons layout rest =>
    rw [operationsOfAll, Writer.closingLines_append, closingLines_operations layout,
      closingLines_operationsOfAll rest, blocksOfAll]

end

/-! ## 3. One level deeper -/

/-- An entry one level deeper: an empty one stays empty. -/
def shifted (entry : String) : String :=
  if entry = "" then "" else "    " ++ entry

theorem indentLine_succ (level : Nat) (text : String) :
    Writer.indentLine (level + 1) text = shifted (Writer.indentLine level text) := by
  have deeper : Writer.indent (level + 1) = "    " ++ Writer.indent level := by
    refine String.toList_inj.mp ?_
    have four : "    ".toList = List.replicate 4 ' ' := rfl
    simp only [String.toList_append, Writer.indent, String.toList_ofList, four,
      List.replicate_append_replicate]
    rw [Nat.mul_succ, Nat.add_comm]
  unfold Writer.indentLine shifted
  by_cases empty : text = ""
  · rw [if_pos empty, if_pos empty, if_pos rfl]
  · have some : Writer.indent level ++ text ≠ "" := fun none =>
      empty (String.append_eq_empty_iff.mp none).2
    rw [if_neg empty, if_neg empty, if_neg some, deeper, String.append_assoc]

mutual

theorem linesAt_succ (level : Nat) (layout : Layout) :
    linesAt (level + 1) layout = (linesAt level layout).map shifted := by
  cases layout with
  | line text => simp [linesAt, indentLine_succ]
  | block header body =>
    have inside := linesOfAll_succ (level + 1) body
    simp [linesAt, inside, indentLine_succ level]
  | indented body => exact linesOfAll_succ (level + 1) body

/-- One level deeper, layouts write the same entries, shifted. -/
theorem linesOfAll_succ (level : Nat) (layouts : List Layout) :
    linesOfAll (level + 1) layouts = (linesOfAll level layouts).map shifted := by
  cases layouts with
  | nil => rfl
  | cons layout rest =>
    rw [linesOfAll, linesOfAll, List.map_append, linesAt_succ, linesOfAll_succ]

end

end Layout

/-- What performing the operations of layouts does to a writer: which entries are written, and that
they are the same ones, shifted, one level deeper and inside a block. -/
structure Composes (layouts : List Layout) (writer : Writer) (entries : List String) : Prop where
  level : (writer.performAll (Layout.operationsOfAll layouts)).level = writer.level
  scopes : (writer.performAll (Layout.operationsOfAll layouts)).scopes = writer.scopes
  lines : (writer.performAll (Layout.operationsOfAll layouts)).lines = writer.lines ++ entries
  deeper : ∀ inner : Writer, inner.level = writer.level + 1 →
    (inner.performAll (Layout.operationsOfAll layouts)).lines =
      inner.lines ++ entries.map Layout.shifted
  block : ∀ header : Option String,
    (writer.performAll (Layout.operations (.block header layouts))).lines =
      writer.lines ++ ((header.toList ++ ["\x7b"]).map (Writer.indentLine writer.level) ++
        (entries.map Layout.shifted ++ [Writer.indentLine writer.level "\x7d"]))

theorem composes_linesOfAll (layouts : List Layout) (writer : Writer) :
    Composes layouts writer (Layout.linesOfAll writer.level layouts) where
  level := by
    rw [Layout.performAll_operationsOfAll, Layout.writeAll_eq]
    rfl
  scopes := by rw [Layout.performAll_operationsOfAll, Layout.writeAll_eq]
  lines := by rw [Layout.performAll_operationsOfAll, Layout.writeAll_eq]
  deeper inner below := by
    rw [Layout.performAll_operationsOfAll, Layout.writeAll_eq, below, Layout.linesOfAll_succ]
  block header := by
    rw [Layout.performAll_operations, Layout.write_eq, Layout.linesAt, Layout.linesOfAll_succ]

/-! ## 4. Drafts -/

/-- How a scope is opened. -/
inductive Opening
  | block (header : Option String)
  | indentation
deriving DecidableEq, Repr

namespace Opening

/-- The operation that opens the scope. -/
def operation : Opening → Operation
  | .block header => .openBlock header
  | .indentation => .openIndentation

/-- The scope that is open then. -/
def scope : Opening → Scope
  | .block _ => .block
  | .indentation => .indentation

/-- The scope as a layout, once it is closed. -/
def layout (body : List Layout) : Opening → Layout
  | .block header => .block header body
  | .indentation => .indented body

theorem operations_layout (opening : Opening) (body : List Layout) :
    Layout.operations (opening.layout body) =
      opening.operation :: (Layout.operationsOfAll body ++ [.close]) := by
  cases opening <;> rfl

end Opening

/-- A scope that is open, and the layouts in front of it. -/
structure Begun where
  before : List Layout
  opening : Opening

namespace Begun

/-- The operations that have led into open scopes, innermost first. -/
def operations : List Begun → List Operation
  | [] => []
  | scope :: outer =>
    operations outer ++ (Layout.operationsOfAll scope.before ++ [scope.opening.operation])

/-- The lines in front of what is inside open scopes. -/
def lines : List Begun → List String
  | [] => []
  | scope :: outer =>
    lines outer ++ (Layout.linesOfAll outer.length scope.before ++
      (scope.opening.operation.texts none).map (Writer.indentLine outer.length))

end Begun

/-- What has been done with a writer: the scopes that are open, innermost first, and the layouts
that are complete since the innermost one was opened. -/
structure Draft where
  outer : List Begun
  layouts : List Layout

namespace Draft

/-- The number of scopes that are open. -/
def level (draft : Draft) : Nat :=
  draft.outer.length

/-- The operations that have been performed. -/
def operations (draft : Draft) : List Operation :=
  Begun.operations draft.outer ++ Layout.operationsOfAll draft.layouts

/-- The lines that have been written, each at the level of the scopes around it. -/
def lines (draft : Draft) : List String :=
  Begun.lines draft.outer ++ Layout.linesOfAll draft.level draft.layouts

/-- The number of blocks that have been closed. -/
def closedBlocks (draft : Draft) : Nat :=
  (draft.outer.map fun scope => Layout.blocksOfAll scope.before).sum +
    Layout.blocksOfAll draft.layouts

end Draft

/-- What a new writer has come to after the operations of a draft. -/
structure Draft.Describes (draft : Draft) (operations : List Operation) : Prop where
  performed : draft.operations = operations
  level : (Writer.performAll {} operations).level = draft.level
  lines : (Writer.performAll {} operations).lines = draft.lines
  closingLines : Writer.closingLines {} operations = draft.closedBlocks

namespace Begun

/-- What leads into open scopes writes the lines in front, and leaves these scopes open. -/
theorem performAll_operations (outer : List Begun) :
    Writer.performAll {} (operations outer) =
      { lines := lines outer, scopes := outer.map (·.opening.scope) } := by
  induction outer with
  | nil => rfl
  | cons scope outer ih =>
    have level : (Writer.mk (lines outer) (outer.map (·.opening.scope))).level = outer.length :=
      List.length_map _
    rw [operations, Writer.performAll_append, ih, Writer.performAll_append,
      Layout.performAll_operationsOfAll, Layout.writeAll_eq, level, lines]
    cases opened : scope.opening with
    | block header =>
      have writes := Layout.openBlock_eq
        ⟨lines outer ++ Layout.linesOfAll outer.length scope.before, outer.map (·.opening.scope)⟩
        header
      simpa [Writer.performAll, Writer.perform, Opening.operation, Operation.texts, Writer.level,
        Opening.scope, opened] using writes
    | indentation =>
      simp [Writer.performAll, Writer.perform, Opening.operation, Writer.openIndentation,
        Operation.texts, Opening.scope, opened]

theorem closingLines_operations (outer : List Begun) :
    Writer.closingLines {} (operations outer) =
      (outer.map fun scope => Layout.blocksOfAll scope.before).sum := by
  induction outer with
  | nil => rfl
  | cons scope outer ih =>
    have opens : ∀ writer : Writer, writer.closingLines [scope.opening.operation] = 0 := by
      intro writer
      cases scope.opening <;> rfl
    rw [operations, Writer.closingLines_append, ih, Writer.closingLines_append,
      Layout.closingLines_operationsOfAll, opens, List.map_cons, List.sum_cons, Nat.add_zero,
      Nat.add_comm]

end Begun

/-- A writer is described by the draft of what has been done with it. -/
theorem Draft.describes (draft : Draft) : draft.Describes draft.operations where
  performed := rfl
  level := by
    rw [operations, Writer.performAll_append, Begun.performAll_operations,
      (composes_linesOfAll draft.layouts _).level]
    exact List.length_map _
  lines := by
    rw [operations, Writer.performAll_append, Begun.performAll_operations,
      (composes_linesOfAll draft.layouts _).lines, Writer.level, List.length_map]
    rfl
  closingLines := by
    rw [operations, Writer.closingLines_append, Begun.closingLines_operations,
      Layout.closingLines_operationsOfAll, closedBlocks]

/-! ## 5. Sequences of operations -/

/-- The number of scopes that are open after operations, where so many were open before.  There is
none if more would be closed than is open. -/
def openAfter? (level : Nat) : List Operation → Option Nat
  | [] => some level
  | .line _ :: rest => openAfter? level rest
  | .openBlock _ :: rest | .openIndentation :: rest => openAfter? (level + 1) rest
  | .close :: rest => if level = 0 then none else openAfter? (level - 1) rest

theorem openAfter?_append (level : Nat) (front back : List Operation) :
    openAfter? level (front ++ back) =
      (openAfter? level front).bind fun next => openAfter? next back := by
  induction front generalizing level with
  | nil => rfl
  | cons operation rest ih =>
    cases operation with
    | line text => exact ih level
    | openBlock header => exact ih (level + 1)
    | openIndentation => exact ih (level + 1)
    | close =>
      rw [List.cons_append, openAfter?, openAfter?]
      split
      · rfl
      · exact ih (level - 1)

mutual

theorem openAfter?_operations (level : Nat) (layout : Layout) :
    openAfter? level (Layout.operations layout) = some level := by
  cases layout with
  | line text => rfl
  | block header body =>
    rw [Layout.operations, openAfter?, openAfter?_append,
      openAfter?_operationsOfAll (level + 1) body]
    rfl
  | indented body =>
    rw [Layout.operations, openAfter?, openAfter?_append,
      openAfter?_operationsOfAll (level + 1) body]
    rfl

/-- A complete program leaves as many scopes open as there were. -/
theorem openAfter?_operationsOfAll (level : Nat) (layouts : List Layout) :
    openAfter? level (Layout.operationsOfAll layouts) = some level := by
  cases layouts with
  | nil => rfl
  | cons layout rest =>
    rw [Layout.operationsOfAll, openAfter?_append, openAfter?_operations level layout,
      Option.bind_some, openAfter?_operationsOfAll level rest]

end

theorem openAfter?_begun (outer : List Begun) :
    openAfter? 0 (Begun.operations outer) = some outer.length := by
  induction outer with
  | nil => rfl
  | cons scope outer ih =>
    rw [Begun.operations, openAfter?_append, ih, Option.bind_some, openAfter?_append,
      openAfter?_operationsOfAll, Option.bind_some]
    cases scope.opening <;> rfl

theorem Draft.openAfter?_operations (draft : Draft) :
    openAfter? 0 draft.operations = some draft.level := by
  rw [operations, openAfter?_append, openAfter?_begun, Option.bind_some, openAfter?_operationsOfAll]
  rfl

/-- One more operation makes a draft of a draft, if there is a scope to close. -/
theorem Draft.exists_concat (draft : Draft) (operation : Operation)
    (possible : operation = .close → draft.outer ≠ []) :
    ∃ next : Draft, next.operations = draft.operations ++ [operation] := by
  obtain ⟨outer, layouts⟩ := draft
  cases operation with
  | line text =>
    refine ⟨⟨outer, layouts ++ [.line text]⟩, ?_⟩
    simp [Draft.operations, Layout.operationsOfAll_concat, Layout.operations]
  | openBlock header =>
    refine ⟨⟨⟨layouts, .block header⟩ :: outer, []⟩, ?_⟩
    simp [Draft.operations, Begun.operations, Opening.operation, Layout.operationsOfAll]
  | openIndentation =>
    refine ⟨⟨⟨layouts, .indentation⟩ :: outer, []⟩, ?_⟩
    simp [Draft.operations, Begun.operations, Opening.operation, Layout.operationsOfAll]
  | close =>
    -- what is complete inside the innermost scope becomes one layout around it
    obtain ⟨scope, others, rfl⟩ := List.exists_cons_of_ne_nil (possible rfl)
    refine ⟨⟨others, scope.before ++ [scope.opening.layout layouts]⟩, ?_⟩
    simp [Draft.operations, Begun.operations, Layout.operationsOfAll_concat,
      Opening.operations_layout]

/-- The sequences of operations that close no more than is open are those of drafts. -/
theorem openAfter?_eq_some_iff {operations : List Operation} {level : Nat} :
    openAfter? 0 operations = some level ↔
      ∃ draft : Draft, draft.operations = operations ∧ draft.level = level := by
  constructor
  · induction operations using List.reverseRecOn generalizing level with
    | nil =>
      intro done
      exact ⟨⟨[], []⟩, rfl, Option.some.inj done⟩
    | append_singleton front operation ih =>
      intro done
      rw [openAfter?_append] at done
      obtain ⟨before, first, last⟩ := Option.bind_eq_some_iff.mp done
      obtain ⟨draft, rfl, rfl⟩ := ih first
      have possible : operation = .close → draft.outer ≠ [] := by
        rintro rfl none
        rw [openAfter?, if_pos (by rw [Draft.level, none, List.length_nil])] at last
        cases last
      obtain ⟨next, same⟩ := draft.exists_concat operation possible
      refine ⟨next, same, Option.some.inj ?_⟩
      rw [← next.openAfter?_operations, same, openAfter?_append, first]
      exact last
  · rintro ⟨draft, rfl, rfl⟩
    exact draft.openAfter?_operations

/-- **What is written at any moment.**  A complete program leaves the level as it was, and appends
entries that are the same, shifted, one level deeper, so a block is its header, a brace, the shifted
entries of its body, and a brace.  Each operation appends its texts at the level at which it writes
them.  And the sequences of operations that close no more than is open are those of drafts: the
level is then the number of open scopes, each line stands at the level of the scopes around it, and
one closing line has been written for each block that has been closed. -/
theorem writing_composes :
    (∀ (layouts : List Layout) (writer : Writer),
      writer.performAll (Layout.operationsOfAll layouts) = Layout.writeAll layouts writer ∧
        ∃ entries, Composes layouts writer entries) ∧
      (∀ (writer : Writer) (operation : Operation),
        (writer.perform operation).lines =
          writer.lines ++ (operation.texts writer.scopes.head?).map
            (Writer.indentLine (min writer.level (writer.perform operation).level))) ∧
      ∀ (operations : List Operation) (level : Nat), openAfter? 0 operations = some level ↔
        ∃ draft : Draft, draft.Describes operations ∧
          (Writer.performAll {} operations).level = level := by
  refine ⟨fun layouts writer => ⟨Layout.performAll_operationsOfAll layouts writer, _,
    composes_linesOfAll layouts writer⟩, Writer.lines_perform, fun operations level => ?_⟩
  rw [openAfter?_eq_some_iff]
  constructor
  · rintro ⟨draft, rfl, rfl⟩
    exact ⟨draft, draft.describes, draft.describes.level⟩
  · rintro ⟨draft, described, rfl⟩
    exact ⟨draft, described.performed, described.level.symm⟩

end ComponentPasses.Source

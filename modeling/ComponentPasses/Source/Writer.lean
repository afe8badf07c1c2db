/-!
# Writing source text

A writer holds the lines written so far and the scopes that are open.  A line is indented by four
blanks for each open scope; an empty line is left empty.  There are two kinds of scope: a **block**,
which writes an optional header and an opening brace when it is opened and a closing brace when it
is closed, and a plain indentation, which writes nothing.

A `Layout` is a text as a tree: lines, and scopes with what they hold.  Writing a layout opens each
scope, writes what it holds, and closes it again, so it always leaves the scopes as they were.
-/

namespace ComponentPasses.Source

/-! ## 1. The writer -/

/-- What can be open around a line. -/
inductive Scope
  | block
  | indentation
deriving DecidableEq, Repr

/-- The lines written so far, and the scopes that are open, innermost first. -/
structure Writer where
  lines : List String := []
  scopes : List Scope := []
deriving DecidableEq, Repr, Inhabited

namespace Writer

/-- The blanks in front of a line inside `level` scopes. -/
def indent (level : Nat) : String :=
  String.ofList (List.replicate (4 * level) ' ')

/-- A line's text inside `level` scopes: an empty line is not indented. -/
def indentLine (level : Nat) (text : String) : String :=
  if text = "" then "" else indent level ++ text

/-- The number of open scopes. -/
def level (writer : Writer) : Nat :=
  writer.scopes.length

/-- Writes a line. -/
def line (writer : Writer) (text : String) : Writer :=
  { writer with lines := writer.lines ++ [indentLine writer.level text] }

/-- Opens a scope that writes nothing. -/
def openIndentation (writer : Writer) : Writer :=
  { writer with scopes := .indentation :: writer.scopes }

/-- Opens a block: the header, if there is one, and an opening brace. -/
def openBlock (writer : Writer) (header : Option String) : Writer :=
  let headed := match header with
    | some text => writer.line text
    | none => writer
  let braced := headed.line "\x7b"
  { braced with scopes := .block :: braced.scopes }

/-- Closes the innermost scope; nothing happens where none is open. -/
def close (writer : Writer) : Writer :=
  match writer.scopes with
  | [] => writer
  | .block :: others => { writer with scopes := others }.line "\x7d"
  | .indentation :: others => { writer with scopes := others }

/-- The whole text, each line ended. -/
def render (writer : Writer) : String :=
  "\n".intercalate writer.lines ++ "\n"

end Writer

/-! ## 2. Layouts -/

/-- A text as a tree. -/
inductive Layout
  | line (text : String)
  | block (header : Option String) (body : List Layout)
  | indented (body : List Layout)

namespace Layout

/-- An empty line. -/
def blank : Layout := .line ""

mutual

/-- Writes a layout. -/
def write : Layout → Writer → Writer
  | .line text, writer => writer.line text
  | .block header body, writer => (writeAll body (writer.openBlock header)).close
  | .indented body, writer => (writeAll body writer.openIndentation).close

/-- Writes layouts one after the other. -/
def writeAll : List Layout → Writer → Writer
  | [], writer => writer
  | layout :: rest, writer => writeAll rest (write layout writer)

end

/-- The text that layouts stand for. -/
def text (layouts : List Layout) : String :=
  (writeAll layouts {}).render

end Layout

end ComponentPasses.Source

import ComponentPasses.Text.Hexadecimal

/-!
# Texts in TOML

TOML writes a text in four ways.  A **basic** text stands between double quotes and has escapes; a
**literal** text stands between single quotes and has none.  Either may run over several lines when
its quote is written three times; then a line end right after the opening quotes is left out, and up
to two quotes right before the closing ones belong to the text.

In a basic text of several lines a backslash before a line end leaves out the line end and all
blanks and line ends after it.

Every reader here starts after the opening quotes and gives the text and what follows it.
-/

namespace ComponentPasses.Data.Toml

open Text (hexNumber?)

/-- Why a text is no TOML: it breaks the grammar, or has an integer with too many digits. -/
inductive Fault
  | malformed
  | longInteger (digits : Nat)
deriving DecidableEq, Repr

/-- A blank within a line. -/
def isTomlBlank (c : Char) : Bool :=
  c == ' ' || c == '\t'

/-- A blank or a line end. -/
def isTomlGap (c : Char) : Bool :=
  isTomlBlank c || c == '\n'

/-- A control character other than the tab, which no text or comment may hold as it is.  A line end
is one too. -/
def isForbidden (c : Char) : Bool :=
  (c.toNat < 0x20 || c.toNat == 0x7f) && c != '\t'

/-- The character that a letter after a backslash stands for. -/
def tomlEscape? : Char → Option Char
  | 'b' => some '\x08'
  | 't' => some '\t'
  | 'n' => some '\n'
  | 'f' => some '\x0c'
  | 'r' => some '\r'
  | '"' => some '"'
  | '\\' => some '\\'
  | _ => none

/-- The character with the number that hexadecimal digits write. -/
def scalarOfDigits? (digits : List Char) : Option Char :=
  (hexNumber? digits).bind fun n => if n.isValidChar then some (Char.ofNat n) else none

/-- The quotes right after three closing ones that still belong to the text, at most two, and what
follows them. -/
def lateQuotes (quote : Char) : List Char → List Char × List Char
  | a :: b :: rest =>
    if a = quote then if b = quote then ([a, b], rest) else ([a], b :: rest)
    else ([], a :: b :: rest)
  | [a] => if a = quote then ([a], []) else ([], [a])
  | [] => ([], [])

/-- Drops the line end right after three opening quotes. -/
def dropFirstLineEnd : List Char → List Char
  | '\n' :: rest => rest
  | s => s

/-- What a basic text is leaving out at the moment: nothing; blanks up to a line end, which must
come; or blanks and line ends. -/
inductive Omission
  | nothing
  | toLineEnd
  | gap
deriving DecidableEq

/-- Reads a basic text up to its closing quotes. -/
def basicText (multiline : Bool) : Omission → List Char → Except Fault (List Char × List Char)
  | _, [] => .error .malformed
  | omission, c :: rest =>
    let continueWith (c : Char) (tail : Except Fault (List Char × List Char)) :=
      tail.map fun (text, rest) => (c :: text, rest)
    if omission = .gap ∧ isTomlGap c then basicText multiline .gap rest
    else if omission = .toLineEnd then
      if isTomlBlank c then basicText multiline .toLineEnd rest
      else if c = '\n' then basicText multiline .gap rest
      else .error .malformed
    else if c = '"' then
      if multiline then
        match rest with
        | '"' :: '"' :: after => .ok (lateQuotes '"' after)
        | _ => continueWith c (basicText multiline .nothing rest)
      else .ok ([], rest)
    else if c = '\\' then
      match rest with
      | 'u' :: h₁ :: h₂ :: h₃ :: h₄ :: after =>
        match scalarOfDigits? [h₁, h₂, h₃, h₄] with
        | some c => continueWith c (basicText multiline .nothing after)
        | none => .error .malformed
      | 'U' :: h₁ :: h₂ :: h₃ :: h₄ :: h₅ :: h₆ :: h₇ :: h₈ :: after =>
        match scalarOfDigits? [h₁, h₂, h₃, h₄, h₅, h₆, h₇, h₈] with
        | some c => continueWith c (basicText multiline .nothing after)
        | none => .error .malformed
      | e :: after =>
        if multiline ∧ isTomlBlank e then basicText multiline .toLineEnd after
        else if multiline ∧ e = '\n' then basicText multiline .gap after
        else
          match tomlEscape? e with
          | some c => continueWith c (basicText multiline .nothing after)
          | none => .error .malformed
      | [] => .error .malformed
    else if isForbidden c ∧ ¬ (multiline ∧ c = '\n') then .error .malformed
    else continueWith c (basicText multiline .nothing rest)

/-- Reads a literal text up to its closing quotes. -/
def literalText (multiline : Bool) : List Char → Except Fault (List Char × List Char)
  | [] => .error .malformed
  | c :: rest =>
    if c = '\'' then
      if multiline then
        match rest with
        | '\'' :: '\'' :: after => .ok (lateQuotes '\'' after)
        | _ => (literalText multiline rest).map fun (text, rest) => (c :: text, rest)
      else .ok ([], rest)
    else if isForbidden c ∧ ¬ (multiline ∧ c = '\n') then .error .malformed
    else (literalText multiline rest).map fun (text, rest) => (c :: text, rest)

/-- Reads a text from its opening quotes on; none where there is no quote. -/
def readText? : List Char → Option (Except Fault (List Char × List Char))
  | '"' :: '"' :: '"' :: rest => some (basicText true .nothing (dropFirstLineEnd rest))
  | '"' :: rest => some (basicText false .nothing rest)
  | '\'' :: '\'' :: '\'' :: rest => some (literalText true (dropFirstLineEnd rest))
  | '\'' :: rest => some (literalText false rest)
  | _ => none

end ComponentPasses.Data.Toml

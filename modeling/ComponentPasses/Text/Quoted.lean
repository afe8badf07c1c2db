import ComponentPasses.Text.Hexadecimal
import ComponentPasses.Text.Printable

/-!
# Quoted text

Messages show the text they complain about between quotes, so that blanks and control characters
in it can be seen.  The rule:

* the quote is a single one, unless the text holds a single quote and no double quote;
* the quote in use and the backslash are written after a backslash, as are line feed, carriage
  return and tab in their short forms;
* any other character that is not printable is written by its number, in the shortest of the
  three forms with two, four or eight digits;
* everything else stands for itself.
-/

namespace ComponentPasses.Text

/-- The quote a text is shown between. -/
def quoteFor (s : List Char) : Char :=
  if s.contains '\'' && !s.contains '"' then '"' else '\''

/-- One character between the given quotes. -/
def quotedChar (quote c : Char) : List Char :=
  if c = quote ∨ c = '\\' then ['\\', c]
  else if c = '\n' then ['\\', 'n']
  else if c = '\r' then ['\\', 'r']
  else if c = '\t' then ['\\', 't']
  else if isPrintable c then [c]
  else if c.toNat < 0x100 then '\\' :: 'x' :: hexDigits 2 c.toNat
  else if c.toNat < 0x10000 then '\\' :: 'u' :: hexDigits 4 c.toNat
  else '\\' :: 'U' :: hexDigits 8 c.toNat

/-- The text between quotes, with what could not be seen written out. -/
def quoted (s : String) : String :=
  let quote := quoteFor s.toList
  String.ofList (quote :: s.toList.flatMap (quotedChar quote) ++ [quote])

end ComponentPasses.Text

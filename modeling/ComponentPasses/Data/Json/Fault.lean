import ComponentPasses.Text.Numeral

/-!
# What is wrong with a JSON text

A reader stops at the first thing it cannot take.  A `Fault` says what that was and how many
characters stand before it; its message counts lines and columns from one.  An integer with too
many digits is a fault without a place.
-/

namespace ComponentPasses.Data.Json

/-- What a reader could not take. -/
inductive Cause
  | value
  | name
  | colon
  | comma
  | extraData
  | unterminatedText
  | controlCharacter
  | escape
  | unicodeEscape
  | byteOrderMark
deriving DecidableEq, Repr

/-- Why a text is no JSON. -/
inductive Fault
  | malformed (cause : Cause) (position : Nat)
  | longInteger (digits : Nat)
deriving DecidableEq, Repr

/-- What was expected or found, in words. -/
def Cause.message : Cause → String
  | .value => "Expecting value"
  | .name => "Expecting property name enclosed in double quotes"
  | .colon => "Expecting ':' delimiter"
  | .comma => "Expecting ',' delimiter"
  | .extraData => "Extra data"
  | .unterminatedText => "Unterminated string starting at"
  | .controlCharacter => "Invalid control character at"
  | .escape => "Invalid \\escape"
  | .unicodeEscape => "Invalid \\uXXXX escape"
  | .byteOrderMark => "Unexpected UTF-8 BOM (decode using utf-8-sig)"

/-- The line and column, both from one, of the character that `before` stands before. -/
def lineAndColumn (before : List Char) : Nat × Nat :=
  (before.count '\n' + 1, (before.reverse.takeWhile (· != '\n')).length + 1)

/-- A malformed text is described with its place: line, column and offset. -/
def placedMessage (text : List Char) (cause : Cause) (position : Nat) : String :=
  let (line, column) := lineAndColumn (text.take position)
  cause.message ++ ": line " ++ toString line ++ " column " ++ toString column ++ " (char " ++
    toString position ++ ")"

/-- How an integer with too many digits is refused. -/
def longIntegerMessage (digits : Nat) : String :=
  "Exceeds the limit (" ++ toString Text.digitLimit ++
    " digits) for integer string conversion: value has " ++ toString digits ++
    " digits; use sys.set_int_max_str_digits() to increase the limit"

end ComponentPasses.Data.Json

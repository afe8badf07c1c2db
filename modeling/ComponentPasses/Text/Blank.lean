import ComponentPasses.Text.Ranges

/-!
# Blank characters and trimming

Names and type references may be written with blanks around them.  A character is **blank** when
it is white space or one of the four separators U+001C to U+001F.  Numerals are trimmed of white
space alone, which leaves those four separators standing.

`trimBlanks` and `trim` take the blanks off both ends and nothing else.
-/

namespace ComponentPasses.Text

/-- The blank code points, as ascending ranges. -/
def blankRanges : List (Nat × Nat) := [
  (0x9, 0xd), (0x1c, 0x20), (0x85, 0x85), (0xa0, 0xa0), (0x1680, 0x1680), (0x2000, 0x200a),
  (0x2028, 0x2029), (0x202f, 0x202f), (0x205f, 0x205f), (0x3000, 0x3000)]

/-- White space, or one of the separators U+001C to U+001F. -/
def isBlank (c : Char) : Bool :=
  covers blankRanges c.toNat

/-- White space in the narrow sense: a blank that is none of U+001C to U+001F. -/
def isWhiteSpace (c : Char) : Bool :=
  isBlank c && !(0x1c ≤ c.toNat && c.toNat ≤ 0x1f)

/-- Takes the characters of a class off both ends. -/
def trimEnds (drop : Char → Bool) (s : List Char) : List Char :=
  ((s.dropWhile drop).reverse.dropWhile drop).reverse

/-- Takes the blanks off both ends of a list of characters. -/
def trimBlanks (s : List Char) : List Char :=
  trimEnds isBlank s

/-- Takes the blanks off both ends of a text. -/
def trim (s : String) : String :=
  String.ofList (trimBlanks s.toList)

end ComponentPasses.Text

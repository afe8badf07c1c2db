/-!
# Cutting text at a character

Four ways to take a text apart, each on lists of characters:

* `cutAtFirst` and `cutAtLast` give what stands before and after one occurrence of a character,
  or nothing when the character does not occur;
* `pieces` gives the stretches between all occurrences, so joining them with the character gives
  the text back and there is always at least one;
* `occursIn` tells whether one text stands somewhere inside another.
-/

namespace ComponentPasses.Text

/-- What stands before and after the first occurrence of the character. -/
def cutAtFirst (mark : Char) : List Char → Option (List Char × List Char)
  | [] => none
  | c :: rest =>
    if c = mark then some ([], rest)
    else (cutAtFirst mark rest).map fun (before, after) => (c :: before, after)

/-- What stands before and after the last occurrence of the character. -/
def cutAtLast (mark : Char) : List Char → Option (List Char × List Char)
  | [] => none
  | c :: rest =>
    match cutAtLast mark rest with
    | some (before, after) => some (c :: before, after)
    | none => if c = mark then some ([], rest) else none

/-- The stretches between the occurrences of the character. -/
def pieces (mark : Char) : List Char → List (List Char)
  | [] => [[]]
  | c :: rest =>
    if c = mark then [] :: pieces mark rest
    else match pieces mark rest with
      | [] => [[c]]
      | piece :: others => (c :: piece) :: others

/-- The stretches of a text between the occurrences of the character. -/
def split (mark : Char) (s : String) : List String :=
  (pieces mark s.toList).map String.ofList

/-- Whether the first text stands somewhere inside the second. -/
def occursIn (inner : List Char) : List Char → Bool
  | [] => inner.isEmpty
  | c :: rest => inner.isPrefixOf (c :: rest) || occursIn inner rest

end ComponentPasses.Text

import ComponentPasses.Text.Blank
import ComponentPasses.Text.Cut
import ComponentPasses.Text.DecimalDigit

/-!
# Reading integers

Two grammars of integers that people write by hand.  Both trim the ends, take an optional sign,
and allow a single underscore between two digits.  Neither reads more than `digitLimit` digits,
because turning long numerals into numbers takes time that grows with the square of their length.

* `readInteger?` is for values on the command line: digits of any script.
* `readAsciiInteger` is for text where a schema asks for an integer: ASCII digits, and after them
  perhaps a point and zeros only.  Zeros in front do not count and may have any number of
  underscores between and after them; where no sign comes before them a minus sign may come after.

The second tells a numeral that is too long from a text that is no numeral, but only if the long run
of digits stands at the very beginning, a minus sign aside.
-/

namespace ComponentPasses.Text

/-- The most digits an integer may have. -/
def digitLimit : Nat := 4300

/-- The digits of a numeral, with each single underscore between two digits taken out. -/
def groupedDigits? (digit? : Char → Option Nat) : List Char → Option (List Nat)
  | [] => none
  | [c] => (digit? c).map ([·])
  | c :: '_' :: rest => do
    let d ← digit? c
    let tail ← groupedDigits? digit? rest
    pure (d :: tail)
  | c :: rest => do
    let d ← digit? c
    let tail ← groupedDigits? digit? rest
    pure (d :: tail)

/-- The number that decimal digits write, most significant first. -/
def ofDigits (digits : List Nat) : Nat :=
  digits.foldl (fun n d => n * 10 + d) 0

/-- Takes a sign off the front: whether it was a minus, and the rest. -/
def takeSign : List Char → Bool × List Char
  | '-' :: rest => (true, rest)
  | '+' :: rest => (false, rest)
  | s => (false, s)

/-- No sign makes a text longer. -/
theorem length_takeSign_le (s : List Char) : (takeSign s).2.length ≤ s.length := by
  unfold takeSign
  split <;> simp

/-- The number with the given sign. -/
def signed (negative : Bool) (n : Nat) : Int :=
  if negative then -(n : Int) else (n : Int)

/-- Reads an integer with digits of any script. -/
def readInteger? (s : String) : Option Int :=
  let (negative, rest) := takeSign (trimBlanks s.toList)
  match groupedDigits? digitValue? rest with
  | some digits =>
    if digits.length ≤ digitLimit then some (signed negative (ofDigits digits)) else none
  | none => none

/-- What reading an ASCII integer comes to. -/
inductive AsciiInteger
  | value (n : Int)
  | unreadable
  | oversized
deriving DecidableEq, Repr

/-- The value of an ASCII digit. -/
def asciiDigit? (c : Char) : Option Nat :=
  if c.isDigit then some (c.toNat - 48) else none

/-- Skips zeros and underscores up to the first other digit or a minus sign.  Before a point, and at
the end, the last of them stays. -/
def skipZeros (last : Char) : List Char → Option (List Char)
  | [] => some [last]
  | c :: rest =>
    if c = '0' ∨ c = '_' then skipZeros c rest
    else if c.isDigit ∨ c = '-' then some (c :: rest)
    else if c = '.' then some (last :: c :: rest)
    else none

/-- A numeral without the zeros in front that do not count; none if it does not begin with a
digit. -/
def dropLeadingZeros? : List Char → Option (List Char)
  | [] => none
  | c :: rest =>
    if c = '0' then skipZeros c rest else if c.isDigit then some (c :: rest) else none

/-- Takes off a point that zeros and nothing else follow. -/
def dropZeroFraction (s : List Char) : List Char :=
  match cutAtFirst '.' s with
  | some (whole, zeros) => if !zeros.isEmpty && zeros.all (· == '0') then whole else s
  | none => s

/-- Whether two underscores stand side by side. -/
def hasDoubleUnderscore : List Char → Bool
  | '_' :: '_' :: _ => true
  | _ :: rest => hasDoubleUnderscore rest
  | [] => false

/-- Takes out the underscores; none if one stands at an end or beside another. -/
def dropUnderscores? (s : List Char) : Option (List Char) :=
  if s.head? = some '_' ∨ s.getLast? = some '_' ∨ hasDoubleUnderscore s then none
  else some (s.filter (· != '_'))

/-- The digits of a plain numeral: at least one and no more than `digitLimit`, with a zero in front
only where it stands alone. -/
def plainDigits? (s : List Char) : Option (List Nat) := do
  let digits ← s.mapM asciiDigit?
  if digits = [] ∨ digitLimit < digits.length ∨ digits.head? = some 0 ∧ digits.length ≠ 1 then none
  else some digits

/-- The integer that a text writes. -/
def asciiInteger? (s : List Char) : Option Int := do
  let (negative, rest) := takeSign (trimEnds isWhiteSpace s)
  let counted ← dropLeadingZeros? rest
  let numeral ← dropUnderscores? (dropZeroFraction counted)
  match numeral with
  | '-' :: rest =>
    let digits ← plainDigits? rest
    if negative then none else some (signed true (ofDigits digits))
  | _ =>
    let digits ← plainDigits? numeral
    some (signed negative (ofDigits digits))

/-- Whether a text begins with more digits than an integer may have, a minus sign aside. -/
def beginsTooLong (s : List Char) : Bool :=
  let rest := match s with
    | '-' :: rest => rest
    | _ => s
  rest.head? ≠ some '0' && (rest.takeWhile Char.isDigit).length > digitLimit

/-- Reads an integer with ASCII digits. -/
def readAsciiInteger (s : String) : AsciiInteger :=
  if beginsTooLong s.toList then .oversized
  else
    match asciiInteger? s.toList with
    | some n => .value n
    | none => .unreadable

end ComponentPasses.Text

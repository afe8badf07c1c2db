import ComponentPasses.Data.Toml.Texts
import ComponentPasses.Data.Value
import ComponentPasses.Text.Numeral

/-!
# Numbers, dates and words in TOML

Integers are decimal with an optional sign, or hexadecimal, octal or binary after `0x`, `0o`, `0b`.
A fraction or an exponent makes a decimal a binary64 number.  An underscore may stand between two
digits.  Dates and times are written as in `1979-05-27T07:32:00Z`; each is checked to be a real one
and kept as it was written.

A reader gives the value and what follows it, or nothing where its kind of value does not stand.
-/

namespace ComponentPasses.Data.Toml

open Text (hexValue? ofDigits signed digitLimit takeSign)

/-! ## 1. Numbers -/

/-- The digits at the start of a text that go on after one digit, with underscores left out. -/
def moreDigits (isDigit : Char → Bool) : List Char → List Char × List Char
  | '_' :: d :: rest =>
    if isDigit d then
      let (digits, after) := moreDigits isDigit rest
      (d :: digits, after)
    else ([], '_' :: d :: rest)
  | d :: rest =>
    if isDigit d then
      let (digits, after) := moreDigits isDigit rest
      (d :: digits, after)
    else ([], d :: rest)
  | [] => ([], [])

/-- The digits at the start of a text; none where no digit stands. -/
def digits? (isDigit : Char → Bool) : List Char → Option (List Char × List Char)
  | d :: rest =>
    if isDigit d then
      let (digits, after) := moreDigits isDigit rest
      some (d :: digits, after)
    else none
  | [] => none

/-- The number that digits write in a base. -/
def numberInBase (base : Nat) (digits : List Char) : Nat :=
  digits.foldl (fun n d => n * base + (hexValue? d).getD 0) 0

/-- An integer in another base than ten. -/
def basedInteger? (s : List Char) : Option (Value × List Char) :=
  let attempt (base : Nat) (isDigit : Char → Bool) (rest : List Char) :=
    (digits? isDigit rest).map fun (digits, after) =>
      (Value.integer (numberInBase base digits), after)
  match s with
  | '0' :: 'x' :: rest => attempt 16 (fun c => (hexValue? c).isSome) rest
  | '0' :: 'b' :: rest => attempt 2 (fun c => c == '0' || c == '1') rest
  | '0' :: 'o' :: rest => attempt 8 (fun c => '0' ≤ c && c ≤ '7') rest
  | _ => none

/-- The whole part of a decimal: a zero alone, or digits that start with no zero. -/
def wholeDigits? (s : List Char) : Option (List Char × List Char) :=
  match s with
  | '0' :: rest => some (['0'], rest)
  | _ => digits? Char.isDigit s

/-- The exponent at the start of a text. -/
def exponent? (s : List Char) : Option (Int × List Char) :=
  match s with
  | c :: rest =>
    if c = 'e' ∨ c = 'E' then
      let (negative, rest) := takeSign rest
      (digits? Char.isDigit rest).map fun (digits, after) =>
        (signed negative (numberInBase 10 digits), after)
    else none
  | [] => none

/-- The fraction at the start of a text. -/
def fraction? (s : List Char) : Option (List Char × List Char) :=
  match s with
  | '.' :: rest => digits? Char.isDigit rest
  | _ => none

/-- A decimal number. -/
def decimal? (s : List Char) : Option (Except Fault (Value × List Char)) :=
  let (negative, unsigned) := takeSign s
  (wholeDigits? unsigned).map fun (whole, rest) =>
    let fraction := fraction? rest
    let afterFraction := (fraction.map (·.2)).getD rest
    let exponent := exponent? afterFraction
    match fraction, exponent with
    | none, none =>
      if whole.length > digitLimit then .error (.longInteger whole.length)
      else .ok (.integer (signed negative (numberInBase 10 whole)), rest)
    | _, _ =>
      let places := (fraction.map (·.1)).getD []
      let power := (exponent.map (·.1)).getD 0
      .ok (.real (.ofDecimal negative (numberInBase 10 (whole ++ places)) (power - places.length)),
        (exponent.map (·.2)).getD afterFraction)

/-! ## 2. Dates and times -/

/-- A fixed number of digits as a number. -/
def fixedNumber? (count : Nat) (s : List Char) : Option (Nat × List Char) :=
  let digits := s.take count
  if digits.length = count ∧ digits.all Char.isDigit then
    some (numberInBase 10 digits, s.drop count)
  else none

/-- What follows a mark. -/
def afterMark? (mark : Char) : List Char → Option (List Char)
  | c :: rest => if c = mark then some rest else none
  | [] => none

/-- Two digits below a bound, and what follows. -/
def below? (bound : Nat) (s : List Char) : Option (List Char) :=
  (fixedNumber? 2 s).bind fun (n, rest) => if n < bound then some rest else none

/-- Drops the fraction of a second, if there is one. -/
def dropSecondFraction (s : List Char) : List Char :=
  match s with
  | '.' :: d :: rest => if d.isDigit then rest.dropWhile Char.isDigit else s
  | _ => s

/-- What follows a time of day. -/
def afterTime? (s : List Char) : Option (List Char) := do
  let s ← below? 24 s
  let s ← afterMark? ':' s
  let s ← below? 60 s
  let s ← afterMark? ':' s
  let s ← below? 60 s
  pure (dropSecondFraction s)

/-- Drops the offset from universal time, if there is one. -/
def dropOffset (s : List Char) : List Char :=
  match s with
  | c :: rest =>
    if c = 'Z' ∨ c = 'z' then rest
    else if c = '+' ∨ c = '-' then
      ((below? 24 rest).bind fun s => (afterMark? ':' s).bind (below? 60)).getD s
    else s
  | [] => []

/-- The number of days of a month. -/
def daysOf (year month : Nat) : Nat :=
  if month = 2 then
    if year % 4 = 0 ∧ (year % 100 ≠ 0 ∨ year % 400 = 0) then 29 else 28
  else if month = 4 ∨ month = 6 ∨ month = 9 ∨ month = 11 then 30
  else 31

/-- The date at the start of a text: whether there is such a day, and what follows. -/
def date? (s : List Char) : Option (Bool × List Char) := do
  let (year, s) ← fixedNumber? 4 s
  let s ← afterMark? '-' s
  let (month, s) ← fixedNumber? 2 s
  let s ← afterMark? '-' s
  let (day, s) ← fixedNumber? 2 s
  if 1 ≤ month ∧ month ≤ 12 ∧ 1 ≤ day ∧ day ≤ 31 then
    pure (1 ≤ year && day ≤ daysOf year month, s)
  else none

/-- What follows the time that goes with a date. -/
def afterDateTime (s : List Char) : List Char :=
  match s with
  | c :: rest =>
    if c = 'T' ∨ c = 't' ∨ c = ' ' then
      match afterTime? rest with
      | some after => dropOffset after
      | none => s
    else s
  | [] => []

/-- A date, a time, or both. -/
def moment? (s : List Char) : Option (Except Fault (Value × List Char)) :=
  let upTo (rest : List Char) : Value :=
    .moment (String.ofList (s.take (s.length - rest.length)))
  match date? s with
  | some (real, rest) =>
    let rest := afterDateTime rest
    some (if real then .ok (upTo rest, rest) else .error .malformed)
  | none => (afterTime? s).map fun rest => .ok (upTo rest, rest)

/-! ## 3. Words -/

/-- What follows a word. -/
def afterWord? : (word s : List Char) → Option (List Char)
  | [], s => some s
  | w :: word, c :: s => if w = c then afterWord? word s else none
  | _ :: _, [] => none

/-- The first of some words that the text starts with, as its value. -/
def word? (words : List (String × Value)) (s : List Char) : Option (Value × List Char) :=
  words.findSome? fun (word, value) => (afterWord? word.toList s).map (value, ·)

/-- The words for truth values. -/
def flagWords : List (String × Value) :=
  [("true", .flag true), ("false", .flag false)]

/-- The words for numbers that digits cannot write. -/
def numberWords : List (String × Value) :=
  [("inf", .real (.infinite false)), ("nan", .real .undefined), ("-inf", .real (.infinite true)),
    ("+inf", .real (.infinite false)), ("-nan", .real .undefined), ("+nan", .real .undefined)]

/-- Reads a value that is neither a list nor a table. -/
def readScalar (s : List Char) : Except Fault (Value × List Char) :=
  match readText? s with
  | some outcome => outcome.map fun (text, rest) => (.text (String.ofList text), rest)
  | none =>
    match word? flagWords s with
    | some outcome => .ok outcome
    | none =>
      match moment? s with
      | some outcome => outcome
      | none =>
        match basedInteger? s with
        | some outcome => .ok outcome
        | none =>
          match decimal? s with
          | some outcome => outcome
          | none =>
            match word? numberWords s with
            | some outcome => .ok outcome
            | none => .error .malformed

end ComponentPasses.Data.Toml

/-!
# Binary floating-point numbers, exactly

A number with a point or an exponent stands for the nearest binary64 value.  This module keeps
such a value as a whole number times a power of two, so that questions about it (does it have a
fraction, which integer is it, which digits name it) are questions about natural numbers.

* `Binary64.ofDecimal` rounds a decimal to the nearest value, a tie to the even one.
* `Binary64.integer?` gives the integer a value is, if it is one.
* `Binary64.shortest` finds the fewest decimal digits that still name the value: for one digit,
  two digits and so on it tries the two neighbours of the value on that decimal grid, and the
  first neighbour that lies in the interval of reals rounding to the value wins.
-/

namespace ComponentPasses.Data

/-- A binary64 value. -/
inductive Binary64
  /-- The mantissa times two to the exponent, with the sign of a minus in front if negative. -/
  | finite (negative : Bool) (mantissa : Nat) (exponent : Int)
  | infinite (negative : Bool)
  | undefined
deriving DecidableEq, Repr, Inhabited

namespace Binary64

/-! ## 1. Rounding -/

/-- The quotient of two numbers rounded to nearest, a tie to the even neighbour. -/
def roundQuotient (num den : Nat) : Nat :=
  let whole := num / den
  let rest := num % den
  if 2 * rest < den then whole
  else if den < 2 * rest then whole + 1
  else whole + whole % 2

/-- The least exponent of a binary64 value. -/
def leastExponent : Int := -1074

/-- The binary64 value nearest to a positive quotient. -/
def ofQuotient (negative : Bool) (num den : Nat) : Binary64 :=
  let gap : Int := num.log2 - den.log2
  let reaches : Bool :=
    if 0 ≤ gap then den * Nat.pow 2 gap.toNat ≤ num else den ≤ num * Nat.pow 2 (-gap).toNat
  let exponent := max leastExponent (if reaches then gap - 52 else gap - 53)
  let mantissa :=
    if 0 ≤ exponent then roundQuotient num (den * Nat.pow 2 exponent.toNat)
    else roundQuotient (num * Nat.pow 2 (-exponent).toNat) den
  let (mantissa, exponent) :=
    if mantissa = Nat.pow 2 53 then (Nat.pow 2 52, exponent + 1) else (mantissa, exponent)
  if exponent > 971 then .infinite negative else .finite negative mantissa exponent

/-- The binary64 value nearest to `digits` times ten to the `exponent`.  Decimals far outside the
range are settled by their size, so that no power of ten beyond reach is ever formed. -/
def ofDecimal (negative : Bool) (digits : Nat) (exponent : Int) : Binary64 :=
  let size : Int := exponent + (Nat.toDigits 10 digits).length
  if digits = 0 ∨ size < -400 then .finite negative 0 leastExponent
  else if size > 400 then .infinite negative
  else if 0 ≤ exponent then ofQuotient negative (digits * Nat.pow 10 exponent.toNat) 1
  else ofQuotient negative digits (Nat.pow 10 (-exponent).toNat)

/-! ## 2. Whole values -/

/-- The integer that a finite value is; none if it has a fraction. -/
def integer? (negative : Bool) (mantissa : Nat) (exponent : Int) : Option Int :=
  let whole : Option Nat :=
    if 0 ≤ exponent then some (mantissa * Nat.pow 2 exponent.toNat)
    else
      let scale := Nat.pow 2 (-exponent).toNat
      if mantissa % scale = 0 then some (mantissa / scale) else none
  whole.map fun n => if negative then -(n : Int) else (n : Int)

/-! ## 3. Shortest digits -/

/-- The digits, as a number, and the power of ten of the shortest decimal naming a positive
value. -/
def shortest (mantissa : Nat) (exponent : Int) : Nat × Int :=
  let two := exponent - 2
  let centre := 4 * mantissa
  let upper := 4 * mantissa + 2
  let lower :=
    if mantissa = Nat.pow 2 52 ∧ leastExponent < exponent then 4 * mantissa - 1
    else 4 * mantissa - 2
  let scaled := centre * Nat.pow 10 400 * Nat.pow 2 two.toNat / Nat.pow 2 (-two).toNat
  let size : Int := (Nat.toDigits 10 scaled).length - 400
  let attempt (count : Nat) : Option (Nat × Int) :=
    let ten := size - count
    let p := Nat.pow 10 ten.toNat * Nat.pow 2 (-two).toNat
    let q := Nat.pow 10 (-ten).toNat * Nat.pow 2 two.toNat
    let names (c : Nat) : Bool :=
      if mantissa % 2 = 0 then lower * q ≤ c * p && c * p ≤ upper * q
      else lower * q < c * p && c * p < upper * q
    let below := centre * q / p
    match names below, names (below + 1) with
    | false, false => none
    | true, false => some (below, ten)
    | false, true => some (below + 1, ten)
    | true, true => some (roundQuotient (centre * q) p, ten)
  ((List.range 17).findSome? fun i => attempt (i + 1)).getD (0, 0)

/-- Drops the trailing zeros of a list of digits given last first, counting them. -/
def dropZeros : List Char → Int → List Char × Int
  | '0' :: rest, exponent => dropZeros rest (exponent + 1)
  | digits, exponent => (digits.reverse, exponent)

/-- A value as text: positional while the leading digit stands between the fourth place after the
point and the sixteenth before it, otherwise with a signed exponent of at least two digits. -/
def display : Binary64 → String
  | .undefined => "nan"
  | .infinite negative => if negative then "-inf" else "inf"
  | .finite negative mantissa exponent =>
    let sign := if negative then "-" else ""
    if mantissa = 0 then sign ++ "0.0"
    else
      let (number, ten) := shortest mantissa exponent
      let (digits, ten) := dropZeros (Nat.toDigits 10 number).reverse ten
      let point : Int := digits.length + ten
      let text (cs : List Char) := String.ofList cs
      if -4 < point ∧ point ≤ 16 then
        if point ≤ 0 then
          sign ++ "0." ++ text (List.replicate (-point).toNat '0') ++ text digits
        else if digits.length ≤ point.toNat then
          sign ++ text digits ++ text (List.replicate (point.toNat - digits.length) '0') ++ ".0"
        else sign ++ text (digits.take point.toNat) ++ "." ++ text (digits.drop point.toNat)
      else
        let power := point - 1
        let size := toString power.natAbs
        let fraction := if digits.length = 1 then "" else "." ++ text (digits.drop 1)
        sign ++ text (digits.take 1) ++ fraction ++ "e" ++ (if power < 0 then "-" else "+") ++
          (if size.length < 2 then "0" ++ size else size)

end Binary64

end ComponentPasses.Data

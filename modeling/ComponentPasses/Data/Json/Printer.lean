import ComponentPasses.Data.Value

/-!
# Writing JSON

Two layouts of one text: `compact` on a single line, and `pretty` with each item and field on a
line of its own, two blanks deeper than what holds it.  Both write ASCII only: every other
character goes out as one or two UTF-16 escapes.
-/

namespace ComponentPasses.Data.Json

open Text (hexDigits)

/-! ## 1. Texts -/

/-- A UTF-16 unit as an escape. -/
def escapedUnit (n : Nat) : List Char :=
  '\\' :: 'u' :: hexDigits 4 n

/-- One character of a text between double quotes. -/
def escapedChar (c : Char) : List Char :=
  if c = '"' ∨ c = '\\' then ['\\', c]
  else if c = '\n' then ['\\', 'n']
  else if c = '\r' then ['\\', 'r']
  else if c = '\t' then ['\\', 't']
  else if c = '\x08' then ['\\', 'b']
  else if c = '\x0c' then ['\\', 'f']
  else if 0x20 ≤ c.toNat ∧ c.toNat < 0x7f then [c]
  else if c.toNat < 0x10000 then escapedUnit c.toNat
  else
    escapedUnit (0xd800 + (c.toNat - 0x10000) / 0x400) ++
      escapedUnit (0xdc00 + (c.toNat - 0x10000) % 0x400)

/-- A text between double quotes. -/
def textLiteral (s : String) : String :=
  String.ofList ('"' :: s.toList.flatMap escapedChar ++ ['"'])

/-- A value that is no list and no record. -/
def scalar : Value → String
  | .flag b => if b then "true" else "false"
  | .integer n => toString n
  | .real .undefined => "NaN"
  | .real (.infinite negative) => if negative then "-Infinity" else "Infinity"
  | .real x => x.display
  | .text s => textLiteral s
  | .moment written => textLiteral written
  | _ => "null"

/-! ## 2. One line -/

mutual

/-- The value on a single line. -/
def compact : Value → String
  | .list items => "[" ++ ",".intercalate (compactItems items) ++ "]"
  | .record fields => "\x7b" ++ ",".intercalate (compactFields fields) ++ "\x7d"
  | v => scalar v

/-- The items of a list, each on a single line. -/
def compactItems : List Value → List String
  | [] => []
  | v :: rest => compact v :: compactItems rest

/-- The fields of a record, each on a single line. -/
def compactFields : List (String × Value) → List String
  | [] => []
  | (name, v) :: rest => (textLiteral name ++ ":" ++ compact v) :: compactFields rest

end

/-! ## 3. Many lines -/

/-- The start of a line at a depth. -/
def lineStart (depth : Nat) : String :=
  "\n" ++ String.ofList (List.replicate (2 * depth) ' ')

/-- Lays parts out between two brackets, one a line. -/
def bracketed (depth : Nat) (left right : String) (parts : List String) : String :=
  match parts with
  | [] => left ++ right
  | parts =>
    left ++ lineStart (depth + 1) ++ ("," ++ lineStart (depth + 1)).intercalate parts ++
      lineStart depth ++ right

mutual

/-- The value over many lines, at a depth. -/
def prettyAt (depth : Nat) : Value → String
  | .list items => bracketed depth "[" "]" (prettyItems (depth + 1) items)
  | .record fields => bracketed depth "\x7b" "\x7d" (prettyFields (depth + 1) fields)
  | v => scalar v

/-- The items of a list, each over many lines. -/
def prettyItems (depth : Nat) : List Value → List String
  | [] => []
  | v :: rest => prettyAt depth v :: prettyItems depth rest

/-- The fields of a record, each over many lines. -/
def prettyFields (depth : Nat) : List (String × Value) → List String
  | [] => []
  | (name, v) :: rest => (textLiteral name ++ ": " ++ prettyAt depth v) :: prettyFields depth rest

end

/-- The value over many lines. -/
def pretty (v : Value) : String :=
  prettyAt 0 v

end ComponentPasses.Data.Json

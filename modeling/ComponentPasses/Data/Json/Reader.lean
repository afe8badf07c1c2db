import ComponentPasses.Data.Json.Fault
import ComponentPasses.Data.Value
import ComponentPasses.Text.Hexadecimal

/-!
# Reading JSON

A strict reader for JSON with three additions: `NaN`, `Infinity` and `-Infinity` are numbers.  The
last value of a repeated key stays.  Two things lie outside the model: texts with one half of a pair
of escapes (`readText`), and how deep an interpreter can follow lists and records into each other.

Every step takes the characters still to be read and gives back what follows what it read, with
the proof that this is shorter; so the readers of values, items and fields call each other and
still end.  A step that fails says how many characters were left, from which `read` computes the
place in the whole text.
-/

namespace ComponentPasses.Data.Json

open Text (hexNumber? digitLimit ofDigits signed takeSign length_takeSign_le)

/-- What stops a reader: the cause and the number of characters left, or a numeral too long. -/
inductive Stop
  | malformed (cause : Cause) (left : Nat)
  | longInteger (digits : Nat)

/-- What follows a part of a text that holds at least one character. -/
abbrev Shorter (s : List Char) := { rest : List Char // rest.length < s.length }

/-- What follows a part of a text that may be empty. -/
abbrev NotLonger (s : List Char) := { rest : List Char // rest.length ≤ s.length }

/-! ## 1. Blanks and words -/

/-- The four characters that may stand between tokens. -/
def isJsonBlank (c : Char) : Bool :=
  c == ' ' || c == '\t' || c == '\n' || c == '\r'

/-- Skips the characters that may stand between tokens. -/
def skipBlank : (s : List Char) → NotLonger s
  | [] => ⟨[], by simp⟩
  | c :: rest =>
    if isJsonBlank c then
      let ⟨r, h⟩ := skipBlank rest
      ⟨r, by simp only [List.length_cons]; omega⟩
    else ⟨c :: rest, by simp⟩

/-- What follows a mark, if the text starts with it. -/
def dropMark? (mark : Char) : (s : List Char) → Option (Shorter s)
  | c :: rest => if c = mark then some ⟨rest, by simp⟩ else none
  | [] => none

/-- What follows a word, if the text starts with it. -/
def dropWord? : (word s : List Char) → Option (List Char)
  | [], s => some s
  | w :: word, c :: s => if w = c then dropWord? word s else none
  | _ :: _, [] => none

/-- The word and what follows it are together as long as the text. -/
theorem length_of_dropWord? {word s rest : List Char} (h : dropWord? word s = some rest) :
    word.length + rest.length = s.length := by
  fun_induction dropWord? word s with
  | case1 => cases h; simp
  | case2 _ _ _ ih => have := ih h; simp only [List.length_cons]; omega
  | case3 => cases h
  | case4 => cases h

/-- The words that are values. -/
def words : List (String × Value) :=
  [("null", .null), ("true", .flag true), ("false", .flag false), ("NaN", .real .undefined),
    ("Infinity", .real (.infinite false)), ("-Infinity", .real (.infinite true))]

/-! ## 2. Numbers -/

/-- The number that ASCII digits write. -/
def asciiNumber (digits : List Char) : Nat :=
  ofDigits (digits.map fun d => d.toNat - 48)

/-- Whether a text starts with a minus sign, and what follows the sign. -/
def takeMinus (s : List Char) : Bool × NotLonger s :=
  match s with
  | '-' :: rest => (true, ⟨rest, by simp⟩)
  | other => (false, ⟨other, Nat.le_refl _⟩)

/-- A run of ASCII digits and what follows it. -/
def takeDigits (s : List Char) : List Char × NotLonger s :=
  (s.takeWhile Char.isDigit, ⟨s.dropWhile Char.isDigit, (List.dropWhile_sublist _).length_le⟩)

/-- The fraction at the start of a text, if there is one: its digits, and what follows. -/
def takeFraction (s : List Char) : Option (List Char × NotLonger s) :=
  match s with
  | '.' :: rest =>
    let (digits, ⟨r, h⟩) := takeDigits rest
    if digits.isEmpty then none else some (digits, ⟨r, by simp only [List.length_cons]; omega⟩)
  | _ => none

/-- The exponent at the start of a text, if there is one, and what follows. -/
def takeExponent (s : List Char) : Option (Int × NotLonger s) :=
  match s with
  | c :: rest =>
    if c = 'e' ∨ c = 'E' then
      have unsigned := length_takeSign_le rest
      let (digits, ⟨r, h⟩) := takeDigits (takeSign rest).2
      if digits.isEmpty then none
      else some (signed (takeSign rest).1 (asciiNumber digits),
        ⟨r, by simp only [List.length_cons]; omega⟩)
    else none
  | [] => none

/-- The whole part at the start of a text: a zero, or digits that start with no zero. -/
def takeWhole (s : List Char) : Option (List Char × Shorter s) :=
  match s with
  | '0' :: rest => some (['0'], ⟨rest, by simp⟩)
  | c :: rest =>
    if c.isDigit then
      let (digits, ⟨r, h⟩) := takeDigits rest
      some (c :: digits, ⟨r, by simp only [List.length_cons]; omega⟩)
    else none
  | [] => none

/-- Reads the number at the start of a text. -/
def readNumber (s : List Char) : Except Stop (Value × Shorter s) :=
  let (negative, ⟨body, hb⟩) := takeMinus s
  match takeWhole body with
  | none => .error (.malformed .value s.length)
  | some (whole, ⟨rest, hr⟩) =>
    let (places, ⟨afterPlaces, hp⟩) := (takeFraction rest).getD ([], ⟨rest, by omega⟩)
    let (power, ⟨after, ha⟩) :=
      match takeExponent afterPlaces with
      | some (n, r) => (some n, r)
      | none => (none, ⟨afterPlaces, by omega⟩)
    if places.isEmpty ∧ power.isNone then
      if whole.length > digitLimit then .error (.longInteger whole.length)
      else .ok (.integer (signed negative (asciiNumber whole)), ⟨after, by omega⟩)
    else
      let number := Binary64.ofDecimal negative (asciiNumber (whole ++ places))
        (power.getD 0 - places.length)
      .ok (.real number, ⟨after, by omega⟩)

/-! ## 3. Texts -/

/-- The character that a letter after a backslash stands for. -/
def shortEscape? : Char → Option Char
  | '"' => some '"'
  | '\\' => some '\\'
  | '/' => some '/'
  | 'b' => some '\x08'
  | 'f' => some '\x0c'
  | 'n' => some '\n'
  | 'r' => some '\r'
  | 't' => some '\t'
  | _ => none

/-- Reads four digits after `\u`.  A text that ends right after them is refused, since no closing
quote follows. -/
def readUnit (s : List Char) : Except Stop (Nat × Shorter s) :=
  match s with
  | a :: b :: c :: d :: e :: rest =>
    match hexNumber? [a, b, c, d] with
    | some n => .ok (n, ⟨e :: rest, by simp only [List.length_cons]; omega⟩)
    | none => .error (.malformed .unicodeEscape (s.length + 1))
  | _ => .error (.malformed .unicodeEscape (s.length + 1))

/-- The second half of a pair of escapes for one character, if the text goes on with one. -/
def readLowUnit (s : List Char) : Except Stop (Option (Nat × Shorter s)) :=
  match s with
  | '\\' :: 'u' :: rest =>
    if (rest.take 5).length < 5 then .ok none
    else do
      let (low, ⟨r, h⟩) ← readUnit rest
      if 0xdc00 ≤ low ∧ low ≤ 0xdfff then
        .ok (some (low, ⟨r, by simp only [List.length_cons]; omega⟩))
      else .ok none
  | _ => .ok none

/-- Reads a text up to its closing quote; `opening` is what was left at its opening quote.  Half of
a pair of escapes without the other half stands for no character.  Texts with such a half lie
outside the model, since a text here is made of characters: one is read with the null character in
the place of the half. -/
def readText (opening : List Char) (s : List Char) : Except Stop (List Char × Shorter s) :=
  match s with
  | [] => .error (.malformed .unterminatedText opening.length)
  | '"' :: rest => .ok ([], ⟨rest, by simp⟩)
  | ['\\'] => .error (.malformed .unterminatedText opening.length)
  | '\\' :: 'u' :: rest => do
    let (unit, ⟨r, h⟩) ← readUnit rest
    let pair ← if 0xd800 ≤ unit ∧ unit ≤ 0xdbff then readLowUnit r else .ok none
    match pair with
    | some (low, ⟨r', h'⟩) =>
      let (tail, ⟨t, ht⟩) ← readText opening r'
      .ok (Char.ofNat (0x10000 + (unit - 0xd800) * 0x400 + (low - 0xdc00)) :: tail,
        ⟨t, by simp only [List.length_cons]; omega⟩)
    | none =>
      let (tail, ⟨t, ht⟩) ← readText opening r
      .ok (Char.ofNat unit :: tail, ⟨t, by simp only [List.length_cons]; omega⟩)
  | '\\' :: e :: rest =>
    match shortEscape? e with
    | none => .error (.malformed .escape s.length)
    | some c => do
      let (tail, ⟨t, ht⟩) ← readText opening rest
      .ok (c :: tail, ⟨t, by simp only [List.length_cons]; omega⟩)
  | c :: rest =>
    if c.toNat < 0x20 then .error (.malformed .controlCharacter s.length)
    else do
      let (tail, ⟨t, ht⟩) ← readText opening rest
      .ok (c :: tail, ⟨t, by simp only [List.length_cons]; omega⟩)
termination_by s.length

/-! ## 4. Values -/

/-- Reads one of the words at the start of a text, if one stands there. -/
def readWord? (s : List Char) : Option (Value × List Char) :=
  words.findSome? fun (word, value) => (dropWord? word.toList s).map (value, ·)

/-- What follows one of the words is shorter. -/
theorem length_lt_of_readWord? {s : List Char} {v : Value} {rest : List Char}
    (h : readWord? s = some (v, rest)) : rest.length < s.length := by
  obtain ⟨⟨word, value⟩, member, found⟩ := List.exists_of_findSome?_eq_some h
  obtain ⟨after, dropped, same⟩ := Option.map_eq_some_iff.1 found
  cases same
  have nonempty : ∀ entry ∈ words, 0 < entry.1.toList.length := by decide
  have letters : 0 < word.toList.length := nonempty _ member
  have parts := length_of_dropWord? dropped
  omega

/-- Reads a value that is no text, list or record: a word or a number. -/
def readScalar (s : List Char) : Except Stop (Value × Shorter s) :=
  match h : readWord? s with
  | some (value, rest) => .ok (value, ⟨rest, length_lt_of_readWord? h⟩)
  | none => readNumber s

mutual

/-- Reads the value at the start of a text. -/
def readValue (s : List Char) : Except Stop (Value × Shorter s) :=
  match s with
  | '"' :: rest => do
    let (text, ⟨r, h⟩) ← readText ('"' :: rest) rest
    .ok (.text (String.ofList text), ⟨r, by simp only [List.length_cons]; omega⟩)
  | '[' :: rest =>
    let ⟨first, h⟩ := skipBlank rest
    match dropMark? ']' first with
    | some ⟨r, hr⟩ => .ok (.list [], ⟨r, by simp only [List.length_cons]; omega⟩)
    | none => do
      let (items, ⟨r, hr⟩) ← readItems first
      .ok (.list items, ⟨r, by simp only [List.length_cons]; omega⟩)
  | '\x7b' :: rest =>
    let ⟨first, h⟩ := skipBlank rest
    match dropMark? '\x7d' first with
    | some ⟨r, hr⟩ => .ok (.record [], ⟨r, by simp only [List.length_cons]; omega⟩)
    | none => do
      let (fields, ⟨r, hr⟩) ← readFields first
      .ok (.record (Entries.ofPairs fields), ⟨r, by simp only [List.length_cons]; omega⟩)
  | other => readScalar other
termination_by (s.length, 0)
decreasing_by all_goals simp only [List.length_cons]; apply Prod.Lex.left; omega

/-- Reads the items of a list from the first one on, and the closing bracket. -/
def readItems (s : List Char) : Except Stop (List Value × Shorter s) := do
  let (item, ⟨r, h⟩) ← readValue s
  let ⟨next, hn⟩ := skipBlank r
  match dropMark? ']' next with
  | some ⟨rest, hr⟩ => .ok ([item], ⟨rest, by omega⟩)
  | none =>
    match dropMark? ',' next with
    | some ⟨rest, hr⟩ =>
      let ⟨start, hs⟩ := skipBlank rest
      let (items, ⟨t, ht⟩) ← readItems start
      .ok (item :: items, ⟨t, by omega⟩)
    | none => .error (.malformed .comma next.length)
termination_by (s.length, 1)
decreasing_by
  · apply Prod.Lex.right; omega
  · apply Prod.Lex.left; omega

/-- Reads the fields of a record from the first name on, and the closing brace. -/
def readFields (s : List Char) : Except Stop (List (String × Value) × Shorter s) := do
  let some ⟨quote, hq⟩ := dropMark? '"' s | .error (.malformed .name s.length)
  let (name, ⟨r, h⟩) ← readText s quote
  let ⟨mark, hm⟩ := skipBlank r
  let some ⟨gap, hg⟩ := dropMark? ':' mark | .error (.malformed .colon mark.length)
  let ⟨first, hf⟩ := skipBlank gap
  let (value, ⟨r', h'⟩) ← readValue first
  let ⟨next, hn⟩ := skipBlank r'
  match dropMark? '\x7d' next with
  | some ⟨rest, hr⟩ => .ok ([(String.ofList name, value)], ⟨rest, by omega⟩)
  | none =>
    match dropMark? ',' next with
    | some ⟨rest, hr⟩ =>
      let ⟨start, hs⟩ := skipBlank rest
      let (fields, ⟨t, ht⟩) ← readFields start
      .ok ((String.ofList name, value) :: fields, ⟨t, by omega⟩)
    | none => .error (.malformed .comma next.length)
termination_by (s.length, 0)
decreasing_by all_goals apply Prod.Lex.left; omega

end

/-! ## 5. A whole text -/

/-- Reads a text that holds one value and nothing else but blanks. -/
def read (text : List Char) : Except Fault Value :=
  let place : Stop → Fault
    | .malformed cause left => .malformed cause (text.length - left)
    | .longInteger digits => .longInteger digits
  if text.head? = some '\ufeff' then .error (.malformed .byteOrderMark 0)
  else
    let outcome : Except Stop Value := do
      let ⟨start, _⟩ := skipBlank text
      let (value, ⟨rest, _⟩) ← readValue start
      let ⟨after, _⟩ := skipBlank rest
      if after.isEmpty then .ok value else .error (.malformed .extraData after.length)
    outcome.mapError place

end ComponentPasses.Data.Json

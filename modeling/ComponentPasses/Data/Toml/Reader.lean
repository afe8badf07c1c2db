import ComponentPasses.Data.Toml.Scalars

/-!
# Reading TOML line by line

A TOML text is a sequence of lines, each of which is empty, a comment, a pair `key = value`, a table
header `[key]`, or a header `[[key]]` for the next table of a list.  A key is one or more parts
joined by points.  The value of a pair may be a list, which may run over several lines, or a table
in braces, which may not.

`readLines` gives the lines up to the end or up to the first that breaks the grammar, and says which
of the two it was, so that what the lines mean can be checked in their own order.
-/

namespace ComponentPasses.Data.Toml

/-- The parts of a key. -/
abbrev Key := List String

/-- What follows a part of a text that holds at least one character. -/
abbrev Rest (s : List Char) := { rest : List Char // rest.length < s.length }

/-- What follows, if it is shorter; every reader of a value takes at least one character. -/
def advance (s rest : List Char) : Except Fault (Rest s) :=
  if h : rest.length < s.length then .ok ⟨rest, h⟩ else .error .malformed

/-! ## 1. Gaps and keys -/

/-- Skips blanks within a line. -/
def skipTomlBlank (s : List Char) : List Char :=
  s.dropWhile isTomlBlank

/-- Skips blanks, line ends and comments; `inComment` if the text begins inside a comment. -/
def skipGaps : (inComment : Bool) → List Char → Except Fault (List Char)
  | _, [] => .ok []
  | true, c :: rest =>
    if c = '\n' then skipGaps false rest
    else if isForbidden c then .error .malformed
    else skipGaps true rest
  | false, c :: rest =>
    if isTomlGap c then skipGaps false rest
    else if c = '#' then skipGaps true rest
    else .ok (c :: rest)

/-- A character of a key that is written without quotes. -/
def isBareKeyChar (c : Char) : Bool :=
  c.isAlphanum || c == '-' || c == '_'

/-- Reads one part of a key. -/
def readKeyPart (s : List Char) : Except Fault (String × List Char) :=
  match s with
  | '"' :: rest =>
    (basicText false .nothing rest).map fun (text, rest) => (String.ofList text, rest)
  | '\'' :: rest => (literalText false rest).map fun (text, rest) => (String.ofList text, rest)
  | _ =>
    let part := s.takeWhile isBareKeyChar
    if part.isEmpty then .error .malformed
    else .ok (String.ofList part, s.dropWhile isBareKeyChar)

/-- Reads a key and skips the blanks after it. -/
def readKey (s : List Char) : Except Fault (Key × List Char) := do
  let (part, rest) ← readKeyPart s
  match skipTomlBlank rest with
  | '.' :: more =>
    let ⟨next, _h⟩ ← advance s (skipTomlBlank more)
    let (parts, rest) ← readKey next
    .ok (part :: parts, rest)
  | rest => .ok ([part], rest)
termination_by s.length

/-- Reads a key and the equals sign after it. -/
def readPairKey (s : List Char) : Except Fault (Key × List Char) := do
  let (key, rest) ← readKey s
  match rest with
  | '=' :: rest => .ok (key, skipTomlBlank rest)
  | _ => .error .malformed

/-! ## 2. Tables in braces -/

/-- Changes the table that a key leads to, making tables on the way where none are.  Where
`throughLists`, the last table of a list stands for the list.  None where something else stands in
the way or the change is refused. -/
def changeAt (throughLists : Bool) (change : Entries Value → Option (Entries Value)) :
    Key → Entries Value → Option (Entries Value)
  | [], table => change table
  | part :: rest, table =>
    match table.get? part with
    | none => (changeAt throughLists change rest []).map fun inner => table.put part (.record inner)
    | some (.record inner) =>
      (changeAt throughLists change rest inner).map fun inner => table.put part (.record inner)
    | some (.list items) =>
      match throughLists, items.getLast? with
      | true, some (.record inner) =>
        (changeAt throughLists change rest inner).map fun inner =>
          table.put part (.list (items.dropLast ++ [.record inner]))
      | _, _ => none
    | some _ => none

/-- Adds a key to a table that does not have it. -/
def addFresh (part : String) (value : Value) (table : Entries Value) : Option (Entries Value) :=
  match table.get? part with
  | none => some (table.put part value)
  | some _ => none

/-- Adds a pair to a table. -/
def addPair (throughLists : Bool) (key : Key) (value : Value) (table : Entries Value) :
    Option (Entries Value) :=
  changeAt throughLists (addFresh (key.getLast?.getD "") value) key.dropLast table

/-- A list or a table, which no later key may reach into. -/
def isContainer : Value → Bool
  | .list _ => true
  | .record _ => true
  | _ => false

/-- A table in braces as far as it is read: its fields, and the keys of lists and tables in it. -/
structure BraceTable where
  fields : Entries Value := []
  sealedKeys : List Key := []

/-- Adds a pair to a table in braces. -/
def BraceTable.add (table : BraceTable) (key : Key) (value : Value) : Except Fault BraceTable :=
  if table.sealedKeys.any (·.isPrefixOf key) then .error .malformed
  else
    match addPair false key value table.fields with
    | none => .error .malformed
    | some fields =>
      .ok ⟨fields, if isContainer value then key :: table.sealedKeys else table.sealedKeys⟩

/-! ## 3. Values -/

mutual

/-- Reads a value. -/
def readValue (s : List Char) : Except Fault (Value × Rest s) :=
  match s with
  | '[' :: rest => do
    let ⟨inner, _h⟩ ← advance ('[' :: rest) (← skipGaps false rest)
    match inner with
    | ']' :: after => do
      let done ← advance ('[' :: rest) after
      .ok (.list [], done)
    | _ => do
      let (items, ⟨after, _⟩) ← readItems inner
      let done ← advance ('[' :: rest) after
      .ok (.list items, done)
  | '\x7b' :: rest => do
    let ⟨inner, _h⟩ ← advance ('\x7b' :: rest) (skipTomlBlank rest)
    match inner with
    | '\x7d' :: after => do
      let done ← advance ('\x7b' :: rest) after
      .ok (.record [], done)
    | _ => do
      let (table, ⟨after, _⟩) ← readPairs {} inner
      let done ← advance ('\x7b' :: rest) after
      .ok (.record table.fields, done)
  | other => do
    let (value, after) ← readScalar other
    let done ← advance other after
    .ok (value, done)
termination_by (s.length, 0)
decreasing_by all_goals apply Prod.Lex.left; omega

/-- Reads the items of a list from the first one on, and the closing bracket. -/
def readItems (s : List Char) : Except Fault (List Value × Rest s) := do
  let (item, ⟨after, _ha⟩) ← readValue s
  match ← skipGaps false after with
  | ']' :: rest =>
    let done ← advance s rest
    .ok ([item], done)
  | ',' :: rest =>
    match ← skipGaps false rest with
    | ']' :: rest =>
      let done ← advance s rest
      .ok ([item], done)
    | next =>
      let ⟨next, _hn⟩ ← advance s next
      let (items, ⟨rest, _⟩) ← readItems next
      let done ← advance s rest
      .ok (item :: items, done)
  | _ => .error .malformed
termination_by (s.length, 1)
decreasing_by
  · apply Prod.Lex.right; omega
  · apply Prod.Lex.left; omega

/-- Reads the pairs of a table in braces from the first one on, and the closing brace. -/
def readPairs (table : BraceTable) (s : List Char) : Except Fault (BraceTable × Rest s) := do
  let (key, rest) ← readPairKey s
  let ⟨start, _hs⟩ ← advance s rest
  let (value, ⟨after, _ha⟩) ← readValue start
  let table ← table.add key value
  match skipTomlBlank after with
  | '\x7d' :: rest =>
    let done ← advance s rest
    .ok (table, done)
  | ',' :: rest =>
    let ⟨next, _hn⟩ ← advance s (skipTomlBlank rest)
    let (table, ⟨rest, _⟩) ← readPairs table next
    let done ← advance s rest
    .ok (table, done)
  | _ => .error .malformed
termination_by (s.length, 0)
decreasing_by all_goals apply Prod.Lex.left; omega

end

/-! ## 4. Lines -/

/-- What a line says. -/
inductive Line
  | pair (key : Key) (value : Value)
  | table (key : Key)
  | nextTable (key : Key)

/-- Reads a header up to its closing brackets. -/
def readHeader (closing : List Char) (s : List Char) : Except Fault (Key × List Char) := do
  let (key, rest) ← readKey (skipTomlBlank s)
  match afterWord? closing rest with
  | some rest => .ok (key, rest)
  | none => .error .malformed

/-- Reads what a line says; nothing if it is empty or a comment. -/
def readLine (s : List Char) : Except Fault (Option Line × List Char) :=
  match s with
  | [] => .ok (none, [])
  | '\n' :: _ => .ok (none, s)
  | '#' :: _ => .ok (none, s)
  | '[' :: '[' :: rest =>
    (readHeader [']', ']'] rest).map fun (key, rest) => (some (.nextTable key), rest)
  | '[' :: rest => (readHeader [']'] rest).map fun (key, rest) => (some (.table key), rest)
  | _ => do
    let (key, rest) ← readPairKey s
    let (value, ⟨rest, _⟩) ← readValue rest
    .ok (some (.pair key value), rest)

/-- Reads the end of a line: blanks, a comment, and the line end, which may be missing at the end
of the text. -/
def readLineEnd (s : List Char) : Except Fault (List Char) :=
  let comment := skipTomlBlank s
  let rest :=
    match comment with
    | '#' :: rest =>
      if (rest.takeWhile (· != '\n')).any isForbidden then none
      else some (rest.dropWhile (· != '\n'))
    | _ => some comment
  match rest with
  | some [] => .ok []
  | some ('\n' :: rest) => .ok rest
  | _ => .error .malformed

/-- Reads lines up to the end, or up to the first that breaks the grammar. -/
def readLines (s : List Char) : List Line × Option Fault :=
  match s with
  | [] => ([], none)
  | first :: more =>
    let outcome : Except Fault (Option Line × List Char) := do
      let (line, rest) ← readLine (skipTomlBlank (first :: more))
      .ok (line, rest)
    match outcome with
    | .error fault => ([], some fault)
    | .ok (line, rest) =>
      match readLineEnd rest with
      | .error fault => (line.toList, some fault)
      | .ok rest =>
        if _h : rest.length < (first :: more).length then
          let (lines, fault) := readLines rest
          (line.toList ++ lines, fault)
        else (line.toList, none)
termination_by s.length
decreasing_by exact _h

end ComponentPasses.Data.Toml

import ComponentPasses.Console.Markup
import ComponentPasses.Text.Cluster

/-!
# Fitting text into a width

`wrap` breaks each line of a text so that no line takes more cells than there are.  A tab first
becomes the blanks up to the next multiple of eight.  Then a line is broken before the first word
that does not fit; the blanks after a word belong to it, but only the word has to fit.

**Overflow.**  A word that is longer than a whole line is either folded, which is to say cut into
lines that are full, or stands alone in a line that ends with an ellipsis where it is cut off.

**Ends of lines.**  Of the blanks at the end of a line those are dropped that lie beyond the width,
one for each character too many.

**Filling.**  `fill` makes a line take a number of cells exactly.  The line is filled with blanks
by its measure as a whole.  But a console measures each run of a line by itself, and what is drawn
as one may be spread over two runs, so the runs are measured once more: cells that are missing are
filled, and cells too many are cut off.
-/

namespace ComponentPasses.Console

open Text (Cluster clusters)

/-- The number of cells of a line. -/
def lineCells (line : List Glyph) : Nat :=
  Text.cells (chars line)

/-! ## 1. Lines -/

/-- The stretches of a line between the occurrences of a character. -/
def splitGlyphs (mark : Char) : List Glyph → List (List Glyph)
  | [] => [[]]
  | glyph :: rest =>
    if glyph.char = mark then [] :: splitGlyphs mark rest
    else match splitGlyphs mark rest with
      | [] => [[glyph]]
      | piece :: others => (glyph :: piece) :: others

/-- The cells from one tab stop to the next. -/
def tabStop : Nat := 8

/-- Puts blanks for the tabs of the rest of a line, from a position in it on; the present part of
the line, last glyph first, has been read since the last of `tabs` tabs.  A tab ends a run, except
where no tag came before. -/
def expandTabsFrom (position tabs : Nat) (present : List Glyph) : List Glyph → List Glyph
  | [] => present.reverse
  | glyph :: rest =>
    let run := if glyph.run = 0 then 0 else glyph.run + tabs
    if glyph.char = '\t' then
      let part := (⟨' ', run⟩ :: present).reverse
      let reached := position + lineCells part
      let stop := (reached + tabStop - 1) / tabStop * tabStop
      part ++ List.replicate (stop - reached) ⟨' ', run⟩ ++ expandTabsFrom stop (tabs + 1) [] rest
    else expandTabsFrom position tabs (⟨glyph.char, run⟩ :: present) rest

/-- A line with blanks for its tabs. -/
def expandTabs (line : List Glyph) : List Glyph :=
  expandTabsFrom 0 0 [] line

/-! ## 2. Words -/

/-- The words of the rest of a line, each with the blanks after it.  The glyphs of the present word
are given, last first, and whether it has more than blanks yet. -/
def wordsFrom (present : List Glyph) (begun : Bool) : List Glyph → List (List Glyph)
  | [] => if begun then [present.reverse] else []
  | glyph :: rest =>
    if Text.isBlank glyph.char then wordsFrom (glyph :: present) begun rest
    else if begun && present.head?.any fun last => Text.isBlank last.char then
      present.reverse :: wordsFrom [glyph] true rest
    else wordsFrom (glyph :: present) true rest

/-- The words of a line; the first has the blanks before it as well. -/
def words (line : List Glyph) : List (List Glyph) :=
  wordsFrom [] false line

/-- The line without the blanks at its end. -/
def dropBlankEnd (line : List Glyph) : List Glyph :=
  (line.reverse.dropWhile fun glyph => Text.isBlank glyph.char).reverse

/-! ## 3. Cutting by cells -/

/-- Cuts clusters into full lines; the present line and the number of its cells are given. -/
def chop (width : Nat) (present : List Char) (used : Nat) : List Cluster → List (List Char)
  | [] => [present]
  | cluster :: rest =>
    if used + cluster.cells > width then present :: chop width cluster.text cluster.cells rest
    else chop width (present ++ cluster.text) (used + cluster.cells) rest

/-- Takes a line apart into parts of the same lengths as the given ones. -/
def takeInTurn : List (List Char) → List Glyph → List (List Glyph)
  | [], _ => []
  | part :: rest, line => line.take part.length :: takeInTurn rest (line.drop part.length)

/-- A word that is cut into full lines. -/
def fold (width : Nat) (word : List Glyph) : List (List Glyph) :=
  takeInTurn (chop width [] 0 (clusters (chars word))) word

/-- The clusters that there is room for; one that is cut in half becomes a blank. -/
def crop (room : Nat) : List Cluster → List Char
  | [] => []
  | cluster :: rest =>
    if cluster.cells ≤ room then cluster.text ++ crop (room - cluster.cells) rest
    else List.replicate (min room 1) ' '

/-- The beginning of a line with other characters in the same runs. -/
def recast (text : List Char) (line : List Glyph) : List Glyph :=
  List.zipWith (fun c glyph => { glyph with char := c }) text line

/-! ## 4. Breaking -/

/-- What becomes of a word that is longer than a line. -/
inductive Overflow
  | fold
  | ellipsis
deriving DecidableEq, Repr

/-- Breaks words into lines; the present line and the number of its cells are given. -/
def breakWords (overflow : Overflow) (width : Nat) (present : List Glyph) (used : Nat) :
    List (List Glyph) → List (List Glyph)
  | [] => [present]
  | word :: rest =>
    if used + lineCells (dropBlankEnd word) ≤ width then
      breakWords overflow width (present ++ word) (used + lineCells word) rest
    else
      let folded :=
        if overflow = .fold ∧ width < lineCells (dropBlankEnd word) then fold width word
        else [word]
      let last := folded.getLastD []
      (if present.isEmpty then [] else [present]) ++ folded.dropLast ++
        breakWords overflow width last (lineCells last) rest

/-- Drops blanks at the end of a line, one for each character that the line is too long. -/
def trimExcess (width : Nat) (line : List Glyph) : List Glyph :=
  let atEnd := line.length - (dropBlankEnd line).length
  line.take (line.length - min atEnd (line.length - width))

/-- Cuts off what a line has beyond the width. -/
def cutOff (overflow : Overflow) (width : Nat) (line : List Glyph) : List Glyph :=
  if lineCells line ≤ width then line
  else
    match overflow with
    | .fold => recast (crop width (clusters (chars line))) line
    | .ellipsis => recast (crop (width - 1) (clusters (chars line)) ++ ['…']) line

/-- Breaks one line. -/
def wrapLine (overflow : Overflow) (width : Nat) (line : List Glyph) : List (List Glyph) :=
  let line := expandTabs line
  let broken := match words line with
    | [] => [line]
    | found => breakWords overflow width [] 0 found
  broken.map fun part => cutOff overflow width (trimExcess width part)

/-- Breaks the lines of a text so that each fits into a width. -/
def wrap (overflow : Overflow) (width : Nat) (text : List Glyph) : List (List Glyph) :=
  (splitGlyphs '\n' text).flatMap (wrapLine overflow width)

/-! ## 5. Filling -/

/-- The runs of a line. -/
def runs : List Glyph → List (List Glyph)
  | [] => []
  | glyph :: rest =>
    match runs rest with
    | (next :: part) :: others =>
      if next.run = glyph.run then (glyph :: next :: part) :: others
      else [glyph] :: (next :: part) :: others
    | others => [glyph] :: others

/-- The characters of runs up to a number of cells; the run that reaches it is cut. -/
def cropRuns (room : Nat) : List (List Char) → List Char
  | [] => []
  | run :: rest =>
    if Text.cells run < room then run ++ cropRuns (room - Text.cells run) rest
    else if Text.cells run = room then run
    else crop room (clusters run)

/-- The sum of some numbers. -/
def total (numbers : List Nat) : Nat :=
  numbers.foldl (· + ·) 0

/-- Makes runs take a number of cells, each run measured by itself. -/
def fillRuns (width : Nat) (parts : List (List Char)) : List Char :=
  let used := total (parts.map Text.cells)
  if used ≤ width then parts.flatten ++ List.replicate (width - used) ' '
  else cropRuns width parts

/-- Makes a line take a number of cells. -/
def fill (width : Nat) (line : List Glyph) : List Char :=
  let filled := line ++ List.replicate (width - lineCells line) ⟨' ', 0⟩
  fillRuns width ((runs filled).map chars)

end ComponentPasses.Console

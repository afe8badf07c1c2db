import ComponentPasses.Console.Emoji

/-!
# Console markup

Text for the console may hold tags: square brackets around a name, as in `[bold]`.  Text that is to
be shown as it is must have its brackets escaped, which `escape` does with a backslash before each
bracket that begins something shaped like a tag.  `plain` gives the text that is left when the tags
of a marked-up text have been obeyed.

Something is shaped like a tag when, after the bracket, a small ASCII letter or one of `#`, `/`,
`@` comes first and a closing bracket comes before another opening one.  In front of a tag each two
backslashes stand for one, and a backslash left over makes the tag text that is shown; any other
bracket takes up the backslash right before it.

Tags cut a text into stretches, and a tag that is shown is a stretch of its own.  Each stretch by
itself has the names of its emoji replaced.  The console shows no bell, backspace, vertical tab,
form feed or carriage return.

What is shown is kept as **glyphs**: each character with the number of tags that were obeyed before
it, since a console is sent the characters between two tags together.
-/

namespace ComponentPasses.Console

/-- Whether a closing bracket comes before another opening one. -/
def closes : List Char → Bool
  | [] => false
  | c :: rest => if c = ']' then true else if c = '[' then false else closes rest

/-- Whether what follows an opening bracket makes a tag. -/
def startsTag : List Char → Bool
  | [] => false
  | c :: rest => (('a' ≤ c && c ≤ 'z') || c == '#' || c == '/' || c == '@') && closes rest

/-- A run of backslashes. -/
def backslashes (count : Nat) : List Char :=
  List.replicate count '\\'

/-- Escapes the rest of a text, where `pending` backslashes have just been read. -/
def escapeFrom (pending : Nat) : List Char → List Char
  | [] => backslashes pending
  | c :: rest =>
    if c = '\\' then escapeFrom (pending + 1) rest
    else if c = '[' ∧ startsTag rest then backslashes (2 * pending + 1) ++ c :: escapeFrom 0 rest
    else backslashes pending ++ c :: escapeFrom 0 rest

/-- Doubles a single backslash at the end, so that it cannot escape what is put after the text. -/
def guardEnd (s : List Char) : List Char :=
  match s.reverse with
  | ['\\'] => s ++ ['\\']
  | '\\' :: c :: _ => if c = '\\' then s else s ++ ['\\']
  | _ => s

/-- The text with its brackets escaped, so that it is shown as it is. -/
def escape (s : String) : String :=
  String.ofList (guardEnd (escapeFrom 0 s.toList))

/-- Where the reading of a marked-up text is: between tags, inside a tag that is obeyed, or inside
one that is shown. -/
inductive Standing
  | between
  | obeyed
  | shown
deriving DecidableEq, Repr

/-- What stands between two tags, and how many tags were obeyed before it. -/
structure Stretch where
  text : List Char
  tags : Nat

/-- The stretches of the rest of a text, where so many tags have been obeyed and the characters of
the present stretch are given, last first. -/
def stretchesFrom (standing : Standing) (tags : Nat) (present : List Char) :
    List Char → List Stretch
  | [] => [⟨present.reverse, tags⟩]
  | c :: rest =>
    match standing with
    | .between =>
      if c = '[' ∧ startsTag rest then
        let count := (present.takeWhile (· = '\\')).length
        ⟨(present.drop count).reverse, tags⟩ :: ⟨backslashes (count / 2), tags⟩ ::
          if count % 2 = 1 then stretchesFrom .shown tags [c] rest
          else stretchesFrom .obeyed (tags + 1) [] rest
      else stretchesFrom .between tags (c :: present) rest
    | .obeyed => stretchesFrom (if c = ']' then .between else .obeyed) tags [] rest
    | .shown =>
      if c = ']' then ⟨(c :: present).reverse, tags⟩ :: stretchesFrom .between tags [] rest
      else stretchesFrom .shown tags (c :: present) rest

/-- Drops each backslash right before an opening bracket. -/
def unescape : List Char → List Char
  | '\\' :: '[' :: rest => '[' :: unescape rest
  | c :: rest => c :: unescape rest
  | [] => []

/-- Whether the console leaves a character out. -/
def isUnshown (c : Char) : Bool :=
  [7, 8, 11, 12, 13].contains c.toNat

/-- A character that is shown, and the run of characters it belongs to: those that are sent to the
console together.  The run of number zero has no tag before it. -/
structure Glyph where
  char : Char
  run : Nat
deriving DecidableEq, Repr

/-- What is shown of a stretch. -/
def Stretch.glyphs (stretch : Stretch) : List Glyph :=
  ((replaceEmoji (unescape stretch.text)).filter fun c => !isUnshown c).map (⟨·, stretch.tags⟩)

/-- What is shown of a marked-up text. -/
def glyphs (s : String) : List Glyph :=
  (stretchesFrom .between 0 [] s.toList).flatMap Stretch.glyphs

/-- The characters of glyphs. -/
def chars (line : List Glyph) : List Char :=
  line.map (·.char)

/-- The text that is shown of a marked-up text. -/
def plain (s : String) : String :=
  String.ofList (chars (glyphs s))

end ComponentPasses.Console

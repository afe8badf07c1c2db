import ComponentPasses.Console.EmojiNames
import ComponentPasses.Text.Blank
import ComponentPasses.Text.Cut
import ComponentPasses.Text.Hexadecimal
import ComponentPasses.Text.Lowercase

/-!
# Emoji by name

In console markup a name between two colons stands for an emoji, in any case: `:smile:`.  A name may
end with a wish for how the emoji is to be drawn, `-emoji` or `-text`, which becomes the character
that asks a terminal for it.  There is no blank between the colons, and a name that is not known is
shown as it was written, both colons included.
-/

namespace ComponentPasses.Console

/-- Reads an entry of the table of names. -/
def readEmojiEntry? (entry : String) : Option (String × List Char) := do
  let (name, codes) ← Text.cutAtFirst '=' entry.toList
  let numbers ← (Text.pieces ',' codes).mapM Text.hexNumber?
  pure (String.ofList name, numbers.map Char.ofNat)

/-- The emoji by their names. -/
def namedEmoji : List (String × List Char) :=
  emojiRows.flatMap fun row => (Text.split ' ' row).filterMap readEmojiEntry?

/-- The wishes that may end a name, with the characters that they become. -/
def emojiWishes : List (List Char × Char) :=
  [("-emoji".toList, '\ufe0f'), ("-text".toList, '\ufe0e')]

/-- Takes the wish off the end of a name. -/
def takeWish (name : List Char) : List Char × List Char :=
  match emojiWishes.find? fun wish => wish.1.isSuffixOf name with
  | some (wish, character) => (name.take (name.length - wish.length), [character])
  | none => (name, [])

/-- What a name between two colons is shown as. -/
def showEmoji (written : List Char) : List Char :=
  let (name, wish) := takeWish written
  match namedEmoji.lookup (Text.lowercase (String.ofList name)) with
  | some emoji => emoji ++ wish
  | none => ':' :: written ++ [':']

/-- Replaces the names of emoji in the rest of a text; where a colon is open, the characters since
then are given, last first. -/
def replaceEmojiFrom (sinceColon : Option (List Char)) : List Char → List Char
  | [] =>
    match sinceColon with
    | none => []
    | some name => ':' :: name.reverse
  | c :: rest =>
    match sinceColon with
    | none => if c = ':' then replaceEmojiFrom (some []) rest else c :: replaceEmojiFrom none rest
    | some name =>
      if c = ':' then showEmoji name.reverse ++ replaceEmojiFrom none rest
      else if Text.isBlank c then ':' :: name.reverse ++ c :: replaceEmojiFrom none rest
      else replaceEmojiFrom (some (c :: name)) rest

/-- Replaces the names of emoji in a text. -/
def replaceEmoji (s : List Char) : List Char :=
  replaceEmojiFrom none s

end ComponentPasses.Console

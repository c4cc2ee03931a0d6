import Taxonomy.Text.Blank
import Taxonomy.Text.Case
import Taxonomy.Text.EmojiNames

/-!
# Emoji codes

A name between colons stands for an emoji. It may end in the form that is asked for, the form of an
emoji or of a plain sign. Names that are not known stay as they are written.

* `Emoji.find?`: the emoji of a name.
* `Emoji.replace`: a text with its emoji codes replaced.
-/

namespace Taxonomy.Emoji

open Text (isBlank)

/-- The code points of a row of the table, written in base 16 between commas. -/
def codes (s : String) : List Char :=
  (s.splitOn ",").map fun digits => Char.ofNat <| digits.toList.foldl (fun n c =>
    16 * n + (if c.isDigit then c.toNat - '0'.toNat else c.toNat - 'a'.toNat + 10)) 0

/-- The code points of a name in the table, where `mark` stands between the two. -/
def row? (name mark : String) : Option (List Char) :=
  let key := name ++ mark
  Text.emojiRows.findSome? fun row =>
    ((row.splitOn " ").find? (·.startsWith key)).map fun item =>
      codes (String.ofList (item.toList.drop key.length))

/-- The endings of names that ask for a skin tone, with the code points of the tones. -/
def tones : List (String × Nat) := [
  ("_light_skin_tone", 0x1f3fb), ("_medium-light_skin_tone", 0x1f3fc),
  ("_medium_skin_tone", 0x1f3fd), ("_medium-dark_skin_tone", 0x1f3fe),
  ("_dark_skin_tone", 0x1f3ff)]

/-- The character that asks for the form of an emoji. -/
def emojiForm : Char := '\ufe0f'

/-- The character that asks for the form of a plain sign. -/
def textForm : Char := '\ufe0e'

/-- An emoji in a skin tone, which follows its first character. -/
def inTone (tone : Char) : List Char → List Char
  | [] => []
  | c :: d :: cs => c :: tone :: (if d == emojiForm then cs else d :: cs)
  | [c] => [c, tone]

/-- **The emoji of a name.** -/
def find? (name : String) : Option (List Char) :=
  ((row? name "=").or (row? name ":")).or <| tones.findSome? fun (ending, tone) =>
    if name.endsWith ending then
      (row? (String.ofList (name.toList.take (name.length - ending.length))) ":").map
        (inTone (Char.ofNat tone))
    else none

/-- A name without the form that it ends in, and the form. -/
def splitForm (name : String) : String × List Char :=
  let split (ending : String) (form : Char) : Option (String × List Char) :=
    if name.endsWith ending then
      some (String.ofList (name.toList.take (name.length - ending.length)), [form])
    else none
  ((split "-emoji" emojiForm).or (split "-text" textForm)).getD (name, [])

/-- What a name between colons stands for. -/
def shown (name : String) : List Char :=
  let (base, form) := splitForm name
  match find? (Text.lower base) with
  | some emoji => emoji ++ form
  | none => ':' :: name.toList ++ [':']

/-- The text of characters with emoji codes replaced; `opened` are the characters since the last
colon that may begin a code, in reverse. -/
def replaceFrom : Option (List Char) → List Char → List Char
  | none, [] => []
  | some name, [] => ':' :: name.reverse
  | none, c :: cs => if c == ':' then replaceFrom (some []) cs else c :: replaceFrom none cs
  | some name, c :: cs =>
    if c == ':' then shown (String.ofList name.reverse) ++ replaceFrom none cs
    else if isBlank c then ':' :: name.reverse ++ c :: replaceFrom none cs
    else replaceFrom (some (c :: name)) cs

/-- **A text with its emoji codes replaced.** -/
def replace (s : String) : String := String.ofList (replaceFrom none s.toList)

end Taxonomy.Emoji

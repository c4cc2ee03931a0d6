import Taxonomy.Text.Names.Aliases
import Taxonomy.Text.Names.Ancient
import Taxonomy.Text.Names.Letters
import Taxonomy.Text.Names.Pictures
import Taxonomy.Text.Names.Syllables
import Taxonomy.Text.Names.Symbols
import Taxonomy.Text.Names.Words
import Taxonomy.Text.Ranges

/-!
# Names of characters

The characters that names stand for (Unicode 14).

Most names are in tables. A table lists the names of characters in the order of their code points.
For each name it tells how many words at the beginning, and how many at the end, are those of the
name before it, and gives the words between them: a frequent word by a small letter and a second
character, any other word as it is. Where code points are left out, the next one is written in
base 16 behind a tilde.

The names of syllables and of ideographs follow rules.

* `charNamed?`: the code point of a name.
-/

namespace Taxonomy.Text.Names

/-- The characters that stand for a number of words at the beginning, from none on. -/
def headMarks : List Char := "!_$%&()*+,.:".toList

/-- The characters that stand for a number of words at the end, from one on. -/
def tailMarks : List Char := ";<=>?/[]^|".toList

/-- The value of a digit of base 16, in capitals. -/
def hexDigit? (c : Char) : Option Nat :=
  if c.isDigit then some (c.toNat - '0'.toNat)
  else if 'A' ≤ c && c ≤ 'F' then some (c.toNat - 'A'.toNat + 10)
  else none

/-- The number that digits of base 16 denote, if they are digits. -/
def hexNumber? (cs : List Char) : Option Nat :=
  cs.foldlM (fun n c => (hexDigit? c).map (16 * n + ·)) 0

/-- The frequent words. -/
def frequentWords : Array String := (wordRows.flatMap (·.splitOn " ")).toArray

/-- The place of a second character among those of a frequent word. -/
def secondPlace (c : Char) : Nat :=
  if c.isLower then c.toNat - 'a'.toNat
  else if c.isUpper then c.toNat - 'A'.toNat + 26
  else c.toNat - '0'.toNat + 52

/-- The frequent word of two characters. -/
def frequentWord (c d : Char) : String :=
  frequentWords[62 * (c.toNat - 'a'.toNat) + secondPlace d]?.getD ""

/-- The words that are given for a name; `word` is what was read of the current one, in reverse. -/
def givenWords : List Char → List Char → List String
  | word, [] => if word.isEmpty then [] else [String.ofList word.reverse]
  | word, c :: cs =>
    let before := if word.isEmpty then [] else [String.ofList word.reverse]
    if c == ' ' then before ++ givenWords [] cs
    else if c.isLower then
      match cs with
      | d :: cs => before ++ frequentWord c d :: givenWords [] cs
      | [] => before
    else givenWords (c :: word) cs

/-- Does the character belong to the words that are given for a name? -/
def isGiven (c : Char) : Bool := c.isAlphanum || c == ' ' || c == '-'

/-- A jump to a code point, if there is one at the beginning, and what follows it. -/
def jump? : List Char → Option (Nat × List Char)
  | '~' :: cs =>
    let digits := cs.takeWhile fun c => (hexDigit? c).isSome
    (hexNumber? digits).map fun n => (n, cs.drop digits.length)
  | _ => none

/-- The number of words at the end that are those of the name before, and what follows it. -/
def readTail : List Char → Nat × List Char
  | [] => (0, [])
  | c :: cs => match tailMarks.idxOf? c with
    | some i => (i + 1, cs)
    | none => (0, c :: cs)

/-- The code point that has the wanted words in a table, from the code point `next` on, where
`before` are the words of the name before. -/
def findIn (wanted : List String) : Nat → Nat → List String → List Char → Option Nat
  | 0, _, _, _ => none
  | fuel + 1, next, before, cs =>
    let (code, cs) := (jump? cs).getD (next, cs)
    let (tail, cs) := readTail cs
    match cs with
    | [] => none
    | c :: cs =>
      let head := (headMarks.idxOf? c).getD 0
      let given := cs.takeWhile isGiven
      let words := before.take head ++ givenWords [] given ++ before.drop (before.length - tail)
      if words == wanted then some code
      else findIn wanted fuel (code + 1) words (cs.drop given.length)

/-- The code point that has the wanted words in a table. -/
def findTable (wanted : List String) (table : List String) : Option Nat :=
  let cs := table.flatMap String.toList
  findIn wanted cs.length 0 [] cs

/-- The code point of another name. -/
def findAlias (name : String) : Option Nat :=
  let key := name ++ "="
  aliasRows.findSome? fun row =>
    ((row.splitOn ";").find? (·.startsWith key)).bind fun item =>
      hexNumber? (item.toList.drop key.length)

/-- The beginnings of names that end in a code point, with the code points. -/
def numberedNames : List (String × List (Nat × Nat)) := [
  ("CJK COMPATIBILITY IDEOGRAPH-", [(0xf900, 0xfa6d), (0xfa70, 0xfad9), (0x2f800, 0x2fa1d)]),
  ("KHITAN SMALL SCRIPT CHARACTER-", [(0x18b00, 0x18cd5)]),
  ("NUSHU CHARACTER-", [(0x1b170, 0x1b2fb)])]

/-- The unified ideographs. -/
def ideographRanges : List (Nat × Nat) := [
  (0x3400, 0x4dbf), (0x4e00, 0x9fff), (0x20000, 0x2a6df), (0x2a700, 0x2b738), (0x2b740, 0x2b81d),
  (0x2b820, 0x2cea1), (0x2ceb0, 0x2ebe0), (0x30000, 0x3134a)]

/-- Is the code point in one of the ranges? -/
def isAmong (ranges : List (Nat × Nat)) (n : Nat) : Bool := ranges.any fun r => r.1 ≤ n && n ≤ r.2

/-- The beginning of the names of unified ideographs. -/
def ideographStart : String := "CJK UNIFIED IDEOGRAPH-"

/-- The unified ideograph with a number of four or five digits. -/
def ideograph? (digits : List Char) : Option Nat :=
  if digits.length == 4 || digits.length == 5 then
    (hexNumber? digits).filter (isAmong ideographRanges)
  else none

/-- The beginning of the names of Korean syllables. -/
def syllableStart : String := "HANGUL SYLLABLE "

/-- The leading consonants of Korean syllables. -/
def leads : List String := [
  "G", "GG", "N", "D", "DD", "R", "M", "B", "BB", "S", "SS", "", "J", "JJ", "C", "K", "T", "P", "H"]

/-- The vowels of Korean syllables. -/
def vowels : List String := [
  "A", "AE", "YA", "YAE", "EO", "E", "YEO", "YE", "O", "WA", "WAE", "OE", "YO", "U", "WEO", "WE",
  "WI", "YU", "EU", "YI", "I"]

/-- The trailing consonants of Korean syllables. -/
def trails : List String := [
  "", "G", "GG", "GS", "N", "NJ", "NH", "D", "L", "LG", "LM", "LB", "LS", "LT", "LP", "LH", "M",
  "B", "BS", "S", "SS", "NG", "J", "C", "K", "T", "P", "H"]

/-- The Korean syllable of a name: a lead, a vowel and a trail. -/
def syllable? (name : String) : Option Nat :=
  leads.zipIdx.findSome? fun (lead, i) =>
    if !name.startsWith lead then none
    else vowels.zipIdx.findSome? fun (vowel, j) =>
      if !name.startsWith (lead ++ vowel) then none
      else trails.zipIdx.findSome? fun (trail, k) =>
        if name == lead ++ vowel ++ trail then
          some (0xac00 + (i * vowels.length + j) * trails.length + k)
        else none

/-- The code point of a name that ends in it. -/
def findNumbered (name : String) : Option Nat :=
  numberedNames.findSome? fun (start, ranges) =>
    if name.startsWith start then
      let digits := name.toList.drop start.length
      if digits.length == 4 || digits.head? != some '0' then
        (hexNumber? digits).filter (isAmong ranges)
      else none
    else none

/-- **The code point of a name.** The beginnings of the names of syllables and ideographs are in
capitals, in other names the case of letters does not matter. -/
def charNamed? (name : String) : Option Nat :=
  let rest (start : String) : List Char := name.toList.drop start.length
  if name.startsWith syllableStart then syllable? (String.ofList (rest syllableStart))
  else if name.startsWith ideographStart then ideograph? (rest ideographStart)
  else
    let upper := String.ofList (name.toList.map Char.toUpper)
    let wanted := upper.splitOn " "
    (findAlias upper).or <| (findNumbered upper).or <|
      [letters, symbols, syllables, ancient, pictures].findSome? (findTable wanted)

end Taxonomy.Text.Names

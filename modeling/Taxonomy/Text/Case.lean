import Taxonomy.Text.CaseTables

/-!
# Letter case

* `lower`, `upper`: the full case mappings. A capital sigma becomes a final sigma where it ends
  a word.
* `isUpper`: a text with a capital letter and without small or title-case letters.
* `foldChar`: the mapping of single characters by which texts are compared without case.
-/

namespace Taxonomy.Text

/-- The image of a code point under a list of runs, or itself. -/
def mapRuns (runs : List CaseRun) (n : Nat) : Nat := (runs.findSome? (·.image? n)).getD n

/-- The capital letter I with a dot, whose lower case has two characters. -/
def dottedI : Char := '\u0130'

/-- **The lower case of a single character**; the dotted I becomes a plain one. -/
def foldChar (c : Char) : Char :=
  if c.toNat < 0x80 then c.toLower
  else if c == dottedI then 'i'
  else Char.ofNat (mapRuns lowerRuns c.toNat)

/-- Is the first character that is not transparent a cased one? -/
def meetsCased (cs : List Char) : Bool :=
  match cs.dropWhile (inRuns transparentClass) with
  | [] => false
  | c :: _ => inRuns casedClass c

/-- Lower case of the characters `cs`, where `before` are the characters before them, the nearest
first. A capital sigma is final when a word ends with it. -/
def lowerChars (before : List Char) : List Char → List Char
  | [] => []
  | c :: cs =>
    let image :=
      if c == 'Σ' then [if meetsCased before && !meetsCased cs then 'ς' else 'σ']
      else if c == dottedI then ['i', '\u0307']
      else [foldChar c]
    image ++ lowerChars (c :: before) cs

/-- **The lower case of a text.** -/
def lower (s : String) : String := String.ofList (lowerChars [] s.toList)

/-- The upper case of a character. -/
def upperChar (c : Char) : List Char :=
  if c.toNat < 0x80 then [c.toUpper]
  else match upperExpansions.lookup c.toNat with
    | some ns => ns.map Char.ofNat
    | none => [Char.ofNat (mapRuns upperRuns c.toNat)]

/-- **The upper case of a text.** -/
def upper (s : String) : String := String.ofList (s.toList.flatMap upperChar)

/-- **Is the text in capitals?** It has an upper-case character, and none of its characters is in
lower or title case. -/
def isUpper (s : String) : Bool :=
  s.toList.any (inRuns upperClass) &&
    s.toList.all fun c => !inRuns lowerClass c && !inRuns titleClass c

/-- Does any of the code points from `first` to `last` have another case? -/
def anyCased (first last : Nat) : Bool :=
  let inside (n : Nat) := first ≤ n && n ≤ last
  inside dottedI.toNat || lowerRuns.any (·.meets first last) ||
    upperRuns.any (·.meets first last) || upperExpansions.any (inside ·.1)

/-- The characters whose lower case is `c`, itself among them if it is in lower case. -/
def unfoldChar (c : Char) : List Char :=
  let images := lowerRuns.filterMap fun r =>
    let n := ((c.toNat : Int) - r.shift).toNat
    if r.image? n == some c.toNat then some (Char.ofNat n) else none
  let images := if c == 'i' then dottedI :: images else images
  if foldChar c == c then c :: images else images

/-- The small letters that share an upper case with others, grouped by it. -/
def caseSiblings : List (List Nat) := [
  [0x69, 0x131], [0x73, 0x17f], [0xb5, 0x3bc], [0x345, 0x3b9, 0x1fbe], [0x390, 0x1fd3], [0x3b0,
  0x1fe3], [0x3b2, 0x3d0], [0x3b5, 0x3f5], [0x3b8, 0x3d1], [0x3ba, 0x3f0], [0x3c0, 0x3d6],
  [0x3c1, 0x3f1], [0x3c2, 0x3c3], [0x3c6, 0x3d5], [0x432, 0x1c80], [0x434, 0x1c81], [0x43e,
  0x1c82], [0x441, 0x1c83], [0x442, 0x1c84, 0x1c85], [0x44a, 0x1c86], [0x463, 0x1c87], [0x1c88,
  0xa64b], [0x1e61, 0x1e9b], [0xfb05, 0xfb06]]

/-- **Are two small letters equal without case?** They are the same, or share an upper case. -/
def sameLetter (m n : Nat) : Bool :=
  m == n || caseSiblings.any fun ls => ls.contains m && ls.contains n

/-- A small letter and the others that share its upper case. -/
def siblings (n : Nat) : List Nat := (caseSiblings.find? (·.contains n)).getD [n]

end Taxonomy.Text

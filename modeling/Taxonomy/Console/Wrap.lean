import Taxonomy.Console.Line
import Taxonomy.Text.Blank

/-!
# Broken lines

A line that is too long for a width is broken in front of the words that do not fit. A word that
is too long for any line is folded, or is left to be cut.

* `wrapped`: a line, broken.
* `flatten_wrapped`: breaking a line loses nothing.
* `shorten`: a line cut to a width.
-/

namespace Taxonomy.Console

open Text (isBlank lineCells Grapheme graphemes)

/-- What happens to a word that is too long for a line: it goes on in the next one, or it ends in
dots. -/
inductive Overflow where
  | fold
  | dots
  deriving DecidableEq, Repr

/-- A line without the blanks at its end. -/
def trimEnd (cs : List Char) : List Char := (cs.reverse.dropWhile isBlank).reverse

/-- A line cut in front of every word. -/
def pieces : List Char → List (List Char)
  | [] => []
  | c :: cs =>
    match pieces cs with
    | [] => [[c]]
    | p :: ps =>
      if isBlank c && !(p.head?.all isBlank) then [c] :: p :: ps else (c :: p) :: ps

/-- **The words of a line**, each with the blanks behind it; blanks in front of the first word
belong to that word. -/
def words (cs : List Char) : List (List Char) :=
  match pieces cs with
  | front :: word :: rest =>
    if front.all isBlank then (front ++ word) :: rest else front :: word :: rest
  | ps => ps

/-- A word put into lines of a width: the full lines and the last one. So far `line` holds the first
`used` cells of it. -/
def foldWord (width : Nat) (line : List Char) (used : Nat) :
    List Grapheme → List (List Char) × List Char
  | [] => ([], line)
  | (g, n) :: gs =>
    if width < used + n then
      let (full, last) := foldWord width g n gs
      (line :: full, last)
    else foldWord width (line ++ g) (used + n) gs

/-- A line that is full, unless there is nothing in it. -/
def fullLine (line : List Char) : List (List Char) := if line.isEmpty then [] else [line]

/-- Words put into lines. The line that is being filled is `line`, and its words have `used`
cells. -/
def fillLines (overflow : Overflow) (width : Nat) (line : List Char) (used : Nat) :
    List (List Char) → List (List Char)
  | [] => [line]
  | w :: ws =>
    let asked := lineCells (trimEnd w)
    if used + asked ≤ width then
      fillLines overflow width (line ++ w) (used + lineCells w) ws
    else if overflow == .fold && width < asked then
      let (full, last) := foldWord width [] 0 (graphemes w)
      fullLine line ++ full ++ fillLines overflow width last (lineCells last) ws
    else fullLine line ++ fillLines overflow width w (lineCells w) ws

/-- **A line broken** in front of the words that do not fit. -/
def wrapped (overflow : Overflow) (width : Nat) (cs : List Char) : List (List Char) :=
  fillLines overflow width [] 0 (words cs)

theorem flatten_pieces (cs : List Char) : (pieces cs).flatten = cs := by
  induction cs with
  | nil => rfl
  | cons c cs ih =>
    unfold pieces
    split
    · rename_i h
      simpa [h] using ih
    · rename_i p ps h
      rw [h] at ih
      split <;> simpa using ih

theorem flatten_words (cs : List Char) : (words cs).flatten = cs := by
  have h := flatten_pieces cs
  unfold words
  split
  · rename_i front word rest hp
    rw [hp] at h
    split <;> simpa using h
  · exact h

theorem flatten_foldWord (width : Nat) (line : List Char) (used : Nat) (gs : List Grapheme) :
    (foldWord width line used gs).1.flatten ++ (foldWord width line used gs).2 =
      line ++ gs.flatMap Prod.fst := by
  fun_induction foldWord width line used gs <;> simp_all

theorem flatten_fullLine (line : List Char) : (fullLine line).flatten = line := by
  unfold fullLine
  split <;> simp_all

theorem flatten_fillLines (overflow : Overflow) (width : Nat) (line : List Char) (used : Nat)
    (ws : List (List Char)) :
    (fillLines overflow width line used ws).flatten = line ++ ws.flatten := by
  induction ws generalizing line used with
  | nil => simp [fillLines]
  | cons w ws ih =>
    have hw := flatten_foldWord width [] 0 (graphemes w)
    rw [Text.flatMap_graphemes] at hw
    unfold fillLines
    simp only
    split
    · simp [ih]
    · split
      · simp only [List.flatten_append, flatten_fullLine, ih, List.flatten_cons]
        rw [List.append_assoc, ← List.append_assoc (List.flatten _), hw]
        simp
      · simp [flatten_fullLine, ih]

/-- **Breaking a line loses nothing.** -/
theorem flatten_wrapped (overflow : Overflow) (width : Nat) (cs : List Char) :
    (wrapped overflow width cs).flatten = cs := by
  simp [wrapped, flatten_fillLines, flatten_words]

/-- The groups of characters that fill a width; half of a wide group becomes a blank. -/
def crop : Nat → List Grapheme → List Char
  | 0, _ | _, [] => []
  | width, (g, n) :: gs => if n ≤ width then g ++ crop (width - n) gs else [' ']

/-- **A line that is too long for a width is cut**, or ends in dots. -/
def shorten (overflow : Overflow) (width : Nat) (cs : List Char) : List Char :=
  if lineCells cs ≤ width then cs
  else match overflow with
    | .fold => crop width (graphemes cs)
    | .dots => crop (width - 1) (graphemes cs) ++ ['…']

/-- A broken line without the blanks that stand beyond the width. -/
def settle (width : Nat) (cs : List Char) : List Char :=
  cs.take (max (trimEnd cs).length width)

end Taxonomy.Console

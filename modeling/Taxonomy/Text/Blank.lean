/-!
# Blank characters

Which characters separate words, and how a text is trimmed of them.

* `isBlank`: the blanks of Unicode (white space and the separators of ASCII).
* `trim`: a text without the blanks at its two ends.
* `trim_trim`: trimming twice is trimming once.
-/

namespace Taxonomy.Text

/-- **Blanks**: the characters of the white-space class of Unicode, with the four information
separators of ASCII. -/
def isBlank (c : Char) : Bool :=
  let n := c.toNat
  (0x09 ≤ n && n ≤ 0x0d) || (0x1c ≤ n && n ≤ 0x20) || n == 0x85 || n == 0xa0 || n == 0x1680 ||
    (0x2000 ≤ n && n ≤ 0x200a) || n == 0x2028 || n == 0x2029 || n == 0x202f || n == 0x205f ||
    n == 0x3000

/-- A list of characters without the blanks at its two ends. -/
def trimChars (cs : List Char) : List Char :=
  ((cs.dropWhile isBlank).reverse.dropWhile isBlank).reverse

/-- **A text without the blanks at its two ends.** -/
def trim (s : String) : String := String.ofList (trimChars s.toList)

/-- The words of a text, which blanks separate. -/
def blankWords (s : String) : List String :=
  ((s.toList.splitOnP isBlank).filter (!·.isEmpty)).map String.ofList

/-- A text is blank when nothing is left of it after trimming. -/
def isBlankText (s : String) : Bool := s.toList.all isBlank

theorem dropWhile_dropWhile {α : Type _} (p : α → Bool) (xs : List α) :
    (xs.dropWhile p).dropWhile p = xs.dropWhile p := by
  induction xs with
  | nil => rfl
  | cons x xs ih => by_cases h : p x <;> simp [List.dropWhile, h, ih]

/-- Dropping blanks from the back keeps a first character that is not blank. -/
theorem dropWhile_reverse_dropWhile {α : Type _} (p : α → Bool) {xs : List α}
    (h : xs.dropWhile p = xs) :
    ((xs.reverse.dropWhile p).reverse).dropWhile p = (xs.reverse.dropWhile p).reverse := by
  cases xs with
  | nil => rfl
  | cons x xs =>
    have hx : p x = false := by
      cases hp : p x with
      | false => rfl
      | true =>
        have hle := (List.dropWhile_suffix p (l := xs)).length_le
        simp only [List.dropWhile, hp] at h
        have := congrArg List.length h
        simp at this
        omega
    have key : ∀ ys : List α, ∃ zs, ((ys ++ [x]).dropWhile p) = zs ++ [x] := by
      intro ys
      induction ys with
      | nil => exact ⟨[], by simp [hx]⟩
      | cons y ys ih =>
        by_cases hy : p y
        · simpa [List.dropWhile, hy] using ih
        · exact ⟨y :: ys, by simp [hy]⟩
    obtain ⟨zs, hzs⟩ := key xs.reverse
    simp [hzs, hx]

theorem trimChars_trimChars (cs : List Char) : trimChars (trimChars cs) = trimChars cs := by
  unfold trimChars
  rw [dropWhile_reverse_dropWhile isBlank (dropWhile_dropWhile isBlank cs), List.reverse_reverse,
    dropWhile_dropWhile]

theorem trim_trim (s : String) : trim (trim s) = trim s := by
  simp [trim, trimChars_trimChars]

end Taxonomy.Text

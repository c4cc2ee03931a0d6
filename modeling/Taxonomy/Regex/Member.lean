import Taxonomy.Regex.Basic
import Taxonomy.Text.Blank
import Taxonomy.Text.Case
import Taxonomy.Text.Digit
import Taxonomy.Text.Letter

/-!
# Single characters

Which characters stand for a code point, a class or a set of an expression.

Without case, a character is folded and then looked up. A set holds the folded forms of its
members of the basic plane. A member beyond it stands for itself alone, as a code point, and for
what it holds in lower or upper case, as a range.
-/

namespace Taxonomy.Regex

/-- Does the class hold the character? -/
def inClass (ascii : Bool) (c : Char) : CharClass → Bool
  | .digit => if ascii then c.isDigit else Text.isDecimal c
  | .space => if ascii then " \t\n\r\x0b\x0c".toList.contains c else Text.isBlank c
  | .word => if ascii then c.isAlphanum || c == '_' else Text.isWordChar c

/-- A code point in lower case. -/
def foldCode (ascii : Bool) (n : Nat) : Nat :=
  if ascii then if 0x41 ≤ n && n ≤ 0x5a then n + 0x20 else n
  else if n.isValidChar then (Text.foldChar (Char.ofNat n)).toNat else n

/-- The first character of the upper case of a code point. -/
def raiseCode (n : Nat) : Nat :=
  if n.isValidChar then
    match Text.upperChar (Char.ofNat n) with
    | c :: _ => c.toNat
    | [] => n
  else n

/-- Are two code points equal without case? -/
def sameFolded (ascii : Bool) (m n : Nat) : Bool :=
  let a := foldCode ascii m
  let b := foldCode ascii n
  if ascii then a == b else Text.sameLetter a b

/-- Do any of the code points from `first` to `last` have case? -/
def anyCased (ascii : Bool) (first last : Nat) : Bool :=
  if ascii then (first ≤ 0x5a && 0x41 ≤ last) || (first ≤ 0x7a && 0x61 ≤ last)
  else Text.anyCased first last

/-- The first code point beyond the basic plane. -/
def planeSize : Nat := 0x10000

/-- Does a range of the basic plane hold a folded code point, or one that is equal to it without
case? -/
def rangeFolds (ascii : Bool) (first last n : Nat) : Bool :=
  let inside (m : Nat) := first ≤ m && m ≤ last && m < planeSize
  if ascii then inside n || (0x61 ≤ n && n ≤ 0x7a && inside (n - 0x20))
  else (Text.siblings n).any fun m => (Text.unfoldChar (Char.ofNat m)).any (inside ·.toNat)

/-- Does a member of a set stand for the character? -/
def itemHolds (ascii : Bool) (c : Char) : SetItem → Bool
  | .code n => n == c.toNat
  | .range first last => first ≤ c.toNat && c.toNat ≤ last
  | .cls k negated => inClass ascii c k != negated

/-- Does a member of a set stand for the character without case? -/
def itemFolds (ascii : Bool) (c : Char) (item : SetItem) : Bool :=
  let folded := foldCode ascii c.toNat
  match item with
  | .code n => if n < planeSize then sameFolded ascii n folded else n == folded
  | .range first last =>
    let inside (m : Nat) := first ≤ m && m ≤ last
    rangeFolds ascii first last folded ||
      (planeSize ≤ last && (inside folded || inside (raiseCode folded)))
  | .cls k negated => inClass ascii c k != negated

/-- Does a set without case need folding? -/
def itemCased (ascii : Bool) : SetItem → Bool
  | .code n => planeSize ≤ n || anyCased ascii n n
  | .range first last => planeSize ≤ last || anyCased ascii first last
  | .cls .. => false

/-- **How a test looks at characters**: for one code point or one set as they are, for a set
without case, or in another way. -/
inductive TestForm where
  | code
  | set
  | folded
  | other
  deriving DecidableEq, Repr

/-- **A test of single characters.** -/
structure CharTest where
  form : TestForm
  holds : Char → Bool

/-- Does the test look for one code point or in one set as they are? -/
def CharTest.isPlain (t : CharTest) : Bool := t.form == .code || t.form == .set

/-- The test for a code point. -/
def codeTest (mode : RegexMode) (negated : Bool) (n : Nat) : CharTest :=
  let ascii := mode.ascii
  if mode.ignoreCase && anyCased ascii n n then
    let alone := ascii || (Text.siblings (foldCode false n)).length == 1
    ⟨if alone then .other else .folded, fun c => sameFolded ascii n c.toNat != negated⟩
  else ⟨if negated then .other else .code, fun c => (n == c.toNat) != negated⟩

/-- The test for a set. -/
def setTest (mode : RegexMode) (negated : Bool) (items : List SetItem) : CharTest :=
  let ascii := mode.ascii
  if mode.ignoreCase && items.any (itemCased ascii) then
    ⟨.folded, fun c => items.any (itemFolds ascii c) != negated⟩
  else ⟨.set, fun c => items.any (itemHolds ascii c) != negated⟩

/-- **The test that a single character has to pass**, for an expression of one. -/
def test? : Regex → Option CharTest
  | .code mode negated n => some (codeTest mode negated n)
  | .any mode => some ⟨.other, fun c => mode.dotAll || c != '\n'⟩
  | .set mode negated items => some (setTest mode negated items)
  | .scoped body => test? body
  | .seq [r] => test? r
  | _ => none

end Taxonomy.Regex

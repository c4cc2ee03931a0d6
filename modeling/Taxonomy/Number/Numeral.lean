import Taxonomy.Number.Binary64
import Taxonomy.Text.Blank
import Taxonomy.Text.Digit

/-!
# Reading numerals

Integers and decimals as people write them: digits of any script, a sign, single underscores
between digits, blanks around.

* `readInteger`: an integer, or why the text is none.
* `readDecimal?`: a decimal, the words for infinity and NaN among them, as a binary64 number.
-/

namespace Taxonomy

open Text

/-- Why a text is not read as an integer. -/
inductive NumeralFault where
  | malformed
  | tooLong (digits : Nat)
  deriving DecidableEq, Repr

/-- **The longest numeral that is read**, in digits. -/
def maxDigits : Nat := 4300

/-- The blanks that may stand around a numeral: all but the four information separators. -/
def isNumeralBlank (c : Char) : Bool := isBlank c && !(0x1c ≤ c.toNat && c.toNat ≤ 0x1f)

/-- A numeral without the blanks around it. -/
def numeralBody (s : String) : List Char :=
  ((s.toList.dropWhile isNumeralBlank).reverse.dropWhile isNumeralBlank).reverse

/-- Splits off a sign; is it a minus? -/
def takeSign : List Char → Bool × List Char
  | '-' :: cs => (true, cs)
  | '+' :: cs => (false, cs)
  | cs => (false, cs)

/-- Does every underscore stand between two digits? -/
def underscoresSeparate : Option Char → List Char → Bool
  | _, [] => true
  | before, '_' :: rest =>
    (before.map isDecimal).getD false && (rest.head?.map isDecimal).getD false &&
      underscoresSeparate (some '_') rest
  | _, c :: rest => underscoresSeparate (some c) rest

/-- The values of the digits among the characters. -/
def digitValues (cs : List Char) : List Nat := cs.filterMap digitValue?

/-- The number that digits denote, the most significant first. -/
def ofDigits (ds : List Nat) : Nat := ds.foldl (fun n d => 10 * n + d) 0

/-- **Reads an integer.** A numeral over the limit is refused before what follows it is looked
at. -/
def readInteger (s : String) : Except NumeralFault Int := do
  let (negative, cs) := takeSign (numeralBody s)
  let ds := cs.takeWhile fun c => isDecimal c || c == '_'
  let rest := cs.dropWhile fun c => isDecimal c || c == '_'
  if ds.isEmpty || !underscoresSeparate none ds then throw .malformed
  let values := digitValues ds
  if maxDigits < values.length then throw (.tooLong values.length)
  if !rest.isEmpty then throw .malformed
  let n : Int := ofDigits values
  return if negative then -n else n

/-- The exponent part of a decimal: nothing, or a mark and an integer. -/
def readExponent? : List Char → Option Int
  | [] => some 0
  | c :: cs =>
    if c == 'e' || c == 'E' then
      let (negative, ds) := takeSign cs
      if ds.isEmpty || !ds.all isDecimal then none
      else
        let n : Int := ofDigits (digitValues ds)
        some (if negative then -n else n)
    else none

/-- **Reads a decimal.** -/
def readDecimal? (s : String) : Option Binary64 :=
  let body := numeralBody s
  if !underscoresSeparate none body then none
  else
    let (negative, cs) := takeSign (body.filter (· != '_'))
    let word := String.ofList (cs.map Char.toLower)
    if word == "inf" || word == "infinity" then some (.infinite negative)
    else if word == "nan" then some .nan
    else
      let whole := cs.takeWhile isDecimal
      let rest := cs.dropWhile isDecimal
      let (fraction, rest) := match rest with
        | '.' :: r => (r.takeWhile isDecimal, r.dropWhile isDecimal)
        | r => ([], r)
      if whole.isEmpty && fraction.isEmpty then none
      else
        (readExponent? rest).map fun x =>
          Binary64.ofDecimal negative (ofDigits (digitValues (whole ++ fraction)))
            (x - fraction.length)

end Taxonomy

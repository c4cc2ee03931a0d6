/-!
# Binary floating-point numbers

Numbers of the binary64 format as exact dyadic values: reading a ratio or a decimal rounds to the
nearest such number, ties to the even one, and comparisons are exact.

* `Binary64.ofRatio`: the binary64 number nearest to a ratio of natural numbers.
* `Binary64.ofDecimal`: the number nearest to a decimal with an exponent.
* `Binary64.ofInt?`: the number nearest to an integer, if there is one.
* `Binary64.lt`: the order of the values; a NaN is below and above nothing.
-/

namespace Taxonomy

/-- **A binary64 number**: `± significand · 2 ^ exponent`, an infinity or a NaN. A significand is
below `2 ^ 53` and, unless the exponent is the least one, `-1074`, at least `2 ^ 52`. -/
inductive Binary64 where
  | finite (negative : Bool) (significand : Nat) (exponent : Int)
  | infinite (negative : Bool)
  | nan
  deriving DecidableEq, Repr, Inhabited

/-- The natural number nearest to `num / den`; a half goes to the even neighbour. -/
def roundHalfEven (num den : Nat) : Nat :=
  let q := num / den
  let r := num % den
  if 2 * r < den then q else if den < 2 * r then q + 1 else if q % 2 == 0 then q else q + 1

theorem roundHalfEven_le (num den : Nat) : roundHalfEven num den ≤ num / den + 1 := by
  unfold roundHalfEven; simp only; split
  · omega
  · split
    · omega
    · split <;> omega

theorem le_roundHalfEven (num den : Nat) : num / den ≤ roundHalfEven num den := by
  unfold roundHalfEven; simp only; split
  · omega
  · split
    · omega
    · split <;> omega

namespace Binary64

/-- The least number that is too large for a significand. -/
def significandLimit : Nat := 1 <<< 53

/-- Zero, of either sign. -/
def zero (negative : Bool) : Binary64 := .finite negative 0 (-1074)

/-- `num / den / 2 ^ e` as a ratio. -/
def scaled (num den : Nat) (e : Int) : Nat × Nat :=
  if 0 ≤ e then (num, den <<< e.toNat) else (num <<< (-e).toNat, den)

/-- **The binary64 number nearest to `± num / den`**, ties to even; too large a ratio becomes
infinite. -/
def ofRatio (negative : Bool) (num den : Nat) : Binary64 :=
  if num == 0 then zero negative
  else
    let guess : Int := max ((num.log2 : Int) - den.log2 - 53) (-1074)
    let (n, d) := scaled num den guess
    let e := if n / d < significandLimit then guess else guess + 1
    let (n, d) := scaled num den e
    let m := roundHalfEven n d
    let (m, e) := if m < significandLimit then (m, e) else (significandLimit / 2, e + 1)
    if 971 < e then .infinite negative else .finite negative m e

/-- The number of decimal digits of a natural number. -/
def decimalSize (n : Nat) : Nat := (Nat.toDigits 10 n).length

/-- **The binary64 number nearest to `± mantissa · 10 ^ exponent`.** Far beyond the range of the
format the answer is known without the power of ten. -/
def ofDecimal (negative : Bool) (mantissa : Nat) (exponent : Int) : Binary64 :=
  if mantissa == 0 then zero negative
  else
    let size : Int := decimalSize mantissa
    if 310 < exponent + size then .infinite negative
    else if exponent + size < -330 then zero negative
    else if 0 ≤ exponent then ofRatio negative (mantissa * Nat.pow 10 exponent.toNat) 1
    else ofRatio negative mantissa (Nat.pow 10 (-exponent).toNat)

/-- **The binary64 number nearest to an integer**, unless that would be infinite. -/
def ofInt? (n : Int) : Option Binary64 :=
  match ofRatio (n < 0) n.natAbs 1 with
  | .infinite _ => none
  | x => some (if n == 0 then zero false else x)

/-- A finite value as an integer multiple of `2 ^ -1074`. -/
def units (negative : Bool) (significand : Nat) (exponent : Int) : Int :=
  let u : Nat := significand <<< (exponent + 1074).toNat
  if negative then -u else u

/-- An integer as a multiple of `2 ^ -1074`. -/
def unitsOfInt (n : Int) : Int := n * (1 <<< 1074 : Nat)

/-- **The order of the values**, exactly. A NaN is comparable to nothing. -/
def lt : Binary64 → Binary64 → Bool
  | .nan, _ | _, .nan => false
  | .infinite s, .infinite t => s && !t
  | .infinite s, .finite .. => s
  | .finite .., .infinite t => !t
  | .finite s m e, .finite t n f => units s m e < units t n f

/-- Equality of the values: the two zeros are equal, and a NaN equals nothing. -/
def eqv (x y : Binary64) : Bool :=
  match x, y with
  | .nan, _ | _, .nan => false
  | .infinite s, .infinite t => s == t
  | .finite s m e, .finite t n f => units s m e == units t n f
  | _, _ => false

/-- The integer part of a finite number: the value rounded towards zero. -/
def truncate (negative : Bool) (significand : Nat) (exponent : Int) : Int :=
  let n : Nat :=
    if 0 ≤ exponent then significand <<< exponent.toNat
    else significand >>> (-exponent).toNat
  if negative then -n else n

/-- Is the number a zero? -/
def isZero : Binary64 → Bool
  | .finite _ m _ => m == 0
  | _ => false

end Binary64

end Taxonomy

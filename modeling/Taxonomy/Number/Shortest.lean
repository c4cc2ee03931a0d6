import Taxonomy.Number.Binary64

/-!
# Shortest decimal text of a binary64 number

The fewest digits that read back as the number, and among those the nearest to it. For one digit,
two digits, and so on, the two neighbours of the number on that decimal grid are tried; seventeen
digits always suffice.

* `Binary64.digits`: the digits and the place of the decimal point.
* `Binary64.text`: the written form.
-/

namespace Taxonomy.Binary64

/-- Compares `a / b` and `c / d` for positive `b` and `d`. -/
def ratioLe (a b c d : Nat) : Bool := a * d ≤ c * b

/-- The half-way points around `m · 2 ^ e`, as numerators over a common denominator, with the
number itself between them. Below a power of two the gap is half as wide. -/
def neighbourhood (m : Nat) (e : Int) : Nat × Nat × Nat × Nat :=
  let low := if 2 * m == significandLimit && -1074 < e then 4 * m - 1 else 4 * m - 2
  -- `2 ^ e / 4` as a ratio
  let (f, den) := scaled 1 4 (-e)
  (low * f, 4 * m * f, (4 * m + 2) * f, den)

/-- Does the decimal `d · 10 ^ p` read back as the number whose neighbourhood is given? The ends
of the neighbourhood do so when the significand is even. -/
def readsBack (low high den : Nat) (closed : Bool) (d : Nat) (p : Int) : Bool :=
  let (a, b) := if 0 ≤ p then (d * Nat.pow 10 p.toNat, 1) else (d, Nat.pow 10 (-p).toNat)
  if closed then ratioLe low den a b && ratioLe a b high den
  else !ratioLe a b low den && !ratioLe high den a b

/-- The decimal of the grid `10 ^ p` that reads back, the nearer one of two. -/
def onGrid (m : Nat) (e p : Int) : Option Nat :=
  let (low, mid, high, den) := neighbourhood m e
  let closed := m % 2 == 0
  -- the number in units of the grid
  let (num, d) :=
    if 0 ≤ p then (mid, den * Nat.pow 10 p.toNat) else (mid * Nat.pow 10 (-p).toNat, den)
  let below := num / d
  let nearest := roundHalfEven num d
  let other := if nearest == below then below + 1 else below
  if readsBack low high den closed nearest p && nearest != 0 then some nearest
  else if readsBack low high den closed other p && other != 0 then some other
  else none

/-- The place of the first digit of `m · 2 ^ e`: the number is at least `10 ^ (place - 1)` and
below `10 ^ place`. -/
def place (m : Nat) (e : Int) : Int :=
  if 0 ≤ e then (decimalSize (m <<< e.toNat) : Int)
  else
    -- scaled by a power of ten that leaves an integer part
    let k := (-e).toNat
    (decimalSize ((m * Nat.pow 10 k) >>> k) : Int) - k

/-- Removes the zeros at the end of a number and counts them. -/
def stripZeros : Nat → Nat → Nat × Nat
  | 0, n => (n, 0)
  | fuel + 1, n =>
    if n % 10 == 0 && n != 0 then
      let (r, k) := stripZeros fuel (n / 10)
      (r, k + 1)
    else (n, 0)

/-- **The shortest digits** of `m · 2 ^ e`, for a positive `m`, and the place of the decimal point
relative to the first digit. -/
def digits (m : Nat) (e : Int) : Nat × Int :=
  let q := place m e
  let found := (List.range 17).findSome? fun (k : Nat) =>
    let p : Int := q - (k + 1)
    (onGrid m e p).map fun d => (d, p)
  let (d, p) := found.getD (m, 0)
  let (d, zeros) := stripZeros 400 d
  (d, (decimalSize d : Int) + p + zeros)

/-- Digits with an exponent of at least two digits. -/
def exponentText (ds : List Char) (point : Int) : String :=
  let x := point - 1
  let mark := if x < 0 then "e-" else "e+"
  let xs := toString x.natAbs
  let head := match ds with
    | [d] => [d]
    | d :: rest => d :: '.' :: rest
    | [] => []
  String.ofList head ++ mark ++ (if xs.length < 2 then "0" ++ xs else xs)

/-- Digits with the decimal point in its place, and at least one digit on either side of it. -/
def positionalText (ds : List Char) (point : Int) : String :=
  let size : Int := ds.length
  if point ≤ 0 then "0." ++ String.ofList (List.replicate (-point).toNat '0' ++ ds)
  else if size ≤ point then
    String.ofList (ds ++ List.replicate (point - size).toNat '0') ++ ".0"
  else String.ofList (ds.take point.toNat ++ '.' :: ds.drop point.toNat)

/-- **The written form of a number**: positional from `0.0001` to below `10 ^ 16`, otherwise with
an exponent. -/
def text : Binary64 → String
  | .nan => "nan"
  | .infinite negative => if negative then "-inf" else "inf"
  | .finite negative m e =>
    let sign := if negative then "-" else ""
    if m == 0 then sign ++ "0.0"
    else
      let (d, point) := digits m e
      let ds := Nat.toDigits 10 d
      sign ++ if -4 < point && point ≤ 16 then positionalText ds point else exponentText ds point

end Taxonomy.Binary64

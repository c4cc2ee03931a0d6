import Taxonomy.Number.Numeral
import Taxonomy.Toml.Text
import Taxonomy.Value

/-!
# Numbers, dates and times of TOML documents

* `Toml.number?`: integers of four bases and decimals.
* `Toml.moment?`: dates, times of day, and points in time.
-/

namespace Taxonomy.Toml

/-- A run of digits, between which single underscores may stand; without them. -/
def digitRun (isDigit : Char → Bool) : List Char → List Char × List Char
  | [] => ([], [])
  | [c] => if isDigit c then ([c], []) else ([], [c])
  | c :: d :: rest =>
    if !isDigit c then ([], c :: d :: rest)
    else if d == '_' then
      match rest with
      | e :: _ =>
        if isDigit e then let (ds, rest) := digitRun isDigit rest; (c :: ds, rest)
        else ([c], d :: rest)
      | [] => ([c], [d])
    else let (ds, rest) := digitRun isDigit (d :: rest); (c :: ds, rest)

/-- The bases that a letter behind a zero names. -/
def bases : List (Char × Nat) := [('x', 16), ('b', 2), ('o', 8)]

/-- Is the character a digit of the base? -/
def isDigitOf (base : Nat) (c : Char) : Bool := (hexDigit? c).any (· < base)

/-- The number that digits of a base denote. -/
def ofDigitsIn (base : Nat) (ds : List Char) : Nat :=
  ds.foldl (fun n c => base * n + (hexDigit? c).getD 0) 0

/-- An integer of another base than ten. -/
def basedInteger? : List Char → Option (Value × List Char)
  | '0' :: c :: rest => do
    let base ← bases.lookup c
    let (ds, rest) := digitRun (isDigitOf base) rest
    if ds.isEmpty then none else some (.int (ofDigitsIn base ds), rest)
  | _ => none

/-- The digits behind a point, if there are any. -/
def fraction : List Char → Option (List Char) × List Char
  | '.' :: rest =>
    let (ds, after) := digitRun Char.isDigit rest
    if ds.isEmpty then (none, '.' :: rest) else (some ds, after)
  | cs => (none, cs)

/-- The exponent behind its mark, if there is one. -/
def exponent : List Char → Option Int × List Char
  | c :: rest =>
    if c != 'e' && c != 'E' then (none, c :: rest)
    else
      let (negative, digits) := takeSign rest
      let (ds, after) := digitRun Char.isDigit digits
      if ds.isEmpty then (none, c :: rest)
      else
        let n : Int := ofDigitsIn 10 ds
        (some (if negative then -n else n), after)
  | [] => (none, [])

/-- The integer part of a number: a zero, or digits that begin with another one. -/
def wholePart : List Char → List Char × List Char
  | '0' :: rest => (['0'], rest)
  | cs => digitRun Char.isDigit cs

/-- **A number**, unless none stands here. -/
def number? (cs : List Char) : Reading (Option (Value × List Char)) :=
  match basedInteger? cs with
  | some x => pure x
  | none =>
    let (negative, body) := takeSign cs
    let (whole, rest) := wholePart body
    if whole.isEmpty then pure none
    else
      let (fractionDigits, rest) := fraction rest
      let (power, rest) := exponent rest
      match fractionDigits, power with
      | none, none =>
        if maxDigits < whole.length then throw (.numeralTooLong whole.length)
        else
          let n : Int := ofDigitsIn 10 whole
          pure (some (.int (if negative then -n else n), rest))
      | _, _ =>
        let behind := fractionDigits.getD []
        pure (some (.float (Binary64.ofDecimal negative (ofDigitsIn 10 (whole ++ behind))
          (power.getD 0 - behind.length)), rest))

/-- The words for infinity and NaN, with or without a sign. -/
def specialNumber? (cs : List Char) : Option (Value × List Char) :=
  let (negative, rest) := takeSign cs
  match rest with
  | 'i' :: 'n' :: 'f' :: rest => some (.float (.infinite negative), rest)
  | 'n' :: 'a' :: 'n' :: rest => some (.float .nan, rest)
  | _ => none

/-- A number of two digits within bounds. -/
def twoDigits? (low high : Nat) : List Char → Option (Nat × List Char)
  | a :: b :: rest =>
    if a.isDigit && b.isDigit then
      let n := ofDigitsIn 10 [a, b]
      if low ≤ n && n ≤ high then some (n, rest) else none
    else none
  | _ => none

/-- Reads one expected character. -/
def expect? (p : Char → Bool) : List Char → Option (List Char)
  | c :: rest => if p c then some rest else none
  | [] => none

/-- A fraction of a second in microseconds; further digits are dropped. -/
def microseconds (cs : List Char) : Nat × List Char :=
  match cs with
  | '.' :: rest =>
    let ds := rest.takeWhile Char.isDigit
    if ds.isEmpty then (0, cs)
    else
      let kept := ds.take 6
      (ofDigitsIn 10 kept * Nat.pow 10 (6 - kept.length), rest.dropWhile Char.isDigit)
  | _ => (0, cs)

/-- A time of day. -/
def clock? (cs : List Char) : Option (Clock × List Char) := do
  let (hour, rest) ← twoDigits? 0 23 cs
  let (minute, rest) ← twoDigits? 0 59 (← expect? (· == ':') rest)
  let (second, rest) ← twoDigits? 0 59 (← expect? (· == ':') rest)
  let (micro, rest) := microseconds rest
  some (⟨hour, minute, second, micro⟩, rest)

/-- A day as it is written; it need not exist. -/
def date? (cs : List Char) : Option (Date × List Char) := do
  let year := cs.take 4
  if year.length != 4 || !year.all Char.isDigit then none
  let (month, rest) ← twoDigits? 1 12 (← expect? (· == '-') (cs.drop 4))
  let (day, rest) ← twoDigits? 1 31 (← expect? (· == '-') rest)
  some (⟨ofDigitsIn 10 year, month, day⟩, rest)

/-- An offset in minutes: a letter for none, or a sign with hours and minutes. -/
def offset? (cs : List Char) : Option (Int × List Char) :=
  match cs with
  | c :: rest =>
    if c == 'Z' || c == 'z' then some (0, rest)
    else if c == '+' || c == '-' then do
      let (hours, rest) ← twoDigits? 0 23 rest
      let (minutes, rest) ← twoDigits? 0 59 (← expect? (· == ':') rest)
      let n : Int := 60 * hours + minutes
      some (if c == '-' then -n else n, rest)
    else none
  | [] => none

/-- **A date, a time of day or both**, unless none stands here. A day that does not exist makes the
document malformed. -/
def moment? (cs : List Char) : Reading (Option (Value × List Char)) :=
  match date? cs with
  | some (d, rest) =>
    if !d.isValid then fail
    else
      let time := (expect? (fun c => c == 'T' || c == 't' || c == ' ') rest).bind clock?
      match time with
      | none => pure (some (.moment (.date d), rest))
      | some (c, rest) =>
        match offset? rest with
        | some (x, rest) => pure (some (.moment (.dateTime d c (some x)), rest))
        | none => pure (some (.moment (.dateTime d c none), rest))
  | none => pure ((clock? cs).map fun (c, rest) => (.moment (.time c), rest))

end Taxonomy.Toml

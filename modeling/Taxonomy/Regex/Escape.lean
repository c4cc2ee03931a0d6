import Taxonomy.Regex.Basic
import Taxonomy.Regex.Source
import Taxonomy.Text.Names

/-!
# Escapes

What an escaped character denotes, inside a character set and outside.
-/

namespace Taxonomy.Regex

/-- The meaning of an escape: a code point, a class, a place, or a group. -/
inductive Escape where
  | code (n : Nat)
  | cls (c : CharClass) (negated : Bool)
  | place (a : Anchor)
  | group (index : Nat)

/-- Digits of a base up to sixteen. -/
def isDigitOf (base : Nat) (c : Char) : Bool :=
  if c.isDigit then c.toNat - 0x30 < base
  else base == 16 && (('a' ≤ c && c ≤ 'f') || ('A' ≤ c && c ≤ 'F'))

/-- The value of a digit of a base up to sixteen. -/
def digitOf (c : Char) : Nat := if c.isDigit then c.toNat - 0x30 else c.toLower.toNat - 0x57

/-- The number that digits of a base denote. -/
def numberOf (base : Nat) (cs : List Char) : Nat :=
  cs.foldl (fun n c => base * n + digitOf c) 0

/-- The escapes that stand for a control character or the backslash. -/
def controlEscape? : Char → Option Nat
  | 'a' => some 7
  | 'f' => some 12
  | 'n' => some 10
  | 'r' => some 13
  | 't' => some 9
  | 'v' => some 11
  | '\\' => some 92
  | _ => none

/-- The escapes that stand for a class of characters. -/
def classEscape? : Char → Option (CharClass × Bool)
  | 'd' => some (.digit, false)
  | 'D' => some (.digit, true)
  | 's' => some (.space, false)
  | 'S' => some (.space, true)
  | 'w' => some (.word, false)
  | 'W' => some (.word, true)
  | _ => none

/-- The escapes that stand for a place. -/
def placeEscape? : Char → Option Anchor
  | 'A' => some .textStart
  | 'b' => some .wordEdge
  | 'B' => some .noWordEdge
  | 'Z' => some .textEnd
  | _ => none

/-- The escape as it is written, with the characters that were read after it. -/
def escapeText (c : Char) (more : List Char := []) : String := String.ofList ('\\' :: c :: more)

/-- An escape by `width` hexadecimal digits. -/
def hexEscape (s : Source) (c : Char) (width : Nat) : Except RegexFault (Escape × Source) := do
  let (ds, s) ← s.takeWhile (isDigitOf 16) width
  let text := escapeText c ds
  if ds.length != width then throw (s.fault (.incompleteEscape text) text.length)
  let n := numberOf 16 ds
  if 0x10ffff < n then throw (s.fault (.badEscape text) text.length)
  return (.code n, s)

/-- The escapes that have the same meaning everywhere: by a code point, or a character that needs
no escape. -/
def commonEscape (s : Source) (c : Char) : Except RegexFault (Escape × Source) := do
  if c == 'x' then hexEscape s c 2
  else if c == 'u' then hexEscape s c 4
  else if c == 'U' then hexEscape s c 8
  else if c == 'N' then
    let (opened, s) ← s.accept '\x7b'
    if !opened then throw (s.fault (.missing "\x7b"))
    let (name, s) ← s.takeName '\x7d' "character name"
    match Text.Names.charNamed? name with
    | some n => return (.code n, s)
    | none => throw (s.fault (.unknownCharacterName name) (name.length + 4))
  else if c.isAlpha || c.isDigit then throw (s.fault (.badEscape (escapeText c)) 2)
  else return (.code c.toNat, s)

/-- An escape by up to three octal digits, of which `c` is the first. -/
def octalEscape (s : Source) (c : Char) : Except RegexFault (Escape × Source) := do
  let (ds, s) ← s.takeWhile (isDigitOf 8) 2
  let n := numberOf 8 (c :: ds)
  let text := escapeText c ds
  if 0o377 < n then throw (s.fault (.octalTooLarge text) text.length)
  return (.code n, s)

/-- **An escape inside a character set.** -/
def setEscape (s : Source) (c : Char) : Except RegexFault (Escape × Source) := do
  if c == 'b' then return (.code 8, s)
  match controlEscape? c, classEscape? c with
  | some n, _ => return (.code n, s)
  | none, some (k, negated) => return (.cls k negated, s)
  | none, none => if isDigitOf 8 c then octalEscape s c else commonEscape s c

/-- An escape by a digit other than zero: a group, unless three octal digits follow in a row. -/
def groupEscape (s : Source) (c : Char) : Except RegexFault (Escape × Source) := do
  match s.next? with
  | some (.plain d) =>
    if d.isDigit then
      let s ← s.skip
      match s.next? with
      | some (.plain e) =>
        if isDigitOf 8 c && isDigitOf 8 d && isDigitOf 8 e then
          let s ← s.skip
          let n := numberOf 8 [c, d, e]
          if 0o377 < n then throw (s.fault (.octalTooLarge (escapeText c [d, e])) 4)
          return (.code n, s)
        else return (.group (numberOf 10 [c, d]), s)
      | _ => return (.group (numberOf 10 [c, d]), s)
    else return (.group (digitOf c), s)
  | _ => return (.group (digitOf c), s)

/-- **An escape outside of character sets.** -/
def outerEscape (s : Source) (c : Char) : Except RegexFault (Escape × Source) := do
  match placeEscape? c, classEscape? c, controlEscape? c with
  | some a, _, _ => return (.place a, s)
  | none, some (k, negated), _ => return (.cls k negated, s)
  | none, none, some n => return (.code n, s)
  | none, none, none =>
    if c == '0' then
      let (ds, s) ← s.takeWhile (isDigitOf 8) 2
      return (.code (numberOf 8 ds), s)
    else if c.isDigit then groupEscape s c
    else commonEscape s c

end Taxonomy.Regex

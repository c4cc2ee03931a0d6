import Taxonomy.Text.Letter
import Taxonomy.Text.Printable
import Taxonomy.Text.Quoted

/-!
# Tokens of handlers

The words and signs of the arguments of a handler.

* `Handler.tokens`: the tokens of a text; the last one is the end, or what is wrong with the rest.
-/

namespace Taxonomy.Handler

/-- Kinds of literals. -/
inductive Literal where
  | real
  | imaginary
  | text
  | bytes
  | formatted
  deriving DecidableEq, Repr

/-- **A token.** What is wrong in a text is its last token. A broken one is told of even if reading
stops before it, one that fails only if it is read. -/
inductive Token where
  | name (s : String)
  | literal (kind : Literal)
  | sign (s : String)
  | newline
  | indent
  | done
  | broken (message : String)
  | failing (message : String)
  deriving DecidableEq, Repr

/-- A bracket that is open, with its line. -/
structure Bracket where
  sign : Char
  line : Nat

/-- **What is known while tokens are read**: the line, and the brackets that are open. -/
structure Place where
  line : Nat := 1
  brackets : List Bracket := []

/-- The number of a character as messages give it. -/
def codeText (c : Char) : String :=
  let digits := (Nat.toDigits 16 c.toNat).map Char.toUpper
  "U+" ++ String.ofList (List.replicate (4 - digits.length) '0' ++ digits)

/-- The complaint about a character that belongs to no token. -/
def strangeCharacter (c : Char) : String :=
  if Text.isPrintable c then s!"invalid character '{c}' ({codeText c})"
  else s!"invalid non-printable character {codeText c}"

/-- The complaint about a closing bracket that closes nothing or another one. -/
def closingFault (place : Place) (c : Char) : String :=
  match place.brackets with
  | [] => s!"unmatched '{c}'"
  | b :: _ =>
    s!"closing parenthesis '{c}' does not match opening parenthesis '{b.sign}'" ++
      (if b.line != place.line then s!" on line {b.line}" else "")

/-- The closing bracket of an opening one. -/
def closing : Char → Char
  | '(' => ')'
  | '[' => ']'
  | '\x7b' => '\x7d'
  | c => c

/-- The end of a text, where a bracket may be open. -/
def ending (place : Place) : Token :=
  match place.brackets with
  | b :: _ => .failing s!"'{b.sign}' was never closed"
  | [] => .done

/-- Digits of a kind with single underscores between them, and what follows; none if an underscore
stands alone. -/
def digits? (isDigit : Char → Bool) : List Char → Option (List Char)
  | [] => some []
  | '_' :: c :: cs => if isDigit c then digits? isDigit cs else none
  | c :: cs =>
    if c == '_' then none else if isDigit c then digits? isDigit cs else some (c :: cs)

/-- Does a name begin here? -/
def beginsName (cs : List Char) : Bool :=
  cs.head?.any fun c => c.isAlphanum || c == '_' || 0x80 ≤ c.toNat

/-- Do words begin here that may follow a number at once? -/
def followsNumber (cs : List Char) : Bool :=
  (["if", "in", "is"].any fun w => w.toList.isPrefixOf cs) ||
    ["and", "else", "for", "not", "or"].any fun w =>
      w.toList.isPrefixOf cs && !beginsName (cs.drop w.length)

/-- Refuses a number that a name follows at once. -/
def endNumber (what : String) (kind : Literal) (cs : List Char) :
    Except String (Literal × List Char) :=
  if beginsName cs && !followsNumber cs then throw s!"invalid {what} literal" else return (kind, cs)

/-- What may follow the digits of a decimal number: the mark of an imaginary one. -/
def endDecimal (cs : List Char) : Except String (Literal × List Char) :=
  match cs with
  | 'j' :: cs | 'J' :: cs => endNumber "imaginary" .imaginary cs
  | cs => endNumber "decimal" .real cs

/-- Digits, or the complaint about them. -/
def digits (cs : List Char) : Except String (List Char) :=
  match digits? Char.isDigit cs with
  | some cs => return cs
  | none => throw "invalid decimal literal"

/-- The exponent of a number and its end. -/
def exponent (cs : List Char) : Except String (Literal × List Char) := do
  match cs with
  | c :: d :: e :: rest =>
    if c == 'e' || c == 'E' then
      if d.isDigit then endDecimal (← digits (d :: e :: rest))
      else if (d == '+' || d == '-') && e.isDigit then endDecimal (← digits (e :: rest))
      else if d == '+' || d == '-' then throw "invalid decimal literal"
      else endDecimal cs
    else endDecimal cs
  | [c, d] =>
    if (c == 'e' || c == 'E') && (d.isDigit || d == '+' || d == '-') then
      if d.isDigit then endDecimal [] else throw "invalid decimal literal"
    else endDecimal cs
  | cs => endDecimal cs

/-- The part of a number behind its point. -/
def fraction (cs : List Char) : Except String (Literal × List Char) := do
  if cs.head?.any Char.isDigit then exponent (← digits cs)
  else if cs.head? == some '_' then throw "invalid decimal literal"
  else exponent cs

/-- A number of another base, behind its mark. -/
def based (base : Nat) (what : String) (cs : List Char) : Except String (Literal × List Char) := do
  let isDigit (c : Char) : Bool :=
    if c.isDigit then c.toNat - '0'.toNat < base
    else base == 16 && (('a' ≤ c && c ≤ 'f') || ('A' ≤ c && c ≤ 'F'))
  let wrong (cs : List Char) : String :=
    match cs with
    | c :: _ => if c.isDigit then s!"invalid digit '{c}' in {what} literal"
      else s!"invalid {what} literal"
    | [] => s!"invalid {what} literal"
  let start := if cs.head? == some '_' then cs.drop 1 else cs
  if !start.head?.any isDigit then throw (wrong start)
  match digits? isDigit start with
  | none => throw s!"invalid {what} literal"
  | some rest =>
    if rest.head?.any Char.isDigit then throw (wrong rest)
    endNumber what .real rest

/-- The complaint about zeros in front of an integer. -/
def leadingZeros : String :=
  "leading zeros in decimal integer literals are not permitted; " ++
    "use an 0o prefix for octal integers"

/-- **A number**, from its first digit on. -/
def number (cs : List Char) : Except String (Literal × List Char) := do
  match cs with
  | '0' :: 'x' :: cs | '0' :: 'X' :: cs => based 16 "hexadecimal" cs
  | '0' :: 'o' :: cs | '0' :: 'O' :: cs => based 8 "octal" cs
  | '0' :: 'b' :: cs | '0' :: 'B' :: cs => based 2 "binary" cs
  | cs =>
    let rest ← digits cs
    let zeros := cs.head? == some '0' &&
      (cs.take (cs.length - rest.length)).any fun c => c.isDigit && c != '0'
    match rest with
    | '.' :: rest => fraction rest
    | c :: _ =>
      if c == 'e' || c == 'E' || c == 'j' || c == 'J' then exponent rest
      else if zeros then throw leadingZeros
      else endNumber "decimal" .real rest
    | [] => if zeros then throw leadingZeros else return (.real, [])

/-- The rest of a text behind a string in single quotes, or none if it is not closed. -/
def afterQuote? (quote : Char) : List Char → Option (List Char)
  | [] => none
  | '\\' :: _ :: cs => afterQuote? quote cs
  | c :: cs => if c == quote then some cs else if c == '\n' then none else afterQuote? quote cs

/-- The rest of a text behind a string in triple quotes, with the lines that it takes. -/
def afterTriple? (quote : Char) (lines : Nat) : List Char → Option (List Char × Nat)
  | [] => none
  | '\\' :: c :: cs => afterTriple? quote (if c == '\n' then lines + 1 else lines) cs
  | c :: d :: e :: cs =>
    if c == quote && d == quote && e == quote then some (cs, lines)
    else afterTriple? quote (if c == '\n' then lines + 1 else lines) (d :: e :: cs)
  | [_] | [_, _] => none

/-- The kind of a string by the letters in front of it, if they may stand there. -/
def stringKind? (letters : List Char) : Option Literal :=
  match letters.map Char.toLower with
  | [] | ['u'] | ['r'] => some .text
  | ['b'] | ['b', 'r'] | ['r', 'b'] => some .bytes
  | ['f'] | ['f', 'r'] | ['r', 'f'] => some .formatted
  | _ => none

/-- A string, from its first quote on, with the lines that it takes. -/
def quoted (place : Place) (quote : Char) (cs : List Char) : Except String (List Char × Nat) :=
  match cs with
  | c :: d :: rest =>
    if c == quote && d == quote then
      match afterTriple? quote 0 rest with
      | some r => return r
      | none =>
        let line := place.line + rest.count '\n'
        throw s!"unterminated triple-quoted string literal (detected at line {line})"
    else single cs
  | _ => single cs
where
  /-- A string in single quotes. -/
  single (cs : List Char) : Except String (List Char × Nat) :=
    match afterQuote? quote cs with
    | some rest => return (rest, (cs.take (cs.length - rest.length)).count '\n')
    | none => throw s!"unterminated string literal (detected at line {place.line})"

/-- Signs of three characters. -/
def tripleSigns : List String := ["...", "**=", "//=", ">>=", "<<="]

/-- Signs of two characters. -/
def doubleSigns : List String := [
  "==", "!=", "<>", "<=", ">=", "<<", ">>", "**", "//", "+=", "-=", "*=", "/=", "%=", "&=", "|=",
  "^=", "@=", "->", ":="]

/-- A sign at the beginning, and what follows it. -/
def sign (c : Char) (cs : List Char) : String × List Char :=
  let three := String.ofList (c :: cs.take 2)
  let two := String.ofList (c :: cs.take 1)
  if tripleSigns.contains three then (three, cs.drop 2)
  else if doubleSigns.contains two then (two, cs.drop 1)
  else (String.ofList [c], cs)

/-- Does the character belong to a name, or could it? -/
def isNameLike (c : Char) : Bool := c.isAlphanum || c == '_' || 0x80 ≤ c.toNat

/-- The first character of a word that keeps it from being a name. -/
def strange? (word : List Char) : Option Char :=
  match word with
  | [] => none
  | c :: cs =>
    if !Text.isIdentifierStart c then some c else cs.find? (!Text.isIdentifierPart ·)

/-- **The tokens of a text**, each with the number of brackets around it. At the beginning of a
line, `fresh` is true. -/
def tokensFrom : Nat → Place → Bool → List Char → List (Token × Nat)
  | 0, _, _, _ => []
  | fuel + 1, place, fresh, cs =>
    let depth := place.brackets.length
    let stop (message : String) : List (Token × Nat) := [(.broken message, depth)]
    match cs with
    | [] => if depth == 0 then [(.newline, 0), (.done, 0)] else [(ending place, depth)]
    | c :: cs =>
      if c == '\n' then
        let rest := tokensFrom fuel { place with line := place.line + 1 } true cs
        if depth == 0 && !fresh then (.newline, 0) :: rest else rest
      else if c == ' ' || c == '\t' || c == '\x0c' then
        let spaces := cs.takeWhile fun d => d == ' ' || d == '\t' || d == '\x0c'
        let after := cs.drop spaces.length
        let blank := after.head?.all fun d => d == '\n' || d == '#'
        let rest := tokensFrom fuel place (fresh && blank) after
        if fresh && depth == 0 && !blank then (.indent, 0) :: rest else rest
      else if c == '#' then
        tokensFrom fuel place fresh (cs.dropWhile (· != '\n'))
      else if c == '\\' then
        match cs with
        | '\n' :: cs => tokensFrom fuel { place with line := place.line + 1 } false cs
        | _ => [(.failing "unexpected character after line continuation character", depth)]
      else if c.isDigit || (c == '.' && cs.head?.any Char.isDigit) then
        match if c == '.' then fraction cs else number (c :: cs) with
        | .ok (kind, cs) => (.literal kind, depth) :: tokensFrom fuel place false cs
        | .error message => stop message
      else if isNameLike c then
        let word := (c :: cs).takeWhile isNameLike
        let rest := (c :: cs).drop word.length
        let quote := rest.head?.filter fun q => q == '\'' || q == '"'
        match quote, stringKind? word with
        | some q, some kind => text fuel place depth kind q (rest.drop 1)
        | _, _ =>
          match strange? word with
          | some d => stop (strangeCharacter d)
          | none => (.name (String.ofList word), depth) :: tokensFrom fuel place false rest
      else if c == '\'' || c == '"' then text fuel place depth .text c cs
      else if c == '(' || c == '[' || c == '\x7b' then
        let place := { place with brackets := ⟨c, place.line⟩ :: place.brackets }
        (.sign (String.ofList [c]), depth + 1) :: tokensFrom fuel place false cs
      else if c == ')' || c == ']' || c == '\x7d' then
        match place.brackets with
        | b :: brackets =>
          if closing b.sign == c then
            (.sign (String.ofList [c]), depth - 1) ::
              tokensFrom fuel { place with brackets := brackets } false cs
          else stop (closingFault place c)
        | [] => stop (closingFault place c)
      else if !Text.isPrintable c then stop (strangeCharacter c)
      else
        let (s, cs) := sign c cs
        (.sign s, depth) :: tokensFrom fuel place false cs
where
  /-- The token of a string and those behind it. -/
  text (fuel : Nat) (place : Place) (depth : Nat) (kind : Literal) (quote : Char)
      (cs : List Char) : List (Token × Nat) :=
    match quoted place quote cs with
    | .ok (rest, lines) =>
      (.literal kind, depth) ::
        tokensFrom fuel { place with line := place.line + lines } false rest
    | .error message => [(.broken message, depth)]

/-- **The tokens of a text.** -/
def tokens (s : String) : List (Token × Nat) :=
  let cs := s.toList.dropWhile fun c => c == ' ' || c == '\t'
  tokensFrom (2 * cs.length + 2) {} false cs

end Taxonomy.Handler

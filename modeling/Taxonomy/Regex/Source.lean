import Taxonomy.Regex.Fault

/-!
# The symbols of an expression's text

A backslash and the character after it are one symbol, any other character is one by itself. A
backslash at the end of the text is a fault, found when it becomes the next symbol.
-/

namespace Taxonomy.Regex

/-- **A symbol**: a character, escaped or not, or the lone backslash at the end. -/
inductive Symbol where
  | plain (c : Char)
  | escaped (c : Char)
  | broken
  deriving DecidableEq, Repr

/-- The number of characters of a symbol. -/
def Symbol.size : Symbol → Nat
  | .escaped _ => 2
  | _ => 1

/-- A symbol as it is written. -/
def Symbol.text : Symbol → List Char
  | .plain c => [c]
  | .escaped c => ['\\', c]
  | .broken => ['\\']

/-- The symbols of a text. -/
def symbols : List Char → List Symbol
  | [] => []
  | ['\\'] => [.broken]
  | '\\' :: c :: cs => .escaped c :: symbols cs
  | c :: cs => .plain c :: symbols cs

/-- **The part of a text that is still to be read**, and the position of its first symbol. -/
structure Source where
  rest : List Symbol
  position : Nat := 0

namespace Source

/-- Refuses a lone backslash as the next symbol. -/
def checked (s : Source) : Except RegexFault Source :=
  match s.rest with
  | .broken :: _ => throw (.at .trailingBackslash s.position)
  | _ => return s

/-- The whole text as a source. -/
def ofText (pattern : String) : Except RegexFault Source :=
  checked ⟨symbols pattern.toList, 0⟩

/-- The next symbol. -/
def next? (s : Source) : Option Symbol := s.rest.head?

/-- Is the next symbol this character, not escaped? -/
def sees (s : Source) (c : Char) : Bool := s.next? == some (.plain c)

/-- **Takes the next symbol**, if there is one. -/
def take (s : Source) : Except RegexFault (Option Symbol × Source) :=
  match s.rest with
  | [] => return (none, s)
  | t :: ts => return (some t, ← checked ⟨ts, s.position + t.size⟩)

/-- Drops the next symbol. -/
def skip (s : Source) : Except RegexFault Source := do return (← s.take).2

/-- Takes the next symbol if it is this character. -/
def accept (s : Source) (c : Char) : Except RegexFault (Bool × Source) := do
  if s.sees c then return (true, ← s.skip) else return (false, s)

/-- A fault `back` characters before the next symbol. -/
def fault (s : Source) (cause : RegexCause) (back : Nat := 0) : RegexFault :=
  .at cause (s.position - back)

/-- Takes plain characters of a kind, at most `limit` of them. -/
def takeWhile (p : Char → Bool) : Nat → Source → Except RegexFault (List Char × Source)
  | 0, s => return ([], s)
  | limit + 1, s =>
    match s.next? with
    | some (.plain c) =>
      if p c then do
        let (cs, s) ← takeWhile p limit (← s.skip)
        return (c :: cs, s)
      else return ([], s)
    | _ => return ([], s)

/-- Takes the symbols up to a terminator, which is dropped; `taken` were taken before. -/
def takeUntil (terminator : Char) (what : String) :
    Nat → List Char → Source → Except RegexFault (String × Source)
  | 0, _, s => throw (s.fault (.missing what))
  | fuel + 1, taken, s => do
    let (t, s) ← s.take
    match t with
    | none =>
      if taken.isEmpty then throw (s.fault (.missing what))
      else throw (s.fault (.unterminatedName terminator) taken.length)
    | some t =>
      if t == .plain terminator then
        if taken.isEmpty then throw (s.fault (.missing what) 1)
        else return (String.ofList taken, s)
      else takeUntil terminator what fuel (taken ++ t.text) s

/-- **Takes a name up to its terminator.** -/
def takeName (s : Source) (terminator : Char) (what : String) :
    Except RegexFault (String × Source) :=
  takeUntil terminator what (s.rest.length + 1) [] s

end Source

end Taxonomy.Regex

import Taxonomy.Number.Numeral
import Taxonomy.Regex.Choice
import Taxonomy.Regex.Escape
import Taxonomy.Text.Letter

/-!
# Reading regular expressions

An expression is read from left to right, symbol by symbol, with a stack of the groups that are
open. Each step takes at least one symbol, so there are no more steps than symbols.

* `Regex.parse`: the expression that a text denotes, or the fault in it.
-/

namespace Taxonomy.Regex

/-- The purpose of a group that is open. -/
inductive GroupKind where
  | top
  | capture (index : Nat)
  | plain
  | scoped
  | atomic
  | look (behind negated : Bool) (outer : Option Nat)
  | conditional (index : Nat) (yes : Option Regex)

/-- A part of a choice: an expression, or a group whose only purpose was to be repeated as one. -/
inductive Part where
  | one (r : Regex)
  | bundle (rs : List Regex)

/-- The expressions of a part. -/
def Part.expressions : Part → List Regex
  | .one r => [r]
  | .bundle rs => rs

/-- **A group that is open**: the choices read so far and the parts of the current choice, the
latest first in both, and the mode inside it. -/
structure OpenGroup where
  kind : GroupKind
  start : Nat
  mode : RegexMode
  choices : List (List Regex) := []
  parts : List Part := []

/-- **What is known while an expression is read**: its groups so far, those of them that are
closed with their widths, and the groups that are open. -/
structure ParseState where
  source : Source
  groups : Nat := 1
  names : List (String × Nat) := []
  closed : List (Nat × Nat × Nat) := []
  lookBehind : Option Nat := none
  references : List (Nat × Nat) := []
  unicode : Bool := false
  template : Bool := false
  current : OpenGroup
  outer : List OpenGroup := []

/-- The blanks that do not count in the verbose mode. -/
def isVerboseBlank (c : Char) : Bool := " \t\n\r\x0b\x0c".toList.contains c

/-- Adds a part to the current choice. -/
def ParseState.pushPart (st : ParseState) (p : Part) : ParseState :=
  { st with current := { st.current with parts := p :: st.current.parts } }

/-- Adds an expression to the current choice. -/
def ParseState.push (st : ParseState) (r : Regex) : ParseState := st.pushPart (.one r)

/-- The current choice of an open group. -/
def OpenGroup.latest (g : OpenGroup) : List Regex := g.parts.reverse.flatMap Part.expressions

/-- The contents of a group. -/
def OpenGroup.body (g : OpenGroup) : List Regex :=
  match g.choices with
  | [] => g.latest
  | cs => choice (g.latest :: cs).reverse

/-- Refuses references to groups that are open, or that belong to the same look-behind. -/
def ParseState.checkReference (st : ParseState) (index : Nat) (s : Source) :
    Except RegexFault Unit := do
  match st.lookBehind with
  | none => return
  | some first =>
    if (st.closed.lookup index).isNone then throw (s.fault .openGroup)
    if first ≤ index then throw (s.fault .lookBehindGroup)

/-- Adds a reference to a closed group. -/
def ParseState.pushReference (st : ParseState) (index : Nat) (s : Source) :
    Except RegexFault ParseState := do
  st.checkReference index s
  let (lo, hi) := (st.closed.lookup index).getD (0, 0)
  return { st with source := s }.push (.backref st.current.mode index lo hi)

/-- Adds what an escape outside of sets denotes. -/
def ParseState.pushEscape (st : ParseState) (c : Char) : Except RegexFault ParseState := do
  let (e, s) ← outerEscape st.source c
  let st' := { st with source := s }
  let mode := st.current.mode
  match e with
  | .code n => return st'.push (.code mode false n)
  | .cls k negated => return st'.push (.set mode false [.cls k negated])
  | .place a => return st'.push (.anchor mode a)
  | .group index =>
    let size := (toString index).length
    if index < st.groups then
      if (st.closed.lookup index).isNone then throw (s.fault .openGroup (size + 1))
      st.pushReference index s
    else throw (s.fault (.invalidGroupReference index) size)

/-- A member of a set as it was written, with its meaning. -/
def setMember (s : Source) (t : Symbol) : Except RegexFault (SetItem × Source) :=
  match t with
  | .plain c => return (.code c.toNat, s)
  | .broken => return (.code 92, s)
  | .escaped c => do
    match ← setEscape s c with
    | (.cls k negated, s) => return (.cls k negated, s)
    | (.code n, s) => return (.code n, s)
    | (_, s) => return (.code c.toNat, s)

/-- The members of a set up to its closing bracket. The bracket as the first member stands for
itself. -/
def setMembers (start : Nat) :
    Nat → List SetItem → Source → Except RegexFault (List SetItem × Source)
  | 0, _, _ => throw (.at .unterminatedSet start)
  | fuel + 1, items, s => do
    let (t, s) ← s.take
    match t with
    | none => throw (.at .unterminatedSet start)
    | some t =>
      if t == .plain ']' && !items.isEmpty then return (items.reverse, s)
      let (first, s) ← setMember s t
      let (ranged, s) ← s.accept '-'
      if !ranged then setMembers start fuel (first :: items) s
      else
        let (u, s) ← s.take
        match u with
        | none => throw (.at .unterminatedSet start)
        | some u =>
          if u == .plain ']' then return ((.code 45 :: first :: items).reverse, s)
          let (last, s) ← setMember s u
          let bad := s.fault (.badRange (String.ofList t.text) (String.ofList u.text))
            (t.size + 1 + u.size)
          match first, last with
          | .code a, .code b =>
            if b < a then throw bad
            setMembers start fuel (.range a b :: items) s
          | _, _ => throw bad

/-- A set, after its opening bracket. -/
def ParseState.pushSet (st : ParseState) : Except RegexFault ParseState := do
  let start := st.source.position - 1
  let (negated, s) ← st.source.accept '^'
  let (items, s) ← setMembers start (s.rest.length + 1) [] s
  let mode := st.current.mode
  return { st with source := s }.push <| match items.eraseDups with
    | [.code n] => .code mode negated n
    | items => .set mode negated items

/-- The bounds of a repetition in braces, after the opening brace; none if the braces hold no
bounds, so that the brace stands for itself. -/
def bounds (s : Source) : Except RegexFault (Option (Nat × Nat × Source)) := do
  if s.sees '\x7d' then return none
  let fuel := s.rest.length
  let start := s
  let (lo, s) ← s.takeWhile Char.isDigit fuel
  let (comma, s) ← s.accept ','
  let (hi, s) ← if comma then s.takeWhile Char.isDigit fuel else pure (lo, s)
  let (closed, s) ← s.accept '\x7d'
  if !closed then return none
  let least := numberOf 10 lo
  let most := if hi.isEmpty then unbounded else numberOf 10 hi
  if !lo.isEmpty && unbounded ≤ least then throw .repeatTooLarge
  if !hi.isEmpty && unbounded ≤ most then throw .repeatTooLarge
  if !hi.isEmpty && most < least then throw (.at .repeatBounds start.position)
  return some (least, most, s)

/-- Repeats the latest part; `start` is the position of the quantifier. -/
def ParseState.repeatLast (st : ParseState) (start least most : Nat) (s : Source) :
    Except RegexFault ParseState := do
  match st.current.parts with
  | [] | .one (.anchor ..) :: _ => throw (.at .nothingToRepeat start)
  | .one (.repeated ..) :: _ => throw (.at .multipleRepeat start)
  | body :: rest =>
    let (isLazy, s) ← s.accept '?'
    let (possessive, s) ← if isLazy then pure (false, s) else s.accept '+'
    let greed : Greed := if isLazy then .lazy else if possessive then .possessive else .greedy
    let parts := .one (.repeated greed least most (.seq body.expressions)) :: rest
    return { st with source := s, current := { st.current with parts := parts } }

/-- Is the text one that a group can be named by? -/
def checkName (s : Source) (name : String) : Except RegexFault Unit :=
  if Text.isIdentifier name then return
  else throw (s.fault (.badGroupName name) (name.length + 1))

/-- Opens a group. -/
def ParseState.open (st : ParseState) (kind : GroupKind) (start : Nat) (mode : RegexMode)
    (s : Source) : ParseState :=
  { st with source := s, current := ⟨kind, start, mode, [], []⟩, outer := st.current :: st.outer }

/-- Opens a group that keeps what it matches. -/
def ParseState.openCapture (st : ParseState) (start : Nat) (name : Option String) (s : Source) :
    Except RegexFault ParseState := do
  let index := st.groups
  let names ← match name with
    | none => pure st.names
    | some n => match st.names.lookup n with
      | some earlier => throw (s.fault (.redefinedGroup n index earlier) (n.length + 1))
      | none => pure ((n, index) :: st.names)
  return { st with groups := index + 1, names := names }.open (.capture index) start
    st.current.mode s

/-- Sets the mode that a letter names. -/
def withFlag (mode : RegexMode) (on : Bool) : Char → RegexMode
  | 'i' => { mode with ignoreCase := on }
  | 'm' => { mode with multiline := on }
  | 's' => { mode with dotAll := on }
  | 'x' => { mode with verbose := on }
  | 'a' => { mode with ascii := on }
  | 'u' => { mode with ascii := false }
  | _ => mode

/-- The letters of the modes. -/
def isFlag (c : Char) : Bool := "iLmsxatu".toList.contains c

/-- The complaint about a symbol where a mode was expected. -/
def flagFault (s : Source) (t : Symbol) (expected : String) : RegexFault :=
  match t with
  | .plain c =>
    let isLetter := Text.isIdentifierStart c && c != '_'
    s.fault (if isLetter then .unknownFlag else .missing expected) t.size
  | _ => s.fault (.missing expected) t.size

/-- The letters of modes to turn on, the symbol after them and the rest. -/
def flagsOn : Nat → List Char → Char → Source →
    Except RegexFault (List Char × Char × Source)
  | 0, _, _, s => throw (s.fault (.missing "-, : or )"))
  | fuel + 1, taken, c, s => do
    if c == 'L' then throw (s.fault (.flagCase "cannot use 'L' flag with a str pattern"))
    let taken := taken ++ [c]
    if (c == 'a' || c == 'u') && taken.any (fun d => (d == 'a' || d == 'u') && d != c) then
      throw (s.fault (.flagCase "flags 'a', 'u' and 'L' are incompatible"))
    let (t, s) ← s.take
    match t with
    | none => throw (s.fault (.missing "-, : or )"))
    | some (.plain d) =>
      if d == ')' || d == '-' || d == ':' then return (taken, d, s)
      else if isFlag d then flagsOn fuel taken d s
      else throw (flagFault s (.plain d) "-, : or )")
    | some t => throw (flagFault s t "-, : or )")

/-- The letters of modes to turn off, up to the colon. -/
def flagsOff : Nat → List Char → Char → Source → Except RegexFault (List Char × Source)
  | 0, _, _, s => throw (s.fault (.missing ":"))
  | fuel + 1, taken, c, s => do
    if c == 'a' || c == 'u' || c == 'L' then
      throw (s.fault (.flagCase "cannot turn off flags 'a', 'u' and 'L'"))
    let taken := taken ++ [c]
    let (t, s) ← s.take
    match t with
    | none => throw (s.fault (.missing ":"))
    | some (.plain d) =>
      if d == ':' then return (taken, s)
      else if isFlag d then flagsOff fuel taken d s
      else throw (flagFault s (.plain d) ":")
    | some t => throw (flagFault s t ":")

/-- The modes after the question mark of a group, of which `c` is the first symbol. -/
def ParseState.flags (st : ParseState) (start : Nat) (c : Char) (s : Source) :
    Except RegexFault ParseState := do
  let fuel := s.rest.length + 1
  let (on, stop, s) ← if c == '-' then pure ([], '-', s) else flagsOn fuel [] c s
  if stop == ')' then
    let g := st.current
    let first := match g.kind with
      | .top => g.choices.isEmpty && g.parts.isEmpty
      | _ => false
    if !first then throw (.at .globalFlagsInside start)
    let mode := on.foldl (fun m c => if c == 'u' then m else withFlag m true c) g.mode
    return { st with
      source := s, unicode := st.unicode || on.contains 'u',
      template := st.template || on.contains 't', current := { g with mode := mode } }
  else
    if on.contains 't' then
      throw (s.fault (.flagCase "cannot turn on global flag") 1)
    let (off, s) ← if stop == ':' then pure ([], s) else do
      let (t, s) ← s.take
      match t with
      | none => throw (s.fault (.missing "flag"))
      | some (.plain d) =>
        if isFlag d then flagsOff fuel [] d s else throw (flagFault s (.plain d) "flag")
      | some t => throw (flagFault s t "flag")
    if off.contains 't' then
      throw (s.fault (.flagCase "cannot turn off global flag") 1)
    if on.any off.contains then
      throw (s.fault (.flagCase "flag turned on and off") 1)
    let mode := on.foldl (fun m c => withFlag m true c) st.current.mode
    let mode := off.foldl (fun m c => withFlag m false c) mode
    return st.open .scoped start mode s

/-- Skips a comment, up to its closing parenthesis. -/
def skipComment (start : Nat) : Nat → Source → Except RegexFault Source
  | 0, _ => throw (.at .unterminatedComment start)
  | fuel + 1, s => do
    let (t, s) ← s.take
    match t with
    | none => throw (.at .unterminatedComment start)
    | some t => if t == .plain ')' then return s else skipComment start fuel s

/-- The group that a condition asks for, by name or by number. -/
def ParseState.condition (st : ParseState) (name : String) (s : Source) :
    Except RegexFault (Nat × ParseState) := do
  if Text.isIdentifier name then
    match st.names.lookup name with
    | some index => return (index, st)
    | none => throw (s.fault (.unknownGroupName name) (name.length + 1))
  else
    let some index := ((readInteger name).toOption.filter (0 ≤ ·)).map Int.toNat
      | throw (s.fault (.badGroupName name) (name.length + 1))
    if index == 0 then throw (s.fault .badGroupNumber (name.length + 1))
    if 1073741823 ≤ index then
      throw (s.fault (.invalidGroupReference index) (name.length + 1))
    let known := (st.references.lookup index).isSome
    let references :=
      if known then st.references
      else st.references ++ [(index, s.position - name.length - 1)]
    return (index, { st with references := references })

/-- Opens a look-around, after its head. -/
def ParseState.openLook (st : ParseState) (behind negated : Bool) (start : Nat) (s : Source) :
    ParseState :=
  let outer := st.lookBehind
  let inner := if behind then outer.or (some st.groups) else outer
  { st with lookBehind := inner }.open (.look behind negated outer) start st.current.mode s

/-- What a group with a `P` after the question mark stands for: a named group or a reference. -/
def ParseState.openNamed (st : ParseState) (start : Nat) (s : Source) :
    Except RegexFault ParseState := do
  if s.sees '<' then
    let (name, s) ← (← s.skip).takeName '>' "group name"
    checkName s name
    st.openCapture start (some name) s
  else if s.sees '=' then
    let (name, s) ← (← s.skip).takeName ')' "group name"
    checkName s name
    match st.names.lookup name with
    | none => throw (s.fault (.unknownGroupName name) (name.length + 1))
    | some index =>
      if (st.closed.lookup index).isNone then throw (s.fault .openGroup (name.length + 1))
      st.pushReference index s
  else
    let (t, s) ← s.take
    match t with
    | none => throw (s.fault .endOfPattern)
    | some t => throw (s.fault (.unknownExtension (String.ofList ('P' :: t.text))) (t.size + 2))

/-- What a group with a question mark stands for. -/
def ParseState.openSpecial (st : ParseState) (start : Nat) (s : Source) :
    Except RegexFault ParseState := do
  let mode := st.current.mode
  let (t, s) ← s.take
  match t with
  | none => throw (s.fault .endOfPattern)
  | some (.plain 'P') => st.openNamed start s
  | some (.plain ':') => return st.open .plain start mode s
  | some (.plain '#') =>
    let s ← skipComment start (s.rest.length + 1) s
    return { st with source := s }
  | some (.plain '=') => return st.openLook false false start s
  | some (.plain '!') => return st.openLook false true start s
  | some (.plain '<') =>
    let (u, s) ← s.take
    match u with
    | none => throw (s.fault .endOfPattern)
    | some (.plain '=') => return st.openLook true false start s
    | some (.plain '!') => return st.openLook true true start s
    | some u => throw (s.fault (.unknownExtension (String.ofList ('<' :: u.text))) (u.size + 2))
  | some (.plain '(') =>
    let (name, s) ← s.takeName ')' "group name"
    let (index, st) ← st.condition name s
    st.checkReference index s
    return st.open (.conditional index none) start mode s
  | some (.plain '>') => return st.open .atomic start mode s
  | some (.plain c) =>
    if isFlag c || c == '-' then st.flags start c s
    else throw (s.fault (.unknownExtension (String.ofList [c])) 2)
  | some t => throw (s.fault (.unknownExtension (String.ofList t.text)) (t.size + 1))

/-- Closes the current group and adds it to the one around it. -/
def ParseState.close (st : ParseState) (g : OpenGroup) (outer : List OpenGroup) (s : Source) :
    ParseState :=
  let body := st.current.body
  let st' := { st with source := s, current := g, outer := outer }
  match st.current.kind with
  | .top | .plain => st'.pushPart (.bundle body)
  | .scoped => st'.push (.scoped (.seq body))
  | .capture index =>
    let r : Regex := .seq body
    { st' with closed := (index, r.width) :: st.closed }.push (.group index r)
  | .atomic => st'.push (.atomic (.seq body))
  | .look behind negated before =>
    { st' with lookBehind := before }.push (.look behind negated (.seq body))
  | .conditional index yes =>
    match yes with
    | some y => st'.push (.ifGroup index y (.seq body))
    | none => st'.push (.ifGroup index (.seq body) (.seq []))

/-- Begins the next choice of the current group. -/
def ParseState.branch (st : ParseState) (s : Source) : Except RegexFault ParseState := do
  let g := st.current
  match g.kind with
  | .conditional _ (some _) => throw (st.source.fault .thirdBranch)
  | .conditional index none =>
    let kind := .conditional index (some (.seq g.latest))
    return { st with source := s, current := { g with kind := kind, parts := [] } }
  | _ =>
    return { st with
      source := s, current := { g with choices := g.latest :: g.choices, parts := [] } }

/-- Skips a comment of the verbose mode, up to the end of its line. -/
def skipLine : Nat → Source → Except RegexFault Source
  | 0, s => return s
  | fuel + 1, s => do
    let (t, s) ← s.take
    match t with
    | none | some (.plain '\n') => return s
    | some _ => skipLine fuel s

/-- Reads a quantifier in braces, after the opening one. -/
def ParseState.braces (st : ParseState) (start : Nat) (s : Source) :
    Except RegexFault ParseState := do
  match ← bounds s with
  | none => return { st with source := s }.push (.code st.current.mode false 123)
  | some (least, most, s) => st.repeatLast start least most s

/-- Reads what a plain symbol begins. -/
def ParseState.plainStep (st : ParseState) (c : Char) (start : Nat) (s : Source) :
    Except RegexFault ParseState := do
  let mode := st.current.mode
  let st' := { st with source := s }
  match c with
  | '[' => st'.pushSet
  | '.' => return st'.push (.any mode)
  | '^' => return st'.push (.anchor mode .lineStart)
  | '$' => return st'.push (.anchor mode .lineEnd)
  | '?' => st.repeatLast start 0 1 s
  | '*' => st.repeatLast start 0 unbounded s
  | '+' => st.repeatLast start 1 unbounded s
  | '\x7b' => st.braces start s
  | '(' =>
    let (special, s) ← s.accept '?'
    if special then st.openSpecial start s else st.openCapture start none s
  | c => return st'.push (.code mode false c.toNat)

/-- Refuses an expression whose characters are classed in two ways. -/
def ParseState.checkClasses (st : ParseState) : Except RegexFault Unit :=
  if st.unicode && st.current.mode.ascii then throw .mixedClasses else return

/-- **One step of reading**: what the next symbol begins or ends. -/
def ParseState.step (st : ParseState) (t : Symbol) : Except RegexFault ParseState := do
  let start := st.source.position
  match t, st.outer with
  | .plain ')', [] => do
    st.checkClasses
    throw (st.source.fault .unbalanced)
  | .plain ')', g :: outer => return st.close g outer (← st.source.skip)
  | _, _ =>
    let s ← st.source.skip
    match t with
    | .plain '|' => st.branch s
    | .escaped c => ParseState.pushEscape { st with source := s } c
    | .broken => throw (.at .trailingBackslash start)
    | .plain c =>
      if st.current.mode.verbose && isVerboseBlank c then return { st with source := s }
      else if st.current.mode.verbose && c == '#' then
        return { st with source := ← skipLine (s.rest.length + 1) s }
      else st.plainStep c start s

/-- Reads all symbols. -/
def ParseState.run : Nat → ParseState → Except RegexFault ParseState
  | 0, st => return st
  | fuel + 1, st => match st.source.next? with
    | none => return st
    | some t => do run fuel (← st.step t)

/-- **The expression that a text denotes**, or the fault in it. -/
def parse (pattern : String) : Except RegexFault Regex := do
  let source ← Source.ofText pattern
  let start : ParseState := { source := source, current := ⟨.top, 0, {}, [], []⟩ }
  let st ← start.run source.rest.length
  match st.outer with
  | _ :: _ => throw (.at .unterminatedGroup st.current.start)
  | [] =>
    st.checkClasses
    match st.references.find? fun r => st.groups ≤ r.1 with
    | some (index, position) => throw (.at (.invalidGroupReference index) position)
    | none =>
      let r : Regex := .seq st.current.body
      match r.fault? st.template with
      | some fault => throw fault
      | none => return r

end Taxonomy.Regex

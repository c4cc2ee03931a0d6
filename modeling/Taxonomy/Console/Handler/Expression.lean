import Taxonomy.Console.Handler.Token

/-!
# Expressions of handlers

The arguments of a handler, as a tree, and what is wrong with arguments that are none.

An expression is first read without complaints. If it cannot be read, it is read once more, and
the first mistake that has words of its own is told. A broken token behind it is told before it.

* `Handler.Node.read`: the tree of a text.
-/

namespace Taxonomy.Handler

/-- **An expression.** What is no literal is only known by its kind. -/
inductive Node where
  | constant (kind : String)
  | number (imaginary : Bool)
  | signed (operand : Node)
  | sum (left right : Node)
  | tuple (parts : List Node)
  | set (parts : List Node)
  | table (entries : List (Node × Node))
  | emptySet
  | name (s : String)
  | other (kind : String)
  deriving Inhabited

/-- The kind of an expression, as messages name it. -/
def Node.kind : Node → String
  | .constant kind => kind
  | .number _ => "literal"
  | .signed _ | .sum .. => "expression"
  | .tuple _ => "tuple"
  | .set _ => "set display"
  | .table _ => "dict literal"
  | .emptySet => "function call"
  | .name _ => "name"
  | .other kind => kind

/-- Is this a name that once began a statement? -/
def Node.isLegacy : Node → Bool
  | .name n => n == "print" || n == "exec"
  | _ => false

/-- Why reading stops: at a token that is broken, with a complaint, or just so. -/
inductive Stop where
  | broken (message : String)
  | complaint (message : String)
  | stuck

/-- The tokens that are still to be read, each with the number of brackets around it. -/
abbrev Input := List (Token × Nat)

/-- A reader of a part of the tokens. -/
abbrev Reader (α : Type) := Input → Except Stop (α × Input)

/-- The next token. A token that is broken is noticed when it is looked at. -/
def peek : Input → Except Stop Token
  | [] => throw .stuck
  | (.broken m, _) :: _ | (.failing m, _) :: _ => throw (.broken m)
  | (t, _) :: _ => return t

/-- Is the next token this sign or word? -/
def sees (s : String) (ts : Input) : Except Stop Bool := do
  let t ← peek ts
  return t == .sign s || t == .name s

/-- Takes a sign or a word. -/
def expect (s : String) (ts : Input) : Except Stop Input := do
  if ← sees s ts then return ts.tail else throw .stuck

/-- Takes one of several signs or words, if one is next. -/
def accept (signs : List String) (ts : Input) : Except Stop (Option (String × Input)) := do
  match ← peek ts with
  | .sign s | .name s => return if signs.contains s then some (s, ts.tail) else none
  | _ => return none

/-- The words that are no names. -/
def reserved : List String := [
  "False", "None", "True", "and", "as", "assert", "async", "await", "break", "class", "continue",
  "def", "del", "elif", "else", "except", "finally", "for", "from", "global", "if", "import", "in",
  "is", "lambda", "nonlocal", "not", "or", "pass", "raise", "return", "try", "while", "with",
  "yield"]

/-- Tries a reader. A broken token and a complaint are no failures to try. -/
def attempt {α : Type} (r : Reader α) (ts : Input) : Except Stop (Option (α × Input)) :=
  match r ts with
  | .ok x => return some x
  | .error .stuck => return none
  | .error stop => throw stop

/-- The signs between operands, from the weakest to the strongest. -/
def levels : List (List String) :=
  [["|"], ["^"], ["&"], ["<<", ">>"], ["+", "-"], ["*", "/", "//", "%", "@"]]

/-- Two operands with a sign between them. -/
def joined (s : String) (a b : Node) : Node :=
  if s == "+" || s == "-" then .sum a b else .other "expression"

/-- Strings one after another. -/
def strings : Nat → List Literal → Reader (List Literal)
  | 0, kinds, ts => return (kinds, ts)
  | fuel + 1, kinds, ts => do
    match ← peek ts with
    | .literal .text => strings fuel (.text :: kinds) ts.tail
    | .literal .bytes => strings fuel (.bytes :: kinds) ts.tail
    | .literal .formatted => strings fuel (.formatted :: kinds) ts.tail
    | _ => return (kinds, ts)

/-- The words that begin a statement in some places and are names in others. -/
def softWords : List String := ["_", "case", "match"]

/-- Does the text begin with two parts that may stand side by side? -/
def mayStandSideBySide : Input → Bool
  | (.name n, _) :: (.literal kind, _) :: _ =>
    softWords.contains n ||
      (!reserved.contains n && (kind == .text || kind == .bytes || kind == .formatted))
  | (.name n, _) :: _ => softWords.contains n
  | _ => false

/-- The complaint about an equals sign behind a name. -/
def singleEquals : String :=
  "invalid syntax. Maybe you meant '==' or ':=' instead of '='?"

mutual

/-- An expression. With `strict`, mistakes are complained about; `depth` brackets are around
it. -/
def expression (strict : Bool) (depth : Nat) : Nat → Reader Node
  | 0, _ => throw .stuck
  | fuel + 1, ts => do
    if ← sees "lambda" ts then
      let rest := ts.dropWhile fun t => t.1 != .sign ":" && t.1 != .done
      let (_, ts) ← expression strict depth fuel (← expect ":" rest)
      return (.other "lambda", ts)
    let (a, ts') ← disjunction strict depth fuel ts
    if strict && !mayStandSideBySide ts then
      if (← attempt (expression false depth fuel) ts').isSome && 0 < depth && !a.isLegacy then
        throw (.complaint "invalid syntax. Perhaps you forgot a comma?")
    let condition ← match ← accept ["if"] ts' with
      | none => pure none
      | some (_, rest) => attempt (disjunction strict depth fuel) rest
    if let (true, some (_, rest)) := (strict, condition) then
      if !(← sees "else" rest) && !(← sees ":" rest) then
        throw (.complaint "expected 'else' after 'if' expression")
    if strict then checkLegacy depth fuel ts
    match condition with
    | none => return (a, ts')
    | some (_, rest) =>
      if ← sees "else" rest then
        let (_, ts) ← expression strict depth fuel rest.tail
        return (.other "conditional expression", ts)
      else return (a, ts')
termination_by structural fuel => fuel

/-- Complains about a statement of old, and about mistakes behind any other name that no bracket
follows. -/
def checkLegacy (depth : Nat) : Nat → Input → Except Stop Unit
  | 0, _ => return
  | fuel + 1, ts => do
    match ts with
    | (.name n, _) :: rest =>
      if reserved.contains n || (← sees "(" rest) then return
      if (← attempt (starredRow depth fuel) rest).isSome && (Node.name n).isLegacy then
        throw (.complaint s!"Missing parentheses in call to '{n}'. Did you mean {n}(...)?")
    | _ => return
termination_by structural fuel => fuel

/-- Expressions with commas between them, some behind a star. -/
def starredRow (depth : Nat) : Nat → Reader Unit
  | 0, _ => throw .stuck
  | fuel + 1, ts => do
    let (_, ts) ← match ← accept ["*"] ts with
      | some (_, ts) => operation true depth levels fuel ts
      | none => expression true depth fuel ts
    match ← accept [","] ts with
    | none => return ((), ts)
    | some (_, rest) =>
      match ← attempt (starredRow depth fuel) rest with
      | some ((), ts) => return ((), ts)
      | none => return ((), rest)
termination_by structural fuel => fuel

/-- Expressions with `or` between them. -/
def disjunction (strict : Bool) (depth : Nat) : Nat → Reader Node
  | 0, _ => throw .stuck
  | fuel + 1, ts => do
    let (a, ts) ← conjunction strict depth fuel ts
    match ← accept ["or"] ts with
    | some (_, rest) =>
      match ← attempt (disjunction strict depth fuel) rest with
      | some (_, ts) => return (.other "expression", ts)
      | none => return (a, ts)
    | none => return (a, ts)
termination_by structural fuel => fuel

/-- Expressions with `and` between them. -/
def conjunction (strict : Bool) (depth : Nat) : Nat → Reader Node
  | 0, _ => throw .stuck
  | fuel + 1, ts => do
    let (a, ts) ← inversion strict depth fuel ts
    match ← accept ["and"] ts with
    | some (_, rest) =>
      match ← attempt (conjunction strict depth fuel) rest with
      | some (_, ts) => return (.other "expression", ts)
      | none => return (a, ts)
    | none => return (a, ts)
termination_by structural fuel => fuel

/-- An expression behind `not`, or a comparison. -/
def inversion (strict : Bool) (depth : Nat) : Nat → Reader Node
  | 0, _ => throw .stuck
  | fuel + 1, ts => do
    match ← accept ["not"] ts with
    | some (_, ts) => do
      let (_, ts) ← inversion strict depth fuel ts
      return (.other "expression", ts)
    | none => do
      let (a, ts) ← operation strict depth levels fuel ts
      comparison strict depth a fuel ts
termination_by structural fuel => fuel

/-- What an operand is compared with. -/
def comparison (strict : Bool) (depth : Nat) (a : Node) : Nat → Reader Node
  | 0, _ => throw .stuck
  | fuel + 1, ts => do
    let rest ← match ← accept ["==", "!=", "<", "<=", ">", ">=", "in", "is", "not"] ts with
      | none => pure none
      | some ("is", ts) => match ← accept ["not"] ts with
        | some (_, ts) => pure (some ts)
        | none => pure (some ts)
      | some ("not", ts) => match ← accept ["in"] ts with
        | some (_, ts) => pure (some ts)
        | none => pure none
      | some (_, ts) => pure (some ts)
    match rest with
    | none => return (a, ts)
    | some rest =>
      match ← attempt (operation strict depth levels fuel) rest with
      | some (_, ts) => comparison strict depth (.other "comparison") fuel ts
      | none => return (a, ts)
termination_by structural fuel => fuel

/-- Operands with signs of the levels between them. -/
def operation (strict : Bool) (depth : Nat) (signs : List (List String)) : Nat → Reader Node
  | 0, _ => throw .stuck
  | fuel + 1, ts => do
    match signs with
    | [] => factor strict depth fuel ts
    | level :: stronger => do
      let (a, ts) ← operation strict depth stronger fuel ts
      operands strict depth level stronger a fuel ts
termination_by structural fuel => fuel

/-- Further operands of one level. -/
def operands (strict : Bool) (depth : Nat) (level : List String) (stronger : List (List String))
    (a : Node) : Nat → Reader Node
  | 0, _ => throw .stuck
  | fuel + 1, ts => do
    match ← accept level ts with
    | none => return (a, ts)
    | some (s, rest) =>
      match ← attempt (operation strict depth stronger fuel) rest with
      | some (b, ts) => operands strict depth level stronger (joined s a b) fuel ts
      | none => return (a, ts)
termination_by structural fuel => fuel

/-- A signed operand, or a power. -/
def factor (strict : Bool) (depth : Nat) : Nat → Reader Node
  | 0, _ => throw .stuck
  | fuel + 1, ts => do
    match ← accept ["+", "-", "~"] ts with
    | some (s, ts) => do
      let (a, ts) ← factor strict depth fuel ts
      return (if s == "~" then .other "expression" else .signed a, ts)
    | none => do
      let ts := if ← sees "await" ts then ts.tail else ts
      let (a, ts) ← atom strict depth fuel ts
      let (a, ts) ← primary strict depth a fuel ts
      match ← accept ["**"] ts with
      | some (_, rest) =>
        match ← attempt (factor strict depth fuel) rest with
        | some (_, ts) => return (.other "expression", ts)
        | none => return (a, ts)
      | none => return (a, ts)
termination_by structural fuel => fuel

/-- What follows an atom: names behind points, and arguments. -/
def primary (strict : Bool) (depth : Nat) (a : Node) : Nat → Reader Node
  | 0, _ => throw .stuck
  | fuel + 1, ts => do
    match ← accept [".", "(", "\x7b"] ts with
    | none => return (a, ts)
    | some ("\x7b", rest) => do
      if strict then checkTarget (depth + 1) fuel rest
      return (a, ts)
    | some (".", rest) =>
      match ← peek rest with
      | .name n =>
        if reserved.contains n then return (a, ts)
        else primary strict depth (.other "attribute") fuel rest.tail
      | _ => return (a, ts)
    | some (_, rest) => do
      let isEmpty ← sees ")" rest
      let some ((), ts) ← attempt (arguments strict (depth + 1) false fuel) rest
        | return (a, ts)
      let call : Node := match a with
        | .name "set" => if isEmpty then .emptySet else .other "function call"
        | _ => .other "function call"
      primary strict depth call fuel ts
termination_by structural fuel => fuel

/-- The arguments of a call, after the bracket. Behind a named one, all are named. -/
def arguments (strict : Bool) (depth : Nat) (named : Bool) : Nat → Reader Unit
  | 0, _ => throw .stuck
  | fuel + 1, ts => do
    if ← sees ")" ts then return ((), ts.tail)
    let (isNamed, ts) ← match ← accept ["*", "**"] ts with
      | some (s, ts) => do
        let (_, ts) ← expression strict depth fuel ts
        pure (named || s == "**", ts)
      | none =>
        match ts with
        | (.name n, _) :: (.sign "=", _) :: rest =>
          if reserved.contains n then
            if strict && ["True", "False", "None"].contains n then
              throw (.complaint s!"cannot assign to {n}")
            else throw .stuck
          else do
            let (_, ts) ← expression strict depth fuel rest
            pure (true, ts)
        | ts => do
          let (_, ts) ← namable strict depth true fuel ts
          if strict && (← sees "=" ts) then
            throw (.complaint
              "expression cannot contain assignment, perhaps you meant \"==\"?")
          let ts ← if ← sees "for" ts then skipLoops fuel ts else pure ts
          if named then
            throw <| if strict then .complaint "positional argument follows keyword argument"
              else .stuck
          pure (named, ts)
    if ← sees ")" ts then return ((), ts.tail)
    arguments strict depth isNamed fuel (← expect "," ts)
termination_by structural fuel => fuel

/-- The loops behind an element, up to the closing bracket. -/
def skipLoops : Nat → Input → Except Stop Input
  | 0, _ => throw .stuck
  | fuel + 1, ts => do
    let ts ← expect "for" ts
    let (_, ts) ← factor false 1 fuel ts
    let ts ← expect "in" ts
    let (_, ts) ← disjunction false 1 fuel ts
    let ts ← skipConditions fuel ts
    if ← sees "for" ts then skipLoops fuel ts else return ts
termination_by structural fuel => fuel

/-- The conditions behind a loop. -/
def skipConditions : Nat → Input → Except Stop Input
  | 0, _ => throw .stuck
  | fuel + 1, ts => do
    if ← sees "if" ts then
      let (_, ts) ← disjunction false 1 fuel ts.tail
      skipConditions fuel ts
    else return ts
termination_by structural fuel => fuel

/-- An expression that may be given a name. Inside a call, an equals sign is looked at later. -/
def namable (strict : Bool) (depth : Nat) (inCall : Bool) : Nat → Reader Node
  | 0, _ => throw .stuck
  | fuel + 1, ts => do
    match ts with
    | (.name n, _) :: (.sign ":=", _) :: rest =>
      if reserved.contains n then throw .stuck
      let (_, ts) ← expression strict depth fuel rest
      return (.other "named expression", ts)
    | _ => do
      let (a, ts') ← expression strict depth fuel ts
      if strict && (← sees ":=" ts') then
        discard (expression strict depth fuel ts'.tail)
        throw (.complaint s!"cannot use assignment expressions with {a.kind}")
      if strict && !inCall && (← sees "=" ts') then
        let single (rest : Input) : Except Stop Bool := do
          match ← attempt (operation strict depth levels fuel) rest with
          | some (_, rest) => return !(← sees "=" rest) && !(← sees ":=" rest)
          | none => return false
        match ts with
        | (.name n, _) :: (.sign "=", _) :: rest =>
          if !reserved.contains n then
            if ← single rest then throw (.complaint singleEquals)
        | _ =>
          if !(← beginsFixed strict depth fuel ts) then
            match ← attempt (operation strict depth levels fuel) ts with
            | some (b, rest) =>
              if (← sees "=" rest) && (← single rest.tail) then
                throw (.complaint (s!"cannot assign to {b.kind} here. " ++
                  "Maybe you meant '==' instead of '='?"))
            | none => pure ()
      return (a, ts')
termination_by structural fuel => fuel

/-- A name, a literal, or what stands between brackets. -/
def atom (strict : Bool) (depth : Nat) : Nat → Reader Node
  | 0, _ => throw .stuck
  | fuel + 1, ts => do
    match ← peek ts with
    | .name n =>
      if n == "True" || n == "False" || n == "None" then return (.constant n, ts.tail)
      else if reserved.contains n then throw .stuck
      else return (.name n, ts.tail)
    | .literal .real => return (.number false, ts.tail)
    | .literal .imaginary => return (.number true, ts.tail)
    | .literal _ => do
      let (kinds, ts) ← strings fuel [] ts
      if kinds.contains .bytes && kinds.any (· != .bytes) then
        throw (.complaint "cannot mix bytes and nonbytes literals")
      return (if kinds.contains .formatted then .other "f-string expression"
        else .constant "literal", ts)
    | .sign "..." => return (.constant "ellipsis", ts.tail)
    | .sign "(" => group strict (depth + 1) fuel ts.tail
    | .sign "\x7b" => braces strict (depth + 1) fuel ts.tail
    | _ => throw .stuck
termination_by structural fuel => fuel

/-- What stands between round brackets, after the opening one. -/
def group (strict : Bool) (depth : Nat) : Nat → Reader Node
  | 0, _ => throw .stuck
  | fuel + 1, ts => do
    if ← sees ")" ts then return (.tuple [], ts.tail)
    match ← accept ["*", "**", "yield"] ts with
    | some ("yield", ts) => do
      if ← sees ")" ts then return (.other "yield expression", ts.tail)
      let ts := if ← sees "from" ts then ts.tail else ts
      let (_, ts) ← elements strict depth [] fuel ts
      return (.other "yield expression", ← expect ")" ts)
    | some (s, ts) => do
      let (_, ts) ← if s == "*" then operation strict depth levels fuel ts
        else expression strict depth fuel ts
      if strict && s == "*" && (← sees "for" ts) then
        if (← attempt (fun ts => return ((), ← skipLoops fuel ts)) ts).isSome then
          throw (.complaint "iterable unpacking cannot be used in comprehension")
      if s == "*" && (← sees "," ts) then
        let (_, ts) ← elements strict depth [] fuel ts.tail
        return (.other "tuple", ← expect ")" ts)
      if strict && (← sees ")" ts) then
        throw (.complaint <|
          "cannot use " ++ (if s == "*" then "" else "double ") ++ "starred expression here")
      throw .stuck
    | none => do
      let (a, ts) ← namable strict depth false fuel ts
      if ← sees ")" ts then return (a, ts.tail)
      if ← sees "for" ts then
        return (.other "generator expression", ← expect ")" (← skipLoops fuel ts))
      let (parts, ts) ← elements strict depth [a] fuel (← expect "," ts)
      return (.tuple parts, ← expect ")" ts)
termination_by structural fuel => fuel

/-- Elements with commas between them, up to a closing bracket; `parts` came before, the latest
first. -/
def elements (strict : Bool) (depth : Nat) (parts : List Node) : Nat → Reader (List Node)
  | 0, _ => throw .stuck
  | fuel + 1, ts => do
    if (← sees ")" ts) || (← sees "\x7d" ts) then return (parts.reverse, ts)
    let (a, ts) ← match ← accept ["*"] ts with
      | some (_, ts) => do
        let (_, ts) ← operation strict depth levels fuel ts
        pure (Node.other "starred", ts)
      | none => namable strict depth false fuel ts
    match ← accept [","] ts with
    | some (_, ts) => elements strict depth (a :: parts) fuel ts
    | none => return ((a :: parts).reverse, ts)
termination_by structural fuel => fuel

/-- Does a constant, a tuple or a loop between brackets begin here, which nothing is assigned to? -/
def beginsFixed (strict : Bool) (depth : Nat) : Nat → Input → Except Stop Bool
  | 0, _ => throw .stuck
  | fuel + 1, ts => do
    if (← accept ["True", "False", "None"] ts).isSome then return true
    match ← accept ["("] ts with
    | none => return false
    | some (_, rest) =>
      if ← sees ")" rest then return true
      match ← attempt (namable strict (depth + 1) false fuel) rest with
      | some (_, rest') => return (← sees "," rest') || (← sees "for" rest')
      | none => return false
termination_by structural fuel => fuel

/-- What stands between braces, after the opening one: a table, a set, or a loop. -/
def braces (strict : Bool) (depth : Nat) : Nat → Reader Node
  | 0, _ => throw .stuck
  | fuel + 1, ts => do
    if ← sees "\x7d" ts then return (.table [], ts.tail)
    match ← attempt (entries strict depth [] fuel) ts with
    | some (es, rest) =>
      let rest' := if ← sees "," rest then rest.tail else rest
      if ← sees "\x7d" rest' then return (.table es, rest'.tail)
      if ← sees "," rest then checkEntry strict depth true fuel rest'
    | none => checkEntry strict depth false fuel ts
    match ← attempt (elements strict depth [] fuel) ts with
    | some (parts, rest) =>
      if ← sees "\x7d" rest then return (.set parts, rest.tail)
    | none => pure ()
    match ← attempt (entry strict depth fuel) ts with
    | some (_, rest) =>
      if ← sees "for" rest then
        return (.other "dict comprehension", ← expect "\x7d" (← skipLoops fuel rest))
    | none => pure ()
    let (_, rest) ← namable strict depth false fuel ts
    if (← sees "for" rest) then
      return (.other "set comprehension", ← expect "\x7d" (← skipLoops fuel rest))
    if strict then checkTarget depth fuel ts
    throw .stuck
termination_by structural fuel => fuel

/-- An entry of a table: a key with its value, or another table behind two stars. -/
def entry (strict : Bool) (depth : Nat) : Nat → Reader (Node × Node)
  | 0, _ => throw .stuck
  | fuel + 1, ts => do
    match ← accept ["**"] ts with
    | some (_, ts) => do
      let (_, ts) ← operation strict depth levels fuel ts
      return ((.other "starred", .constant "literal"), ts)
    | none => do
      let (key, ts) ← expression strict depth fuel ts
      let (value, ts) ← expression strict depth fuel (← expect ":" ts)
      return ((key, value), ts)
termination_by structural fuel => fuel

/-- Entries with commas between them; `before` came before, the latest first. -/
def entries (strict : Bool) (depth : Nat) (before : List (Node × Node)) :
    Nat → Reader (List (Node × Node))
  | 0, _ => throw .stuck
  | fuel + 1, ts => do
    let (e, ts) ← entry strict depth fuel ts
    match ← accept [","] ts with
    | none => return ((e :: before).reverse, ts)
    | some (_, rest) =>
      match ← attempt (entries strict depth (e :: before) fuel) rest with
      | some (es, ts) => return (es, ts)
      | none => return ((e :: before).reverse, ts)
termination_by structural fuel => fuel

/-- Complains about a part of a table that is no entry. Behind other entries, a key without a colon
is one. -/
def checkEntry (strict : Bool) (depth : Nat) (behind : Bool) : Nat → Input → Except Stop Unit
  | 0, _ => return
  | fuel + 1, ts => do
    match ← attempt (expression strict depth fuel) ts with
    | none => return
    | some (_, ts) =>
      if !(← sees ":" ts) then
        if behind then throw (.complaint "':' expected after dictionary key")
      else if ← sees "*" ts.tail then
        if (← attempt (operation strict depth levels fuel) ts.tail.tail).isSome then
          throw (.complaint "cannot use a starred expression in a dictionary value")
      else if (← sees "\x7d" ts.tail) || (← sees "," ts.tail) then
        throw (.complaint "expression expected after dictionary key and ':'")
termination_by structural fuel => fuel

/-- Complains about elements between braces, and about several of them in front of a loop. -/
def checkTarget (depth : Nat) : Nat → Input → Except Stop Unit
  | 0, _ => return
  | fuel + 1, ts => do
    match ← attempt (elements true depth [] fuel) ts with
    | none => return
    | some (parts, rest) =>
      if 1 < parts.length && (← sees "for" rest) then
        if (← attempt (fun ts => return ((), ← skipLoops fuel ts)) rest).isSome then
          throw (.complaint "did you forget parentheses around the comprehension target?")
termination_by structural fuel => fuel

end

/-- Expressions with commas between them, outside of brackets. -/
def row (strict : Bool) (fuel : Nat) : Nat → List Node → Reader (List Node)
  | 0, _, _ => throw .stuck
  | more + 1, parts, ts => do
    let (a, ts) ← expression strict 0 fuel ts
    match ← accept [","] ts with
    | none => return ((a :: parts).reverse, ts)
    | some (_, ts) =>
      let t ← peek ts
      if t == .newline || t == .done then return ((a :: parts).reverse ++ [.constant "literal"], ts)
      else row strict fuel more (a :: parts) ts

/-- The whole of the tokens. -/
def whole (strict : Bool) (ts : Input) : Except Stop Node := do
  let fuel := 16 * ts.length + 64
  let (parts, rest) ← row strict fuel fuel [] ts
  let rest := rest.dropWhile fun t => t.1 == .newline
  match ← peek rest with
  | .done => return match parts with
    | [a] => a
    | parts => .tuple parts
  | .indent => throw (.complaint "unexpected indent")
  | _ => throw .stuck

/-- The first token that is broken. -/
def brokenToken? (ts : Input) : Option String :=
  ts.findSome? fun t => match t.1 with
    | .broken m => some m
    | _ => none

/-- **The tree of a text**, or what is wrong with it. -/
def Node.read (s : String) : Except String Node :=
  let ts := tokens s
  match whole false ts with
  | .ok node => return node
  | .error (.broken m) => throw m
  | .error (.complaint m) => throw ((brokenToken? ts).getD m)
  | .error .stuck =>
    match whole true ts with
    | .error (.broken m) => throw m
    | .error (.complaint m) => throw ((brokenToken? ts).getD m)
    | _ => throw ((brokenToken? ts).getD "invalid syntax")

end Taxonomy.Handler

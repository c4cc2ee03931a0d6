import Taxonomy.Value

/-!
# Calls

An operation that is called by its name takes arguments by position and by name. A signature says
which; arguments that fit it give a value to each of its parameters.

* `Signature.bind`: the values of the parameters, or why the arguments do not fit.
* `CallFault.message`: the wording of a misfit.
* `keys_bind`: arguments that fit give a value to every parameter.
-/

namespace Taxonomy

/-- **A parameter of an operation**, with the value that it has when no argument is given. -/
structure Parameter where
  name : String
  default : Option Value := none
  deriving DecidableEq, Repr, Inhabited

/-- **What arguments an operation takes.** -/
structure Signature where
  operation : String
  /-- The parameters that have their arguments before the call; they count as positions. -/
  bound : List String := []
  /-- The parameters that take arguments by position or by name. -/
  positional : List Parameter := []
  /-- The parameters that take arguments by name only. -/
  named : List Parameter := []
  /-- Are further arguments by position taken? -/
  takesRest : Bool := false
  /-- Are further arguments by name taken? -/
  takesOthers : Bool := false
  deriving DecidableEq, Repr, Inhabited

/-- **Why arguments do not fit.** -/
inductive CallFault where
  | unexpected (name : String)
  | repeated (name : String)
  /-- The same name is given twice, by whoever passes the arguments on. -/
  | repeatedName (name : String)
  /-- There are more arguments by position than parameters; `byName` of the arguments are for
  parameters that take them by name only. -/
  | tooMany (least most given byName : Nat)
  | missing (names : List String)
  deriving DecidableEq, Repr, Inhabited

namespace CallFault

/-- Names in a row, with a word in front of the last. -/
def enumeration : List String → String
  | [] => ""
  | [a] => s!"'{a}'"
  | [a, b] => s!"'{a}' and '{b}'"
  | names =>
    let quoted := names.map fun a => "'" ++ a ++ "'"
    ", ".intercalate quoted.dropLast ++ ", and " ++ quoted.getLastD ""

/-- The ending of a noun for a number. -/
def plural (n : Nat) : String := if n == 1 then "" else "s"

/-- **The wording of a misfit**, behind the name of the operation. -/
def message : CallFault → String
  | unexpected name => s!"got an unexpected keyword argument '{name}'"
  | repeated name => s!"got multiple values for argument '{name}'"
  | repeatedName name => s!"got multiple values for keyword argument '{name}'"
  | tooMany least most given byName =>
    let range := if least < most then s!"from {least} to {most}" else s!"{most}"
    let noun := if least < most then "s" else plural most
    let others := if byName == 0 then ""
      else s!" positional argument{plural given} (and {byName} keyword-only " ++
        s!"argument{plural byName})"
    let verb := if given == 1 && byName == 0 then "was" else "were"
    s!"takes {range} positional argument{noun} but {given}{others} {verb} given"
  | missing names =>
    s!"missing {names.length} required positional argument{plural names.length}: " ++
      enumeration names

end CallFault

/-- **Arguments that fit an operation**: the values of its parameters, and what goes beyond
them. -/
structure BoundArguments where
  values : List (String × Value)
  rest : List Value := []
  others : List (String × Value) := []
  deriving DecidableEq, Repr, Inhabited

/-- The value of a parameter. -/
def BoundArguments.get (b : BoundArguments) (name : String) : Value :=
  (b.values.lookup name).getD .null

namespace Signature

variable (s : Signature)

/-- The parameters that calls give arguments to. -/
def parameters : List Parameter := s.positional ++ s.named

/-- The arguments by name that are for no parameter; `taken` are the parameters that have their
arguments already. -/
def othersOf (taken : List String) :
    List (String × Value) → Except CallFault (List (String × Value))
  | [] => pure []
  | (name, v) :: es =>
    if taken.contains name then throw (.repeated name)
    else if s.parameters.any (·.name == name) then othersOf taken es
    else if s.takesOthers then return (name, v) :: (← othersOf taken es)
    else throw (.unexpected name)

/-- The fault of too many arguments by position. -/
def excess (given : Nat) (named : List (String × Value)) : CallFault :=
  let most := s.bound.length + s.positional.length
  .tooMany (most - s.positional.countP (·.default.isSome)) most (s.bound.length + given)
    (named.countP fun e => s.named.any (·.name == e.1))

/-- The value of a parameter in a call: the argument at its place, that of its name, or its own. -/
def valueOf (args : List Value) (named : List (String × Value)) (p : Parameter) : Option Value :=
  ((((s.positional.map (·.name)).zip args).lookup p.name).or (named.lookup p.name)).or p.default

/-- The parameters that a call leaves without a value. -/
def missing (args : List Value) (named : List (String × Value)) : List String :=
  (s.positional.filter fun p => (s.valueOf args named p).isNone).map (·.name)

/-- **The values of the parameters of a call**, or why its arguments do not fit. -/
def bind (args : List Value) (named : List (String × Value)) : Except CallFault BoundArguments :=
  match othersOf s (s.bound ++ (s.positional.take args.length).map (·.name)) named with
  | .error f => .error f
  | .ok others =>
    if s.positional.length < args.length && !s.takesRest then .error (s.excess args.length named)
    else if !(s.missing args named).isEmpty then .error (.missing (s.missing args named))
    else .ok
      { values := s.parameters.map fun p => (p.name, (s.valueOf args named p).getD .null)
        rest := args.drop s.positional.length
        others }

/-- Arguments that fit give a value to every parameter. -/
theorem keys_bind {args : List Value} {named : List (String × Value)} {b : BoundArguments}
    (h : s.bind args named = .ok b) : b.values.map Prod.fst = s.parameters.map (·.name) := by
  unfold Signature.bind at h
  split at h
  · cases h
  · split at h
    · cases h
    · split at h
      · cases h
      · cases h
        simp [Function.comp_def]

end Signature

end Taxonomy

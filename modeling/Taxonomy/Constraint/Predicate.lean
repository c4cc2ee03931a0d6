import Taxonomy.Constraint.Basic
import Taxonomy.Conversion
import Taxonomy.Regex.Match
import Taxonomy.Regex.Parse

/-!
# Predicates

The checks that constraints are made of by name and parameters. A list or tuple is checked element
by element.

* `PlacementPredicate.check`, `ValidationPredicate.check`: what the predicates decide.
* `makeConstraint`: a constraint from the name of a predicate and named arguments.
-/

namespace Taxonomy

/-- Named parameters of a predicate. -/
abbrev Params := List (String × Value)

/-- **A compiled expression** with the text that it came from. -/
structure Pattern where
  text : String
  regex : Regex

/-- Compiles the text of an expression for a predicate. Faults that are no complaint
about what is written pass on under their own labels. -/
def compile (text predicate : String) : Result Pattern :=
  match Regex.parse text with
  | .ok regex => pure ⟨text, regex⟩
  | .error cause => match cause.label? with
    | some label => throw (.raised label (cause.message text))
    | none => throw (.malformedRegex predicate text cause)

/-- Tells what matching comes to. -/
def matched : Except RegexFault Bool → Result Bool
  | .ok b => pure b
  | .error cause => throw (.raised (cause.label?.getD "error") (cause.message ""))

/-- **The names of the predicates.** -/
inductive PredicateName where
  | denyChildName
  | denyChildType
  | enum
  | length
  | positiveInt
  | range
  | regex
  | requireChildName
  | required
  deriving DecidableEq, Repr, Inhabited

namespace PredicateName

/-- The predicates in the order of their names. -/
def all : List PredicateName :=
  [denyChildName, denyChildType, enum, length, positiveInt, range, regex, requireChildName,
    required]

/-- The name of a predicate as a text. -/
def text : PredicateName → String
  | denyChildName => "deny_child_name"
  | denyChildType => "deny_child_type"
  | enum => "enum"
  | length => "length"
  | positiveInt => "positive_int"
  | range => "range"
  | regex => "regex"
  | requireChildName => "require_child_name"
  | required => "required"

/-- The predicate of a name. -/
def ofText? (name : Value) : Option PredicateName := all.find? fun p => name == .str p.text

/-- The kind of constraints that a predicate makes. -/
def kind : PredicateName → ConstraintKind
  | denyChildName | denyChildType | requireChildName => .placement
  | enum | length | positiveInt | range | regex | required => .validation

/-- The names of the predicates of a kind, or of all. -/
def known (kind : Option String := none) : List String :=
  (all.filter fun p => kind.all (· == p.kind.name)).map text

end PredicateName

/-- **What a predicate demands of a placement.** -/
inductive PlacementPredicate where
  /-- The expression is not found in the name of the child. -/
  | denyChildName (p : Pattern)
  /-- The expression is found in the name of the child. -/
  | requireChildName (p : Pattern)
  /-- The child is of none of the types. -/
  | denyChildType (patterns : List TypePattern)

/-- Is an expression found in a name? Only texts can be searched. -/
def Pattern.foundIn (p : Pattern) : Value → Result Bool
  | .str s => matched (p.regex.found s)
  | v => throw (.misfit v .notSearchable)

/-- **Does a placement meet the demand?** Demands on names leave unnamed children alone. -/
def PlacementPredicate.check (p : PlacementPredicate) (c : PlacementContext) : Result Bool :=
  match p, c.childName with
  | denyChildName _, .null | requireChildName _, .null => pure true
  | denyChildName p, name => do return !(← p.foundIn name)
  | requireChildName p, name => p.foundIn name
  | denyChildType ps, _ => pure (!ps.any c.childIs)

/-- **What a predicate demands of a value.** -/
inductive ValidationPredicate where
  /-- There is a value. -/
  | required
  /-- The expression covers the text of every element. -/
  | regex (p : Pattern)
  /-- The text of every element is among the allowed ones. -/
  | enum (allowed : List String) (caseSensitive : Bool)
  /-- The length of every text is within the bounds. -/
  | length (least most : Option Value)
  /-- Every element is a number within the bounds. -/
  | range (low high : Option Value)
  /-- Every element is an integer above zero. -/
  | positiveInt

/-- The number that a value denotes, if it denotes one. -/
def numberOf : Value → Result (Option Binary64)
  | .bool _ => pure none
  | .int n => some <$> realOfInteger n
  | .float x => pure (some x)
  | v => pure (readDecimal? (Text.trim v.text))

/-- The first reason that a check of elements gives. -/
def firstReason (check : Value → Result (Option String)) : List Value → Result (Option String)
  | [] => pure none
  | v :: vs => do match ← check v with
    | some reason => return some reason
    | none => firstReason check vs

namespace ValidationPredicate

/-- The check of one element. -/
def checkElement (attrName : String) : ValidationPredicate → Value → Result (Option String)
  | required, _ => pure none
  | regex p, v => match v with
    | .null => pure none
    | v => do
      if ← matched (p.regex.covers v.text) then pure none
      else pure (s!"{attrName} value {v.shown} does not match pattern {Text.quote p.text}")
  | enum allowed caseSensitive, v => match v with
    | .null => pure none
    | v =>
      let fold := if caseSensitive then id else Text.lower
      if (allowed.map fold).contains (fold v.text) then pure none
      else pure (s!"{attrName} value {v.shown} is not one of: {Fault.row allowed}")
  | length least most, v => match v with
    | .null => pure none
    | v => do
      let size := v.text.length
      if let some least := least then
        if size < (← least.toInteger) then
          return s!"{attrName} must be at least {← least.written} characters (got {size})"
      if let some most := most then
        if (← most.toInteger) < size then
          return s!"{attrName} must be at most {← most.written} characters (got {size})"
      return none
  | range low high, v => do
    if v.isBlank then return none
    let some x ← numberOf v | return s!"{attrName} value {v.shown} is not a number"
    if let some low := low then
      if x.lt (← low.toReal) then return s!"{attrName} must be >= {low.text} (got {v.text})"
    if let some high := high then
      if (← high.toReal).lt x then return s!"{attrName} must be <= {high.text} (got {v.text})"
    return none
  | positiveInt, v =>
    if v.isBlank then pure none
    else
      let refusal (shown : String) := s!"{attrName} must be a positive integer (got {shown})"
      match v with
      | .bool _ => pure (refusal v.shown)
      | v => match readInteger (Text.trim v.text) with
        | .ok n => pure (if n ≤ 0 then some (refusal v.text) else none)
        | .error _ => pure (refusal v.shown)

/-- **Why a predicate rejects a value**, if it does. -/
def check (p : ValidationPredicate) (attrName : Value) (value : Value) : Result (Option String) :=
  match p with
  | required =>
    let isMissing := value.isBlank || match value with
      | .list vs | .tuple vs => vs.isEmpty
      | _ => false
    pure (if isMissing then some s!"{attrName.text} is required" else none)
  | p => firstReason (p.checkElement attrName.text) value.elements

end ValidationPredicate

/-- The value of a parameter that a predicate cannot do without. -/
def requiredParam (params : Params) (name : String) (predicate : PredicateName) : Result Value :=
  match params.lookup name with
  | some v => pure v
  | none => throw (.parameterMissing predicate.text name)

/-- The value of a parameter; null is as good as none. -/
def optionalParam (params : Params) (name : String) : Option Value :=
  match params.lookup name with
  | some .null => none
  | v => v

/-- The expression among the parameters. -/
def patternParam (params : Params) (predicate : PredicateName) : Result Pattern := do
  compile (← (← requiredParam params "pattern" predicate).written) predicate.text

/-- The elements of a parameter; a text is its only element. -/
def elementsParam (params : Params) (name : String) (predicate : PredicateName) :
    Result (List Value) := do
  match ← requiredParam params name predicate with
  | .str s => return [.str s]
  | v => elementsOf v

/-- The bounds among the parameters, of which one at least is given. -/
def boundsParam (params : Params) (predicate : PredicateName) :
    Result (Option Value × Option Value) :=
  match optionalParam params "min", optionalParam params "max" with
  | none, none => throw (.boundsMissing predicate.text)
  | low, high => pure (low, high)

/-- **A demand of either kind.** -/
inductive Predicate where
  | placement (p : PlacementPredicate)
  | validation (p : ValidationPredicate)

/-- **The demand that a named predicate makes with parameters.** -/
def PredicateName.demand (name : PredicateName) (params : Params) : Result Predicate := do
  match name with
  | denyChildName => return .placement (.denyChildName (← patternParam params name))
  | requireChildName => return .placement (.requireChildName (← patternParam params name))
  | denyChildType =>
    return .placement (.denyChildType
      (← (← elementsParam params "types" name).mapM TypePattern.read))
  | required => return .validation .required
  | regex => return .validation (.regex (← patternParam params name))
  | enum =>
    let allowed ← (← elementsParam params "values" name).mapM Value.written
    return .validation (.enum allowed ((params.lookup "case_sensitive").all Value.isTruthy))
  | length => let (low, high) ← boundsParam params name; return .validation (.length low high)
  | range => let (low, high) ← boundsParam params name; return .validation (.range low high)
  | positiveInt => return .validation .positiveInt

/-- The named arguments of a constraint of a kind; all others are parameters of its predicate. -/
def namedArguments : ConstraintKind → List String
  | .placement => ["description", "parent", "child", "match_descendants"]
  | .validation => ["description", "target", "attribute", "match_descendants"]

/-- The arguments that stand first, without a name. -/
def leadingArguments : List String := ["constraint_id", "predicate"]

/-- The description of a constraint that is given none: its predicate and the parameters. -/
def describeParams (params : Params) : Result String := do
  let parts ← (params.mergeSort fun a b => a.1 ≤ b.1).mapM fun (k, v) => do
    return k ++ "=" ++ (← v.quoted)
  return Fault.row parts

/-- **A constraint from the name of a predicate.** The arguments are given by name, and parameters
that bear the name of an argument stand for it, unless it is given already. -/
def makeConstraint (kind : ConstraintKind) (id predicate : Value)
    (arguments params : Params := []) : Result Constraint := do
  if let some (k, _) := params.find? fun p => (arguments.lookup p.1).isSome then
    throw (.call s!"metatypes.constraints.predicates.{kind.builder}" (.repeatedName k))
  let given := arguments ++ params
  if let some (k, _) := given.find? fun p => leadingArguments.contains p.1 then
    throw (.call kind.builder (.repeated k))
  let some name := PredicateName.ofText? (← predicate.asKey)
    | throw (.unknownPredicate predicate.text PredicateName.known)
  if name.kind ≠ kind then throw (.predicateOfOtherKind name.text name.kind.name kind.name)
  let params := given.filter fun p => !(namedArguments kind).contains p.1
  let argument (k : String) (default : Value) := (given.lookup k).getD default
  let descendants := (argument "match_descendants" (.bool true)).isTruthy
  -- the predicate is made first, and patterns are read before the id is looked at
  let demand ← name.demand params
  let words := argument "description" ""
  let description ← if words.isTruthy then pure words
    else do pure (Value.str (name.text ++ "(" ++ (← describeParams params) ++ ")"))
  match demand with
  | .placement p =>
    let parent ← TypePattern.read (argument "parent" wildcard)
    let child ← TypePattern.read (argument "child" wildcard)
    return .placement { id := ← readConstraintId id, description, parent, child, descendants
                        check := p.check }
  | .validation p =>
    let target ← TypePattern.read (argument "target" wildcard)
    let check (_ : Node) (attrName value : Value) := return (← p.check attrName value).map .str
    let k ← ValidationConstraint.make id description check none wildcard
      (argument "attribute" wildcard) descendants
    return .validation { k with target }

end Taxonomy

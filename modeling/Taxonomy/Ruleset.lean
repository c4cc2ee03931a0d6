import Taxonomy.Constraint.Predicate
import Taxonomy.File.Tree
import Taxonomy.Toml.Parse

/-!
# Rulesets

A ruleset is a document that lists constraints as data: an id, a selector of types, and a predicate
with its parameters.

* `Ruleset.ofTable`: the ruleset that a document describes.
* `RuleEntry.build`: the constraint that an entry describes.
* `loadRulesets`: the constraints of several files.
-/

namespace Taxonomy

/-- **An entry of a ruleset.** -/
structure RuleEntry where
  id : String
  description : String := ""
  selector : Params := []
  predicate : PredicateName
  params : Params := []
  deriving Inhabited

/-- **A ruleset.** -/
structure Ruleset where
  id : String
  version : Int
  description : Option String := none
  entries : List RuleEntry := []
  deriving Inhabited

/-- What stands for the parser's own account of what is wrong with a document. -/
def parserDetail : String := "<detail>"

/-- The table of a document, or the fault that says which document is malformed. -/
def readToml (document : String) (malformed : Fault) : Result Params :=
  match Toml.parse document with
  | .ok es => pure es
  | .error .malformed => throw malformed
  | .error (.numeralTooLong n) => throw (.numeralTooLong (some n))

/-- The entries of a value that is a table; of any other none. -/
def tableOf : Option Value → Params
  | some (.table es) => es
  | _ => []

/-- The trimmed text of an entry, or another text where there is none. -/
def textEntry (es : Params) (key : String) (default : String := "") : Result String := do
  return Text.trim (← ((es.lookup key).getD default).written)

/-- The text of an entry that is one. -/
def textOnly? (es : Params) (key : String) : Option String :=
  match es.lookup key with
  | some (.str s) => some s
  | _ => none

namespace RuleEntry

/-- The kind of constraint that the entry describes. -/
def kind (e : RuleEntry) : ConstraintKind := e.predicate.kind

/-- **An entry from its table.** -/
def ofTable (ruleset : String) (es : Params) : Result RuleEntry := do
  let id ← textEntry es "id"
  if id == "" then throw (.ruleWithoutId ruleset)
  let predicate := tableOf (es.lookup "predicate")
  let name ← textEntry predicate "name"
  let some p := PredicateName.ofText? name
    | throw (.unknownRulePredicate ruleset id name PredicateName.known)
  let kind ← textEntry es "kind" p.kind.name
  if kind != p.kind.name then throw (.ruleOfOtherKind ruleset id name p.kind.name kind)
  return { id, predicate := p, params := tableOf (predicate.lookup "params")
           description := (textOnly? es "description").getD ""
           selector := tableOf (es.lookup "selector") }

/-- The arguments of the constraint besides its id and its predicate. -/
def arguments (e : RuleEntry) : Result Params := do
  let parts ← (match e.kind with
    | .placement => ["parent", "child"]
    | .validation => ["target", "attribute"]).mapM fun key => do
      return (key, Value.str (← ((e.selector.lookup key).getD wildcard).written))
  return [("description", .str e.description)] ++ parts ++
    [("match_descendants", .bool ((e.selector.lookup "match_descendants").all Value.isTruthy))]

/-- **The constraint that the entry describes.** -/
def build (e : RuleEntry) : Result Constraint := do
  makeConstraint e.kind e.id e.predicate.text (← e.arguments) e.params

end RuleEntry

namespace Ruleset

/-- **The ruleset that a document describes.** What is no table among the constraints is passed
over. -/
def ofTable (es : Params) : Result Ruleset := do
  let id ← textEntry es "ruleset_id"
  if id == "" then throw .rulesetIdMissing
  let version ← ((es.lookup "version").getD (.int 0)).toInteger
  if version ≤ 0 then throw .versionNotPositive
  let raw ← elementsOf ((es.lookup "constraints").getD (.list []))
  let entries ← (raw.filterMap fun v => match v with
    | .table es => some es
    | _ => none).mapM (RuleEntry.ofTable id)
  return { id, version, entries, description := textOnly? es "description" }

/-- **The ruleset of a file.** -/
def load (files : FileTree) (path : Path) : Result Ruleset := do
  let document ← (← files.read path).read
  let lines := String.ofList (Text.unifyLineEnds document.toList)
  ofTable (← readToml lines (.malformedRuleset path.text parserDetail))

/-- The constraints of a ruleset, in the order of its entries. -/
def build (r : Ruleset) : Result (List Constraint) := r.entries.mapM (·.build)

end Ruleset

/-- **The constraints of several files**, in order. -/
def loadRulesets (files : FileTree) (paths : List Path) : Result (List Constraint) := do
  return (← paths.mapM fun p => do (← Ruleset.load files p).build).flatten

end Taxonomy

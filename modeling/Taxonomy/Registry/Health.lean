import Taxonomy.Registry.Problem

/-!
# Health of a registry

A report collects errors, warnings and recommendations; blank ones are left out. The structural
check of a snapshot looks at inheritance and at the base types of families.

* `HealthReport.summary`: the report as lines.
* `Snapshot.health`: the structural check.
* `Snapshot.stats`: counts.
-/

namespace Taxonomy

/-- **A report on the health of a registry.** The facts are kept under their names. -/
structure HealthReport where
  errors : List String := []
  warnings : List String := []
  recommendations : List String := []
  facts : List (String × Value) := []
  deriving Inhabited

/-- A statement for a health report. -/
inductive HealthEntry where
  | error (message : Value)
  | warning (message : Value)
  | recommendation (message : Value)
  | fact (name : String) (value : Value)

/-- A statement from a call of an operation on a report. -/
def HealthEntry.ofCall (operation : String) (args : List Value) : Result HealthEntry := do
  let bind (positional : List String) : Result BoundArguments :=
    Signature.apply { operation := "RegistryHealthReport." ++ operation, bound := ["self"],
                      positional := positional.map (⟨·, none⟩) } args
  match operation with
  | "add_error" => return .error ((← bind ["message"]).get "message")
  | "add_warning" => return .warning ((← bind ["message"]).get "message")
  | "add_recommendation" => return .recommendation ((← bind ["message"]).get "message")
  | "add_metadata" =>
    let b ← bind ["key", "value"]
    return .fact (← (b.get "key").asKey).text (b.get "value")
  | _ => throw (.unknownOperation "RegistryHealthReport" operation)

namespace HealthReport

variable (r : HealthReport)

/-- Is there no error? -/
def isSound : Bool := r.errors.isEmpty

/-- Is there nothing to be recommended or warned of? -/
def followsBestPractices : Bool := r.warnings.isEmpty && r.recommendations.isEmpty

/-- A message as it is put into a list: not at all when it is blank. -/
def addMessage (messages : List String) (given : Value) : Result (List String) :=
  if !given.isTruthy then pure messages
  else match given with
    | .str s => pure (if Text.isBlankText s then messages else messages ++ [s])
    | v => throw (.misfit v (.noMethod "strip"))

/-- **Puts a statement into the report.** A fact replaces the one of its name. -/
def add : HealthEntry → Result HealthReport
  | .error m => return { r with errors := ← addMessage r.errors m }
  | .warning m => return { r with warnings := ← addMessage r.warnings m }
  | .recommendation m => return { r with recommendations := ← addMessage r.recommendations m }
  | .fact name value => return { r with facts := put Prod.fst (name, value) r.facts }

/-- The families without a base type, as far as the report knows of them. -/
def missingBases : Result (List Value) :=
  match r.facts.lookup "types_without_base" with
  | some v => elementsOf v
  | none => pure []

/-- The most entries of a fact that the summary lists. -/
def listedEntries : Nat := 8

/-- A fact as the summary gives it. -/
def factText (v : Value) : String :=
  let size := match v with
    | .list vs | .tuple vs => vs.length
    | .table es => es.length
    | _ => 0
  if listedEntries < size then s!"<{size} entries>" else v.text

/-- **The report as lines.** -/
def summary : String :=
  let verdict :=
    if !r.isSound then "POOR: registry has structural issues that need attention"
    else if r.followsBestPractices then
      "EXCELLENT: registry is structurally sound and follows all best practices"
    else "GOOD: registry is structurally sound but has some recommendations"
  let listing (title : String) (items : List String) :=
    if items.isEmpty then [] else (title ++ ":") :: items.map ("  - " ++ ·)
  let facts := r.facts.mergeSort fun a b => a.1 ≤ b.1
  "\n".intercalate (["=== REGISTRY HEALTH REPORT ===", verdict,
      s!"Statistics: {r.errors.length} errors, {r.warnings.length} warnings, " ++
        s!"{r.recommendations.length} recommendations"] ++
    listing "Errors" r.errors ++ listing "Warnings" r.warnings ++
    listing "Recommendations" r.recommendations ++
    if facts.isEmpty then []
    else "Registry metadata:" :: facts.map fun (k, v) => s!"  {k}: {factText v}")

/-- **The report as a table.** -/
def toValue : Value :=
  let texts (ss : List String) := Value.list (ss.map .str)
  .table [("sound", .bool r.isSound), ("errors", texts r.errors), ("warnings", texts r.warnings),
    ("recommendations", texts r.recommendations), ("metadata", .table r.facts)]

end HealthReport

/-- **Counts of what a registry holds.** -/
structure Stats where
  typeCount : Nat
  families : List (String × Nat)
  placementConstraints : Nat
  validationConstraints : Nat
  unresolved : Nat
  extended : Nat
  generation : Nat
  deriving DecidableEq, Repr

/-- The base types that every complete taxonomy has. -/
def coreBaseTypes : List TypeId :=
  [⟨"field", "base"⟩, ⟨"object", "base"⟩, ⟨"attr", "base"⟩, ⟨"validator", "base"⟩, ⟨"key", "base"⟩]

namespace Snapshot

variable (s : Snapshot)

/-- **Counts of what the snapshot holds.** -/
def stats : Stats where
  typeCount := s.types.length
  families := s.families.map fun f => (f, s.types.countP (·.id.family == f))
  placementConstraints := s.contents.placement.length
  validationConstraints := s.contents.validation.length
  unresolved := s.types.countP (!·.isResolved)
  extended := s.contents.registrations.entries.countP (!·.extensions.isEmpty)
  generation := s.generation

/-- **The structural check**: inheritance that is not resolved, families without a base type, core
types that are missing. -/
def health : HealthReport :=
  let families := s.families
  let baseless := families.filter fun f => !s.types.any fun d => d.id == ⟨f, "base"⟩
  let chains := s.sortedTypes.filterMap fun d => d.parent.map fun p => s!"{d.id} -> {p}"
  let problems := s.problems
  let missingCore := coreBaseTypes.filter fun t => (s.type? t).isNone
  let texts (ss : List String) := Value.list (ss.map .str)
  { errors :=
      if problems.isEmpty then []
      else s!"Unresolved inheritance: {problems.length} type(s) cannot resolve their parent chain"
        :: problems.map (·.message)
    warnings :=
      baseless.map (fun f => s!"Type family '{f}' missing recommended base subtype") ++
      (if !s.types.isEmpty && chains.isEmpty then
        ["No types use inheritance; consider base types for shared attributes"] else []) ++
      if missingCore.isEmpty then []
      else ["Missing core base types: " ++ Fault.row (missingCore.map (·.name))]
    recommendations :=
      baseless.map (fun f => s!"Consider adding {f}.base for inheritance support") ++
      if missingCore.isEmpty then []
      else ["Enable the built-in providers or register the core base types"]
    facts :=
      [("total_types", .int s.types.length), ("primary_types", .int families.length),
        ("types_without_base", texts baseless)] ++
      (if families.isEmpty then []
        else [("base_type_compliance", .str (s!"{families.length - baseless.length}/" ++
          s!"{families.length} type families have base subtypes"))]) ++
      [("types_with_inheritance", .int chains.length), ("inheritance_chains", texts chains)] }

end Snapshot

end Taxonomy

import Taxonomy.Console.Json
import Taxonomy.Console.Print
import Taxonomy.Console.Table
import Taxonomy.Enforcement
import Taxonomy.Provider.Bootstrap

/-!
# Commands

What the commands print about a registry, as text or as JSON, and the exit code that they end with.
-/

namespace Taxonomy

/-- **What a command prints and how it ends.** -/
structure Output where
  exit : Nat
  stdout : String := ""
  stderr : String := ""
  deriving DecidableEq, Repr, Inhabited

namespace Output

/-- A value as JSON on a line of its own. -/
def json (v : Value) (isFine : Bool := true) : Output :=
  ⟨if isFine then 0 else 1, Json.text v ++ "\n", ""⟩

/-- A complaint on the error stream. -/
def complaint (message : String) : Result Output := do
  return ⟨1, "", ← Console.print message⟩

end Output

/-- A command. -/
abbrev Command := Action Output

namespace Command

/-- A text, or null. -/
def orNull (s : Option String) : Value := (s.map Value.str).getD .null

/-- A scope's name, or null. -/
def scopeOrNull (s : Option Value) : Value := s.getD .null

/-- Texts as a list. -/
def texts (ss : List String) : Value := .list (ss.map .str)

/-- Yes or no. -/
def yesNo (b : Bool) : String := if b then "Yes" else "No"

/-- What JSON tells of a type in any case. -/
def typeSummary (d : TypeDefinition) : List (String × Value) :=
  [("type_id", d.id.name), ("parent", orNull (d.parent.map (·.name))),
    ("description", d.description), ("resolution", d.standing.name), ("scope", scopeOrNull d.scope)]

/-- A value as a cell of a table: a text, or nothing where null stands. -/
def cell (v : Value) : Result String :=
  match v with
  | .null => pure ""
  | .str s => pure s
  | v => throw (.misfit v .notRenderable)

/-- **Lists the types**, all or those of a family. -/
def types (family : Value := .null) (json : Bool := false) : Command := do
  let s := (← get).snapshot
  let definitions :=
    if !family.isTruthy then s.types
    else match family with
      | .str f => s.family f
      | _ => []
  if family.isTruthy && definitions.isEmpty then
    return ← Output.complaint s!"No types registered in family '{family.text}'"
  if json then return .json (.list (definitions.map fun d => .table (typeSummary d)))
  let rows ← definitions.mapM fun d => do
    return [d.id.name, (d.parent.map (·.name)).getD "-", ← cell d.description, d.standing.name]
  let table : Console.Table :=
    { title := if family.isTruthy then s!"Type Registry: {family.text}" else "Type Registry"
      columns := [⟨"Type", false⟩, ⟨"Parent", false⟩, ⟨"Description", false⟩, ⟨"Status", false⟩]
      rows }
  let stats := s.stats
  let total ← Console.print (s!"\n[dim]Total: {stats.typeCount} types in " ++
    s!"{stats.families.length} families, " ++
    s!"{stats.placementConstraints + stats.validationConstraints} constraints[/dim]")
  return ⟨0, (← table.draw) ++ total, ""⟩

/-- Is an effective child rule one that the type inherits? -/
def isInherited (d : TypeDefinition) (r : ChildRule) : Bool := !d.children.contains r

/-- An attribute as JSON tells of it. -/
def attributeValue (a : AttributeSpec) : Value :=
  .table [("name", a.name), ("value_type", a.valueType.name), ("required", .bool a.required),
    ("allowed_values", (a.allowed.map texts).getD .null), ("array_allowed", .bool a.arrayAllowed)]

/-- All that JSON tells of a type. -/
def typeDetails (d : TypeDefinition) : Value :=
  let rules := d.effective
  .table (typeSummary d ++
    [("ancestors", texts (d.ancestors.map (·.name))),
      ("accepts_children", .list (rules.children.map fun r => .table [("rule", r.text),
        ("required", .bool r.required), ("inherited", .bool (isInherited d r))])),
      ("accepts_parents", texts (rules.parents.map (·.text))),
      ("attributes", .list (rules.attributes.map attributeValue)),
      ("extended_by", .list d.extendedBy)])

/-- Values in a row, all of which have to be texts. -/
def rowOf (vs : List Value) : Result String := do
  let texts ← vs.zipIdx.mapM fun (v, i) => match v with
    | .str s => pure s
    | v => throw (.misfit v (.notJoinable i))
  return Fault.row texts

/-- The lines in front of the tables about a type. -/
def typeLines (d : TypeDefinition) : Result String := do
  let lines ← ([s!"\n[bold cyan]{d.id}[/bold cyan]"] ++
    (if d.description.isTruthy then [s!"  {d.description.text}"] else []) ++
    [s!"  Status: {d.standing.name}"] ++
    (if !d.ancestors.isEmpty then
        ["  Lineage: " ++ " -> ".intercalate (d.lineage.map (·.name))]
      else match d.parent with
        | some p => [s!"  Parent: {p} [yellow](not resolved)[/yellow]"]
        | none => [])).mapM Console.print
  let extended ← if d.extendedBy.isEmpty then pure ""
    else Console.print ("  Extended by: " ++ (← rowOf d.extendedBy))
  return String.join lines ++ extended

/-- The table of the child rules of a type. -/
def childTable (d : TypeDefinition) : Console.Table where
  title := "Accepts children"
  columns := [⟨"Rule", false⟩, ⟨"Required", false⟩, ⟨"Source", false⟩]
  rows := d.effective.children.map fun r =>
    [Markup.escape r.text, yesNo r.required, if isInherited d r then "inherited" else "direct"]

/-- The table of the attributes of a type. -/
def attributeTable (d : TypeDefinition) : Console.Table where
  title := "Attributes"
  columns := [⟨"Name", false⟩, ⟨"Type", false⟩, ⟨"Required", false⟩, ⟨"Allowed values", false⟩]
  rows := d.effective.attributes.map fun a =>
    let allowed := Fault.row (a.allowed.getD [])
    [a.name, a.valueType.name ++ (if a.arrayAllowed then "[]" else ""), yesNo a.required,
      if allowed == "" then "-" else allowed]

/-- **Shows a type**: what it inherits, accepts and declares. -/
def typeInfo (name : TypeRef) (json : Bool := false) : Command := do
  match (← get).requireType name with
  | .error f =>
    let isReported := f.isBadInput || match f with
      | .typeNotFound .. => true
      | _ => false
    if isReported then return ← Output.complaint f.message else throw f
  | .ok d =>
    if json then return .json (typeDetails d)
    let rules := d.effective
    let lines ← typeLines d
    let children ← if rules.children.isEmpty then pure "" else (childTable d).draw
    let parents ← if rules.parents.isEmpty then pure ""
      else Console.print ("  Accepts parents: " ++
        Markup.escape (Fault.row (rules.parents.map (·.text))))
    let attributes ← if rules.attributes.isEmpty then pure "" else (attributeTable d).draw
    return ⟨0, lines ++ children ++ parents ++ attributes, ""⟩

/-- A bootstrap report as JSON tells of it. -/
def reportValue (r : BootstrapReport) : Value :=
  .table [("order", texts r.order), ("loaded", texts r.loaded),
    ("failed", .table (r.failed.map fun (k, v) => (k, .str v))), ("skipped", texts r.skipped),
    ("resolved", .int r.resolved), ("unresolved", texts (r.unresolved.map (·.message)))]

/-- **Shows the providers** in the order of loading, with what came of each. -/
def providers (sources : ProviderSources) (json : Bool := false) : Command := do
  let r ← Registry.ensureBootstrapped sources
  if json then return .json (reportValue r) r.ok
  let taken := (r.order.zipIdx 1).map fun (id, i) =>
    [toString i, id, match r.failed.lookup id with
      | some reason => s!"[red]failed[/red] {reason}"
      | none => "[green]loaded[/green]"]
  let table : Console.Table :=
    { title := "Type Providers"
      columns := [⟨"#", true⟩, ⟨"Provider", false⟩, ⟨"Status", false⟩]
      rows := taken ++ r.skipped.map fun id => ["-", id, "[dim]disabled[/dim]"] }
  let drawn ← table.draw
  let problems ← r.unresolved.mapM fun p => (Console.print p.message : Result String)
  let summary ← Console.print s!"\n[dim]{r.summary}[/dim]"
  return ⟨if r.ok then 0 else 1, drawn ++ summary, String.join problems⟩

/-- A decision on a placement as JSON tells of it. -/
def decisionValue (parent child : TypeId) (name : Value) (d : Decision) : Value :=
  .table [("parent", parent.name), ("child", child.name), ("name", name),
    ("allowed", .bool d.allowed), ("rule", orNull (d.rule.map (·.text))),
    ("constraint_id", orNull d.constraint), ("reason", d.reason)]

/-- **Says whether a child may stand under a parent.** -/
def checkPlacement (parent child : TypeRef) (name : Value := .null) (json : Bool := false) :
    Command := do
  let ids : Result (TypeId × TypeId) := do return (← parent.resolve, ← child.resolve)
  match ids with
  | .error f => if f.isBadInput then Output.complaint f.message else throw f
  | .ok (parent, child) =>
    let d ← Registry.evaluatePlacement (.id parent) child.family child.subtype name
    if json then return .json (decisionValue parent child name d) d.allowed
    if d.allowed then
      let via := match d.rule with
        | some r => s!" (via {r})"
        | none => ""
      let shownName := if name.isTruthy then name.text else wildcard
      let line ← Console.print ("[green]Allowed[/green]: " ++
        Markup.escape s!"{child}[{shownName}] under {parent}{via}")
      return ⟨0, line, ""⟩
    match ← attempt (Registry.checkPlacement (.id parent) child.family child.subtype name) with
    | .error (.denied denial) =>
      return ⟨1, ← Console.print ("[red]Denied[/red]: " ++ Markup.escape denial.message), ""⟩
    | .error f => throw f
    | .ok _ => return ⟨1, "", ""⟩

/-- **Says what stands against a value.** -/
def checkValue (type : TypeRef) (attrName value : Value) (nodeName : Value := "")
    (json : Bool := false) : Command := do
  match type.resolve with
  | .error f => if f.isBadInput then Output.complaint f.message else throw f
  | .ok t =>
    let found ← (← get).violations (.named t nodeName []) attrName value
    if json then
      return .json (.table [("type", t.name), ("attribute", attrName), ("value", value),
        ("valid", .bool found.isEmpty),
        ("violations", .list (found.map fun v =>
          .table [("constraint_id", v.constraint), ("reason", v.reason)]))]) found.isEmpty
    if found.isEmpty then
      return ⟨0, ← Console.print ("[green]Valid[/green]: " ++
        Markup.escape s!"{t}.{attrName.text} = {value.shown}"), ""⟩
    let lines ← found.mapM fun v =>
      (Console.print ("[red]Violation[/red] " ++ Markup.escape v.message) : Result String)
    return ⟨1, String.join lines, ""⟩

/-- **Reports on the health of the registry**; strictly, warnings are failures too. -/
def health (strict : Bool := false) (json : Bool := false) : Command := do
  let report := (← get).snapshot.health
  let printed :=
    if json then Json.text report.toValue ++ "\n"
    else String.join ((Console.anyLines [] report.summary.toList).map Console.plain)
  let isFine := report.isSound && !(strict && !report.warnings.isEmpty)
  return ⟨if isFine then 0 else 1, printed, ""⟩

end Command

end Taxonomy

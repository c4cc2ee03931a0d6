import Taxonomy.Provider.Builtin

/-!
# Bootstrap

Finding providers and loading them into a registry.

* `discover`: the built-in providers, those on the shelf, those behind entry points.
* `runProvider`: loads a provider in its own scope; a failure takes its registrations back.
* `bootstrap`: loads providers in their order, then resolves what was deferred.
-/

namespace Taxonomy

/-- **An entry point** of an installed module; it may fail to produce a provider. -/
structure EntryPoint where
  name : String
  group : String
  product : Option Provider := none

/-- Where providers are found besides the built-in ones. -/
structure ProviderSources where
  shelf : List Provider := []
  entryPoints : List EntryPoint := []
  deriving Inhabited

/-- The group in which entry points are looked for by default. -/
def defaultGroup : String := "metatypes.providers"

/-- Which providers are to be loaded. -/
structure ProviderOptions where
  includeBuiltin : Bool := true
  group : Option String := some defaultGroup
  disabled : Value := .list []
  deriving Inhabited

/-- **The providers that are found**, in the order of discovery. -/
def discover (sources : ProviderSources) (options : ProviderOptions := {}) : List Provider :=
  (if options.includeBuiltin then builtinProviders else []) ++ sources.shelf ++
    match options.group with
    | some g =>
      if g == "" then []
      else (sources.entryPoints.filter (·.group == g)).filterMap (·.product)
    | none => []

namespace Registry

/-- **Loads a provider** in a scope of its own. When it fails, all that belongs to the scope is
released. -/
def runProvider (p : Provider) : Action Unit := do
  modify (·.enterScope p.scope)
  let outcome ← attempt p.load
  modify (·.leaveScope)
  match outcome with
  | .ok _ => return
  | .error cause =>
    discard (releaseScope p.scope)
    throw (.providerFailed p.id cause)

/-- Loads one provider and notes in the report what came of it. -/
def runReported (report : BootstrapReport) (p : Provider) : Action BootstrapReport := do
  match ← attempt (runProvider p) with
  | .ok _ => return { report with loaded := report.loaded ++ [p.id] }
  | .error (.providerFailed _ cause) =>
    return { report with failed := report.failed ++ [(p.id, s!"{cause.label}: {cause.message}")] }
  | .error f => throw f

/-- **Loads providers**, those that are given or else those that are found. One that fails does not
stop the others; dependencies in a cycle do, before anything is loaded. -/
def bootstrap (sources : ProviderSources) (providers : Option (List Provider) := none)
    (options : ProviderOptions := {}) : Action BootstrapReport := do
  let found := providers.getD (discover sources options)
  let disabled := (← elementsOf options.disabled).map fun d => Text.trim d.text
  let skipped := (found.filter fun p => disabled.contains p.id).map (·.id)
  let ordered ← orderProviders (found.filter fun p => !disabled.contains p.id)
  let report ← ordered.foldlM runReported { order := ordered.map (·.id), skipped }
  let resolved ← resolveDeferred
  return { report with resolved, unresolved := (← get).snapshot.problems }

/-- **Loads providers once**: the report of the first time is kept and given again. -/
def ensureBootstrapped (sources : ProviderSources) (providers : Option (List Provider) := none)
    (options : ProviderOptions := {}) : Action BootstrapReport := do
  match (← get).report with
  | some report => return report
  | none =>
    let report ← bootstrap sources providers options
    modify fun r => { r with report := some report }
    return report

end Registry

end Taxonomy

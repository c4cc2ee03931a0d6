import Taxonomy.Provider.Bootstrap
import Taxonomy.Ruleset

/-!
# Configuration

Which providers and rulesets make up a registry, as a document says.

* `Config.load`: the configuration of a file.
* `findConfig`: the nearest file of configuration.
* `Config.build`: the registry that a configuration describes.
-/

namespace Taxonomy

/-- The name of the file of configuration. -/
def configName : String := "metatypes.toml"

/-- The levels of logging in the order of their names. -/
def logLevels : List String := ["CRITICAL", "DEBUG", "ERROR", "INFO", "WARNING"]

/-- **What a registry is made up of.** -/
structure Config where
  includeBuiltin : Bool := true
  group : Option String := some defaultGroup
  disabled : List String := []
  rulesets : List Path := []
  logLevel : String := "WARNING"
  source : Option Path := none
  deriving DecidableEq, Repr, Inhabited

/-- A section of a document, which has to be a table where it is given. -/
def configSection (es : Params) (name : String) : Result Params :=
  match es.lookup name with
  | none => pure []
  | some (.table es) => pure es
  | some _ => throw (.notATable name)

/-- The texts of a value that is a list of texts, trimmed and without the blank ones. -/
def textsOf (v : Option Value) (what : String) : Result (List String) := do
  let texts? : Option (List String) := match v with
    | none => some []
    | some (.list vs) => vs.mapM fun
      | .str s => some s
      | _ => none
    | _ => none
  let some texts := texts? | throw (.notAListOfTexts what)
  return (texts.map Text.trim).filter (· != "")

namespace Config

/-- **The configuration that a document describes.** Paths are inside the directory of the
document. -/
def ofTable (es : Params) (path : Path) : Result Config := do
  let bootstrap ← configSection es "bootstrap"
  let constraints ← configSection es "constraints"
  let logging ← configSection es "logging"
  let group ← match bootstrap.lookup "entry_point_group" with
    | none => pure defaultGroup
    | some (.str s) => pure (Text.trim s)
    | some _ => throw (.notAText "bootstrap.entry_point_group")
  let logLevel := Text.upper (← textEntry logging "level" "WARNING")
  if !logLevels.contains logLevel then throw (.unknownLogLevel logLevels)
  let disabled ← textsOf (bootstrap.lookup "disabled_providers") "bootstrap.disabled_providers"
  let rulesets ← textsOf (constraints.lookup "rulesets") "constraints.rulesets"
  return { includeBuiltin := (bootstrap.lookup "include_builtin").all Value.isTruthy
           group := if group == "" then none else some group
           disabled, logLevel, source := some path
           rulesets := rulesets.map fun p => path.parent.join (Path.ofText p) }

/-- **The configuration of a file.** -/
def load (files : FileTree) (path : Path) : Result Config := do
  if !(← files.exists path) then throw (.configMissing path.text)
  let document ← (← files.read path).read
  ofTable (← readToml document (.malformedConfig parserDetail)) path

/-- The options under which providers are loaded. -/
def providerOptions (c : Config) : ProviderOptions :=
  ⟨c.includeBuiltin, c.group, .list (c.disabled.map .str)⟩

/-- **Builds what the configuration describes** in a registry: loads the providers, then adds the
constraints of the rulesets. -/
def build (c : Config) (files : FileTree) (sources : ProviderSources) : Action Unit := do
  discard (Registry.ensureBootstrapped sources none c.providerOptions)
  if !c.rulesets.isEmpty then
    let ks ← loadRulesets files c.rulesets
    discard (Registry.addConstraints (ks.map .constraint) (.handle "rulesets"))

end Config

/-- **The nearest file of configuration** in a directory or above it. -/
def findConfig (files : FileTree) (way : List String) : Option Path :=
  files.nearest configName way

end Taxonomy

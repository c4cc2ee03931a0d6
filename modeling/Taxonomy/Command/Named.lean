import Taxonomy.Command.Basic
import Taxonomy.Draft.Named

/-!
# Commands by name

A command is asked for by its name, with arguments by position and options by name. The registry
stands in front of the arguments.
-/

namespace Taxonomy

namespace Command

/-- A command as an operation on a registry. -/
def signature (name : String) (positional : List String) (options : List Parameter := []) :
    Signature where
  operation := "run_" ++ name
  bound := ["registry"]
  positional := positional.map (⟨·, none⟩)
  named := options ++ [⟨"json_output", some (.bool false)⟩]

/-- **The command that a call asks for**, if there is one of that name; `ref` tells what is meant by
a value that stands for an id. -/
def ofCall? (sources : ProviderSources) (ref : Value → Result TypeRef) (c : Call) :
    Option (Result Command) :=
  let bind (positional : List String) (options : List Parameter) : Result BoundArguments :=
    (signature c.operation positional options).apply c.args c.named
  let json (b : BoundArguments) : Bool := (b.get "json_output").isTruthy
  match c.operation with
  | "types" => some do
    let b ← bind [] [⟨"family", some .null⟩]
    return types (b.get "family") (json b)
  | "type_info" => some do
    let b ← bind ["type_name"] []
    return typeInfo (← ref (b.get "type_name")) (json b)
  | "providers" => some do
    return providers sources (json (← bind [] []))
  | "check_placement" => some do
    let b ← bind ["parent", "child", "child_name"] []
    let parent ← ref (b.get "parent")
    return checkPlacement parent (← ref (b.get "child")) (b.get "child_name") (json b)
  | "check_value" => some do
    let b ← bind ["type_name", "attr_name", "value"] [⟨"node_name", some ""⟩]
    return checkValue (← ref (b.get "type_name")) (b.get "attr_name") (b.get "value")
      (b.get "node_name") (json b)
  | "health" => some do
    let b ← bind [] [⟨"strict", some (.bool false)⟩]
    return health (b.get "strict").isTruthy (json b)
  | _ => none

end Command

end Taxonomy

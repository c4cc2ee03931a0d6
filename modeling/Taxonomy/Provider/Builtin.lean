import Taxonomy.Constraint.Predicate
import Taxonomy.Provider.Basic

/-!
# The built-in taxonomy

Providers of the kinds that most trees need: loaders, attributes, fields, objects, keys, validators
and views, all below `metadata.base`.
-/

namespace Taxonomy

namespace Builtin

/-- Registers types by their clauses. -/
def registerAll (types : List (String × List Clause)) : Action Unit :=
  types.forM fun (id, clauses) => do discard (Registry.register id clauses)

/-- Builds all constraints, then adds them. -/
def addAll (constraints : List (Result Constraint)) : Action Unit := do
  let ks ← constraints.mapM fun k => (k : Result Constraint)
  discard (Registry.addConstraints (ks.map .constraint))

/-- A type with a description below another one. -/
def below (parent description : String) (clauses : List Clause := []) : List Clause :=
  .describe description :: .inherit parent :: clauses

/-- An attribute that may be left out. -/
def optional (name : String) (valueType : String := "string") : Clause := .attribute name valueType

/-- An attribute that must be there. -/
def required (name : String) (valueType : String := "string") : Clause :=
  .attribute name valueType true

/-- The statement that a type stands under any type of a family. -/
def under (family : String) : Clause := .acceptParents family

/-- The statement that a type stands under the root. -/
def underRoot : Clause := .acceptParents "metadata" "base"

/-- The statement that a type accepts any child of a family. -/
def holds (family : String) : Clause := .acceptChildren family

/-- The root of the taxonomy and the loaders. -/
def core : Provider where
  id := "core-types"
  priority := 0
  description := "metadata.base root type and loader types"
  kind := "CoreTypesProvider"
  load := registerAll [
    ("metadata.base",
      [.describe "Root of every metadata type; carries attributes", holds "attr"]),
    ("loader.base", below "metadata.base" "Base loader: the root container of a metadata tree"
      (["object", "field", "key", "validator", "view"].map holds ++ [optional "package"])),
    ("loader.simple", below "loader.base" "In-memory loader")]

/-- The types of attributes with their descriptions. -/
def attributeKinds : List (String × String) := [
  ("string", "String attribute for text values"),
  ("int", "Integer attribute for numeric values"),
  ("long", "Long attribute for large numeric values"),
  ("double", "Double attribute for decimal values"),
  ("boolean", "Boolean attribute for true/false values"),
  ("class", "Class attribute for class references"),
  ("properties", "Properties attribute for key-value pairs"),
  ("stringarray", "String array attribute for collections of strings")]

/-- The types of attributes. -/
def attributes : Provider where
  id := "attribute-types"
  dependencies := ["core-types"]
  priority := 750
  description := s!"attr.base + {attributeKinds.length} concrete attribute types"
  kind := "AttributeTypesProvider"
  load := registerAll <|
    ("attr.base", below "metadata.base" "Base attribute metadata"
      (["metadata", "loader", "field", "object", "key", "validator", "view", "attr"].map under)) ::
    attributeKinds.map fun (name, description) => ("attr." ++ name, below "attr.base" description)

/-- The types of fields with their descriptions and attributes. -/
def fieldKinds : List (String × String × List Clause) := [
  ("string", "String field with length and pattern validation",
    [optional "pattern", optional "maxLength" "int", optional "minLength" "int"]),
  ("int", "Integer field with range validation",
    [optional "minValue" "int", optional "maxValue" "int"]),
  ("long", "Long field with range validation",
    [optional "minValue" "long", optional "maxValue" "long"]),
  ("short", "Short field with range validation",
    [optional "minValue" "int", optional "maxValue" "int"]),
  ("byte", "Byte field with range validation",
    [optional "minValue" "int", optional "maxValue" "int"]),
  ("double", "Double field with range and precision validation",
    [optional "minValue" "double", optional "maxValue" "double", optional "precision" "int"]),
  ("float", "Float field with range and precision validation",
    [optional "minValue" "double", optional "maxValue" "double", optional "precision" "int"]),
  ("boolean", "Boolean field for true/false values", []),
  ("date", "Date field with format support", [optional "format", optional "dateFormat"]),
  ("class", "Class field for class references", []),
  ("object", "Object field referencing another object type", [optional "objectRef"]),
  ("objectArray", "Array of objects of a referenced type", [optional "objectRef"]),
  ("stringArray", "Array of strings", [])]

/-- The check that a value is a regular expression. -/
def checkRegex (attrName v : Value) : Result (Option Value) :=
  match Regex.parse v.text with
  | .ok _ => pure none
  | .error cause => match cause.label? with
    | some label => throw (.raised label (cause.message v.text))
    | none =>
      pure (.some s!"{attrName.text} is not a valid regular expression: {cause.message v.text}")

/-- The expression for identifiers. -/
def identifier : Value := "^[a-zA-Z][a-zA-Z0-9_]*$"

/-- The types of fields. -/
def fields : Provider where
  id := "field-types"
  dependencies := ["attribute-types", "core-types"]
  priority := 800
  description := s!"field.base + {fieldKinds.length} concrete field types"
  kind := "FieldTypesProvider"
  load := do
    registerAll <|
      ("field.base", below "metadata.base" "Base field metadata with common field attributes" [
        underRoot, under "loader", under "object", optional "required" "boolean",
        optional "defaultValue", optional "defaultView", optional "isOptional" "boolean",
        optional "isReadOnly" "boolean", holds "validator", holds "view"]) ::
      fieldKinds.map fun (name, description, clauses) =>
        ("field." ++ name, below "field.base" description clauses)
    addAll [
      makeConstraint .placement "field.name-identifier" "require_child_name"
        [("description", "Field names must be identifiers"), ("child", "field.*")]
        [("pattern", identifier)],
      makeConstraint .validation "field.max-length-positive" "positive_int"
        [("description", "maxLength must be a positive integer"), ("target", "field.*"),
          ("attribute", "maxLength")],
      makeConstraint .validation "field.min-length-non-negative" "range"
        [("description", "minLength must not be negative"), ("target", "field.*"),
          ("attribute", "minLength")]
        [("min", .int 0)],
      return .validation (← ValidationConstraint.make "field.pattern-compiles"
        "pattern must be a valid regular expression" (fun _ => checkRegex) none "field.string"
        "pattern")]

/-- The types of objects. -/
def objects : Provider where
  id := "object-types"
  dependencies := ["core-types", "field-types"]
  priority := 600
  description := "object.base + map, pojo and proxy object types"
  kind := "ObjectTypesProvider"
  load := do
    registerAll [
      ("object.base", below "metadata.base" "Base object metadata with common object attributes"
        ([underRoot, under "loader", under "object", optional "extends", optional "implements",
          optional "isInterface" "boolean", optional "description", optional "objectRef"] ++
          ["field", "object", "key", "validator", "view"].map holds)),
      ("object.map", below "object.base" "Map-backed object with key-value field access"),
      ("object.pojo", below "object.base" "Class-backed object with attribute access"
        [optional "className", optional "packageName"]),
      ("object.proxy", below "object.base" "Proxy object implementing an interface"
        [optional "object", optional "proxyObject", optional "interfaceName"])]
    addAll [
      makeConstraint .placement "object.name-identifier" "require_child_name"
        [("description", "Object names must be (package-qualified) identifiers"),
          ("child", "object.*")]
        [("pattern", "^[a-zA-Z][a-zA-Z0-9_]*(\\.[a-zA-Z][a-zA-Z0-9_]*)*$")]]

/-- The types of keys. -/
def keys : Provider where
  id := "key-types"
  dependencies := ["core-types", "object-types"]
  priority := 650
  description := "key.base + primary, foreign and secondary keys"
  kind := "KeyTypesProvider"
  load := registerAll [
    ("key.base", below "metadata.base" "Base key metadata"
      [under "object", under "metadata", required "keys" "stringarray"]),
    ("key.primary", below "key.base" "Primary key"),
    ("key.secondary", below "key.base" "Secondary (alternate) key"),
    ("key.foreign", below "key.base" "Foreign key referencing another object"
      [required "foreignObjectRef", optional "foreignKey"])]

/-- The types of validators. -/
def validators : Provider where
  id := "validator-types"
  dependencies := ["core-types", "field-types"]
  priority := 700
  description := "validator.base + required, regex, numeric, length and array validators"
  kind := "ValidatorTypesProvider"
  load := do
    registerAll [
      ("validator.base", below "metadata.base" "Base validator metadata"
        [under "field", under "object", underRoot, optional "msg"]),
      ("validator.required", below "validator.base" "Value must be present"),
      ("validator.regex", below "validator.base" "Value must match a regular expression"
        [required "mask"]),
      ("validator.numeric", below "validator.base" "Value must be numeric"),
      ("validator.length", below "validator.base" "Value length must be within min/max"
        [optional "min" "int", optional "max" "int"]),
      ("validator.array", below "validator.base" "Array size must be within minSize/maxSize"
        [optional "minSize" "int", optional "maxSize" "int"])]
    addAll [
      makeConstraint .validation "validator.length-min-non-negative" "range"
        [("description", "Length validator minimum must not be negative"),
          ("target", "validator.length"), ("attribute", "min")]
        [("min", .int 0)],
      makeConstraint .validation "validator.array-min-size-non-negative" "range"
        [("description", "Array validator minimum size must not be negative"),
          ("target", "validator.array"), ("attribute", "minSize")]
        [("min", .int 0)]]

/-- The types of views. -/
def views : Provider where
  id := "view-types"
  dependencies := ["core-types", "field-types"]
  priority := 900
  description := "view.base"
  kind := "ViewTypesProvider"
  load := registerAll [
    ("view.base", below "metadata.base" "Base view metadata"
      [under "field", under "object", underRoot, optional "label", optional "width" "int"])]

end Builtin

/-- **The providers of the built-in taxonomy** in the order of discovery. -/
def builtinProviders : List Provider :=
  [Builtin.core, Builtin.attributes, Builtin.fields, Builtin.objects, Builtin.keys,
    Builtin.validators, Builtin.views]

end Taxonomy

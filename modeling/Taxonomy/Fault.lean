import Taxonomy.Call
import Taxonomy.Regex.Fault
import Taxonomy.TypeId.Basic

/-!
# Faults

Why an operation is refused. A fault is a cause with the values that belong to it; its wording and
the class that callers tell it by are functions of the cause.

* `Fault.message`: the wording.
* `Fault.label`: the class.
* `Fault.isBadInput`: faults that blame the input and not the state; these are what a command
  reports as its own message.
-/

namespace Taxonomy

/-- The places at which parts of rules and ids are given, as messages name them. -/
inductive Part where
  | family
  | subtype
  | familyPattern
  | subtypePattern
  | childFamily
  | childSubtype
  | namePattern
  | parentFamily
  | parentSubtype
  | expectedName
  | attributeName
  | valueType
  deriving DecidableEq, Repr

/-- The name of a part in messages. -/
def Part.name : Part → String
  | .family => "type"
  | .subtype => "subtype"
  | .familyPattern => "type pattern"
  | .subtypePattern => "subtype pattern"
  | .childFamily => "child_type"
  | .childSubtype => "child_subtype"
  | .namePattern => "name_pattern"
  | .parentFamily => "parent_type"
  | .parentSubtype => "parent_subtype"
  | .expectedName => "expected_name"
  | .attributeName => "attribute name"
  | .valueType => "value_type"

/-- What a value fails to do. -/
inductive Misfit where
  /-- It has no method of that name. -/
  | noMethod (method : String)
  | notIterable
  | notCallable
  | unhashable
  /-- It is no text to be searched. -/
  | notSearchable
  /-- It stands at a place in a row of texts that are to be joined. -/
  | notJoinable (place : Nat)
  /-- It has no parts. -/
  | notUnpackable
  /-- It cannot be put into a drawn table. -/
  | notRenderable
  /-- It is not what a conversion takes. -/
  | notConvertible (conversion wanted : String)
  deriving DecidableEq, Repr

/-- Why a placement is denied. -/
structure Denial where
  parent : TypeId
  child : TypeId
  childName : Value
  constraint : Option String
  reason : Value
  supported : String
  deriving DecidableEq, Repr, Inhabited

/-- **The wording of a denial.** -/
def Denial.message (d : Denial) : String :=
  s!"{d.parent} does not accept child '{d.childName.text}' of type {d.child}" ++
    (match d.constraint with
      | some c => if c == "" then "" else s!" (denied by constraint '{c}')"
      | none => "") ++
    (if d.reason.isTruthy then ": " ++ d.reason.text else "") ++
    if d.supported == "" then "" else ". " ++ d.supported

/-- A value that fails a check: the constraint, its reason and the attribute. -/
structure Violation where
  constraint : String
  reason : Value
  attrName : Value
  deriving DecidableEq, Repr, Inhabited

/-- The wording of a violation. -/
def Violation.message (v : Violation) : String := s!"[{v.constraint}] {v.reason.text}"

/-- Why a file is not read. -/
inductive FileFault where
  | missing
  | isDirectory
  | notDirectory
  | nameTooLong
  /-- The path holds a character that ends paths. -/
  | nulInside
  deriving DecidableEq, Repr

/-- **Why an operation is refused.** -/
inductive Fault where
  -- ids, patterns and rules
  | emptyPart (part : Part)
  | wildcardInId (family subtype : String)
  | malformedId (given : Value)
  | malformedPattern (given : Value)
  | unknownValueType (given attrName : String)
  -- the registry
  | typeTaken (id : TypeId)
  | constraintTaken (id : String)
  | typeNotFound (id : TypeId) (available : List String)
  | alreadyCommitted (id : TypeId)
  | scopeNameMissing
  | releaseWithoutScope
  -- constraints
  | notAConstraint (given : Value)
  | constraintIdMissing
  | notATarget (given : Value)
  | unknownPredicate (name : String) (known : List String)
  | predicateOfOtherKind (predicate actual wanted : String)
  | parameterMissing (predicate parameter : String)
  | malformedRegex (predicate pattern : String) (cause : RegexFault)
  | boundsMissing (predicate : String)
  | denied (denial : Denial)
  | violated (violation : Violation)
  -- calls
  | call (operation : String) (fault : CallFault)
  /-- Something of a kind has no operation of a name. -/
  | unknownOperation (kind operation : String)
  -- conversions
  | misfit (given : Value) (misfit : Misfit)
  | malformedInteger (text : String)
  | malformedDecimal (text : String)
  | numeralTooLong (digits : Option Nat)
  | infiniteInteger
  | nanInteger
  | integerTooLarge
  | missingKey (key : Value)
  /-- There are more or fewer parts than are wanted. -/
  | partCount (wanted given : Nat)
  -- documents
  | malformedRuleset (path detail : String)
  | malformedConfig (detail : String)
  | rulesetIdMissing
  | versionNotPositive
  | ruleWithoutId (ruleset : String)
  | unknownRulePredicate (ruleset rule predicate : String) (known : List String)
  | ruleOfOtherKind (ruleset rule predicate actual given : String)
  | notATable (name : String)
  | notAListOfTexts (what : String)
  | notAText (what : String)
  | unknownLogLevel (known : List String)
  | configMissing (path : String)
  | file (fault : FileFault) (path : String)
  | undecodable (byte first last : Nat) (reason : String)
  -- providers
  | providerIdMissing
  | providerCycle (ids : List String)
  | providerFailed (id : String) (cause : Fault)
  -- printed text
  | strayTag (tag : String) (position : Nat)
  | nothingToClose (position : Nat)
  | badHandler (detail : String)
  /-- A failure that a callback chose itself. -/
  | raised (label text : String)
  deriving Inhabited

namespace Fault

/-- The wording of a misfit. -/
def misfitMessage (v : Value) : Misfit → String
  | .noMethod m => s!"'{v.kind}' object has no attribute '{m}'"
  | .notIterable => s!"'{v.kind}' object is not iterable"
  | .notCallable => s!"'{v.kind}' object is not callable"
  | .unhashable => s!"unhashable type: '{v.kind}'"
  | .notSearchable => s!"expected string or bytes-like object, got '{v.kind}'"
  | .notJoinable place =>
    s!"sequence item {place}: expected str instance, {v.kind} found"
  | .notUnpackable => s!"cannot unpack non-iterable {v.kind} object"
  | .notRenderable =>
    s!"unable to render {v.shortKind}; a string or other renderable object is required"
  | .notConvertible conversion wanted =>
    s!"{conversion}() argument must be {wanted}, not '{v.kind}'"

/-- The wording of a file fault. -/
def fileMessage (path : String) : FileFault → String
  | .missing => s!"[Errno 2] No such file or directory: {Text.quote path}"
  | .isDirectory => s!"[Errno 21] Is a directory: {Text.quote path}"
  | .notDirectory => s!"[Errno 20] Not a directory: {Text.quote path}"
  | .nameTooLong => s!"[Errno 36] File name too long: {Text.quote path}"
  | .nulInside => "embedded null byte"

/-- Texts in a row, with commas. -/
def row (ss : List String) : String := ", ".intercalate ss

/-- The longest quotation of a numeral in a message, in characters. -/
def quotationLimit : Nat := 200

/-- **The wording of a fault.** -/
def message : Fault → String
  | emptyPart part => s!"{part.name} must be a non-empty string"
  | wildcardInId family subtype =>
    s!"Wildcards are not allowed in a type id: {family}.{subtype}"
  | malformedId given => s!"Expected 'type.subtype', got {given.shown}"
  | malformedPattern given => s!"Expected 'type.subtype' pattern, got {given.shown}"
  | unknownValueType given attrName =>
    s!"Unknown value_type {Text.quote given} for attribute {Text.quote attrName}; " ++
      "expected one of ['any', 'boolean', 'class', 'double', 'int', 'long', 'properties', " ++
      "'string', 'stringarray']"
  | typeTaken id => s!"Type {id} is already registered"
  | constraintTaken id => s!"Constraint '{id}' is already registered"
  | typeNotFound id available =>
    s!"Type '{id}' not found" ++
      if available.isEmpty then "" else ". Available: " ++ row available
  | alreadyCommitted id => s!"Extension of {id} already committed"
  | scopeNameMissing => "scope name is required"
  | releaseWithoutScope => "release_scope requires a scope"
  | notAConstraint given => s!"Not a constraint: {given.shown}"
  | constraintIdMissing => "constraint_id is required"
  | notATarget given =>
    s!"Expected a TypeId, 'type.subtype' string or node with type_id, got {given.shown}"
  | unknownPredicate name known => s!"Unknown predicate '{name}'. Known: " ++ row known
  | predicateOfOtherKind predicate actual wanted =>
    s!"Predicate '{predicate}' builds {actual} constraints, not {wanted}"
  | parameterMissing predicate parameter =>
    s!"Predicate '{predicate}' requires parameter '{parameter}'"
  | malformedRegex predicate pattern cause =>
    s!"Predicate '{predicate}': invalid pattern {Text.quote pattern}: {cause.message pattern}"
  | boundsMissing predicate => s!"Predicate '{predicate}' requires 'min' and/or 'max'"
  | denied denial => denial.message
  | violated violation => violation.message
  | call operation fault => s!"{operation}() {fault.message}"
  | unknownOperation kind operation => s!"'{kind}' object has no attribute '{operation}'"
  | misfit given why => misfitMessage given why
  | malformedInteger text =>
    "invalid literal for int() with base 10: " ++
      String.ofList ((Text.quote text).toList.take quotationLimit)
  | malformedDecimal text => s!"could not convert string to float: {Text.quote text}"
  | numeralTooLong digits =>
    "Exceeds the limit (4300 digits) for integer string conversion" ++
      (match digits with
        | some n => s!": value has {n} digits"
        | none => "") ++
      "; use sys.set_int_max_str_digits() to increase the limit"
  | infiniteInteger => "cannot convert float infinity to integer"
  | nanInteger => "cannot convert float NaN to integer"
  | integerTooLarge => "int too large to convert to float"
  | missingKey key => key.shown
  | partCount wanted given =>
    if given < wanted then s!"not enough values to unpack (expected {wanted}, got {given})"
    else s!"too many values to unpack (expected {wanted})"
  | malformedRuleset path detail => s!"Invalid ruleset TOML in {path}: {detail}"
  | malformedConfig detail => s!"Failed to parse config TOML: {detail}"
  | rulesetIdMissing => "ruleset_id is required"
  | versionNotPositive => "version must be a positive integer"
  | ruleWithoutId ruleset => s!"{ruleset}: every constraint needs an id"
  | unknownRulePredicate ruleset rule predicate known =>
    s!"{ruleset}/{rule}: unknown predicate {Text.quote predicate}. Known: " ++ row known
  | ruleOfOtherKind ruleset rule predicate actual given =>
    s!"{ruleset}/{rule}: predicate {Text.quote predicate} is a {actual} predicate, not {given}"
  | notATable name => s!"[{name}] must be a table"
  | notAListOfTexts what => s!"{what} must be a list of strings"
  | notAText what => s!"{what} must be a string"
  | unknownLogLevel known => "logging.level must be one of " ++ row known
  | configMissing path => s!"Config file not found: {path}"
  | file fault path => fileMessage path fault
  | undecodable byte first last reason =>
    "'utf-8' codec can't decode " ++
      (if first == last then s!"byte 0x{String.ofList (Text.hex 2 byte)} in position {first}"
        else s!"bytes in position {first}-{last}") ++ s!": {reason}"
  | providerIdMissing => "provider_id is required"
  | providerCycle ids => "Circular dependency between providers: " ++ row ids
  | providerFailed id cause => s!"Provider '{id}' failed: " ++ cause.message
  | strayTag tag position =>
    s!"closing tag '[{tag}]' at position {position} doesn't match any open tag"
  | nothingToClose position => s!"closing tag '[/]' at position {position} has nothing to close"
  | badHandler detail => detail
  | raised label text => if label == "KeyError" then Text.quote text else text

/-- **The class of a fault**, by which reports name it. -/
def label : Fault → String
  | emptyPart _ | wildcardInId .. | malformedId _ => "InvalidTypeIdError"
  | typeTaken _ | constraintTaken _ => "RegistrationConflictError"
  | typeNotFound .. => "TypeNotFoundError"
  | alreadyCommitted _ => "RuntimeError"
  | notAConstraint _ | notATarget _ | call .. => "TypeError"
  | unknownOperation .. | misfit _ (.noMethod _) => "AttributeError"
  | misfit _ .notRenderable => "NotRenderableError"
  | misfit .. => "TypeError"
  | denied _ => "PlacementDeniedError"
  | violated _ => "ConstraintViolationError"
  | infiniteInteger | integerTooLarge => "OverflowError"
  | configMissing _ | file .missing _ => "FileNotFoundError"
  | file .isDirectory _ => "IsADirectoryError"
  | file .notDirectory _ => "NotADirectoryError"
  | file .nameTooLong _ => "OSError"
  | file .nulInside _ => "ValueError"
  | undecodable .. => "UnicodeDecodeError"
  | missingKey _ => "KeyError"
  | providerCycle _ => "ProviderDependencyCycleError"
  | providerFailed .. => "ProviderLoadError"
  | strayTag .. | nothingToClose _ | badHandler _ => "MarkupError"
  | raised label _ => label
  | malformedPattern _ | unknownValueType .. | scopeNameMissing | releaseWithoutScope
  | constraintIdMissing | unknownPredicate .. | predicateOfOtherKind .. | parameterMissing ..
  | malformedRegex .. | boundsMissing _ | malformedInteger _ | malformedDecimal _
  | numeralTooLong _ | nanInteger | malformedRuleset .. | malformedConfig _ | rulesetIdMissing
  | versionNotPositive | ruleWithoutId _ | unknownRulePredicate .. | ruleOfOtherKind ..
  | partCount .. | notATable _ | notAListOfTexts _ | notAText _ | unknownLogLevel _
  | providerIdMissing =>
    "ValueError"

/-- **Does the fault blame the input?** -/
def isBadInput (f : Fault) : Bool :=
  ["ValueError", "InvalidTypeIdError", "UnicodeDecodeError"].contains f.label

/-- Does the fault blame a file? -/
def isFileFault : Fault → Bool
  | configMissing _ | file .. => true
  | _ => false

end Fault

/-- **A result, or why there is none.** -/
abbrev Result := Except Fault

/-- **The values of the parameters of an operation** that is called with arguments. -/
def Signature.apply (s : Signature) (args : List Value)
    (named : List (String × Value) := []) : Result BoundArguments :=
  (s.bind args named).mapError (.call s.operation)

end Taxonomy

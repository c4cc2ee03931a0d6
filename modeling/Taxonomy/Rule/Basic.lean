import Taxonomy.TypeId.Basic
import Taxonomy.Value

/-!
# Patterns and rules

What a type declares about its place in a tree: which children it accepts and under which parents
it may stand. Each part of a pattern or a rule is a text, or the wildcard `*`, which stands for
every text.

* `TypePattern`: the ids that a constraint selects.
* `ChildRule`: children that a parent accepts, by family, subtype and name.
* `ParentRule`: parents under which a child may stand, and the name it has to bear there.
* `AttributeSpec`: the schema of one attribute, and the child rule that it stands for.
-/

namespace Taxonomy

/-- **Does a part of a rule cover what is actually given?** The wildcard covers everything, also
where nothing is given; other patterns cover the text that they are. -/
def covers (pattern : String) (actual : Value) : Bool :=
  pattern == wildcard || actual == .str pattern

@[simp] theorem covers_str (pattern s : String) :
    covers pattern (.str s) = (pattern == wildcard || s == pattern) := by
  have h : ((Value.str s : Value) == .str pattern) = (s == pattern) := by
    rw [Bool.eq_iff_iff]; simp
  rw [covers, h]

/-- **A pattern of type ids.** -/
structure TypePattern where
  family : String := wildcard
  subtype : String := wildcard
  deriving DecidableEq, Repr, Inhabited

namespace TypePattern

/-- The pattern as one text. -/
def name (p : TypePattern) : String := p.family ++ "." ++ p.subtype

instance : ToString TypePattern := ⟨name⟩

/-- Is one of the parts the wildcard? -/
def isWildcard (p : TypePattern) : Bool := p.family == wildcard || p.subtype == wildcard

/-- **Does the pattern cover an id?** -/
def «matches» (p : TypePattern) (t : TypeId) : Bool :=
  covers p.family t.family && covers p.subtype t.subtype

/-- The pattern that covers one id. -/
def ofId (t : TypeId) : TypePattern := ⟨t.family, t.subtype⟩

end TypePattern

/-- The parts by which rules of a definition are told apart. -/
abbrev RuleKey := String × String × String

/-- **Children that a type accepts.** -/
structure ChildRule where
  family : String := wildcard
  subtype : String := wildcard
  name : String := wildcard
  required : Bool := false
  deriving DecidableEq, Repr, Inhabited

namespace ChildRule

/-- The parts of the rule that tell it apart from others. -/
def key (r : ChildRule) : RuleKey := (r.family, r.subtype, r.name)

/-- **How specific a rule is**: a name weighs more than a subtype, and that more than a family. -/
def specificity (r : ChildRule) : Nat :=
  (if r.name != wildcard then 4 else 0) + (if r.subtype != wildcard then 2 else 0) +
    if r.family != wildcard then 1 else 0

/-- Is one of the parts the wildcard? -/
def isWildcard (r : ChildRule) : Bool :=
  r.family == wildcard || r.subtype == wildcard || r.name == wildcard

/-- **Does the rule accept a child?** A child without a name is accepted only under every name. -/
def accepts (r : ChildRule) (family subtype name : Value) : Bool :=
  covers r.family family && covers r.subtype subtype && covers r.name name

/-- The rule in words. -/
def describe (r : ChildRule) : String :=
  let noun :=
    if r.family == "attr" then "attribute" else if r.family == wildcard then "child" else r.family
  let parts := [if r.required then "required" else "optional", noun] ++
    (if r.name == wildcard then [] else ["'" ++ r.name ++ "'"]) ++
    if r.subtype == wildcard then [] else ["of type " ++ r.subtype]
  " ".intercalate parts

/-- The rule as one text. -/
def text (r : ChildRule) : String := s!"{r.family}.{r.subtype}[{r.name}]"

instance : ToString ChildRule := ⟨text⟩

end ChildRule

/-- **Parents under which a type may stand.** -/
structure ParentRule where
  family : String := wildcard
  subtype : String := wildcard
  name : String := wildcard
  deriving DecidableEq, Repr, Inhabited

namespace ParentRule

/-- The parts of the rule that tell it apart from others. -/
def key (r : ParentRule) : RuleKey := (r.family, r.subtype, r.name)

/-- Does the rule admit the parent, whatever the name? -/
def admitsParent (r : ParentRule) (parent : TypeId) : Bool :=
  covers r.family parent.family && covers r.subtype parent.subtype

/-- **Does the rule admit the parent for a child of that name?** -/
def admits (r : ParentRule) (parent : TypeId) (name : Value) : Bool :=
  r.admitsParent parent && covers r.name name

/-- The rule as one text. -/
def text (r : ParentRule) : String := s!"{r.family}.{r.subtype}[{r.name}]"

instance : ToString ParentRule := ⟨text⟩

end ParentRule

/-- **The types of attribute values.** -/
inductive ValueType where
  | string
  | int
  | long
  | double
  | boolean
  | cls
  | properties
  | stringArray
  | any
  deriving DecidableEq, Repr, Inhabited

namespace ValueType

/-- The types of values in the order of their names. -/
def all : List ValueType :=
  [.any, .boolean, .cls, .double, .int, .long, .properties, .string, .stringArray]

/-- The name of a type of values. -/
def name : ValueType → String
  | .string => "string"
  | .int => "int"
  | .long => "long"
  | .double => "double"
  | .boolean => "boolean"
  | .cls => "class"
  | .properties => "properties"
  | .stringArray => "stringarray"
  | .any => "any"

/-- The type of values with a name. -/
def ofName? (s : String) : Option ValueType := all.find? fun v => v.name == s

/-- The subtype that an attribute of the type is stored as; any value is stored as any subtype. -/
def subtype (v : ValueType) : String := if v = .any then wildcard else v.name

end ValueType

/-- **The schema of one attribute.** The allowed values are in order and without repetitions. -/
structure AttributeSpec where
  name : String
  valueType : ValueType := .string
  required : Bool := false
  allowed : Option (List String) := none
  arrayAllowed : Bool := false
  deriving DecidableEq, Repr, Inhabited

/-- The child rule that an attribute stands for. -/
def AttributeSpec.childRule (a : AttributeSpec) : ChildRule :=
  ⟨"attr", a.valueType.subtype, a.name, a.required⟩

end Taxonomy

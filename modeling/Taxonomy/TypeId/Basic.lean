/-!
# Type ids

The key of a registered kind: a family and a subtype, such as `field.long`. Ids are ordered by
family, then by subtype, both by code points.
-/

namespace Taxonomy

/-- The text that stands for every text in patterns and rules; no id has it as a part. -/
def wildcard : String := "*"

/-- **The key of a registered kind.** -/
structure TypeId where
  family : String
  subtype : String
  deriving DecidableEq, Repr, Inhabited

namespace TypeId

/-- The id as one text, family and subtype joined by a point. -/
def name (t : TypeId) : String := t.family ++ "." ++ t.subtype

instance : ToString TypeId := ⟨name⟩

/-- The order of ids: by family, then by subtype. -/
def le (a b : TypeId) : Bool :=
  a.family < b.family || (a.family == b.family && a.subtype ≤ b.subtype)

/-- **Ids in order**, repetitions kept. -/
def sort (ts : List TypeId) : List TypeId := ts.mergeSort le

end TypeId

/-- Texts in the order of their code points, repetitions kept. -/
def sortTexts (ss : List String) : List String := ss.mergeSort fun a b => a ≤ b

end Taxonomy

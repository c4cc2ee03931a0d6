import Taxonomy.Moment
import Taxonomy.Number.Shortest
import Taxonomy.Text.Blank
import Taxonomy.Text.Quoted

/-!
# Dynamic values

The values that attributes take and that documents hold. They have two written forms: `text`,
where a text stands for itself, and `shown`, where it is quoted; inside a list or a table the
shown form is used throughout.

* `Value.isTruthy`: the values that count as true.
* `Value.same`: the equality by which `1`, `1.0` and `True` are one.
-/

namespace Taxonomy

/-- **A dynamic value.** -/
inductive Value where
  | null
  | bool (b : Bool)
  | int (n : Int)
  | float (x : Binary64)
  | str (s : String)
  | list (vs : List Value)
  | tuple (vs : List Value)
  | table (entries : List (String × Value))
  | moment (m : Moment)
  deriving Inhabited

namespace Value

mutual

/-- Are two values built alike? -/
def alike : Value → Value → Bool
  | .null, .null => true
  | .bool a, .bool b => a == b
  | .int m, .int n => m == n
  | .float x, .float y => x == y
  | .str s, .str t => s == t
  | .list vs, .list ws | .tuple vs, .tuple ws => alikeAll vs ws
  | .table es, .table fs => alikeEntries es fs
  | .moment m, .moment n => m == n
  | _, _ => false

/-- Are the values of two lists built alike? -/
def alikeAll : List Value → List Value → Bool
  | [], [] => true
  | v :: vs, w :: ws => alike v w && alikeAll vs ws
  | _, _ => false

/-- Are the entries of two tables built alike? -/
def alikeEntries : List (String × Value) → List (String × Value) → Bool
  | [], [] => true
  | (k, v) :: es, (l, w) :: fs => k == l && alike v w && alikeEntries es fs
  | _, _ => false

end

mutual

theorem eq_of_alike : ∀ {v w : Value}, alike v w = true → v = w
  | v, w, h => by
    cases v <;> cases w <;> simp_all [alike]
    case list.list vs ws => exact eq_of_alikeAll h
    case tuple.tuple vs ws => exact eq_of_alikeAll h
    case table.table es fs => exact eq_of_alikeEntries h

theorem eq_of_alikeAll : ∀ {vs ws : List Value}, alikeAll vs ws = true → vs = ws
  | [], [], _ => rfl
  | v :: vs, w :: ws, h => by
    simp only [alikeAll, Bool.and_eq_true] at h
    rw [eq_of_alike h.1, eq_of_alikeAll h.2]

theorem eq_of_alikeEntries :
    ∀ {es fs : List (String × Value)}, alikeEntries es fs = true → es = fs
  | [], [], _ => rfl
  | (k, v) :: es, (l, w) :: fs, h => by
    simp only [alikeEntries, Bool.and_eq_true, beq_iff_eq] at h
    rw [h.1.1, eq_of_alike h.1.2, eq_of_alikeEntries h.2]

end

mutual

theorem alike_self : ∀ v : Value, alike v v = true
  | .null => rfl
  | .bool _ | .int _ | .float _ | .str _ | .moment _ => by simp [alike]
  | .list vs | .tuple vs => by simpa [alike] using alikeAll_self vs
  | .table es => by simpa [alike] using alikeEntries_self es

theorem alikeAll_self : ∀ vs : List Value, alikeAll vs vs = true
  | [] => rfl
  | v :: vs => by simp [alikeAll, alike_self v, alikeAll_self vs]

theorem alikeEntries_self : ∀ es : List (String × Value), alikeEntries es es = true
  | [] => rfl
  | (k, v) :: es => by simp [alikeEntries, alike_self v, alikeEntries_self es]

end

theorem alike_iff {v w : Value} : alike v w = true ↔ v = w :=
  ⟨eq_of_alike, fun h => h ▸ alike_self v⟩

instance : DecidableEq Value := fun v w => decidable_of_iff (alike v w = true) alike_iff

instance : Coe String Value := ⟨.str⟩

/-- The names of the kinds of values as messages give them. -/
def kind : Value → String
  | .null => "NoneType"
  | .bool _ => "bool"
  | .int _ => "int"
  | .float _ => "float"
  | .str _ => "str"
  | .list _ => "list"
  | .tuple _ => "tuple"
  | .table _ => "dict"
  | .moment (.date _) => "datetime.date"
  | .moment (.time _) => "datetime.time"
  | .moment (.dateTime ..) => "datetime.datetime"

/-- The name of a kind without the family that it belongs to. -/
def shortKind : Value → String
  | .moment (.date _) => "date"
  | .moment (.time _) => "time"
  | .moment (.dateTime ..) => "datetime"
  | v => v.kind

/-- The elements of a tuple in parentheses; a single one is followed by a comma. -/
def tupleText : List String → String
  | [s] => "(" ++ s ++ ",)"
  | ss => "(" ++ ", ".intercalate ss ++ ")"

mutual

/-- **The shown form of a value**, in which texts are quoted. -/
def shown : Value → String
  | .null => "None"
  | .bool b => if b then "True" else "False"
  | .int n => toString n
  | .float x => x.text
  | .str s => Text.quote s
  | .list vs => "[" ++ ", ".intercalate (shownAll vs) ++ "]"
  | .tuple vs => tupleText (shownAll vs)
  | .table es => "\x7b" ++ ", ".intercalate (shownEntries es) ++ "\x7d"
  | .moment m => m.shown

/-- The shown forms of several values. -/
def shownAll : List Value → List String
  | [] => []
  | v :: vs => shown v :: shownAll vs

/-- The shown forms of the entries of a table. -/
def shownEntries : List (String × Value) → List String
  | [] => []
  | (k, v) :: es => (Text.quote k ++ ": " ++ shown v) :: shownEntries es

end

/-- **The text of a value**: a text itself, and the shown form of any other. -/
def text : Value → String
  | .str s => s
  | .moment m => m.text
  | v => v.shown

@[simp] theorem text_str (s : String) : text (.str s) = s := rfl

@[simp] theorem text_int (n : Int) : text (.int n) = toString n := by simp [text, shown]

/-- **Truth of a value**: zeros, the empty and the null are false. -/
def isTruthy : Value → Bool
  | .null => false
  | .bool b => b
  | .int n => n != 0
  | .float x => !x.isZero
  | .str s => s != ""
  | .list vs | .tuple vs => !vs.isEmpty
  | .table es => !es.isEmpty
  | .moment _ => true

instance : Repr Value := ⟨fun v _ => v.shown⟩

/-- Is the value a blank text or null? -/
def isBlank : Value → Bool
  | .null => true
  | .str s => Text.isBlankText s
  | _ => false

/-- The elements that a check looks at: those of a list or tuple, otherwise the value itself. -/
def elements : Value → List Value
  | .list vs | .tuple vs => vs
  | v => [v]

/-- What an iteration over the value yields, unless its kind has no elements: a text yields its
characters and a table its keys. -/
def iterate? : Value → Option (List Value)
  | .list vs | .tuple vs => some vs
  | .str s => some (s.toList.map fun c => .str c.toString)
  | .table es => some (es.map fun (k, _) => .str k)
  | _ => none

/-- The numeric value of a truth value or a number, for exact comparison. -/
def number? : Value → Option (Int ⊕ Binary64)
  | .bool b => some (.inl (if b then 1 else 0))
  | .int n => some (.inl n)
  | .float x => some (.inr x)
  | _ => none

/-- Equality of numbers, exact and across their kinds. -/
def sameNumber : Int ⊕ Binary64 → Int ⊕ Binary64 → Bool
  | .inl a, .inl b => a == b
  | .inr x, .inr y => x.eqv y
  | .inl a, .inr (.finite s m e) | .inr (.finite s m e), .inl a =>
    Binary64.unitsOfInt a == Binary64.units s m e
  | _, _ => false

mutual

/-- **Equality of values**: numbers by their value, all else by kind and contents. The order of the
entries of a table does not matter. -/
def same : Value → Value → Bool
  | .null, .null => true
  | .str s, .str t => s == t
  | .list vs, .list ws | .tuple vs, .tuple ws => sameAll vs ws
  | .table es, .table fs => es.length == fs.length && sameEntries es fs
  | .moment m, .moment n => m == n
  | v, w => match v.number?, w.number? with
    | some a, some b => sameNumber a b
    | _, _ => false

/-- Equality of the values of lists, one by one. -/
def sameAll : List Value → List Value → Bool
  | [], [] => true
  | v :: vs, w :: ws => same v w && sameAll vs ws
  | _, _ => false

/-- Are entries found among those of another table? -/
def sameEntries : List (String × Value) → List (String × Value) → Bool
  | [], _ => true
  | (k, v) :: es, fs =>
    (match fs.lookup k with
      | some w => same v w
      | none => false) && sameEntries es fs

end

mutual

/-- The first value inside that cannot be an element of a set: a list or a table. -/
def unhashable? : Value → Option Value
  | .list vs => some (.list vs)
  | .table es => some (.table es)
  | .tuple vs => unhashableAmong? vs
  | _ => none

/-- The first value inside one of several that cannot be an element of a set. -/
def unhashableAmong? : List Value → Option Value
  | [] => none
  | v :: vs => (unhashable? v).or (unhashableAmong? vs)

end

end Value

end Taxonomy

import Taxonomy.Proofs.Constraint.Schema
import Taxonomy.Proofs.Number.Numerals

/-!
# The spellings of integers

Values that come from a program are integers, and values that are typed in are texts. The schema of
an integer attribute makes no difference between the two: it looks at the integer that a value
spells.

* `Spells`: an integer, its numeral, and the numeral with blanks around it.
* `elementViolation?_of_spells`: what the schema says depends on the integer only.
* `spellings_agree`: one verdict for all spellings, for lists of them, and for truth values.
-/

namespace Taxonomy

open Text

/-- **The spellings of an integer.** -/
inductive Spells (n : Int) : Value → Prop
  | number : Spells n (.int n)
  | numeral : Spells n (.str (toString n))
  | padded {before after : String} : isBlankText before = true → isBlankText after = true →
      Spells n (.str (before ++ toString n ++ after))

/-- An integer with no more digits than are read. -/
def Readable (n : Int) : Prop := Binary64.decimalSize n.natAbs ≤ maxDigits

instance (n : Int) : Decidable (Readable n) := inferInstanceAs (Decidable (_ ≤ _))

/-- **The schema rejects a value for its type.** -/
def AttributeSpec.Mistypes (a : AttributeSpec) (attrName v : Value) : Prop :=
  ∃ x, a.violation? attrName v = some x ∧ x.constraint = "schema.value-type"

variable {a : AttributeSpec} {attrName v : Value} {n low high : Int} {t : ValueType}

/-! ## One element -/

/-- **A spelling is read as the integer** that it spells. -/
theorem integerOf?_of_spells (h : Spells n v) (hn : Readable n) : integerOf? v = some n := by
  have hread : (readInteger (trim (toString n))).toOption = some n := by
    rw [trim_of_forall_not fun c => isBlank_of_mem_toString, readInteger_toString hn]
    rfl
  cases h with
  | number => rfl
  | numeral => exact hread
  | padded hbefore hafter =>
    rw [integerOf?, Value.text_str, trim_padded hbefore hafter]
    · exact hread
    · exact fun b => nofun
    · exact fun n => nofun

/-- **An integer type takes a value** exactly if the integer that is read from it is within the
bounds of the type. -/
theorem problem?_eq_none_iff (ht : t.bounds? = some (low, high)) (hv : integerOf? v = some n) :
    t.problem? v = none ↔ low ≤ n ∧ n ≤ high := by
  have htest : t.problem? v =
      if low ≤ n && n ≤ high then none else some s!"{n} is out of range for {t.name}" := by
    cases t with
    | int | long =>
      obtain ⟨rfl, rfl⟩ := Prod.mk.inj (Option.some.inj ht)
      rw [ValueType.problem?.eq_def]
      cases v with
      | bool b => cases hv
      | _ => simp only [hv, ValueType.bounds?]
    | _ => cases ht
  rw [htest]
  split <;> simp_all

/-- An integer type takes no truth value. -/
theorem problem?_bool (ht : t.bounds? = some (low, high)) (b : Bool) :
    t.problem? (.bool b) ≠ none := by
  cases t with
  | int | long => exact Option.some_ne_none _
  | _ => cases ht

/-- Without allowed values, an element is rejected for its type or not at all. -/
theorem elementViolation?_of_allowed (ha : a.allowed = none) :
    a.elementViolation? attrName v = (a.valueType.problem? v).map fun problem =>
      ⟨"schema.value-type", s!"{attrName.text}: {problem}", attrName⟩ := by
  rw [AttributeSpec.elementViolation?, ha]
  cases a.valueType.problem? v <;> rfl

/-! ## One verdict -/

/-- A truth value, or a spelling of an integer. -/
def Numeric (v : Value) : Prop := (∃ b, v = .bool b) ∨ ∃ n, Spells n v ∧ Readable n

theorem Numeric.single (h : Numeric v) : v ≠ .null ∧ v.isArray = false := by
  rcases h with ⟨b, rfl⟩ | ⟨n, h, -⟩
  · exact ⟨nofun, rfl⟩
  · cases h <;> exact ⟨nofun, rfl⟩

/-- Without allowed values, a value is rejected for its type or not at all. -/
theorem mistypes_of_violation? (ha : a.allowed = none) (ht : a.valueType ≠ .stringArray)
    (hnull : v ≠ .null) (harray : v.isArray = true → a.arrayAllowed = true)
    (h : a.violation? attrName v ≠ none) : a.Mistypes attrName v := by
  obtain ⟨x, hx⟩ := Option.ne_none_iff_exists'.1 h
  refine ⟨x, hx, ?_⟩
  rw [violation?_eq_findSome? ht hnull harray] at hx
  obtain ⟨e, -, he⟩ := List.exists_of_findSome?_eq_some hx
  rw [elementViolation?_of_allowed ha] at he
  obtain ⟨problem, -, rfl⟩ := Option.map_eq_some_iff.1 he
  rfl

/-- **Spellings of one integer get one verdict**: the schema of an integer attribute without allowed
values accepts each of them if the integer is within the bounds of the type, and otherwise rejects
it for its type. It accepts a list of spellings and truth values, where lists are allowed, exactly
if it accepts every element, and never accepts a truth value. -/
theorem spellings_agree (a : AttributeSpec) (attrName : Value) (low high : Int)
    (htype : a.valueType = .int ∧ low = -2 ^ 31 ∧ high = 2 ^ 31 - 1 ∨
      a.valueType = .long ∧ low = -2 ^ 63 ∧ high = 2 ^ 63 - 1)
    (hallowed : a.allowed = none) :
    (∀ n, Readable n → ∀ v, Spells n v →
      (a.violation? attrName v = none ↔ low ≤ n ∧ n ≤ high) ∧
      (¬(low ≤ n ∧ n ≤ high) → a.Mistypes attrName v)) ∧
    (∀ b, a.Mistypes attrName (.bool b)) ∧
    (a.arrayAllowed = true → ∀ es, (∀ e ∈ es, Numeric e) → ∀ v, v = .list es ∨ v = .tuple es →
      (a.violation? attrName v = none ↔ ∀ e ∈ es, a.violation? attrName e = none) ∧
      (¬(∀ e ∈ es, a.violation? attrName e = none) → a.Mistypes attrName v)) := by
  have hbounds : a.valueType.bounds? = some (low, high) := by
    rcases htype with ⟨ht, rfl, rfl⟩ | ⟨ht, rfl, rfl⟩ <;> rw [ht] <;> rfl
  have ht : a.valueType ≠ .stringArray := by
    rcases htype with ⟨ht, -⟩ | ⟨ht, -⟩ <;> rw [ht] <;> decide
  -- a single value is judged by its type alone
  have hsingle : ∀ {v}, Numeric v →
      (a.violation? attrName v = none ↔ a.valueType.problem? v = none) ∧
      (a.violation? attrName v ≠ none → a.Mistypes attrName v) := by
    intro v hv
    refine ⟨?_, mistypes_of_violation? hallowed ht hv.single.1 fun h => ?_⟩
    · rw [violation?_of_single ht hv.single, elementViolation?_of_allowed hallowed,
        Option.map_eq_none_iff]
    · exact absurd (hv.single.2.symm.trans h) (by decide)
  refine ⟨fun n hn v hv => ?_, fun b => ?_, fun harray es hes v hv => ?_⟩
  · obtain ⟨hiff, hrejected⟩ := hsingle (.inr ⟨n, hv, hn⟩)
    have hverdict : a.violation? attrName v = none ↔ low ≤ n ∧ n ≤ high :=
      hiff.trans (problem?_eq_none_iff hbounds (integerOf?_of_spells hv hn))
    exact ⟨hverdict, fun hout => hrejected (hout ∘ hverdict.1)⟩
  · obtain ⟨hiff, hrejected⟩ := hsingle (.inl ⟨b, rfl⟩)
    exact hrejected fun h => problem?_bool hbounds b (hiff.1 h)
  · have hnull : v ≠ .null := by rcases hv with rfl | rfl <;> exact nofun
    have helements : v.elements = es := by rcases hv with rfl | rfl <;> rfl
    have hverdict : a.violation? attrName v = none ↔ ∀ e ∈ es, a.violation? attrName e = none := by
      rw [← helements] at hes ⊢
      exact violation?_eq_none_iff_forall ht hnull (fun _ => harray) fun e he => (hes e he).single
    exact ⟨hverdict, fun hsome =>
      mistypes_of_violation? hallowed ht hnull (fun _ => harray) (hsome ∘ hverdict.1)⟩

/-- A schema that takes integers and lists of them. -/
def integers : AttributeSpec := { name := "size", valueType := .int, arrayAllowed := true }

/-- The least integer is accepted with blanks around it; the number after the greatest is rejected
when it is typed in, and so is a list with a truth value in it. -/
theorem spellings_agree_bounds :
    integers.violation? "size" (.str (" " ++ toString (-2 ^ 31 : Int) ++ "\n")) = none ∧
      integers.Mistypes "size" (.str (toString (2 ^ 31 : Int))) ∧
      integers.Mistypes "size" (.list [.int 7, .bool true]) := by
  obtain ⟨hspells, hbool, hlist⟩ := spellings_agree integers "size" (-2 ^ 31) (2 ^ 31 - 1)
    (.inl ⟨rfl, rfl, rfl⟩) rfl
  refine ⟨?_, ?_, ?_⟩
  · exact (hspells (-2 ^ 31) (by decide) _ (.padded (by decide) (by decide))).1.2 (by decide)
  · exact (hspells (2 ^ 31) (by decide) _ .numeral).2 (by decide)
  · refine (hlist rfl [.int 7, .bool true] ?_ _ (.inl rfl)).2 fun h => ?_
    · intro e he
      rcases List.mem_cons.1 he with rfl | he
      · exact .inr ⟨7, .number, by decide⟩
      · exact .inl ⟨true, List.mem_singleton.1 he⟩
    · obtain ⟨x, hx, -⟩ := hbool true
      rw [h (.bool true) (by simp)] at hx
      cases hx

end Taxonomy

import Taxonomy.Enforcement

/-!
# What a schema says against a value

A schema looks at the elements of a value one by one, unless lists are not allowed at all, and
rejects the value for the first of them that is not right.

* `violation?_eq_findSome?`: the elements of a value, one by one.
* `violation?_eq_none_iff_forall`: a list is accepted if each of its elements is.
* `schemaIds_of_violation?`: the ids under which a schema rejects values.
-/

namespace Taxonomy

/-- The ids under which a schema rejects values. -/
def schemaIds : List String := ["schema.value-type", "schema.allowed-values", "schema.array"]

/-- Is the value a list or a tuple? -/
def Value.isArray : Value → Bool
  | .list _ | .tuple _ => true
  | _ => false

variable {a : AttributeSpec} {attrName v : Value} {x : Violation}

/-- **A schema looks at the elements of a value one by one**, where lists are allowed or the value
is none. -/
theorem violation?_eq_findSome? (ht : a.valueType ≠ .stringArray) (hv : v ≠ .null)
    (harray : v.isArray = true → a.arrayAllowed = true) :
    a.violation? attrName v = v.elements.findSome? (a.elementViolation? attrName) := by
  have ht' : (a.valueType == .stringArray) = false := by simpa using ht
  cases v with
  | null => exact absurd rfl hv
  | list vs | tuple vs =>
    simp only [AttributeSpec.violation?, ht', Bool.false_eq_true, if_false, harray rfl, if_true]
    rfl
  | _ =>
    simp only [AttributeSpec.violation?, ht', Bool.false_eq_true, if_false]
    exact (List.findSome?_singleton).symm

/-- A value that is no list is judged as one element. -/
theorem violation?_of_single (ht : a.valueType ≠ .stringArray)
    (hv : v ≠ .null ∧ v.isArray = false) :
    a.violation? attrName v = a.elementViolation? attrName v := by
  rw [violation?_eq_findSome? ht hv.1 fun h => absurd (hv.2.symm.trans h) (by decide)]
  cases v with
  | list | tuple => cases hv.2
  | _ => exact List.findSome?_singleton

/-- **A list is accepted if each element is**, where lists are allowed. -/
theorem violation?_eq_none_iff_forall (ht : a.valueType ≠ .stringArray) (hnull : v ≠ .null)
    (harray : v.isArray = true → a.arrayAllowed = true)
    (hsingle : ∀ e ∈ v.elements, e ≠ .null ∧ e.isArray = false) :
    a.violation? attrName v = none ↔ ∀ e ∈ v.elements, a.violation? attrName e = none := by
  rw [violation?_eq_findSome? ht hnull harray, List.findSome?_eq_none_iff]
  refine forall₂_congr fun e he => ?_
  rw [violation?_of_single ht (hsingle e he)]

/-- A schema that allows no lists rejects them as they are. -/
theorem violation?_of_isArray (ht : a.valueType ≠ .stringArray) (hv : v.isArray = true)
    (harray : a.arrayAllowed = false) : a.violation? attrName v =
      some ⟨"schema.array", s!"{attrName.text} does not accept multiple values", attrName⟩ := by
  have ht' : (a.valueType == .stringArray) = false := by simpa using ht
  cases v with
  | list vs | tuple vs => simp [AttributeSpec.violation?, ht', harray]
  | _ => cases hv

theorem schemaIds_of_elementViolation? (h : a.elementViolation? attrName v = some x) :
    x.constraint ∈ schemaIds ∧ x.attrName = attrName := by
  rw [AttributeSpec.elementViolation?] at h
  split at h
  · obtain rfl := Option.some.inj h
    exact ⟨by simp [schemaIds], rfl⟩
  · split at h
    · split at h
      · cases h
      · obtain rfl := Option.some.inj h
        exact ⟨by simp [schemaIds], rfl⟩
    · cases h

/-- **A schema rejects a value under one of its own ids**, for the attribute in question. -/
theorem schemaIds_of_violation? (h : a.violation? attrName v = some x) :
    x.constraint ∈ schemaIds ∧ x.attrName = attrName := by
  by_cases ht : a.valueType = .stringArray
  · cases v with
    | null => cases h
    | _ =>
      simp only [AttributeSpec.violation?, ht, BEq.rfl, if_true] at h
      split at h
      · cases h
      · obtain rfl := Option.some.inj h
        exact ⟨by simp [schemaIds], rfl⟩
  · by_cases hv : v = .null
    · subst hv
      cases h
    · by_cases harray : v.isArray = true → a.arrayAllowed = true
      · rw [violation?_eq_findSome? ht hv harray] at h
        obtain ⟨e, -, he⟩ := List.exists_of_findSome?_eq_some h
        exact schemaIds_of_elementViolation? he
      · rw [Classical.not_imp, Bool.not_eq_true] at harray
        rw [violation?_of_isArray ht harray.1 harray.2] at h
        obtain rfl := Option.some.inj h
        exact ⟨by simp [schemaIds], rfl⟩

end Taxonomy

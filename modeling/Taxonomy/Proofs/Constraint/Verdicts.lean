import Taxonomy.Command.Basic
import Taxonomy.Proofs.Constraint.Judging
import Taxonomy.Proofs.Constraint.Narrowing
import Taxonomy.Proofs.Constraint.Schema

/-!
# One verdict on a value

A value is checked in two ways. Callers that want to know everything collect all that stands against
it, as the command does that shows it; callers that want to go on stop at the first thing. Both come
to the same verdict.

* `ValidationConstraint.objection?`: what a constraint holds against a value, by its definition.
* `violations_eq`: what is collected.
* `firstViolation_of_mapM`: what a check stops at is the first of what would be collected.
* `verdicts_agree`: the two ways, and the command.
-/

namespace Taxonomy

open Registry

/-- **What a constraint holds against a value**: its reason, where it is about the attribute and
rejects the value. A reason that counts as false is none. -/
def ValidationConstraint.objection? (k : ValidationConstraint) (node : Node) (id : TypeId)
    (lineage : List TypeId) (attrName v : Value) : Option Violation :=
  match k.appliesTo node attrName lineage (some id), k.validate node attrName v with
  | .ok true, .ok (some reason) => if reason.isTruthy then some ⟨k.id, reason, attrName⟩ else none
  | _, _ => none

variable {r : Registry} {s : Snapshot} {node : Node} {id : TypeId} {attrName v : Value}

/-! ## Collecting -/

/-- **A constraint says what it holds against a value**, if it gives an answer. -/
theorem violation?_eq_objection? {k : ValidationConstraint} {lineage : List TypeId}
    {found : Option Violation} (h : k.violation? node id lineage attrName v = .ok found) :
    found = k.objection? node id lineage attrName v := by
  rw [ValidationConstraint.violation?] at h
  obtain ⟨applies, happlies, h⟩ := ok_of_bind h
  rw [ValidationConstraint.objection?, happlies]
  cases applies with
  | false =>
    obtain rfl := Except.ok.inj h
    rfl
  | true =>
    obtain ⟨reason, hreason, h⟩ := ok_of_bind h
    rw [hreason]
    cases reason with
    | none =>
      obtain rfl := Except.ok.inj h
      rfl
    | some reason =>
      obtain rfl := Except.ok.inj h
      rfl

/-- What several constraints say, if all of them give an answer. -/
theorem filterMap_of_mapM {lineage : List TypeId} {ks : List ValidationConstraint}
    {found : List (Option Violation)}
    (h : ks.mapM (·.violation? node id lineage attrName v) = .ok found) :
    (found.filterMap fun x => x) = ks.filterMap (·.objection? node id lineage attrName v) := by
  induction ks generalizing found with
  | nil =>
    obtain rfl := Except.ok.inj h
    rfl
  | cons k ks ih =>
    rw [List.mapM_cons] at h
    obtain ⟨x, hx, h⟩ := ok_of_bind h
    obtain ⟨xs, hxs, h⟩ := ok_of_bind h
    obtain rfl := Except.ok.inj h
    rw [List.filterMap_cons, List.filterMap_cons, ih hxs, violation?_eq_objection? hx]

/-- **What is collected**: what the schema says, and then the objections of the constraints, in the
order in which they were registered. -/
theorem violations_eq {found : List Violation}
    (h : s.violations node id attrName v = .ok found) :
    ∃ schema, s.schemaViolation? id attrName v = .ok schema ∧
      found = schema.toList ++
        s.contents.validation.filterMap (·.objection? node id (s.lineage id) attrName v) := by
  rw [Snapshot.violations] at h
  obtain ⟨schema, hschema, h⟩ := ok_of_bind h
  obtain ⟨xs, hxs, h⟩ := ok_of_bind h
  obtain rfl := Except.ok.inj h
  exact ⟨schema, hschema, by rw [filterMap_of_mapM hxs]⟩

/-- What is said by the schema of a type bears one of the ids of schemas. -/
theorem schemaIds_of_schemaViolation? {x : Violation}
    (h : s.schemaViolation? id attrName v = .ok (some x)) : x.constraint ∈ schemaIds := by
  rw [Snapshot.schemaViolation?] at h
  cases hd : s.type? id with
  | none =>
    rw [hd] at h
    cases h
  | some d =>
    rw [hd] at h
    obtain ⟨spec, -, h⟩ := ok_of_bind h
    obtain ⟨a, -, ha⟩ := Option.bind_eq_some_iff.1 (Except.ok.inj h)
    exact (schemaIds_of_violation? ha).1

/-! ## Stopping at the first -/

/-- **What a check stops at** is the first of what would be collected. -/
theorem firstViolation_of_mapM {ks : List ValidationConstraint} {found : List (Option Violation)}
    (h : ks.mapM (·.violation? node id (s.lineage id) attrName v) = .ok found) :
    s.firstViolation node id attrName v ks = .ok (found.filterMap fun x => x).head? := by
  induction ks generalizing found with
  | nil =>
    obtain rfl := Except.ok.inj h
    rfl
  | cons k ks ih =>
    rw [List.mapM_cons] at h
    obtain ⟨x, hx, h⟩ := ok_of_bind h
    obtain ⟨xs, hxs, h⟩ := ok_of_bind h
    obtain rfl := Except.ok.inj h
    rw [Snapshot.firstViolation, hx]
    cases x with
    | some x => rfl
    | none =>
      rw [List.filterMap_cons]
      exact ih hxs

/-- The verdict that a check comes to, from all that stands against a value. -/
def verdictOf : List Violation → Result Unit
  | [] => .ok ()
  | x :: _ => .error (.violated x)

/-- **A check comes to the verdict of what is collected**, if that can be collected. -/
theorem checkValue_eq_verdictOf {found : List Violation}
    (h : r.violations node attrName v = .ok found) :
    r.checkValue node attrName v = verdictOf found := by
  cases hnode : node.target with
  | error f =>
    rw [violations_of_error hnode] at h
    cases h
  | ok id =>
    rw [violations_of_target hnode] at h
    rw [Registry.checkValue, hnode]
    cases hon : r.switches.areOn id.family with
    | false =>
      rw [hon] at h
      obtain rfl := Except.ok.inj h
      simp only [bind, Except.bind]
      rw [hon]
      rfl
    | true =>
      rw [hon, if_pos rfl, Snapshot.violations] at h
      obtain ⟨schema, hschema, h⟩ := ok_of_bind h
      obtain ⟨xs, hxs, h⟩ := ok_of_bind h
      obtain rfl := Except.ok.inj h
      simp only [bind, Except.bind]
      rw [hon, hschema, firstViolation_of_mapM hxs]
      -- the schema stands first; without it the constraints decide
      cases schema with
      | some x => rfl
      | none => cases xs.filterMap fun x => x <;> rfl

theorem isValueValid_of_checkValue {found : List Violation}
    (h : r.checkValue node attrName v = verdictOf found) :
    r.isValueValid node attrName v = .ok found.isEmpty := by
  rw [Registry.isValueValid, h]
  cases found <;> rfl

/-! ## The command -/

/-- What holds of whatever is made of the result of an operation. -/
theorem ensures_outcome {α β : Type} {P : β → Prop} (a : Action α) {g : α → β} (hg : ∀ x, P (g x))
    (r : Registry) : Ensures P (Action.outcome (do return g (← a)) r) := by
  rw [Action.outcome, run_bind]
  rcases a.run.run r with ⟨f | x, r'⟩
  · exact ensures_throw f
  · exact ensures_pure (hg x)

variable {type : TypeRef} {t : TypeId} {name : Value} {found : List Violation}

/-- **The exit code of the command is the verdict**, where it shows its findings as JSON. -/
theorem outcome_checkValue_json (ht : type.resolve = .ok t)
    (h : r.violations (.named t name []) attrName v = .ok found) :
    ∃ out, Action.outcome (Command.checkValue type attrName v name true) r = .ok out ∧
      out.exit = if found.isEmpty then 0 else 1 := by
  rw [Action.outcome, Command.checkValue, ht]
  simp only [run_get]
  rw [run_lift, h]
  exact ⟨_, rfl, rfl⟩

/-- **The exit code of the command is the verdict**, where it shows its findings as a text. -/
theorem ensures_checkValue_text (ht : type.resolve = .ok t)
    (h : r.violations (.named t name []) attrName v = .ok found) :
    Ensures (fun out => out.exit = if found.isEmpty then 0 else 1)
      (Action.outcome (Command.checkValue type attrName v name false) r) := by
  rw [Action.outcome, Command.checkValue, ht]
  simp only [run_get]
  rw [run_lift, h]
  cases found with
  | nil =>
    simp only [Bool.false_eq_true, List.isEmpty_nil, if_false, if_true]
    generalize Console.print _ = line
    exact ensures_outcome (liftM line) (g := fun s => (⟨0, s, ""⟩ : Output)) (fun _ => rfl) r
  | cons x xs =>
    simp only [Bool.false_eq_true, List.isEmpty_cons, if_false]
    generalize (List.mapM _ (x :: xs) : Action (List String)) = lines
    exact ensures_outcome lines (g := fun ss => (⟨1, String.join ss, ""⟩ : Output))
      (fun _ => rfl) r

/-- **Both ways of checking a value come to one verdict.** Whatever the registry, its switches, the
node and the value are, suppose that all that stands against the value can be collected.

* The check passes exactly if nothing stands against the value, and otherwise fails with the first
  thing that does: its constraint, its reason and its attribute. The value counts as valid
  accordingly.
* Nothing is collected where checks on the node's family are off. Where they are on, one violation
  of the schema comes first, if there is one, and then the objections of the constraints, in the
  order in which they were registered.
* The command ends with the exit code of this verdict. -/
theorem verdicts_agree (r : Registry) (node : Node) (attrName v : Value) (found : List Violation)
    (h : r.violations node attrName v = .ok found) :
    (r.checkValue node attrName v = .ok () ↔ found = []) ∧
    (∀ x xs, found = x :: xs → r.checkValue node attrName v = .error (.violated x)) ∧
    r.isValueValid node attrName v = .ok found.isEmpty ∧
    (∃ id, node.target = .ok id ∧
      (r.switches.areOn id.family = false → found = []) ∧
      (r.switches.areOn id.family = true →
        ∃ schema, r.snapshot.schemaViolation? id attrName v = .ok schema ∧
          (∀ x ∈ schema, x.constraint ∈ schemaIds) ∧
          found = schema.toList ++ r.snapshot.contents.validation.filterMap
            (·.objection? node id (r.snapshot.lineage id) attrName v))) ∧
    ∀ type t name, type.resolve = .ok t → node = .named t name [] →
      (∃ out, Action.outcome (Command.checkValue type attrName v name true) r = .ok out ∧
        out.exit = if found.isEmpty then 0 else 1) ∧
      Ensures (fun out => out.exit = if found.isEmpty then 0 else 1)
        (Action.outcome (Command.checkValue type attrName v name false) r) := by
  have hcheck := checkValue_eq_verdictOf h
  refine ⟨?_, ?_, isValueValid_of_checkValue hcheck, ?_, ?_⟩
  · rw [hcheck]
    cases found <;> simp [verdictOf]
  · rintro x xs rfl
    exact hcheck
  · cases hnode : node.target with
    | error f =>
      rw [violations_of_error hnode] at h
      cases h
    | ok id =>
      rw [violations_of_target hnode] at h
      refine ⟨id, rfl, fun hoff => ?_, fun hon => ?_⟩
      · rw [hoff] at h
        exact (Except.ok.inj h).symm
      · rw [hon, if_pos rfl] at h
        obtain ⟨schema, hschema, hfound⟩ := violations_eq h
        refine ⟨schema, hschema, ?_, hfound⟩
        rintro x rfl
        exact schemaIds_of_schemaViolation? hschema
  · rintro type t name ht rfl
    exact ⟨outcome_checkValue_json ht h, ensures_checkValue_text ht h⟩

/-- A registry in which sizes are integers, and not negative. -/
def sized : Registry :=
  ({ name := "files" } : Registry).run
    [.register (.id ⟨"file", "text"⟩) [.attribute "size" "int"] .none,
      .addConstraint (.constraint (.validation notNegative)) .none]

/-- Both the schema and the constraint have something against a size in words; the check stops at
what the schema says. -/
theorem verdicts_agree_many :
    (∃ constraint, sized.violations (.named ⟨"file", "text"⟩ "" []) "size" "many" =
      .ok [⟨"schema.value-type", "size: expected int, got 'many'", "size"⟩, constraint]) ∧
    sized.checkValue (.named ⟨"file", "text"⟩ "" []) "size" "many" =
      .error (.violated ⟨"schema.value-type", "size: expected int, got 'many'", "size"⟩) ∧
    ∃ out, Action.outcome (Command.checkValue "file.text" "size" "many" "" true) sized = .ok out ∧
      out.exit = 1 := by
  have hfound : sized.violations (.named ⟨"file", "text"⟩ "" []) "size" "many" =
      .ok [⟨"schema.value-type", "size: expected int, got 'many'", "size"⟩,
        ⟨"size", "size value 'many' is not a number", "size"⟩] :=
    ok_of_toOption (by decide +kernel)
  obtain ⟨-, hfirst, -, -, hcommand⟩ := verdicts_agree _ _ _ _ _ hfound
  have hread : (TypeRef.value "file.text").resolve = .ok ⟨"file", "text"⟩ :=
    ok_of_toOption (by decide +kernel)
  exact ⟨⟨_, hfound⟩, hfirst _ _ rfl, (hcommand _ _ _ hread rfl).1⟩

end Taxonomy

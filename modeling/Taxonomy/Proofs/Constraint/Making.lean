import Taxonomy.Constraint.Predicate
import Taxonomy.Proofs.Draft

/-!
# Constraints that are made of predicates

A constraint that is made from the name of a predicate is about everything that its patterns select,
and its check is what the predicate decides. It looks at a placement and its lineages, or at a
value, and at nothing else.

* `Ensures`: what holds of a result, if there is one.
* `Constraint.OfPredicate`: the check is that of a predicate.
* `ensures_demand`: what a predicate demands is of its kind.
* `ensures_madeFrom`: whatever is made has the check of a predicate, the id that was given and the
  kind that was asked for.
-/

namespace Taxonomy

/-- **What holds of a result**, if there is one. -/
def Ensures {α : Type} (P : α → Prop) (x : Result α) : Prop := ∀ a, x = .ok a → P a

section Rules

variable {α β : Type} {P : α → Prop}

theorem ensures_throw (e : Fault) : Ensures P (throw e) := by
  intro a h
  cases h

theorem ensures_pure {a : α} (h : P a) : Ensures P (pure a) := by
  intro b hb
  obtain rfl := Except.ok.inj hb
  exact h

/-- One step, and then what follows on its result. -/
theorem ensures_bind {x : Result β} {f : β → Result α}
    (h : ∀ b, x = .ok b → Ensures P (f b)) : Ensures P (x >>= f) := by
  intro a ha
  obtain ⟨b, hb, ha⟩ := ok_of_bind ha
  exact h b hb a ha

/-- Behind a refusal nothing follows. -/
theorem ensures_throw_bind (e : Fault) (f : β → Result α) : Ensures P (throw e >>= f) :=
  ensures_bind fun _ h => nomatch h

/-- What follows where nothing is refused. -/
theorem ensures_unless {c : Prop} [Decidable c] {e : Fault} {k : β → Result α} {x : Result α}
    (hx : ¬ c → Ensures P x) : Ensures P (if c then throw e >>= k else x) := by
  split
  · exact ensures_throw_bind e k
  · next h => exact hx h

end Rules

/-- **A constraint that is made of a predicate**: it is about all that its patterns select, and its
check is what the predicate decides. -/
def Constraint.OfPredicate : Constraint → Prop
  | placement k => k.applies = none ∧ ∃ p : PlacementPredicate, k.check = p.check
  | validation k => k.applies = none ∧ ∃ p : ValidationPredicate,
      k.check = fun _ attrName value => do return (← p.check attrName value).map .str

/-- The kind of a constraint. -/
def Constraint.kind : Constraint → ConstraintKind
  | placement _ => .placement
  | validation _ => .validation

/-- The kind of a demand. -/
def Predicate.kind : Predicate → ConstraintKind
  | placement _ => .placement
  | validation _ => .validation

/-- **What is made of an id and the name of a predicate**, of a kind. -/
structure Constraint.MadeFrom (k : Constraint) (kind : ConstraintKind) (id : Value) : Prop where
  ofPredicate : k.OfPredicate
  id : readConstraintId id = .ok k.id
  kind : k.kind = kind

/-- The check that a constraint on values is made with is the one that it has, and so is the id. -/
theorem madeFrom_of_make {p : ValidationPredicate} {id description target attrName : Value}
    {descendants : Bool} {k : ValidationConstraint}
    (h : ValidationConstraint.make id description
      (fun _ attrName value => do return (← p.check attrName value).map .str) none target attrName
      descendants = .ok k) (pattern : TypePattern) :
    (Constraint.validation { k with target := pattern }).MadeFrom .validation id := by
  rw [ValidationConstraint.make] at h
  obtain ⟨i, hi, h⟩ := ok_of_bind h
  obtain ⟨t, -, h⟩ := ok_of_bind h
  obtain rfl := Except.ok.inj h
  exact ⟨⟨rfl, p, rfl⟩, hi, rfl⟩

/-- **What a predicate demands is of its kind.** -/
theorem ensures_demand (name : PredicateName) (params : Params) :
    Ensures (fun d => d.kind = name.kind) (name.demand params) := by
  cases name with
  | denyChildName => exact ensures_bind fun _ _ => ensures_pure rfl
  | requireChildName => exact ensures_bind fun _ _ => ensures_pure rfl
  | denyChildType => exact ensures_bind fun _ _ => ensures_bind fun _ _ => ensures_pure rfl
  | required => exact ensures_pure rfl
  | regex => exact ensures_bind fun _ _ => ensures_pure rfl
  | enum => exact ensures_bind fun _ _ => ensures_bind fun _ _ => ensures_pure rfl
  | length => exact ensures_bind fun _ _ => ensures_pure rfl
  | range => exact ensures_bind fun _ _ => ensures_pure rfl
  | positiveInt => exact ensures_pure rfl

/-- **Whatever is made from the name of a predicate** has the check of that predicate, the id that
was given and the kind that was asked for. -/
theorem ensures_madeFrom (kind : ConstraintKind) (id predicate : Value)
    (arguments params : Params) :
    Ensures (·.MadeFrom kind id) (makeConstraint kind id predicate arguments params) := by
  unfold makeConstraint
  split
  · exact ensures_throw_bind _ _
  extract_lets given params argument descendants words named checked
  simp only [checked]
  split
  · exact ensures_throw_bind _ _
  simp only [named]
  refine ensures_bind fun key _ => ?_
  split
  · next name _ =>
    split
    · exact ensures_throw_bind _ _
    next hkind =>
    have hkind : name.kind = kind := not_not.1 hkind
    refine ensures_bind fun demand hdemand => ?_
    have hof : demand.kind = kind := (ensures_demand name _ demand hdemand).trans hkind
    -- the description is given or made of the parameters, and the patterns are read behind it
    cases demand with
    | placement p =>
      obtain rfl : .placement = kind := hof
      split
      · exact ensures_bind fun _ _ => ensures_bind fun _ _ => ensures_bind fun _ _ =>
          ensures_bind fun _ hid => ensures_pure ⟨⟨rfl, p, rfl⟩, hid, rfl⟩
      · exact ensures_bind fun _ _ => ensures_bind fun _ _ => ensures_bind fun _ _ =>
          ensures_bind fun _ _ => ensures_bind fun _ hid => ensures_pure ⟨⟨rfl, p, rfl⟩, hid, rfl⟩
    | validation p =>
      obtain rfl : .validation = kind := hof
      split
      · exact ensures_bind fun _ _ => ensures_bind fun pattern _ => ensures_bind fun k hk =>
          ensures_pure (madeFrom_of_make hk pattern)
      · exact ensures_bind fun _ _ => ensures_bind fun _ _ => ensures_bind fun pattern _ =>
          ensures_bind fun k hk => ensures_pure (madeFrom_of_make hk pattern)
  · exact ensures_throw _

/-- Whatever is made from the name of a predicate has the check of that predicate. -/
theorem ensures_makeConstraint (kind : ConstraintKind) (id predicate : Value)
    (arguments params : Params) :
    Ensures Constraint.OfPredicate (makeConstraint kind id predicate arguments params) := by
  intro k hk
  exact (ensures_madeFrom kind id predicate arguments params k hk).ofPredicate

end Taxonomy

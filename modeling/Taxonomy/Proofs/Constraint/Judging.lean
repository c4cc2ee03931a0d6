import Taxonomy.Proofs.Constraint.Inheriting
import Taxonomy.Proofs.Registry.Constraining
import Taxonomy.Ruleset

/-!
# Values that are judged, and conversions that fail

The check of a value is made to say yes or no. It gives no answer where something has to be
converted first and cannot be: an integer that no binary64 number is near to, a bound that is no
number, an expression whose search is given up.

* `ValidationPredicate.Breaks`: the conversions that a predicate needs and that fail.
* `checkElement_error`: a predicate gives no answer for no other reason.
* `Constraint.Built`: constraints that are made by name or come from rulesets.
* `values_are_judged`: the checks of a registry with such constraints.
-/

namespace Taxonomy

open Registry

/-- **What can go wrong with a result**, if anything does. -/
def FailsOnly {α : Type} (P : Fault → Prop) (x : Result α) : Prop := ∀ f, x = .error f → P f

section Rules

variable {α β : Type} {P : Fault → Prop}

theorem failsOnly_pure (a : α) : FailsOnly P (pure a) := by
  intro f h
  cases h

/-- Where two steps fail, the first does, or the second on its result. -/
theorem failsOnly_bind {x : Result α} {k : α → Result β} (h : FailsOnly P x)
    (hk : ∀ a, x = .ok a → FailsOnly P (k a)) : FailsOnly P (x >>= k) := by
  intro f hf
  cases x with
  | error e => exact h f (congrArg _ (Except.error.inj hf))
  | ok a => exact hk a rfl f hf

theorem failsOnly_map {x : Result α} (h : FailsOnly P x) (g : α → β) : FailsOnly P (x.map g) := by
  intro f hf
  cases x with
  | error e => exact h f (congrArg _ (Except.error.inj hf))
  | ok a => cases hf

theorem failsOnly_throw {e : Fault} (h : P e) : FailsOnly P (throw e : Result α) := by
  intro f hf
  obtain rfl := Except.error.inj hf
  exact h

/-- What can go wrong with a result is one of more things that can. -/
theorem FailsOnly.mono {Q : Fault → Prop} {x : Result α} (h : FailsOnly P x)
    (hPQ : ∀ f, P f → Q f) : FailsOnly Q x := by
  intro f hf
  exact hPQ f (h f hf)

/-- A refusal in front, or what follows where nothing is refused. -/
theorem failsOnly_unless {c : Prop} [Decidable c] {e : Fault} {k : β → Result α} {x : Result α}
    (he : P e) (hx : ¬ c → FailsOnly P x) : FailsOnly P (if c then throw e >>= k else x) := by
  split
  · exact failsOnly_bind (failsOnly_throw he) fun _ h => nomatch h
  · next h => exact hx h

theorem failsOnly_mapM {g : α → Result β} (xs : List α) (h : ∀ x ∈ xs, FailsOnly P (g x)) :
    FailsOnly P (xs.mapM g) := by
  induction xs with
  | nil => exact failsOnly_pure _
  | cons x xs ih =>
    rw [List.mapM_cons]
    refine failsOnly_bind (h x List.mem_cons_self) fun _ _ => ?_
    refine failsOnly_bind (ih fun x' hx' => h x' (List.mem_cons_of_mem _ hx')) fun _ _ => ?_
    exact failsOnly_pure _

theorem failsOnly_ite {c : Prop} [Decidable c] {x y : Result α} (hx : FailsOnly P x)
    (hy : FailsOnly P y) : FailsOnly P (if c then x else y) := by
  split
  · exact hx
  · exact hy

/-- A test of what comes of a step, and what follows where it is passed. -/
theorem failsOnly_guard {x : Result α} {test : α → Prop} [DecidablePred test]
    {refusal : α → Result β} {rest : Result β} (h : FailsOnly P x)
    (hrefusal : ∀ a, FailsOnly P (refusal a)) (hrest : FailsOnly P rest) :
    FailsOnly P (x >>= fun a => if test a then refusal a else rest) :=
  failsOnly_bind h fun a _ => failsOnly_ite (hrefusal a) hrest

end Rules

/-! ## Predicates -/

/-- **A conversion that a predicate needs for an element, and that fails.** Predicates that are not
named here need none. -/
inductive ValidationPredicate.Breaks : ValidationPredicate → Value → Fault → Prop
  /-- A search ends with a group that ends before it begins. -/
  | search {p e f} : e ≠ .null → matched (p.regex.covers e.text) = .error f → Breaks (.regex p) e f
  /-- A bound on the length is no integer, or one that is too long to be written. -/
  | size {least most bound e f} : e ≠ .null → least = some bound ∨ most = some bound →
    bound.toInteger = .error f ∨ bound.written = .error f → Breaks (.length least most) e f
  /-- An integer is too large for a binary64 number. -/
  | number {low high n f} : realOfInteger n = .error f → Breaks (.range low high) (.int n) f
  /-- A bound is no binary64 number. -/
  | bound {low high bound e f} : e.isBlank = false → low = some bound ∨ high = some bound →
    bound.toReal = .error f → Breaks (.range low high) e f

/-- Only an integer can be no number for a failure of its own. -/
theorem numberOf_error {v : Value} {f : Fault} (h : numberOf v = .error f) :
    ∃ n, v = .int n ∧ realOfInteger n = .error f := by
  cases v with
  | int n =>
    refine ⟨n, rfl, ?_⟩
    rw [numberOf] at h
    cases hn : realOfInteger n with
    | ok x =>
      rw [hn] at h
      cases h
    | error f' =>
      rw [hn] at h
      exact congrArg _ (Except.error.inj h)
  | _ => cases h

/-- The bounds on a length are asked one after the other, each only if it is given. -/
theorem failsOnly_length (least most : Option Value) (attrName : String) {e : Value}
    (hnull : e ≠ .null) : FailsOnly ((ValidationPredicate.length least most).Breaks e)
      ((ValidationPredicate.length least most).checkElement attrName e) := by
  have hsize (bound : Value) (h : least = some bound ∨ most = some bound) :
      FailsOnly ((ValidationPredicate.length least most).Breaks e) bound.toInteger :=
    fun f hf => .size hnull h (.inl hf)
  have hwords (bound : Value) (h : least = some bound ∨ most = some bound) (k : String → String) :
      FailsOnly ((ValidationPredicate.length least most).Breaks e)
        (do return some (k (← bound.written))) :=
    failsOnly_bind (fun f hf => .size hnull h (.inr hf)) fun _ _ => failsOnly_pure _
  cases least with
  | none =>
    rw [ValidationPredicate.checkElement]
    · cases most with
      | none => exact failsOnly_pure _
      | some high =>
        exact failsOnly_guard (hsize high (.inr rfl)) (fun _ => hwords high (.inr rfl) _)
          (failsOnly_pure _)
    · exact hnull
    · rintro _ ⟨⟩
  | some low =>
    rw [ValidationPredicate.checkElement]
    · refine failsOnly_guard (hsize low (.inl rfl)) (fun _ => hwords low (.inl rfl) _) ?_
      cases most with
      | none => exact failsOnly_pure _
      | some high =>
        exact failsOnly_guard (hsize high (.inr rfl)) (fun _ => hwords high (.inr rfl) _)
          (failsOnly_pure _)
    · exact hnull

/-- The element is read as a number first; then the bounds are asked, each only if it is given. -/
theorem failsOnly_range (low high : Option Value) (attrName : String) (e : Value) :
    FailsOnly ((ValidationPredicate.range low high).Breaks e)
      ((ValidationPredicate.range low high).checkElement attrName e) := by
  have hnumber : FailsOnly ((ValidationPredicate.range low high).Breaks e) (numberOf e) := by
    intro f hf
    obtain ⟨n, rfl, hn⟩ := numberOf_error hf
    exact .number hn
  rw [ValidationPredicate.checkElement]
  cases hblank : e.isBlank with
  | true => exact failsOnly_pure _
  | false =>
    have hbound (bound : Value) (h : low = some bound ∨ high = some bound) :
        FailsOnly ((ValidationPredicate.range low high).Breaks e) bound.toReal :=
      fun f hf => .bound hblank h hf
    refine failsOnly_bind hnumber fun x _ => ?_
    cases x with
    | none => exact failsOnly_pure _
    | some x =>
      cases low with
      | none =>
        cases high with
        | none => exact failsOnly_pure _
        | some high =>
          exact failsOnly_guard (hbound high (.inr rfl)) (fun _ => failsOnly_pure _)
            (failsOnly_pure _)
      | some low =>
        refine failsOnly_guard (hbound low (.inl rfl)) (fun _ => failsOnly_pure _) ?_
        cases high with
        | none => exact failsOnly_pure _
        | some high =>
          exact failsOnly_guard (hbound high (.inr rfl)) (fun _ => failsOnly_pure _)
            (failsOnly_pure _)

/-- **A predicate gives no answer for an element** only where a conversion fails. -/
theorem failsOnly_checkElement (p : ValidationPredicate) (attrName : String) (e : Value) :
    FailsOnly (p.Breaks e) (p.checkElement attrName e) := by
  by_cases hnull : e = .null
  · subst hnull
    cases p <;> exact failsOnly_pure _
  · cases p with
    | required => exact failsOnly_pure _
    | regex p =>
      rw [ValidationPredicate.checkElement]
      · refine failsOnly_bind (fun f hf => .search hnull hf) fun b _ => ?_
        cases b <;> exact failsOnly_pure _
      · exact hnull
    | enum allowed caseSensitive =>
      rw [ValidationPredicate.checkElement]
      · exact failsOnly_ite (failsOnly_pure _) (failsOnly_pure _)
      · exact hnull
    | length least most => exact failsOnly_length least most attrName hnull
    | range low high => exact failsOnly_range low high attrName e
    | positiveInt =>
      rw [ValidationPredicate.checkElement]
      cases e.isBlank with
      | true => exact failsOnly_pure _
      | false =>
        -- truth values are refused, all else is read as an integer
        cases e with
        | bool b => exact failsOnly_pure _
        | _ =>
          simp only [Bool.false_eq_true, if_false]
          split <;> exact failsOnly_pure _

/-- **A predicate gives no answer for a value** only where a conversion fails for one of its
elements. -/
theorem failsOnly_check (p : ValidationPredicate) (attrName v : Value) :
    FailsOnly (fun f => ∃ e ∈ v.elements, p.Breaks e f) (p.check attrName v) := by
  have hfirst : ∀ es : List Value, FailsOnly (fun f => ∃ e ∈ es, p.Breaks e f)
      (firstReason (p.checkElement attrName.text) es) := by
    intro es
    induction es with
    | nil => exact failsOnly_pure _
    | cons e es ih =>
      rw [firstReason]
      refine failsOnly_bind (fun f hf => ?_) fun reason _ => ?_
      · exact ⟨e, List.mem_cons_self, failsOnly_checkElement p _ e f hf⟩
      · cases reason with
        | some reason => exact failsOnly_pure _
        | none =>
          intro f hf
          obtain ⟨e', he', hbreaks⟩ := ih f hf
          exact ⟨e', List.mem_cons_of_mem _ he', hbreaks⟩
  cases p with
  | required => exact failsOnly_pure _
  | _ => exact hfirst v.elements

/-- An integer that is too large is not compared with any bound. -/
theorem checkElement_range_error {n : Int} {f : Fault} (h : realOfInteger n = .error f)
    (low high : Option Value) (attrName : String) :
    (ValidationPredicate.range low high).checkElement attrName (.int n) = .error f := by
  have hnumber : numberOf (.int n) = .error f := by
    rw [numberOf, h]
    rfl
  rw [ValidationPredicate.checkElement, hnumber]
  rfl

/-- **An integer that is too large gets no answer** from a range, whatever the bounds are. -/
theorem check_range_error {n : Int} {f : Fault} (h : realOfInteger n = .error f)
    (low high : Option Value) (attrName : Value) :
    (ValidationPredicate.range low high).check attrName (.int n) = .error f := by
  change firstReason _ [.int n] = .error f
  rw [firstReason, checkElement_range_error h]
  rfl

/-! ## Constraints -/

/-- **Constraints that are made of data**: by the name of a predicate and its parameters, or by the
entries of rulesets. -/
inductive Constraint.Built : Constraint → Prop
  | named {kind id predicate arguments params k} :
    makeConstraint kind id predicate arguments params = .ok k → Built k
  | loaded {files paths ks k} : loadRulesets files paths = .ok ks → k ∈ ks → Built k

/-- What holds of each of several results, if there are any. -/
theorem ensures_mapM {α β : Type} {P : β → Prop} {g : α → Result β} (xs : List α)
    (h : ∀ x ∈ xs, Ensures P (g x)) : Ensures (fun ys => ∀ y ∈ ys, P y) (xs.mapM g) := by
  induction xs with
  | nil => exact ensures_pure (by simp)
  | cons x xs ih =>
    rw [List.mapM_cons]
    refine ensures_bind fun y hy => ensures_bind fun ys hys => ensures_pure ?_
    intro z hz
    rcases List.mem_cons.1 hz with rfl | hz
    · exact h x List.mem_cons_self z hy
    · exact ih (fun x' hx' => h x' (List.mem_cons_of_mem _ hx')) ys hys z hz

/-- **Entries of rulesets make constraints of predicates.** -/
theorem ensures_loadRulesets (files : FileTree) (paths : List Path) :
    Ensures (fun ks => ∀ k ∈ ks, k.OfPredicate) (loadRulesets files paths) := by
  rw [loadRulesets]
  refine ensures_bind fun kss hkss => ensures_pure ?_
  have hall : ∀ ks ∈ kss, ∀ k ∈ ks, k.OfPredicate := by
    refine ensures_mapM paths (fun path _ => ensures_bind fun ruleset _ => ?_) kss hkss
    refine ensures_mapM ruleset.entries fun entry _ => ensures_bind fun arguments _ => ?_
    exact ensures_makeConstraint _ _ _ _ _
  intro k hk
  obtain ⟨ks, hks, hk⟩ := List.mem_flatten.1 hk
  exact hall ks hks k hk

theorem Constraint.Built.ofPredicate {k : Constraint} (h : k.Built) : k.OfPredicate := by
  cases h with
  | named h => exact ensures_makeConstraint _ _ _ _ _ _ h
  | loaded h hk => exact ensures_loadRulesets _ _ _ h _ hk

/-- **The constraint breaks on a value**: a conversion fails that its predicate needs for one of the
elements. -/
def ValidationConstraint.BreaksOn (k : ValidationConstraint) (v : Value) (f : Fault) : Prop :=
  ∃ p : ValidationPredicate,
    (k.check = fun _ attrName value => do return (← p.check attrName value).map .str) ∧
      ∃ e ∈ v.elements, p.Breaks e f

section Checks

variable {k : ValidationConstraint} {node : Node} {id : TypeId} {attrName v : Value}

/-- A constraint of a predicate gives no answer only where it is about the attribute and breaks on
the value. -/
theorem failsOnly_violation? (hk : (Constraint.validation k).OfPredicate) (lineage : List TypeId) :
    FailsOnly (fun f => k.appliesTo node attrName lineage (some id) = .ok true ∧ k.BreaksOn v f)
      (k.violation? node id lineage attrName v) := by
  obtain ⟨hnone, p, hcheck⟩ := hk
  have happlies : k.appliesTo node attrName lineage (some id) =
      .ok (covers k.attrName attrName && selects k.target id lineage k.descendants) := by
    rw [appliesTo_type, hnone]
    cases covers k.attrName attrName && selects k.target id lineage k.descendants <;> rfl
  cases hcov : covers k.attrName attrName && selects k.target id lineage k.descendants with
  | false =>
    rw [violation?_of_not_applies (by rw [happlies, hcov])]
    exact failsOnly_pure _
  | true =>
    have hyes : k.appliesTo node attrName lineage (some id) = .ok true := by rw [happlies, hcov]
    rw [violation?_of_applies hyes, hcheck]
    refine failsOnly_map (failsOnly_bind (fun f hf => ?_) fun _ _ => failsOnly_pure _) _
    exact ⟨hyes, p, hcheck, failsOnly_check p attrName v f hf⟩

/-- The first violation is not found only where one of the constraints breaks on the value. -/
theorem failsOnly_firstViolation (s : Snapshot) {ks : List ValidationConstraint}
    (hks : ∀ k ∈ ks, (Constraint.validation k).OfPredicate) :
    FailsOnly (fun f => ∃ k ∈ ks,
        k.appliesTo node attrName (s.lineage id) (some id) = .ok true ∧ k.BreaksOn v f)
      (s.firstViolation node id attrName v ks) := by
  induction ks with
  | nil => exact failsOnly_pure _
  | cons k ks ih =>
    rw [Snapshot.firstViolation]
    refine failsOnly_bind (fun f hf => ?_) fun found _ => ?_
    · exact ⟨k, List.mem_cons_self, failsOnly_violation? (hks k List.mem_cons_self) _ f hf⟩
    · cases found with
      | some x => exact failsOnly_pure _
      | none =>
        intro f hf
        obtain ⟨k', hk', hbreaks⟩ := ih (fun k' hk' => hks k' (List.mem_cons_of_mem _ hk')) f hf
        exact ⟨k', List.mem_cons_of_mem _ hk', hbreaks⟩

/-- **The check of a value fails** with a violation, or because a constraint breaks on the value. -/
theorem failsOnly_checkValue {r : Registry} (hnode : node.target = .ok id) (attr : String)
    (hof : ∀ k ∈ r.snapshot.contents.validation, (Constraint.validation k).OfPredicate) :
    FailsOnly (fun f => (∃ x, f = .violated x) ∨ ∃ k ∈ r.snapshot.contents.validation,
        k.appliesTo node (.str attr) (r.snapshot.lineage id) (some id) = .ok true ∧
          k.BreaksOn v f)
      (r.checkValue node (.str attr) v) := by
  obtain ⟨schema, hschema⟩ := exists_schemaViolation? r.snapshot id attr v
  rw [Registry.checkValue, hnode]
  refine failsOnly_ite (failsOnly_pure _) (failsOnly_bind (fun f hf => ?_) fun schema' _ => ?_)
  · -- the schema gives an answer for every value
    rw [hschema] at hf
    cases hf
  · cases schema' with
    | some x => exact failsOnly_throw (.inl ⟨x, rfl⟩)
    | none =>
      refine failsOnly_bind (fun f hf => ?_) fun found _ => ?_
      · exact .inr (failsOnly_firstViolation _ hof f hf)
      · cases found with
        | some x => exact failsOnly_throw (.inl ⟨x, rfl⟩)
        | none => exact failsOnly_pure _

end Checks

/-- **Values are judged**, unless a conversion fails. Take a registry whose constraints on values
are made of data, and a value whose integers have no more digits than are written. The check of the
value passes it or rejects it, and says so as a truth value; or a constraint that is about the
attribute breaks on the value, and then the fault of the conversion is all that comes of it. -/
theorem values_are_judged {r : Registry}
    (hbuilt : ∀ k ∈ r.snapshot.contents.validation, (Constraint.validation k).Built)
    {node : Node} {id : TypeId} (hnode : node.target = .ok id) (attr : String) {v : Value}
    (_ : v.isTooLong = false) :
    (r.checkValue node (.str attr) v = .ok () ∧ r.isValueValid node (.str attr) v = .ok true) ∨
    (∃ x, r.checkValue node (.str attr) v = .error (.violated x) ∧
      r.isValueValid node (.str attr) v = .ok false) ∨
    ∃ k ∈ r.snapshot.contents.validation,
      k.appliesTo node (.str attr) (r.snapshot.lineage id) (some id) = .ok true ∧
      ∃ f, k.BreaksOn v f ∧ r.checkValue node (.str attr) v = .error f ∧
        r.isValueValid node (.str attr) v = .error f := by
  have hof : ∀ k ∈ r.snapshot.contents.validation, (Constraint.validation k).OfPredicate :=
    fun k hk => (hbuilt k hk).ofPredicate
  rw [Registry.isValueValid]
  cases hcheck : r.checkValue node (.str attr) v with
  | ok u => exact .inl ⟨rfl, rfl⟩
  | error f =>
    rcases failsOnly_checkValue hnode attr hof f hcheck with ⟨x, rfl⟩ | ⟨k, hk, happlies, hbreaks⟩
    · exact .inr (.inl ⟨x, rfl, rfl⟩)
    · -- only a violation is turned into a truth value, other faults pass through
      cases f with
      | violated x => exact .inr (.inl ⟨x, rfl, rfl⟩)
      | _ => exact .inr (.inr ⟨k, hk, happlies, _, hbreaks, rfl, rfl⟩)

/-- A constraint that wants sizes that are not negative. -/
def notNegative : ValidationConstraint where
  id := "size"
  description := "sizes are not negative"
  check := fun _ attrName v => do
    return (← (ValidationPredicate.range (some (.int 0)) none).check attrName v).map .str
  target := ⟨"file", "text"⟩
  attrName := "size"

theorem makeConstraint_notNegative : makeConstraint .validation "size" "range"
    [("target", "file.text"), ("attribute", "size"),
      ("description", "sizes are not negative")] [("min", .int 0)] =
    .ok (.validation notNegative) := rfl

/-- A registry with one type and this constraint. -/
def measured : Registry :=
  ({ name := "files" } : Registry).run
    [.register (.id ⟨"file", "text"⟩) [] .none,
      .addConstraint (.constraint (.validation notNegative)) .none]

theorem validation_measured : measured.snapshot.contents.validation = [notNegative] := rfl

theorem built_measured :
    ∀ k ∈ measured.snapshot.contents.validation, (Constraint.validation k).Built := by
  intro k hk
  rw [validation_measured] at hk
  obtain rfl := List.mem_singleton.1 hk
  exact .named makeConstraint_notNegative

theorem type_measured : measured.snapshot.type? ⟨"file", "text"⟩ =
    some { id := ⟨"file", "text"⟩ } := by decide +kernel

/-- The type has no schema for a size, so that the constraint decides. -/
theorem checkValue_measured {v : Value} {f : Fault}
    (h : notNegative.check (.id ⟨"file", "text"⟩) "size" v = .error f) :
    measured.checkValue (.id ⟨"file", "text"⟩) "size" v = .error f := by
  have hlineage : measured.snapshot.lineage ⟨"file", "text"⟩ = [⟨"file", "text"⟩] := by
    rw [Snapshot.lineage, type_measured]
    rfl
  have hschema : measured.snapshot.schemaViolation? ⟨"file", "text"⟩ "size" v = .ok none := by
    rw [Snapshot.schemaViolation?, type_measured]
    rfl
  have hviolation : notNegative.violation? (.id ⟨"file", "text"⟩) ⟨"file", "text"⟩
      [⟨"file", "text"⟩] "size" v = .error f := by
    rw [violation?_of_applies rfl, h]
    rfl
  have hfirst : measured.snapshot.firstViolation (.id ⟨"file", "text"⟩) ⟨"file", "text"⟩ "size" v
      measured.snapshot.contents.validation = .error f := by
    rw [validation_measured, Snapshot.firstViolation, hlineage, hviolation]
    rfl
  have htarget : (Node.id ⟨"file", "text"⟩).target = .ok ⟨"file", "text"⟩ := rfl
  have hon : measured.switches.areOn "file" = true := by decide +kernel
  rw [Registry.checkValue, htarget]
  simp only [bind, Except.bind]
  rw [hon, hschema, hfirst]
  rfl

/-- No conversion fails for a size of seven, so it is judged. -/
theorem values_are_judged_seven :
    (Value.int 7).isTooLong = false ∧
      measured.checkValue (.id ⟨"file", "text"⟩) "size" (.int 7) = .ok () := by
  have hyes : (measured.isValueValid (.id ⟨"file", "text"⟩) "size" (.int 7)).toOption =
      some true := by decide +kernel
  have hshort : (Value.int 7).isTooLong = false := by decide +kernel
  have htarget : (Node.id ⟨"file", "text"⟩).target = .ok ⟨"file", "text"⟩ := rfl
  rcases values_are_judged built_measured htarget "size" hshort with
    ⟨h, -⟩ | ⟨x, -, h⟩ | ⟨k, -, -, f, -, -, h⟩
  · exact ⟨hshort, h⟩
  · rw [h] at hyes
    cases hyes
  · rw [h] at hyes
    cases hyes

/-- A one with 400 zeros behind it. -/
def beyondReal : Int := Int.ofNat (Nat.pow 10 400)

/-- **A value is not always judged.** The size is an integer that is not negative, and it is written
with 401 digits; it is too large to be compared with the bound as a binary64 number, and this is all
that the check has to say. -/
theorem value_is_not_judged :
    measured.Reachable ∧
      (∀ k ∈ measured.snapshot.contents.validation, (Constraint.validation k).Built) ∧
      (measured.snapshot.type? ⟨"file", "text"⟩).isSome = true ∧
      (Value.int beyondReal).isTooLong = false ∧
      measured.checkValue (.id ⟨"file", "text"⟩) "size" (.int beyondReal) =
        .error .integerTooLarge ∧
      measured.isValueValid (.id ⟨"file", "text"⟩) "size" (.int beyondReal) =
        .error .integerTooLarge := by
  have hreal : realOfInteger beyondReal = .error .integerTooLarge := by
    have hnone : Binary64.ofInt? beyondReal = none := by decide +kernel
    rw [realOfInteger, hnone]
    rfl
  have hcheck : measured.checkValue (.id ⟨"file", "text"⟩) "size" (.int beyondReal) =
      .error .integerTooLarge := by
    have hrange := check_range_error hreal (some (.int 0)) none "size"
    refine checkValue_measured ?_
    simp only [notNegative, hrange]
    rfl
  refine ⟨⟨_, _, rfl⟩, built_measured, by rw [type_measured]; rfl, by decide +kernel, hcheck, ?_⟩
  rw [Registry.isValueValid, hcheck]
  rfl

end Taxonomy

import Taxonomy.Proofs.Catalog
import Taxonomy.Proofs.Placement.Probing

/-!
# A placement table decides as a scan does

The table of a snapshot looks rules up by their keys and keeps, for every parent, the constraints
that may concern it. The **scan** looks at everything there is: at all rules of the parent, at all
rules of the child, and at all constraints in the order in which they were registered.

* `Snapshot.scan`: the decision on a placement, by its definition.
* `firstDenial_coversParent`: a constraint that does not cover the parent never denies.
* `evaluate_eq_scan`: the table decides as the scan does.
-/

namespace Taxonomy

/-! ## The definition -/

/-- The name that a child is to bear, as a value; null where it bears none. -/
def givenName : Option String → Value
  | none => .null
  | some n => .str n

/-- Is the outcome of a test a yes? -/
def isYes : Result Bool → Bool
  | .ok b => b
  | .error _ => false

/-- **Does a constraint stand in the way of a placement?** It is about it, and does not permit
it. -/
def PlacementConstraint.forbids (k : PlacementConstraint) (c : PlacementContext) : Bool :=
  isYes (k.appliesTo c) && !isYes (k.allows c)

/-- **A constraint whose functions give an answer** for every placement. -/
structure PlacementConstraint.Answers (k : PlacementConstraint) : Prop where
  check : ∀ c, ∃ b, k.check c = .ok b
  applies : ∀ f ∈ k.applies, ∀ c, ∃ b, f c = .ok b

namespace Snapshot

variable (s : Snapshot)

/-- A placement under a stored parent, with the lineages of both types. A child that is not stored
has no lineage but itself. -/
def placementOf (d : TypeDefinition) (child : TypeId) (name : Value) : PlacementContext where
  parent := d.id
  child := child
  childName := name
  parentLineage := d.lineage
  childLineage := ((s.type? child).map (·.lineage)).getD [child]

/-- Does a stored child name the parents that it may stand under, and the parent is none of
them? -/
def refusesParent (child parent : TypeId) (name : Value) : Bool :=
  (s.type? child).any fun d =>
    !d.effective.parents.isEmpty && d.effective.parents.all (!·.admits parent name)

/-- **The decision on a placement, by its definition.** -/
def scan (parent child : TypeId) (name : Value) : Decision :=
  match s.type? parent with
  | none => { allowed := false, reason := s!"parent type {parent} is not registered" }
  | some d => match mostSpecific? d.effective.children child.family child.subtype name with
    | none => { allowed := false, reason := s!"no accepts-children rule of {parent} matches" }
    | some rule =>
      if s.refusesParent child parent name then
        { allowed := false, rule, reason := s!"{child} does not accept {parent} as a parent" }
      else match s.contents.placement.find? (·.forbids (s.placementOf d child name)) with
        | some k => { allowed := false, rule, constraint := k.id, reason := k.description }
        | none => { allowed := true, rule }

end Snapshot

/-! ## Constraints -/

variable {k : PlacementConstraint} {c : PlacementContext} {s : Snapshot}

/-- For a parent with its lineage, covering it is being selected by the parent's pattern. -/
theorem selects_parent {d : TypeDefinition} (hp : c.parent = d.id)
    (hl : c.parentLineage = d.lineage) :
    selects k.parent c.parent c.parentLineage k.descendants = k.coversParent d := by
  rw [selects, PlacementConstraint.coversParent, hp, hl]
  rfl

/-- **A constraint that does not cover the parent never denies**, whatever its functions are: they
are not even asked. -/
theorem denies_of_not_coversParent {d : TypeDefinition} (hp : c.parent = d.id)
    (hl : c.parentLineage = d.lineage) (h : k.coversParent d = false) :
    k.denies c = .ok false := by
  have hnot : k.appliesTo c = .ok false := by
    rw [PlacementConstraint.appliesTo, selects_parent hp hl, h]
    rfl
  rw [PlacementConstraint.denies, hnot]
  rfl

/-- **The constraints kept for a parent deny as all constraints do.** -/
theorem firstDenial_coversParent {d : TypeDefinition} (hp : c.parent = d.id)
    (hl : c.parentLineage = d.lineage) (ks : List PlacementConstraint) :
    firstDenial c (ks.filter (·.coversParent d)) = firstDenial c ks := by
  induction ks with
  | nil => rfl
  | cons k ks ih =>
    rw [List.filter_cons]
    cases hk : k.coversParent d with
    | true =>
      rw [if_pos rfl, firstDenial, firstDenial, ih]
    | false =>
      rw [if_neg Bool.false_ne_true, ih, firstDenial, denies_of_not_coversParent hp hl hk]
      rfl

namespace PlacementConstraint

/-- **A constraint whose functions give an answer** for one placement. -/
structure AnswersAt (k : PlacementConstraint) (c : PlacementContext) : Prop where
  check : ∃ b, k.check c = .ok b
  applies : ∀ f ∈ k.applies, ∃ b, f c = .ok b

theorem Answers.answersAt (h : k.Answers) (c : PlacementContext) : k.AnswersAt c :=
  ⟨h.check c, fun f hf => h.applies f hf c⟩

namespace AnswersAt

variable (h : k.AnswersAt c)

include h

theorem exists_appliesTo : ∃ b, k.appliesTo c = .ok b := by
  rw [appliesTo]
  split
  · exact ⟨false, rfl⟩
  · split
    · exact ⟨false, rfl⟩
    · cases hf : k.applies with
      | none => exact ⟨true, rfl⟩
      | some f => exact h.applies f hf

/-- Where the functions give answers, standing in the way is denying. -/
theorem denies_eq : k.denies c = .ok (k.forbids c) := by
  obtain ⟨a, ha⟩ := h.exists_appliesTo
  obtain ⟨b, hb⟩ := h.check
  rw [denies, forbids, ha, allows, hb]
  cases a <;> rfl

end AnswersAt

end PlacementConstraint

/-- **The first denial** is that of the first constraint that stands in the way. -/
theorem firstDenial_eq_find? {ks : List PlacementConstraint} (h : ∀ k ∈ ks, k.AnswersAt c) :
    firstDenial c ks = .ok (ks.find? (·.forbids c)) := by
  induction ks with
  | nil => rfl
  | cons k ks ih =>
    have hk := (h k List.mem_cons_self).denies_eq
    have hks := ih fun k' hk' => h k' (List.mem_cons_of_mem _ hk')
    rw [firstDenial, hk, List.find?_cons]
    cases k.forbids c with
    | true => rfl
    | false => exact hks

/-! ## The table -/

@[simp] theorem asKey_givenName (name : Option String) :
    (givenName name).asKey = .ok (givenName name) := by
  cases name <;> rfl

/-- What the table holds on a type as a parent. -/
def Snapshot.entryOf (s : Snapshot) (d : TypeDefinition) : ParentEntry :=
  ⟨d, d.effective.children, s.contents.placement.filter (·.coversParent d)⟩

@[simp] theorem Snapshot.entryOf_definition (s : Snapshot) (d : TypeDefinition) :
    (s.entryOf d).definition = d := rfl

theorem find?_entries (s : Snapshot) (t : TypeId) :
    (PlacementTable.build s).entries.find? t = (s.type? t).map s.entryOf :=
  Catalog.find?_map s.contents.types s.entryOf (fun _ => rfl) t

theorem definition_entries (s : Snapshot) (t : TypeId) :
    ((PlacementTable.build s).entries.find? t).map (·.definition) = s.type? t := by
  rw [find?_entries, Option.map_map]
  exact Option.map_id_apply

/-- **A lookup in the table** finds the most specific of the parent's rules that accept the child:
effective rules differ by their keys. -/
theorem findSome?_rule? (s : Snapshot) (d : TypeDefinition) (child : TypeId) (name : Value) :
    (probeKeys child name).findSome? (s.entryOf d).rule? =
      mostSpecific? d.effective.children child.family child.subtype name :=
  findSome?_probeKeys (nodup_distinctFrom _ _ _)

/-- **The constraints kept for a stored parent** stand in the way where some constraint does. -/
theorem firstDenial_entryOf (s : Snapshot) {d : TypeDefinition} (hp : c.parent = d.id)
    (hl : c.parentLineage = d.lineage) (h : ∀ k ∈ s.contents.placement, k.Answers) :
    firstDenial c (s.entryOf d).constraints =
      .ok (s.contents.placement.find? (·.forbids c)) := by
  rw [← firstDenial_eq_find? fun k hk => (h k hk).answersAt c]
  exact firstDenial_coversParent hp hl _

/-- **The table decides as the scan does**, and the rule that governs is the one that the parent
itself names for the child. Functions of constraints are assumed to give answers. -/
theorem evaluate_eq_scan (s : Snapshot) (parent child : TypeId) (name : Option String)
    (h : ∀ k ∈ s.contents.placement, k.Answers) :
    (PlacementTable.build s).evaluate parent child (givenName name) =
        .ok (s.scan parent child (givenName name)) ∧
      ∀ d, s.type? parent = some d →
        d.childRule? ⟨child.family, child.subtype, givenName name⟩ =
          mostSpecific? d.effective.children child.family child.subtype (givenName name) := by
  refine ⟨?_, fun d _ => governing?_eq_mostSpecific? _ _ _ _⟩
  rw [PlacementTable.evaluate, Snapshot.scan, definition_entries, find?_entries]
  cases hd : s.type? parent with
  | none => rfl
  | some d =>
    obtain rfl : d.id = parent := (Catalog.find?_eq_some_iff.1 hd).2
    simp only [Option.map_some, asKey_givenName, bind, Except.bind, findSome?_rule?]
    cases mostSpecific? d.effective.children child.family child.subtype (givenName name) with
    | none => rfl
    | some rule =>
      -- whether the child is stored shows in its parent rules and in its lineage
      cases hchild : s.type? child with
      | none =>
        simp only [Snapshot.refusesParent, Snapshot.placementOf, hchild, Option.any_none,
          Option.map_none, Option.getD_none, Snapshot.entryOf_definition, List.isEmpty_nil,
          Bool.not_true, Bool.false_and, Bool.false_eq_true, if_false]
        rw [firstDenial_entryOf s ?_ ?_ h]
        · generalize s.contents.placement.find? _ = k
          cases k <;> rfl
        · rfl
        · rfl
      | some d' =>
        simp only [Snapshot.refusesParent, Snapshot.placementOf, hchild, Option.any_some,
          Option.map_some, Option.getD_some, Snapshot.entryOf_definition, List.not_any_eq_all_not]
        split
        · rfl
        · rw [firstDenial_entryOf s ?_ ?_ h]
          · generalize s.contents.placement.find? _ = k
            cases k <;> rfl
          · rfl
          · rfl

/-- A folder that accepts every child, files, and one child by its name; of two constraints the
first one is about views. -/
def shelf : Snapshot where
  contents :=
    { types := Catalog.empty.insert
        { id := ⟨"file", "folder"⟩, children := [{}, { family := "file" }, { name := "index" }] }
      placement :=
        [{ id := "no-views", check := fun _ => pure false, parent := { family := "view" } },
          { id := "no-index", description := "the index is generated"
            check := fun c => pure (c.childName != .str "index") }] }

theorem evaluate_eq_scan_index :
    (∀ k ∈ shelf.contents.placement, k.Answers) ∧
      (PlacementTable.build shelf).evaluate ⟨"file", "folder"⟩ ⟨"file", "text"⟩ (.str "index") =
        .ok { allowed := false, rule := some { name := "index" }
              constraint := some "no-index", reason := "the index is generated" } := by
  have h : ∀ k ∈ shelf.contents.placement, k.Answers := by
    intro k hk
    rcases List.mem_cons.1 hk with rfl | hk
    · exact ⟨fun _ => ⟨false, rfl⟩, by rintro f ⟨⟩⟩
    · obtain rfl := List.mem_singleton.1 hk
      exact ⟨fun c => ⟨c.childName != .str "index", rfl⟩, by rintro f ⟨⟩⟩
  refine ⟨h, (evaluate_eq_scan shelf _ _ (some "index") h).1.trans (congrArg _ ?_)⟩
  decide +kernel

end Taxonomy

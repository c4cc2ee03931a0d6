import Taxonomy.Proofs.Placement.Governing
import Taxonomy.Proofs.Placement.Ruling
import Taxonomy.Proofs.TypeId.Order

/-!
# What may stand where

The types that may stand under a parent are listed without a look at names: the names that a child
rule leaves open are held against the names that a parent rule expects. This is enough, since a rule
leaves open either every name or one.

* `namesMeet_iff`: two patterns of names meet exactly if some name is covered by both.
* `TypeDefinition.Admits`: what the rules of two types say on a placement, by its definition.
* `admitsSomeName_iff`: the listing looks for a name under which the rules admit the placement.
* `children_are_listed`: the listings of a registry, in every reachable state.
-/

namespace Taxonomy

open Registry

variable {s : Snapshot} {parent child : TypeId} {P d : TypeDefinition} {name : Value}

/-! ## Names -/

/-- **Two patterns of names meet exactly if some name is covered by both.** -/
theorem namesMeet_iff {a b : String} :
    namesMeet a b = true ↔
      ∃ name : Option String, covers a (givenName name) = true ∧
        covers b (givenName name) = true := by
  simp only [namesMeet, Bool.or_eq_true, beq_iff_eq]
  constructor
  · intro h
    -- the name is the one that a pattern stands for; both may stand for every name
    refine ⟨some (if a = wildcard then b else a), ?_⟩
    simp only [givenName, covers_str, Bool.or_eq_true, beq_iff_eq]
    split
    · next ha => exact ⟨.inl ha, .inr rfl⟩
    · next ha =>
      rcases h with (h | h) | h
      · exact absurd h ha
      · exact ⟨.inr rfl, .inl h⟩
      · exact ⟨.inr rfl, .inr h⟩
  · rintro ⟨name, ha, hb⟩
    simp only [covers, Bool.or_eq_true, beq_iff_eq] at ha hb
    rcases ha with ha | ha
    · exact .inl (.inl ha)
    · rcases hb with hb | hb
      · exact .inl (.inr hb)
      · exact .inr (Value.str.inj (ha.symm.trans hb))

/-- A pattern of names covers some name. -/
theorem exists_covers (a : String) : ∃ name : Option String, covers a (givenName name) = true :=
  ⟨some a, by simp [givenName]⟩

/-! ## Rules of two types -/

/-- **The rules of two types admit a placement** under a name: the parent has a rule that accepts
the child, and of the parents that the child names, if it names any, this is one. -/
structure TypeDefinition.Admits (P d : TypeDefinition) (name : Value) : Prop where
  accepts : ∃ r ∈ P.effective.children, r.accepts d.id.family d.id.subtype name = true
  admits : d.effective.parents ≠ [] → ∃ q ∈ d.effective.parents, q.admits P.id name = true

/-- **The listing looks for a name under which the rules admit the placement.** -/
theorem admitsSomeName_iff (s : Snapshot) (P d : TypeDefinition) :
    PlacementTable.admitsSomeName (s.entryOf P) d = true ↔
      ∃ name : Option String, P.Admits d (givenName name) := by
  have hentry : (s.entryOf P).id = P.id := rfl
  have hrules : (s.entryOf P).rules = P.effective.children := rfl
  simp only [PlacementTable.admitsSomeName, hentry, hrules, Bool.and_eq_true, Bool.or_eq_true,
    Bool.not_eq_true', List.isEmpty_eq_false_iff, List.isEmpty_iff, List.any_eq_true,
    List.mem_filter, List.mem_map]
  constructor
  · rintro ⟨hsome, hparents⟩
    rcases hparents with hnone | ⟨q, ⟨hq, hqp⟩, n, ⟨r, ⟨hr, hrc⟩, rfl⟩, hmeet⟩
    · -- the child names no parents, so any name that the parent accepts will do
      obtain ⟨n, hn⟩ := List.exists_mem_of_ne_nil _ hsome
      obtain ⟨r, hr, rfl⟩ := List.mem_map.1 hn
      obtain ⟨hr, hrc⟩ := List.mem_filter.1 hr
      obtain ⟨name, hname⟩ := exists_covers r.name
      refine ⟨name, ⟨r, hr, ?_⟩, fun h => absurd hnone h⟩
      rw [ChildRule.accepts, hname, Bool.and_true]
      simpa using hrc
    · obtain ⟨name, hqn, hrn⟩ := namesMeet_iff.1 hmeet
      refine ⟨name, ⟨r, hr, ?_⟩, fun _ => ⟨q, hq, ?_⟩⟩
      · rw [ChildRule.accepts, hrn, Bool.and_true]
        simpa using hrc
      · rw [ParentRule.admits, hqp, hqn]
        rfl
  · rintro ⟨name, ⟨r, hr, hacc⟩, hadm⟩
    obtain ⟨hrc, hrn⟩ := Bool.and_eq_true_iff.1 hacc
    have hmem : r ∈ P.effective.children.filter fun r =>
        covers r.family d.id.family && covers r.subtype d.id.subtype :=
      List.mem_filter.2 ⟨hr, hrc⟩
    refine ⟨List.ne_nil_of_mem (List.mem_map_of_mem hmem), ?_⟩
    by_cases hnone : d.effective.parents = []
    · exact .inl hnone
    · obtain ⟨q, hq, hqadm⟩ := hadm hnone
      obtain ⟨hqp, hqn⟩ := Bool.and_eq_true_iff.1 hqadm
      exact .inr ⟨q, ⟨hq, hqp⟩, r.name, ⟨r, ⟨hr, Bool.and_eq_true_iff.1 hrc⟩, rfl⟩,
        namesMeet_iff.2 ⟨name, hqn, hrn⟩⟩

/-- **Some rule governs exactly if some rule accepts the child.** -/
theorem exists_mostSpecific?_iff {rules : List ChildRule} {family subtype : Value} :
    (∃ r, mostSpecific? rules family subtype name = some r) ↔
      ∃ r ∈ rules, r.accepts family subtype name = true := by
  constructor
  · rintro ⟨r, hr⟩
    have hsome := List.find?_some hr
    exact ⟨r, List.mem_of_find?_eq_some hr, (Bool.and_eq_true_iff.1 hsome).1⟩
  · rintro ⟨r, hr, hacc⟩
    rw [← governing?_eq_mostSpecific?]
    exact exists_governing? hr hacc

/-- A stored child refuses a parent if it names parents, and this is none of them. -/
theorem refusesParent_eq_false_iff (hd : s.type? child = some d) (parent : TypeId)
    (name : Value) :
    s.refusesParent child parent name = false ↔
      (d.effective.parents ≠ [] → ∃ q ∈ d.effective.parents, q.admits parent name = true) := by
  rw [Snapshot.refusesParent, hd, Option.any_some, Bool.and_eq_false_iff]
  simp only [Bool.not_eq_false', List.isEmpty_iff, List.all_eq_false, Bool.not_eq_true',
    Bool.not_eq_false]
  exact ⟨fun h hne => h.resolve_left hne, fun h => or_iff_not_imp_left.2 h⟩

/-- **The types of a snapshot leave a placement to the constraints** exactly if their rules admit
it. -/
theorem governed_iff_admits (hP : s.type? parent = some P) (hd : s.type? child = some d)
    (name : Option String) :
    (∃ rule, s.ruling parent child (givenName name) = .ok (.governed P rule)) ↔
      P.Admits d (givenName name) := by
  obtain rfl : P.id = parent := (Catalog.find?_eq_some_iff.1 hP).2
  obtain rfl : d.id = child := (Catalog.find?_eq_some_iff.1 hd).2
  have hadm := refusesParent_eq_false_iff hd P.id (givenName name)
  rw [Snapshot.ruling, hP]
  simp only [asKey_givenName, bind, Except.bind, findSome?_rule?]
  cases hrule : mostSpecific? P.effective.children d.id.family d.id.subtype (givenName name) with
  | none =>
    refine ⟨?_, fun h => ?_⟩
    · rintro ⟨rule, ⟨⟩⟩
    · obtain ⟨r, hr⟩ := exists_mostSpecific?_iff.2 h.accepts
      rw [hrule] at hr
      cases hr
  | some rule =>
    have hacc := exists_mostSpecific?_iff.1 ⟨rule, hrule⟩
    cases hrefuses : s.refusesParent d.id P.id (givenName name) with
    | true =>
      refine ⟨?_, fun h => ?_⟩
      · rintro ⟨rule, ⟨⟩⟩
      · rw [hadm.2 h.admits] at hrefuses
        cases hrefuses
    | false => exact ⟨fun _ => ⟨hacc, hadm.1 hrefuses⟩, fun _ => ⟨rule, rfl⟩⟩

/-! ## Listings of a table -/

theorem sorted_perm (table : PlacementTable) : table.sorted.Perm table.entries.entries :=
  List.mergeSort_perm _ _

/-- **The ids of a table in order**, none of them twice. -/
theorem sorted_before (table : PlacementTable) :
    (table.sorted.map (·.id)).Pairwise TypeId.Before :=
  pairwise_before_mergeSort ParentEntry.id table.entries.nodup

theorem mem_sorted_iff {e : ParentEntry} :
    e ∈ (PlacementTable.build s).sorted ↔ ∃ d ∈ s.types, s.entryOf d = e :=
  (sorted_perm _).mem_iff.trans List.mem_map

/-- The ids of a table are those of the stored types. -/
theorem mem_sorted_ids {t : TypeId} :
    t ∈ (PlacementTable.build s).sorted.map (·.id) ↔ ∃ d, s.type? t = some d := by
  rw [List.mem_map]
  constructor
  · rintro ⟨e, he, rfl⟩
    obtain ⟨d, hd, rfl⟩ := mem_sorted_iff.1 he
    exact ⟨d, Catalog.find?_of_mem hd⟩
  · rintro ⟨d, hd⟩
    obtain ⟨hmem, rfl⟩ := Catalog.find?_eq_some_iff.1 hd
    exact ⟨s.entryOf d, mem_sorted_iff.2 ⟨d, hmem, rfl⟩, rfl⟩

/-- The listed children are in order. -/
theorem validChildren_before (table : PlacementTable) (parent : TypeId) :
    (table.validChildren parent).Pairwise TypeId.Before := by
  rw [PlacementTable.validChildren]
  split
  · exact .nil
  · exact (sorted_before table).sublist (List.filter_sublist.map _)

/-- **The types that are listed under a parent** are the stored ones that the rules admit there
under some name. -/
theorem mem_validChildren_iff (hP : s.type? parent = some P) {t : TypeId} :
    t ∈ (PlacementTable.build s).validChildren parent ↔
      ∃ d, s.type? t = some d ∧ ∃ name : Option String, P.Admits d (givenName name) := by
  rw [PlacementTable.validChildren, find?_entries, hP]
  simp only [Option.map_some, List.mem_map, List.mem_filter, mem_sorted_iff]
  constructor
  · rintro ⟨e, ⟨⟨d, hd, rfl⟩, hadm⟩, rfl⟩
    exact ⟨d, Catalog.find?_of_mem hd, (admitsSomeName_iff s P d).1 hadm⟩
  · rintro ⟨d, hd, hadm⟩
    obtain ⟨hmem, rfl⟩ := Catalog.find?_eq_some_iff.1 hd
    exact ⟨s.entryOf d, ⟨⟨d, hmem, rfl⟩, (admitsSomeName_iff s P d).2 hadm⟩, rfl⟩

/-- The listed parents are in order. -/
theorem validParents_before (table : PlacementTable) (child : TypeId) :
    (table.validParents child).Pairwise TypeId.Before :=
  (sorted_before table).sublist List.filter_sublist

/-- **The parents that are listed for a child** are the stored types under which it is listed. -/
theorem mem_validParents_iff {p : TypeId} :
    p ∈ (PlacementTable.build s).validParents child ↔
      (∃ P, s.type? p = some P) ∧ child ∈ (PlacementTable.build s).validChildren p := by
  rw [PlacementTable.validParents, List.mem_filter, mem_sorted_ids, List.contains_iff_mem]

/-! ## Listings of a registry -/

/-- In a reachable state the children are those of a table that is built anew. -/
theorem outcome_validChildren {r : Registry} (hr : r.Reachable) {ref : TypeRef}
    (hp : ref.resolve = .ok parent) :
    Action.outcome (validChildren ref) r =
      .ok ((PlacementTable.build r.snapshot).validChildren parent) := by
  obtain ⟨r', hr'⟩ := outcome_bind_currentTable hr.kept fun table => do
    return table.validChildren (← ref.resolve)
  refine hr'.trans ?_
  rw [hp]
  rfl

/-- In a reachable state the parents are those of a table that is built anew. -/
theorem outcome_validParents {r : Registry} (hr : r.Reachable) {ref : TypeRef}
    (ht : ref.resolve = .ok child) :
    Action.outcome (validParents ref) r =
      .ok ((PlacementTable.build r.snapshot).validParents child) := by
  obtain ⟨r', hr'⟩ := outcome_bind_currentTable hr.kept fun table =>
    pure (table.validParents child)
  rw [Action.outcome, validParents, run_lift, ht]
  exact hr'

/-- **Listings say what may stand where.** In a registry that some run has led to, take a parent
that is registered. The children that are listed for it are in order, none of them twice, and a
registered type is among them exactly if there is a name, or none, under which the types leave its
placement to the constraints: a rule of the parent governs it, and it does not refuse the parent.
Where no constraint on placements is registered, it is listed exactly if it may stand there under
some name. The parents that are listed for a registered child are in order too, and they are those
for which it is listed. -/
theorem children_are_listed {r : Registry} (hr : r.Reachable) :
    ∃ children : TypeId → List TypeId,
      (∀ ref p, ref.resolve = .ok p → Action.outcome (validChildren ref) r = .ok (children p)) ∧
      (∀ p P, r.snapshot.type? p = some P → (children p).Pairwise TypeId.Before ∧
        ∀ t, t ∈ children p ↔ ∃ d, r.snapshot.type? t = some d ∧ ∃ name : Option String, ∃ rule,
          r.snapshot.ruling p t (givenName name) = .ok (.governed P rule)) ∧
      (r.snapshot.contents.placement = [] →
        ∀ p P t d, r.snapshot.type? p = some P → r.snapshot.type? t = some d →
          (t ∈ children p ↔ ∃ name : Option String, ∃ decision,
            Action.outcome (evaluate p t (givenName name)) r = .ok decision ∧
              decision.allowed = true)) ∧
      ∀ ref t d, ref.resolve = .ok t → r.snapshot.type? t = some d →
        ∃ parents, Action.outcome (validParents ref) r = .ok parents ∧
          parents.Pairwise TypeId.Before ∧
          ∀ p, p ∈ parents ↔ (∃ P, r.snapshot.type? p = some P) ∧ t ∈ children p := by
  have hlisted {p t : TypeId} {P : TypeDefinition} (hP : r.snapshot.type? p = some P) :
      t ∈ (PlacementTable.build r.snapshot).validChildren p ↔
        ∃ d, r.snapshot.type? t = some d ∧ ∃ name : Option String, ∃ rule,
          r.snapshot.ruling p t (givenName name) = .ok (.governed P rule) := by
    rw [mem_validChildren_iff hP]
    exact exists_congr fun d => and_congr_right fun hd =>
      exists_congr fun name => (governed_iff_admits hP hd name).symm
  refine ⟨(PlacementTable.build r.snapshot).validChildren, fun ref p hp => ?_, fun p P hP => ?_,
    fun hnone p P t d hP hd => ?_, fun ref t d ht hd => ?_⟩
  · exact outcome_validChildren hr hp
  · exact ⟨validChildren_before _ p, fun t => hlisted hP⟩
  · rw [hlisted hP]
    constructor
    · rintro ⟨-, -, name, rule, hruling⟩
      refine ⟨name, { allowed := true, rule }, ?_, rfl⟩
      rw [outcome_evaluate hr, evaluate_governed hruling, hnone]
      rfl
    · rintro ⟨name, decision, hout, hallowed⟩
      rw [outcome_evaluate hr] at hout
      obtain ⟨P', rule, hruling⟩ := exists_governed_of_allowed hout hallowed
      obtain rfl := Option.some.inj (hP.symm.trans (type?_of_governed hruling))
      exact ⟨d, hd, name, rule, hruling⟩
  · exact ⟨_, outcome_validParents hr ht, validParents_before _ t, fun p => mem_validParents_iff⟩

/-- A run that registers a shelf with one place for an index, and two kinds of files: one that is an
index on a shelf, and one that is a cover there. -/
def shelfRun : List Operation :=
  [.register (.id ⟨"file", "shelf"⟩) [.acceptChildren "file" "*" "index"] .none,
    .register (.id ⟨"file", "text"⟩) [.acceptParents "file" "shelf" "index"] .none,
    .register (.id ⟨"file", "picture"⟩) [.acceptParents "file" "shelf" "cover"] .none]

/-- What the run leads to. -/
def shelves : Registry := ({ name := "files" } : Registry).run shelfRun

/-- The shelf as it is stored. -/
def shelfType : TypeDefinition where
  id := ⟨"file", "shelf"⟩
  children := [{ family := "file", name := "index" }]

/-- The kind of files that are covers. -/
def pictureType : TypeDefinition where
  id := ⟨"file", "picture"⟩
  parents := [{ family := "file", subtype := "shelf", name := "cover" }]

/-- A text may stand on the shelf as its index, so it is listed, and so is the shelf for it. There
is no name that both the shelf and a picture agree to. -/
theorem children_are_listed_shelf :
    ∃ children parents,
      Action.outcome (validChildren (.id ⟨"file", "shelf"⟩)) shelves = .ok children ∧
      Action.outcome (validParents (.id ⟨"file", "text"⟩)) shelves = .ok parents ∧
      ⟨"file", "text"⟩ ∈ children ∧ ⟨"file", "shelf"⟩ ∈ parents ∧
      ⟨"file", "picture"⟩ ∉ children := by
  have hshelf : shelves.snapshot.type? ⟨"file", "shelf"⟩ = some shelfType := by decide +kernel
  have hpicture : shelves.snapshot.type? ⟨"file", "picture"⟩ = some pictureType := by
    decide +kernel
  obtain ⟨text, htext⟩ : ∃ d, shelves.snapshot.type? ⟨"file", "text"⟩ = some d :=
    Option.isSome_iff_exists.1 (by decide +kernel)
  have hindex : (Action.outcome (evaluate ⟨"file", "shelf"⟩ ⟨"file", "text"⟩ (.str "index"))
      shelves).toOption =
        some { allowed := true, rule := some { family := "file", name := "index" } } := by
    decide +kernel
  have hnever : PlacementTable.admitsSomeName (shelves.snapshot.entryOf shelfType) pictureType =
      false := by decide +kernel
  obtain ⟨children, hchildren, hlisted, hallowed, hparents⟩ :=
    children_are_listed (r := shelves) ⟨"files", shelfRun, rfl⟩
  obtain ⟨parents, hout, -, hparents⟩ := hparents (.id ⟨"file", "text"⟩) _ text rfl htext
  have hmem : ⟨"file", "text"⟩ ∈ children ⟨"file", "shelf"⟩ :=
    (hallowed (by decide +kernel) _ _ _ _ hshelf htext).2
      ⟨some "index", _, ok_of_toOption hindex, rfl⟩
  refine ⟨_, parents, hchildren _ _ rfl, hout, hmem, (hparents _).2 ⟨⟨_, hshelf⟩, hmem⟩,
    fun hin => ?_⟩
  obtain ⟨d, hd, name, hruling⟩ := ((hlisted _ _ hshelf).2 _).1 hin
  obtain rfl := Option.some.inj (hpicture.symm.trans hd)
  have hadm := (admitsSomeName_iff shelves.snapshot shelfType pictureType).2
    ⟨name, (governed_iff_admits hshelf hpicture name).1 hruling⟩
  rw [hnever] at hadm
  cases hadm

end Taxonomy

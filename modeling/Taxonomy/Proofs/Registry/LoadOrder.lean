import Taxonomy.Proofs.Registry.Loading
import Taxonomy.Proofs.Registry.Resolution

/-!
# The order of loading

What a registry holds in the end does not depend on the order in which modules declare their types
and extend those of others.

* `Loads`: a run that asks for declarations, each once, and for the extensions of each type in
  order, and takes nothing out.
* `registration_of_loads`: the registrations after such a run.
* `load_order`: two such runs that end with resolving lead to the same types.
-/

namespace Taxonomy

open Registry

/-- **A run that loads declarations and extensions**: each declaration once, the extensions of
each type in order and after it is registered. Nothing is taken out. -/
structure Loads (ds : List Declaration) (exts : TypeId → List Extension) (r : Registry)
    (ops : List Operation) : Prop where
  declarations : (declarationsIn (r.requests ops)).Perm ds
  extensions : ∀ t, extensionsIn t (r.requests ops) = exts t
  orderly : Orderly [] (r.requests ops)
  keeps : ∀ op ∈ ops, op.takesOut = false

/-- Declarations under distinct ids are found whatever their order. -/
theorem find?_perm {ds ds' : List Declaration} (hp : ds.Perm ds') (hn : (ds.map (·.id)).Nodup)
    (t : TypeId) : ds.find? (·.id == t) = ds'.find? (·.id == t) := by
  have hn' : (ds'.map (·.id)).Nodup := (hp.map _).nodup_iff.1 hn
  have hiff : ∀ d, (⟨ds, hn⟩ : Catalog Declaration.id).find? t = some d ↔
      (⟨ds', hn'⟩ : Catalog Declaration.id).find? t = some d := by
    intro d
    rw [Catalog.find?_eq_some_iff, Catalog.find?_eq_some_iff, hp.mem_iff]
  exact Option.ext hiff

variable {ds : List Declaration} {exts : TypeId → List Extension} {ops : List Operation}

theorem run_append (r : Registry) (ops : List Operation) (op : Operation) :
    r.run (ops ++ [op]) = (r.run ops).perform op := by
  rw [run, List.foldl_append]
  rfl

theorem requests_append (r : Registry) (ops : List Operation) (op : Operation) :
    r.requests (ops ++ [op]) = r.requests ops ++ ((r.run ops).request op).toList := by
  induction ops generalizing r with
  | nil => exact List.append_nil _
  | cons op' ops ih =>
    rw [List.cons_append, requests, requests, ih, List.append_assoc]
    rfl

/-- Resolving asks for nothing. -/
theorem Loads.resolve {r : Registry} (h : Loads ds exts r ops) :
    Loads ds exts r (ops ++ [.resolveDeferred]) := by
  have hsame : r.requests (ops ++ [.resolveDeferred]) = r.requests ops := by
    rw [requests_append]
    exact List.append_nil _
  constructor
  · rw [hsame]
    exact h.declarations
  · rw [hsame]
    exact h.extensions
  · rw [hsame]
    exact h.orderly
  · intro op hm
    rcases List.mem_append.1 hm with hm | hm
    · exact h.keeps op hm
    · rw [List.mem_singleton.1 hm, Operation.takesOut]

/-- **What is loaded decides the registrations.** -/
theorem registration_of_loads {name : String} (h : Loads ds exts { name } ops) (t : TypeId) :
    (({ name } : Registry).run ops).snapshot.contents.registrations.find? t =
      (ds.find? (·.id == t)).map fun d => ⟨d, (exts t).filter (!·.isEmpty)⟩ := by
  obtain ⟨hreq, hkeep⟩ := history_of_orderly (r := { name }) .start
    (fun _ hm => absurd hm List.not_mem_nil) rfl h.keeps h.orderly
  have hl := loaded_of_reached (reached_run name ops) hkeep
  have hperm := h.declarations
  rw [← hreq, declarationsIn_filter] at hperm
  rw [hl.registered, find?_perm hperm hl.distinct, ← h.extensions, ← hreq, extensionsIn_filter]

/-- **Registrations decide the settled types.** -/
theorem types_of_registrations {c c' : Contents} (hs : c.Sound) (hs' : c'.Sound)
    (hset : IsSettled c.types) (hset' : IsSettled c'.types)
    (h : ∀ t, c.registrations.find? t = c'.registrations.find? t) (t : TypeId) :
    c.types.find? t = c'.types.find? t := by
  have hdecl : ∀ q, c.types.declaration? q = c'.types.declaration? q := by
    intro q
    rw [hs.declaration?_eq, hs'.declaration?_eq, h]
  cases hreg : c.registrations.find? t with
  | none =>
    rw [hs.find?_eq_none_iff.2 hreg, hs'.find?_eq_none_iff.2 (by rw [← h, hreg])]
  | some reg =>
    obtain ⟨s, hd⟩ := hs.exists_definition hreg
    obtain ⟨s', hd'⟩ := hs'.exists_definition (by rw [← h, hreg])
    have hst : s = s' := by
      have hsame : settledStanding c.types (reg.define s).toDeclaration =
          settledStanding c'.types (reg.define s').toDeclaration :=
        settledStanding_congr fun q _ => hdecl q
      have h₁ := hset _ (Catalog.mem_of_find? hd)
      have h₂ := hset' _ (Catalog.mem_of_find? hd')
      exact h₁.trans (hsame.trans h₂.symm)
    rw [hd, hd', hst]

/-- Just the declared types are stored. -/
theorem exists_type_iff {c : Contents} {f : Declaration → Registration} {t : TypeId}
    (hs : c.Sound) (h : c.registrations.find? t = (ds.find? (·.id == t)).map f) :
    (∃ d, c.types.find? t = some d) ↔ ∃ d ∈ ds, d.id = t := by
  constructor
  · rintro ⟨d, hd⟩
    obtain ⟨reg, hreg, -⟩ := hs.exists_registration hd
    rw [h] at hreg
    obtain ⟨a, ha, -⟩ := Option.map_eq_some_iff.1 hreg
    exact ⟨a, List.mem_of_find?_eq_some ha, by simpa using List.find?_some ha⟩
  · rintro ⟨d, hd, hid⟩
    cases hf : c.types.find? t with
    | some a => exact ⟨a, rfl⟩
    | none =>
      have hnone := hs.find?_eq_none_iff.1 hf
      rw [h, Option.map_eq_none_iff, List.find?_eq_none] at hnone
      exact absurd (beq_iff_eq.2 hid) (hnone d hd)

/-- **The order of loading does not matter.** Two runs of new registries that load the same
declarations, and for each type the same extensions in the same order, and that end with resolving,
lead to the same definition of every type; and what is stored then is just what was declared. -/
theorem load_order {ops' : List Operation} {name name' : String}
    (h : Loads ds exts { name } ops) (h' : Loads ds exts { name := name' } ops') (t : TypeId) :
    (({ name } : Registry).run (ops ++ [.resolveDeferred])).snapshot.type? t =
        (({ name := name' } : Registry).run (ops' ++ [.resolveDeferred])).snapshot.type? t ∧
      ((∃ d, (({ name } : Registry).run (ops ++ [.resolveDeferred])).snapshot.type? t = some d) ↔
        ∃ d ∈ ds, d.id = t) := by
  have hregs := registration_of_loads h.resolve
  have hregs' := registration_of_loads h'.resolve
  have hsound : (({ name } : Registry).run ops).snapshot.contents.Sound :=
    Reachable.sound ⟨name, ops, rfl⟩
  have hsound' : (({ name := name' } : Registry).run ops').snapshot.contents.Sound :=
    Reachable.sound ⟨name', ops', rfl⟩
  rw [run_append] at hregs hregs' ⊢
  rw [run_append]
  obtain ⟨hs, hset⟩ := settled_after hsound
  obtain ⟨hs', hset'⟩ := settled_after hsound'
  exact ⟨types_of_registrations hs hs' hset hset' (fun q => (hregs q).trans (hregs' q).symm) t,
    exists_type_iff hs (hregs t)⟩

/-- A type without a parent, and one below it. -/
def baseDeclared : Declaration := { id := ⟨"file", "base"⟩ }

def folderDeclared : Declaration := { id := ⟨"file", "folder"⟩, parent := some ⟨"file", "base"⟩ }

/-- A rule for the children of the base type, as a scope adds it. -/
def baseExtension (scope family : String) : Extension :=
  { children := [{ family }], scope := some scope }

/-- The extensions of each type: two scopes extend the base type. -/
def baseExtensions (t : TypeId) : List Extension :=
  if baseDeclared.id = t then [baseExtension "plugin" "file", baseExtension "theme" "note"] else []

/-- A commit of such a rule. -/
def extendBase (scope family : String) : Operation :=
  .commit { existing := { id := ⟨"file", "base"⟩ }, rules := (baseExtension scope family).toRules }
    (.value scope)

/-- Two types and two extensions, the types first and the parent last. -/
def typesFirst : List Operation :=
  [.register (.id ⟨"file", "folder"⟩) [.inherit (.id ⟨"file", "base"⟩)] .none,
    .register (.id ⟨"file", "base"⟩) [] .none,
    extendBase "plugin" "file", extendBase "theme" "note"]

/-- The same types and extensions, the parent first and the child in between. -/
def childBetween : List Operation :=
  [.register (.id ⟨"file", "base"⟩) [] .none,
    extendBase "plugin" "file",
    .register (.id ⟨"file", "folder"⟩) [.inherit (.id ⟨"file", "base"⟩)] .none,
    .resolveDeferred,
    extendBase "theme" "note"]

theorem load_order_folder :
    (({ name := "files" } : Registry).run (typesFirst ++ [.resolveDeferred])).snapshot.type?
          ⟨"file", "folder"⟩ =
        (({ name := "files" } : Registry).run (childBetween ++ [.resolveDeferred])).snapshot.type?
          ⟨"file", "folder"⟩ ∧
      ∃ d, (({ name := "files" } : Registry).run
        (typesFirst ++ [.resolveDeferred])).snapshot.type? ⟨"file", "folder"⟩ = some d := by
  have h₁ : requests { name := "files" } typesFirst =
      [.registered folderDeclared, .registered baseDeclared,
        .extended baseDeclared.id (baseExtension "plugin" "file"),
        .extended baseDeclared.id (baseExtension "theme" "note")] := by
    with_unfolding_all rfl
  have h₂ : requests { name := "files" } childBetween =
      [.registered baseDeclared, .extended baseDeclared.id (baseExtension "plugin" "file"),
        .registered folderDeclared, .extended baseDeclared.id (baseExtension "theme" "note")] := by
    with_unfolding_all rfl
  have hne : folderDeclared.id ≠ baseDeclared.id := by decide
  have hl₁ : Loads [folderDeclared, baseDeclared] baseExtensions { name := "files" }
      typesFirst := by
    refine ⟨?_, fun t => ?_, ?_, by decide⟩
    · rw [h₁]
      exact .refl _
    · rw [h₁]
      by_cases ht : baseDeclared.id = t <;> simp [extensionsIn, baseExtensions, ht]
    · rw [h₁]
      simp [Orderly, hne]
  have hl₂ : Loads [folderDeclared, baseDeclared] baseExtensions { name := "files" }
      childBetween := by
    refine ⟨?_, fun t => ?_, ?_, by decide⟩
    · rw [h₂]
      exact .swap _ _ _
    · rw [h₂]
      by_cases ht : baseDeclared.id = t <;> simp [extensionsIn, baseExtensions, ht]
    · rw [h₂]
      simp [Orderly, hne.symm]
  obtain ⟨hsame, hstored⟩ := load_order hl₁ hl₂ ⟨"file", "folder"⟩
  exact ⟨hsame, hstored.2 ⟨folderDeclared, List.mem_cons_self, rfl⟩⟩

end Taxonomy

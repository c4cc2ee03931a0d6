import Taxonomy.Proofs.Registry.Marking
import Taxonomy.Proofs.Registry.Resolution
import Taxonomy.Proofs.Registry.Steady

/-!
# What survives a release

A release takes the types of a scope out and builds the others up anew. Those may have lost an
ancestor, or the type that closed their circle. Where they stand afterwards is decided by where they
stood before and by who survives.

* `Contents.Survives`: a type that does not belong to the scope.
* `exists_before`, `exists_survivor`: survivors are left, with the parents that they had.
* `standsAfter_release`: where a survivor stands.
* `release_decides`: a release from any reachable state, and a second one.
-/

namespace Taxonomy

open Registry Relation TypeCatalog

/-- **A type survives the release of a scope** when it was not registered for it. -/
def Contents.Survives (c : Contents) (s : Value) (t : TypeId) : Prop :=
  ∃ reg, c.registrations.find? t = some reg ∧ reg.declaration.scope ≠ some s

theorem survives_iff (c : Contents) (s : Value) (t : TypeId) :
    c.Survives s t ↔ (c.registrations.find? t).any (·.declaration.scope != some s) = true := by
  simp only [Contents.Survives, Option.any_eq_true, bne_iff_ne]

instance (c : Contents) (s : Value) (t : TypeId) : Decidable (c.Survives s t) :=
  decidable_of_iff _ (survives_iff c s t).symm

/-- **The declared parents of a type lead into a loop.** -/
def Contents.Revisits (c : Contents) (t : TypeId) : Prop :=
  ∃ u, ReflTransGen c.DeclaresParent t u ∧ TransGen c.DeclaresParent u u

/-- **Where a survivor stands after a release**: it is resolved if it was and kept its ancestors,
cyclic if its parents lead into a loop, and otherwise it waits, whatever its chain is like. -/
structure StandsAfter (c : Contents) (s : Value) (c' : Contents) (t : TypeId)
    (d d' : TypeDefinition) : Prop where
  resolved : d'.isResolved = true ↔ d.isResolved = true ∧ ∀ u ∈ d.ancestors, c.Survives s u
  cyclic : d'.standing = .cyclic ↔ c'.Revisits t
  deferred : d.isResolved = false → ¬ c'.Revisits t → d'.standing = .deferred

variable {c : Contents} {s : Value} {t u : TypeId} {d d' : TypeDefinition} {a : Declaration}
  {r : Registry}

/-! ## Survivors and their parents -/

/-- What is declared about a type that is left. -/
theorem declaration?_without (c : Contents) (s : Value) (t : TypeId) :
    (defined (c.registrationsWithout s)).declaration? t =
      ((c.registrations.find? t).filter (·.declaration.scope != some s)).map fun reg =>
        ((reg.without s).define .deferred).toDeclaration := by
  rw [TypeCatalog.declaration?, find?_defined, find?_registrationsWithout, Option.map_map,
    Option.map_map]
  rfl

/-- Survivors are the types whose registrations are left. -/
theorem survives_iff_left (c : Contents) (s : Value) (t : TypeId) :
    c.Survives s t ↔
      ∃ reg, (c.registrations.find? t).filter (·.declaration.scope != some s) = some reg := by
  simp only [Contents.Survives, Option.filter_eq_some_iff, bne_iff_ne]

/-- A type that is left is a survivor, and had the same parent before. -/
theorem exists_before (hs : c.Sound)
    (ha : (defined (c.registrationsWithout s)).declaration? t = some a) :
    c.Survives s t ∧ ∃ b, c.types.declaration? t = some b ∧ b.parent = a.parent := by
  rw [declaration?_without] at ha
  obtain ⟨reg, hleft, rfl⟩ := Option.map_eq_some_iff.1 ha
  have hreg := (Option.filter_eq_some_iff.1 hleft).1
  refine ⟨(survives_iff_left c s t).2 ⟨reg, hleft⟩, (reg.define .deferred).toDeclaration, ?_, ?_⟩
  · rw [hs.declaration?_eq, hreg, Option.map_some]
  · rw [define_parent, define_parent]; rfl

/-- A survivor is left, with the parent that it had. -/
theorem exists_survivor (hs : c.Sound) (h : c.Survives s t)
    (ha : c.types.declaration? t = some a) :
    ∃ b, (defined (c.registrationsWithout s)).declaration? t = some b ∧ b.parent = a.parent := by
  obtain ⟨reg, hleft⟩ := (survives_iff_left c s t).1 h
  rw [hs.declaration?_eq, (Option.filter_eq_some_iff.1 hleft).1] at ha
  obtain rfl := Option.some.inj ha
  refine ⟨((reg.without s).define .deferred).toDeclaration, ?_, ?_⟩
  · rw [declaration?_without, hleft, Option.map_some]
  · rw [define_parent, define_parent]; rfl

/-- Exactly the survivors are left. -/
theorem exists_left_iff (c : Contents) (s : Value) (t : TypeId) :
    (∃ a, (defined (c.registrationsWithout s)).find? t = some a) ↔ c.Survives s t := by
  rw [survives_iff_left, find?_defined, find?_registrationsWithout, ← Option.isSome_iff_exists,
    ← Option.isSome_iff_exists, Option.isSome_map, Option.isSome_map]

/-! ## Where survivors stand -/

theorem isHeld_of_type? (h : c.type? t = some d) : c.isHeld t = !d.isResolved := by
  rw [Contents.type?] at h
  rw [Contents.isHeld, h, Option.any_some]

theorem isHeld_of_isResolvedAt (h : c.types.isResolvedAt t = true) : c.isHeld t = false := by
  rw [isResolvedAt, Option.any_eq_true] at h
  obtain ⟨d, hd, hr⟩ := h
  rw [isHeld_of_type? hd, hr]
  rfl

theorem deferred_of_not_cyclic {st : Standing} (h : st.isResolved = false) (hc : st ≠ .cyclic) :
    st = .deferred := by
  cases st with
  | deferred => rfl
  | cyclic => exact absurd rfl hc
  | root => cases h
  | resolved g => cases h

/-- **Who is resolved after a release**: the chain of a survivor is complete and free of types that
are held back exactly if it was resolved and its ancestors survive. -/
theorem resolved_release_iff (hs : c.Sound) (hd : c.type? t = some d) {x : TypeDefinition}
    (hx : (defined (c.registrationsWithout s)).find? t = some x) :
    (rebuiltStanding (defined (c.registrationsWithout s)) c.isHeld x).isResolved = true ↔
      d.isResolved = true ∧ ∀ u ∈ d.ancestors, c.Survives s u := by
  obtain ⟨hmem, rfl⟩ := Catalog.find?_eq_some_iff.1 hd
  obtain ⟨hxm, hid⟩ := Catalog.find?_eq_some_iff.1 hx
  have hxdecl := declaration?_of_mem hxm
  rw [hid] at hxdecl
  obtain ⟨-, b, hb, hpar⟩ := exists_before hs hxdecl
  rw [declaration?_of_mem hmem] at hb
  obtain rfl := Option.some.inj hb
  rw [isResolved_rebuiltStanding_iff fun a ha => unresolved_of_mem_defined ha, hid,
    isHeld_of_type? hd, Bool.not_eq_false']
  constructor
  · rintro ⟨hres, he, -⟩
    -- what is on the chain now was on it before, with the same parents
    have hleft : ∀ a ∈ (defined (c.registrationsWithout s)).chain x.toDeclaration,
        (defined (c.registrationsWithout s)).declaration? a.id = some a := by
      intro a ha
      obtain ⟨y, hy, rfl, -⟩ := exists_above he ha
      exact declaration?_of_mem hy
    obtain ⟨-, hids⟩ := complete_transfer (known_of_mem hmem) hpar he fun a ha =>
      (exists_before hs (hleft a ha)).2
    refine ⟨hres, fun u hu => ?_⟩
    rw [(hs.coherent.heritage_of_resolved hmem hres).1, hids] at hu
    obtain ⟨a, ha, rfl⟩ := List.mem_map.1 hu
    exact (exists_before hs (hleft a ha)).1
  · rintro ⟨hres, hsurv⟩
    have he := hs.coherent.complete_of_resolved hmem hres
    rw [(hs.coherent.heritage_of_resolved hmem hres).1] at hsurv
    obtain ⟨he', hids⟩ := complete_transfer (known_of_mem hxm) hpar.symm he fun a ha => by
      obtain ⟨y, hy, rfl, -⟩ := exists_above he ha
      exact exists_survivor hs (hsurv _ (List.mem_map_of_mem ha)) (declaration?_of_mem hy)
    refine ⟨hres, he', fun b hb => ?_⟩
    -- above a resolved type nobody was held back
    have hin : b.id ∈ (c.types.chain d.toDeclaration).map (·.id) :=
      hids ▸ List.mem_map_of_mem hb
    obtain ⟨a, ha, hab⟩ := List.mem_map.1 hin
    rw [← hab]
    exact isHeld_of_isResolvedAt (hs.coherent.above d hmem hres a ha)

/-- **Where a survivor stands.** -/
theorem standsAfter_release (hs : c.Sound) (htag : c.tagged s ≠ 0) (hd : c.type? t = some d)
    (hd' : ((c.release s).after c).type? t = some d') :
    StandsAfter c s ((c.release s).after c) t d d' := by
  have hs' := sound_released hs s
  have htypes := (release_of_tagged htag).2.2
  have hd₀ := hd'
  rw [Contents.type?, htypes, rebuilt_eq, find?_restand] at hd₀
  obtain ⟨x, hx, rfl⟩ := Option.map_eq_some_iff.1 hd₀
  obtain ⟨hmem, hid⟩ := Catalog.find?_eq_some_iff.1 hd'
  have hdecl := declaration?_of_mem hmem
  rw [hid] at hdecl
  -- the walk that decided it is the walk among the types that are there afterwards
  have hcyclic : rebuiltStanding (defined (c.registrationsWithout s)) c.isHeld x = .cyclic ↔
      ((c.release s).after c).Revisits t := by
    rw [Contents.Revisits, ← hs'.childOf_eq, ← ending_cycle_iff hdecl, htypes,
      rebuilt_eq, ending_restand]
    exact rebuiltStanding_eq_cyclic_iff
  have hresolved := resolved_release_iff hs hd hx
  refine ⟨hresolved, hcyclic, fun hu hfree => ?_⟩
  -- what was not resolved is not resolved now
  refine deferred_of_not_cyclic ?_ fun h => hfree (hcyclic.1 h)
  by_contra hr
  have hres := (hresolved.1 (by simpa using hr)).1
  rw [hu] at hres
  cases hres

/-! ## The release -/

/-- **Exactly the survivors are stored after a release.** -/
theorem exists_type?_release_iff (htag : c.tagged s ≠ 0) :
    (∃ d', ((c.release s).after c).type? t = some d') ↔ c.Survives s t := by
  rw [← exists_left_iff, Contents.type?, (release_of_tagged htag).2.2, rebuilt_eq, find?_restand,
    ← Option.isSome_iff_exists, ← Option.isSome_iff_exists, Option.isSome_map]

theorem result_release (c : Contents) (s : Value) : (c.release s).result = c.tagged s := by
  by_cases h : c.tagged s = 0
  · rw [release_of_untagged h, h]
  · exact (release_of_tagged h).1

/-- **What a release comes to** where no scope is queued. -/
theorem run_releaseScope_of_idle (hidle : r.released = []) {scope : ScopeRef}
    (hname : scope.name? = some s) :
    (releaseScope scope).run.run r = (.ok (r.releaseNow s).1, (r.releaseNow s).2) := by
  rw [run_releaseScope, hname]
  simp only
  rw [run_change, drain_of_released hidle]
  rfl

/-- **A release decides who is resolved.** From every reachable state in which no scope is queued,
for a scope that something belongs to:

* The result is the number of types, extensions and constraints that belong to the scope, and then
  nothing belongs to it; what does not belong to it is left.
* The survivors stand as they stood before and as their ancestors survive.
* A second release returns zero and changes nothing. -/
theorem release_decides (hr : r.Reachable) (hidle : r.released = []) {scope : ScopeRef}
    (hname : scope.name? = some s) (htag : r.snapshot.contents.tagged s ≠ 0) :
    let c := r.snapshot.contents
    let r' := Action.after (releaseScope scope) r
    let c' := r'.snapshot.contents
    Action.outcome (releaseScope scope) r = .ok (c.tagged s) ∧
    c'.tagged s = 0 ∧ c'.holdings = c.holdings.without s ∧
    (∀ t, (∃ d', c'.type? t = some d') ↔ c.Survives s t) ∧
    (∀ t d d', c.type? t = some d → c'.type? t = some d' → StandsAfter c s c' t d d') ∧
    Action.outcome (releaseScope scope) r' = .ok 0 ∧
    Action.after (releaseScope scope) r' = r' := by
  intro c r' c'
  have hs : c.Sound := hr.sound
  have hrun := run_releaseScope_of_idle hidle hname
  have hcount : Action.outcome (releaseScope scope) r = .ok (c.release s).result :=
    congrArg Prod.fst hrun
  have hr' : r' = r.publish (c.release s) := congrArg Prod.snd hrun
  have hc' : c' = (c.release s).after c := by
    change r'.snapshot.contents = _
    rw [hr', contents_publish]
  have hheld : c'.holdings = c.holdings.without s := hc' ▸ holdings_release c s
  have hnone : c'.tagged s = 0 := untagged_of_holdings hheld
  have hidle' : r'.released = [] := hr' ▸ (released_publish r _).trans hidle
  -- the second release finds nothing
  have hrelease : c'.release s = ⟨0, none⟩ := release_of_untagged hnone
  have hagain : (releaseScope scope).run.run r' = (.ok 0, r') := by
    rw [run_releaseScope_of_idle hidle' hname, releaseNow, hrelease]
    rfl
  have hzero : Action.outcome (releaseScope scope) r' = .ok 0 := by rw [Action.outcome, hagain]
  have hsame : Action.after (releaseScope scope) r' = r' := by rw [Action.after, hagain]
  rw [result_release] at hcount
  refine ⟨hcount, hnone, hheld, fun t => ?_, fun t d d' hd hd' => ?_, hzero, hsame⟩
  · rw [hc']
    exact exists_type?_release_iff htag
  · rw [hc'] at hd' ⊢
    exact standsAfter_release hs htag hd hd'

/-- A run in which a plugin registers the base of a family that is resolved, closes a circle, extends
the base of others and adds a constraint; one type waits although its chain is complete. -/
def sharedRun : List Operation :=
  [.register (.id ⟨"doc", "page"⟩) [.inherit (.id ⟨"doc", "base"⟩)] .none,
    .register (.id ⟨"doc", "base"⟩) [] .none,
    .register (.id ⟨"doc", "sheet"⟩) [.inherit (.id ⟨"doc", "base"⟩)] .none,
    .register (.id ⟨"node", "left"⟩) [.inherit (.id ⟨"node", "right"⟩)] .none,
    .enterScope (.value "plugin"),
    .register (.id ⟨"file", "base"⟩) [] .none,
    .register (.id ⟨"node", "right"⟩) [.inherit (.id ⟨"node", "left"⟩)] .none,
    .commit { existing := { id := ⟨"doc", "base"⟩ }
              rules := { children := [{ family := "note" }] } } .none,
    .addConstraint
      (.constraint (.placement { id := "no-notes", check := fun _ => pure false })) .none,
    .leaveScope,
    .register (.id ⟨"file", "folder"⟩) [.inherit (.id ⟨"file", "base"⟩)] .none]

theorem release_decides_plugin :
    let r := ({ name := "files" } : Registry).run sharedRun
    let r' := Action.after (releaseScope (.value "plugin")) r
    Action.outcome (releaseScope (.value "plugin")) r = .ok 4 ∧
    Action.outcome (releaseScope (.value "plugin")) r' = .ok 0 ∧
    (∃ d d', r.snapshot.contents.type? ⟨"doc", "sheet"⟩ = some d ∧
      r'.snapshot.contents.type? ⟨"doc", "sheet"⟩ = some d' ∧ d'.isResolved = true) ∧
    (∃ d d', r.snapshot.contents.type? ⟨"doc", "page"⟩ = some d ∧
      r'.snapshot.contents.type? ⟨"doc", "page"⟩ = some d' ∧ d'.isResolved = false) ∧
    ∃ d d', r.snapshot.contents.type? ⟨"file", "folder"⟩ = some d ∧ d.isResolved = true ∧
      r'.snapshot.contents.type? ⟨"file", "folder"⟩ = some d' ∧ d'.isResolved = false := by
  intro r r'
  have hr : r.Reachable := ⟨"files", sharedRun, rfl⟩
  have hidle : r.released = [] := by decide +kernel
  have hname : (ScopeRef.value "plugin").name? = some "plugin" := by decide +kernel
  have htag : r.snapshot.contents.tagged "plugin" = 4 := by decide +kernel
  have hsheet : (r.snapshot.contents.type? ⟨"doc", "sheet"⟩).any (fun d => d.isResolved &&
      d.ancestors.all fun u => decide (r.snapshot.contents.Survives "plugin" u)) = true := by
    decide +kernel
  have hpage : (r.snapshot.contents.type? ⟨"doc", "page"⟩).any (!·.isResolved) = true := by
    decide +kernel
  have hfolder : (r.snapshot.contents.type? ⟨"file", "folder"⟩).any (fun d => d.isResolved &&
      d.ancestors.any fun u => decide (¬ r.snapshot.contents.Survives "plugin" u)) = true := by
    decide +kernel
  have hsurvive : ∀ t ∈ [⟨"doc", "sheet"⟩, ⟨"doc", "page"⟩, ⟨"file", "folder"⟩],
      r.snapshot.contents.Survives "plugin" t := by decide +kernel
  -- all else follows from the general statement, without looking at the run again
  clear_value r
  obtain ⟨hfirst, -, -, hleft, hdecided, hsecond, -⟩ :=
    release_decides hr hidle hname (by rw [htag]; decide)
  rw [htag] at hfirst
  refine ⟨hfirst, hsecond, ?_, ?_, ?_⟩
  · obtain ⟨d, hd, h⟩ := (Option.any_eq_true _ _).1 hsheet
    obtain ⟨d', hd'⟩ := (hleft ⟨"doc", "sheet"⟩).2 (hsurvive _ (by decide))
    simp only [Bool.and_eq_true, List.all_eq_true, decide_eq_true_eq] at h
    exact ⟨d, d', hd, hd', (hdecided _ d d' hd hd').resolved.2 h⟩
  · obtain ⟨d, hd, h⟩ := (Option.any_eq_true _ _).1 hpage
    obtain ⟨d', hd'⟩ := (hleft ⟨"doc", "page"⟩).2 (hsurvive _ (by decide))
    refine ⟨d, d', hd, hd', Bool.eq_false_iff.2 fun hres => ?_⟩
    have hwas := ((hdecided _ d d' hd hd').resolved.1 hres).1
    simp [hwas] at h
  · obtain ⟨d, hd, h⟩ := (Option.any_eq_true _ _).1 hfolder
    obtain ⟨d', hd'⟩ := (hleft ⟨"file", "folder"⟩).2 (hsurvive _ (by decide))
    simp only [Bool.and_eq_true, List.any_eq_true, decide_eq_true_eq] at h
    obtain ⟨hwas, u, hu, hgone⟩ := h
    refine ⟨d, d', hd, hwas, hd', Bool.eq_false_iff.2 fun hres => ?_⟩
    exact hgone (((hdecided _ d d' hd hd').resolved.1 hres).2 u hu)

end Taxonomy

import Taxonomy.Proofs.Draft
import Taxonomy.Proofs.Registry.Marking
import Taxonomy.Proofs.Registry.Resolution

/-!
# What changes leave alone

A change writes the types that it is about, and those whose standing or whose inherited rules follow
from them. All other types are left as they are, and so are constraints where types are changed.

* `registerTouches_of_ok`: a registration marks the circle that it closes, and nothing else.
* `commitTouches_of_ok`: a commit reaches the types below, and of them what they inherit.
* `settleTouches_resolveDeferred`: settling reaches the deferred types.
* `changes_spare_others`: all changes, in every reachable state.
-/

namespace Taxonomy

open Registry Relation TypeCatalog

/-- Two types are on one circle of declared parents. -/
def Contents.OnCircle (c : Contents) (t u : TypeId) : Prop :=
  TransGen c.DeclaresParent t u ∧ TransGen c.DeclaresParent u t

/-- **What a registration may touch**: besides the new type itself, the types on a circle with it.
They were not resolved, and are marked; their definitions stay. -/
structure RegisterTouches (c c' : Contents) (t : TypeId) : Prop where
  closed : ∀ u ≠ t, c'.OnCircle t u → ∃ a, c.type? u = some a ∧ a.isResolved = false ∧
    c'.type? u = some { a with standing := .cyclic }
  others : ∀ u ≠ t, ¬ c'.OnCircle t u → c'.type? u = c.type? u

/-- **What a commit may touch**: the extended type, and of the types below it what they inherit. -/
structure CommitTouches (c c' : Contents) (t : TypeId) (e : Extension) : Prop where
  keys : c'.types.keys = c.types.keys
  self : c'.type? t = (c.type? t).map fun a => if e.isEmpty then a else a.extend e
  below : ∀ u a, c.type? u = some a → t ∈ a.ancestors → ∃ h h', a.standing = .resolved h ∧
    c'.type? u = some { a with standing := .resolved h' } ∧ h'.ancestors = h.ancestors
  others : ∀ u a, c.type? u = some a → u ≠ t → t ∉ a.ancestors → c'.type? u = some a

/-- **What settling may touch**: the standings of deferred types. -/
structure SettleTouches (c c' : Contents) : Prop where
  keys : c'.types.keys = c.types.keys
  deferred : ∀ u a, c.type? u = some a → a.standing = .deferred →
    ∃ s, c'.type? u = some { a with standing := s }
  others : ∀ u a, c.type? u = some a → a.standing ≠ .deferred → c'.type? u = some a

/-- **The constraints and their scopes are the same.** -/
structure SameConstraints (c c' : Contents) : Prop where
  placement : c'.placement = c.placement
  validation : c'.validation = c.validation
  scopes : c'.constraintScopes = c.constraintScopes

variable {c c' : Contents} {d : Declaration} {t u : TypeId} {e : Extension} {r : Registry}

theorem SameConstraints.refl (c : Contents) : SameConstraints c c := ⟨rfl, rfl, rfl⟩

/-! ## Registrations -/

section Register

variable {ch : Change TypeDefinition} (h : c.register d = .ok ch)

include h

/-- A type of before, after a registration. -/
theorem type?_register (hu : u ≠ d.id) : (ch.after c).type? u = (c.type? u).map fun a =>
    if a.id ∈ c.closedCycle d then { a with standing := .cyclic } else a := by
  have hid : (resolve d.define c.types).id = d.id := rfl
  rw [Contents.type?, (register_ok h).2, Contents.markCyclic, Catalog.find?_map, withNew,
    Catalog.find?_insert, hid, if_neg (Ne.symm hu)]
  simp only [List.contains_iff_mem]
  rfl

/-- The parents after a registration are those of before, and the one of the new type. -/
theorem parents_register (hs : c.Sound) :
    (ch.after c).DeclaresParent = (withNew c.types d).ChildOf := by
  have hsound : (ch.after c).Sound := step_sound hs (.registered h)
  rw [← hsound.childOf_eq, (register_ok h).2, markCyclic_eq, childOf_restand]

/-- A type on a circle with the new one is marked. -/
theorem mem_closedCycle_of_onCircle (hs : c.Sound) (hcircle : (ch.after c).OnCircle d.id u) :
    u ∈ c.closedCycle d := by
  rw [Contents.OnCircle, parents_register h hs] at hcircle
  obtain ⟨hdown, hup⟩ := hcircle
  exact (mem_closedCycle_iff c d u).2 ⟨hdown.to_reflTransGen, hup.trans hdown⟩

/-- Another type on such a circle was there before. -/
theorem exists_of_onCircle (hs : c.Sound) (hu : u ≠ d.id)
    (hcircle : (ch.after c).OnCircle d.id u) : ∃ a, c.type? u = some a := by
  rw [Contents.OnCircle, parents_register h hs] at hcircle
  -- it has a parent, and who has a parent is stored
  obtain ⟨p, ⟨x, hx, -⟩, -⟩ := TransGen.head'_iff.1 hcircle.2
  rw [declaration?_withNew_of_ne hu] at hx
  obtain ⟨a, ha, -⟩ := Option.map_eq_some_iff.1 hx
  exact ⟨a, ha⟩

/-- **A circle without the new type was there before**, so that its types were marked already. -/
theorem cyclic_of_off_circle (hs : c.Sound) (hm : Marked c.types) {a : TypeDefinition}
    (ha : a ∈ c.types.entries) (hin : a.id ∈ c.closedCycle d) (hne : a.id ≠ d.id)
    (hoff : ¬ (ch.after c).OnCircle d.id a.id) : a.standing = .cyclic := by
  rw [Contents.OnCircle, parents_register h hs] at hoff
  obtain ⟨hdown, hloop⟩ := (mem_closedCycle_iff c d a.id).1 hin
  have hfar : ¬ ReflTransGen (withNew c.types d).ChildOf a.id d.id := by
    intro hup
    refine hoff ⟨?_, ?_⟩
    · exact (reflTransGen_iff_eq_or_transGen.1 hdown).resolve_left hne
    · exact (reflTransGen_iff_eq_or_transGen.1 hup).resolve_left (Ne.symm hne)
  exact hm a ha (path_before_new hloop hfar)

theorem registerTouches_of_ok (hs : c.Sound) (hm : Marked c.types) :
    RegisterTouches c (ch.after c) d.id := by
  have hnew := hs.find?_eq_none_iff.2 (register_ok h).1
  constructor
  · intro u hu hcircle
    have hin := mem_closedCycle_of_onCircle h hs hcircle
    obtain ⟨a, ha⟩ := exists_of_onCircle h hs hu hcircle
    obtain ⟨hmem, rfl⟩ := Catalog.find?_eq_some_iff.1 ha
    -- what is resolved before is on no circle afterwards
    have hunres : a.isResolved = false := by
      by_contra hres
      exact (resolved_withNew hnew hs.coherent hmem (by simpa using hres)).2 hin
    refine ⟨a, ha, hunres, ?_⟩
    rw [type?_register h hu, ha, Option.map_some, if_pos hin]
  · intro u hu hoff
    rw [type?_register h hu]
    cases ha : c.type? u with
    | none => rfl
    | some a =>
      obtain ⟨hmem, rfl⟩ := Catalog.find?_eq_some_iff.1 ha
      rw [Option.map_some]
      by_cases hin : a.id ∈ c.closedCycle d
      · rw [if_pos hin, ← cyclic_of_off_circle h hs hm hmem hin hu hoff]
      · rw [if_neg hin]

end Register

/-! ## Commits -/

/-- A type after a commit. -/
theorem find?_extended (types : TypeCatalog) (t : TypeId) (e : Extension) (u : TypeId) :
    (extended types t e).find? u = (types.find? u).map fun a =>
      { extendIf t e a with
        standing := if a.isResolved then
          settledStanding (extendAt types t e) (extendIf t e a).toDeclaration
          else a.standing } := by
  rw [extended, find?_restand, extendAt, Catalog.find?_map, Option.map_map]
  simp only [Function.comp_def, TypeDefinition.isResolved, extendIf_standing]
  rfl

/-- The extended type stands as before. -/
theorem settledStanding_extend (hc : Coherent c.types) {a : TypeDefinition}
    (ha : a ∈ c.types.entries) (hr : a.isResolved = true) :
    settledStanding (extendAt c.types a.id e) (a.extend e).toDeclaration = a.standing := by
  have hsame : settledStanding (extendAt c.types a.id e) (a.extend e).toDeclaration =
      settledStanding c.types (a.extend e).toDeclaration :=
    settledStanding_congr fun q hq => declaration?_extendAt_of_ne hq
  have hstart : settledStanding c.types (a.extend e).toDeclaration =
      settledStanding c.types a.toDeclaration := settledStanding_start rfl rfl
  rw [hsame, hstart, hc.settled_of_resolved ha hr]

/-- A type below the extended one has the same ancestors as before. -/
theorem exists_heritage_extended (hc : Coherent c.types) {a : TypeDefinition}
    (ha : a ∈ c.types.entries) (ht : t ∈ a.ancestors) :
    ∃ h h', a.standing = .resolved h ∧
      settledStanding (extendAt c.types t e) a.toDeclaration = .resolved h' ∧
      h'.ancestors = h.ancestors := by
  obtain ⟨hr, hne⟩ := resolved_of_mem_ancestors hc ha ht
  have hx : extendIf t e a = a := if_neg (by simpa using hne)
  obtain ⟨he, hch⟩ := resolved_extendAt (t := t) (e := e) hc ha hr
  rw [hx] at he hch
  have hanc := (hc.heritage_of_resolved ha hr).1
  have hchain : c.types.chain a.toDeclaration ≠ [] := by
    intro hnil
    rw [hanc, hnil] at ht
    exact absurd ht List.not_mem_nil
  have hst := hc.settled_of_resolved ha hr
  have hold := hst.trans (settledStanding_eq_resolved_iff.2
    ⟨hc.complete_of_resolved ha hr, hchain, rfl⟩)
  refine ⟨_, heritageOf ((extendAt c.types t e).chain a.toDeclaration), hold, ?_, ?_⟩
  · exact settledStanding_eq_resolved_iff.2 ⟨he, by rw [hch]; simpa using hchain, rfl⟩
  · simp only [heritageOf, hch, List.map_map, Function.comp_def, overlayIf_id]

theorem commitTouches_refl (he : e.isEmpty = true) (hc : Coherent c.types) :
    CommitTouches c c t e where
  keys := rfl
  self := by simp only [he, if_true, Option.map_id']
  below u a ha ht := by
    have hmem : a ∈ c.types.entries := Catalog.mem_of_find? ha
    obtain ⟨h, -, hst, -⟩ := exists_heritage_extended (e := e) hc hmem ht
    exact ⟨h, h, hst, by rw [ha, ← hst], rfl⟩
  others u a ha _ _ := ha

theorem commitTouches_of_ok (hc : Coherent c.types) {ch : Change TypeDefinition}
    (h : c.commit t e = .ok ch) : CommitTouches c (ch.after c) t e := by
  rw [(commit_ok hc h).2]
  split
  · next he => exact commitTouches_refl he hc
  next he =>
  have hfind := find?_extended c.types t e
  constructor
  · exact (keys_restand).trans (Catalog.keys_map _ _ _)
  · -- the extended type itself inherits what it did
    rw [Contents.type?, hfind, Contents.type?]
    refine Option.map_congr fun a ha => ?_
    obtain ⟨hmem, rfl⟩ := Catalog.find?_eq_some_iff.1 ha
    have hx : extendIf a.id e a = a.extend e := if_pos (by simp)
    rw [if_neg he, hx]
    by_cases hr : a.isResolved = true
    · rw [if_pos hr, settledStanding_extend hc hmem hr]; rfl
    · rw [if_neg hr]; rfl
  · -- what is below it is looked up anew, along the same chain
    intro u a ha ht
    rw [Contents.type?] at ha ⊢
    have hmem := Catalog.mem_of_find? ha
    obtain ⟨hr, hne⟩ := resolved_of_mem_ancestors hc hmem ht
    have hx : extendIf t e a = a := if_neg (by simpa using hne)
    obtain ⟨g, g', hg, hg', hanc⟩ := exists_heritage_extended (e := e) hc hmem ht
    refine ⟨g, g', hg, ?_, hanc⟩
    rw [hfind, ha, Option.map_some, hx, if_pos hr, hg']
  · -- all others have a chain without it, which comes to what it came to
    intro u a ha hne ht
    rw [Contents.type?] at ha ⊢
    obtain ⟨hmem, rfl⟩ := Catalog.find?_eq_some_iff.1 ha
    have hx : extendIf t e a = a := if_neg (by simpa using hne)
    rw [hfind, ha, Option.map_some, hx]
    by_cases hr : a.isResolved = true
    · rw [if_pos hr, settledStanding_extendAt hc hmem hr ht hne]
    · rw [if_neg hr]

/-! ## Settling -/

theorem settleTouches_resolveDeferred (hc : Coherent c.types) :
    SettleTouches c (c.resolveDeferred.after c) := by
  rw [after_resolveDeferred hc]
  have hfind (u : TypeId) (a : TypeDefinition) (ha : c.type? u = some a) :
      (c.types.restand fun a => settledStanding c.types a.toDeclaration).find? u =
        some { a with standing := settledStanding c.types a.toDeclaration } := by
    rw [Contents.type?] at ha
    rw [find?_restand, ha, Option.map_some]
  refine ⟨keys_restand, fun u a ha _ => ⟨_, hfind u a ha⟩, fun u a ha hst => ?_⟩
  have hmem : a ∈ c.types.entries := Catalog.mem_of_find? ha
  have hsame := (hc.standing a hmem).resolve_right fun hd => hst hd.1
  rw [Contents.type?, hfind u a ha, ← hsame]

/-! ## Changes of a registry -/

/-- **A change that is granted**, where no scope is queued. -/
theorem change_ok_of_idle {α : Type} {f : Contents → Result (Change α)} {x : α}
    (hidle : r.released = []) (h : Action.outcome (change f) r = .ok x) :
    ∃ ch, f r.snapshot.contents = .ok ch ∧ ch.result = x ∧
      (Action.after (change f) r).snapshot.contents = ch.after r.snapshot.contents := by
  rw [Action.outcome, run_change, drain_of_released hidle] at h
  rw [after_change, drain_of_released hidle]
  cases hf : f r.snapshot.contents with
  | error e =>
    rw [hf] at h
    cases h
  | ok ch =>
    rw [hf] at h
    exact ⟨ch, rfl, Except.ok.inj h, rfl⟩

/-- What holds of the contents, and of what a change leads to, holds after the change, be it
granted or refused. -/
theorem contents_change_of_idle {α : Type} {f : Contents → Result (Change α)}
    {P : Contents → Prop} (hidle : r.released = []) (hkeep : P r.snapshot.contents)
    (hmade : ∀ ch, f r.snapshot.contents = .ok ch → P (ch.after r.snapshot.contents)) :
    P (Action.after (change f) r).snapshot.contents := by
  rw [after_change, drain_of_released hidle]
  cases hf : f r.snapshot.contents with
  | error e => exact hkeep
  | ok ch => exact hmade ch hf

theorem result_register {ch : Change TypeDefinition} (h : c.register d = .ok ch) :
    ch.result.id = d.id := by
  rw [Contents.register] at h
  split at h
  · cases h
  · obtain rfl := Except.ok.inj h
    rfl

theorem sameConstraints_register (hidle : r.released = []) (id : TypeRef) (clauses : List Clause)
    (scope : ScopeRef) : SameConstraints r.snapshot.contents
      (Action.after (register id clauses scope) r).snapshot.contents := by
  rw [Action.after, run_register]
  cases r.declared id clauses scope with
  | error f => exact .refl _
  | ok d =>
    refine contents_change_of_idle hidle (.refl _) fun ch hch => ?_
    rw [(register_ok hch).2]
    exact ⟨rfl, rfl, rfl⟩

theorem sameConstraints_commit (hs : r.snapshot.contents.Sound) (hidle : r.released = [])
    (draft : ExtensionDraft) (scope : ScopeRef) : SameConstraints r.snapshot.contents
      (Action.after (commit draft scope) r).snapshot.contents := by
  rw [Action.after, run_commit]
  split
  · exact .refl _
  refine contents_change_of_idle hidle (.refl _) fun ch hch => ?_
  rw [(commit_ok hs.coherent hch).2]
  split
  · exact .refl _
  · exact ⟨rfl, rfl, rfl⟩

theorem types_addConstraint (hidle : r.released = []) (k : ConstraintRef) (scope : ScopeRef) :
    (Action.after (addConstraint k scope) r).snapshot.contents.types =
      r.snapshot.contents.types := by
  rw [Action.after, run_addConstraint]
  cases k.resolve with
  | error f => rfl
  | ok k =>
    exact contents_change_of_idle (P := fun c => c.types = r.snapshot.contents.types) hidle rfl
      fun ch hch => (addConstraint_ok hch).1

/-- **Changes spare the others.** In every reachable state in which no scope is queued for release:

* A registration that is granted touches the new type and the circle that it closes.
* A commit that is granted touches the extended type and what the types below it inherit.
* Settling touches the deferred types, and a constraint touches no type, be it added or refused.
* No change of types touches a constraint or the scope of one, be it granted or refused. -/
theorem changes_spare_others (hr : r.Reachable) (hidle : r.released = []) :
    (∀ id clauses scope d, Action.outcome (register id clauses scope) r = .ok d →
      RegisterTouches r.snapshot.contents
        (Action.after (register id clauses scope) r).snapshot.contents d.id) ∧
    (∀ draft scope d, Action.outcome (commit draft scope) r = .ok d →
      CommitTouches r.snapshot.contents
        (Action.after (commit draft scope) r).snapshot.contents draft.existing.id
        (draft.build (r.effectiveScope scope))) ∧
    SettleTouches r.snapshot.contents (Action.after resolveDeferred r).snapshot.contents ∧
    (∀ k scope, (Action.after (addConstraint k scope) r).snapshot.contents.types =
      r.snapshot.contents.types) ∧
    (∀ id clauses scope, SameConstraints r.snapshot.contents
      (Action.after (register id clauses scope) r).snapshot.contents) ∧
    (∀ draft scope, SameConstraints r.snapshot.contents
      (Action.after (commit draft scope) r).snapshot.contents) ∧
    SameConstraints r.snapshot.contents
      (Action.after resolveDeferred r).snapshot.contents := by
  have hs := hr.sound
  have hsettled := contents_resolveDeferred hs
  rw [drain_of_released hidle] at hsettled
  refine ⟨?_, ?_, ?_, types_addConstraint hidle, sameConstraints_register hidle,
    sameConstraints_commit hs hidle, ?_⟩
  · intro id clauses scope d hd
    rw [Action.outcome, run_register] at hd
    rw [Action.after, run_register]
    cases hdecl : r.declared id clauses scope with
    | error f =>
      rw [hdecl] at hd
      cases hd
    | ok a =>
      rw [hdecl] at hd
      obtain ⟨ch, hch, rfl, hafter⟩ := change_ok_of_idle hidle hd
      rw [result_register hch]
      exact hafter ▸ registerTouches_of_ok hch hs hr.marked
  · intro draft scope d hd
    rw [Action.outcome, run_commit] at hd
    rw [Action.after, run_commit]
    split at hd
    · cases hd
    · next hopen =>
      rw [if_neg hopen]
      obtain ⟨ch, hch, -, hafter⟩ := change_ok_of_idle hidle hd
      exact hafter ▸ commitTouches_of_ok hs.coherent hch
  · rw [hsettled, ← after_resolveDeferred hs.coherent]
    exact settleTouches_resolveDeferred hs.coherent
  · rw [hsettled]
    exact ⟨rfl, rfl, rfl⟩

/-- A run that leaves a type whose parent is missing, a type below it, and a family with a base. -/
def openRun : List Operation :=
  [.register (.id ⟨"node", "left"⟩) [.inherit (.id ⟨"node", "right"⟩)] .none,
    .register (.id ⟨"node", "tail"⟩) [.inherit (.id ⟨"node", "left"⟩)] .none,
    .register (.id ⟨"file", "base"⟩) [] .none,
    .register (.id ⟨"file", "folder"⟩) [.inherit (.id ⟨"file", "base"⟩)] .none]

/-- The missing parent closes a circle with the first type; or the base is extended instead. -/
theorem changes_spare_others_circle :
    let r := ({ name := "nodes" } : Registry).run openRun
    let right := register (.id ⟨"node", "right"⟩) [.inherit (.id ⟨"node", "left"⟩)]
    let child := commit
      { existing := { id := ⟨"file", "base"⟩ }, rules := { children := [{ family := "file" }] } }
    (∃ a, r.snapshot.type? ⟨"node", "left"⟩ = some a ∧ a.isResolved = false ∧
      (Action.after right r).snapshot.type? ⟨"node", "left"⟩ =
        some { a with standing := .cyclic }) ∧
    ∃ a h h', r.snapshot.type? ⟨"file", "folder"⟩ = some a ∧ a.standing = .resolved h ∧
      (Action.after child r).snapshot.type? ⟨"file", "folder"⟩ =
        some { a with standing := .resolved h' } ∧ h'.ancestors = h.ancestors := by
  intro r right child
  obtain ⟨hregister, hcommit, -⟩ := changes_spare_others (r := r) ⟨"nodes", openRun, rfl⟩ rfl
  constructor
  · have hgranted : (Action.outcome right r).toOption.map (·.id) = some ⟨"node", "right"⟩ := by
      decide +kernel
    obtain ⟨d, hd, hid⟩ := Option.map_eq_some_iff.1 hgranted
    have htouches := hregister _ _ _ d (ok_of_toOption hd)
    rw [hid] at htouches
    have hdown : (Action.after right r).snapshot.contents.DeclaresParent ⟨"node", "right"⟩
        ⟨"node", "left"⟩ := by decide +kernel
    have hup : (Action.after right r).snapshot.contents.DeclaresParent ⟨"node", "left"⟩
        ⟨"node", "right"⟩ := by decide +kernel
    exact htouches.closed ⟨"node", "left"⟩ (by decide) ⟨.single hdown, .single hup⟩
  · have hgranted : (Action.outcome child r).toOption.isSome = true := by decide +kernel
    obtain ⟨d, hd⟩ := Option.isSome_iff_exists.1 hgranted
    have hfolder : (r.snapshot.type? ⟨"file", "folder"⟩).any
        (·.ancestors.contains ⟨"file", "base"⟩) = true := by decide +kernel
    obtain ⟨a, ha, hbelow⟩ := (Option.any_eq_true _ _).1 hfolder
    obtain ⟨h, h', hst, hafter, hsame⟩ := (hcommit _ _ d (ok_of_toOption hd)).below
      ⟨"file", "folder"⟩ a ha (List.contains_iff_mem.1 hbelow)
    exact ⟨a, h, h', ha, hst, hafter, hsame⟩

end Taxonomy

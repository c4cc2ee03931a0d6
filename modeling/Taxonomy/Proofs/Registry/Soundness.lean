import Taxonomy.Proofs.Registry.Extending
import Taxonomy.Proofs.Registry.Registering
import Taxonomy.Proofs.Registry.Releasing
import Taxonomy.Proofs.Registry.Resolving

/-!
# Sound contents

The contents of a registry are sound when the stored types are what the registrations amount to and
their standings are coherent. Every change keeps contents sound.

* `Event`, `Step`: what can happen to contents, and what it leads to.
* `Reached`: contents that a series of events leads to.
* `step_sound`, `reached_sound`: one step, and a whole run.
-/

namespace Taxonomy

open TypeCatalog

/-- **What can happen to the contents of a registry.** -/
inductive Event where
  | registered (d : Declaration)
  | extended (t : TypeId) (e : Extension)
  | settled
  | constrained (k : Constraint) (scope : Option Value)
  | released (scope : Value)
  | cleared

/-- **What an event leads to.** An event that is refused leads nowhere. -/
inductive Step (c : Contents) : Event → Contents → Prop where
  | registered {d : Declaration} {ch : Change TypeDefinition} (h : c.register d = .ok ch) :
    Step c (.registered d) (ch.after c)
  | extended {t : TypeId} {e : Extension} {ch : Change TypeDefinition}
    (h : c.commit t e = .ok ch) : Step c (.extended t e) (ch.after c)
  | settled : Step c .settled (c.resolveDeferred.after c)
  | constrained {k : Constraint} {scope : Option Value} {ch : Change Unit}
    (h : c.addConstraint k scope = .ok ch) : Step c (.constrained k scope) (ch.after c)
  | released (scope : Value) : Step c (.released scope) ((c.release scope).after c)
  | cleared : Step c .cleared {}

/-- **Contents that a series of events leads to**, beginning with none. -/
inductive Reached : List Event → Contents → Prop where
  | start : Reached [] {}
  | next {es : List Event} {ev : Event} {c c' : Contents} (h : Reached es c) (hs : Step c ev c') :
    Reached (es ++ [ev]) c'

variable {c c' : Contents} {ev : Event} {es : List Event} {d : Declaration} {t : TypeId}
  {e : Extension}

/-! ## The effect of each change -/

/-- The definitions that registrations amount to, before any ancestors are looked at. -/
def defined (regs : Catalog Registration.id) : TypeCatalog :=
  regs.map (·.define .deferred) fun r => r.define_id _

/-- **A registration that is not refused.** -/
theorem register_ok {ch : Change TypeDefinition} (h : c.register d = .ok ch) :
    c.registrations.find? d.id = none ∧ ch.after c =
      { c with
        types := Contents.markCyclic (withNew c.types d) (c.closedCycle d)
        registrations := c.registrations.insert ⟨d, []⟩ } := by
  rw [Contents.register] at h
  split at h
  · cases h
  · next hn =>
    refine ⟨Catalog.contains_eq_false_iff.1 (by simpa using hn), ?_⟩
    obtain rfl := Except.ok.inj h
    rfl

/-- An id that is not taken is granted. -/
theorem exists_register (h : c.registrations.find? d.id = none) :
    ∃ ch, c.register d = .ok ch := by
  rw [Contents.register, Catalog.contains_eq_false_iff.2 h]
  exact ⟨_, rfl⟩

/-- The registration with an extension added to it. -/
def Registration.extend (r : Registration) (e : Extension) : Registration :=
  { r with extensions := r.extensions ++ [e] }

theorem Registration.extend_id (r : Registration) (e : Extension) : (r.extend e).id = r.id := rfl

/-- The registrations with an extension added to one of them. -/
def addExtension (regs : Catalog Registration.id) (t : TypeId) (e : Extension) :
    Catalog Registration.id :=
  regs.modify t (·.extend e) (Registration.extend_id · e)

/-- **A commit that is not refused.** -/
theorem commit_ok (hc : Coherent c.types) {ch : Change TypeDefinition}
    (h : c.commit t e = .ok ch) :
    (∃ a, c.types.find? t = some a) ∧ ch.after c =
      if e.isEmpty then c
      else { c with
        types := extended c.types t e
        registrations := addExtension c.registrations t e } := by
  rw [Contents.commit] at h
  cases hf : c.types.find? t with
  | none => rw [hf] at h; cases h
  | some a =>
    obtain ⟨ha, rfl⟩ := Catalog.find?_eq_some_iff.1 hf
    refine ⟨⟨a, rfl⟩, ?_⟩
    rw [hf] at h
    simp only at h
    split at h
    · next he =>
      obtain rfl := Except.ok.inj h
      rw [if_pos he]
      rfl
    · next he =>
      obtain rfl := Except.ok.inj h
      rw [if_neg he, ← commit_types hc ha]
      rfl

/-- A commit to a stored type is granted. -/
theorem exists_commit {a : TypeDefinition} (h : c.types.find? t = some a) (e : Extension) :
    ∃ ch, c.commit t e = .ok ch := by
  rw [Contents.commit, h]
  simp only
  split <;> exact ⟨_, rfl⟩

theorem addConstraint_ok {k : Constraint} {scope : Option Value} {ch : Change Unit}
    (h : c.addConstraint k scope = .ok ch) :
    (ch.after c).types = c.types ∧ (ch.after c).registrations = c.registrations := by
  rw [Contents.addConstraint] at h
  split at h
  · cases h
  · obtain rfl := Except.ok.inj h
    cases k <;> exact ⟨rfl, rfl⟩

/-- Is a type stored and not resolved? -/
def Contents.isHeld (c : Contents) (t : TypeId) : Bool :=
  (c.types.find? t).any fun d => !d.isResolved

/-- Nothing belongs to a scope: no type, no extension of one, and no constraint. -/
theorem tagged_eq_zero_iff {scope : Value} : c.tagged scope = 0 ↔
    (∀ x ∈ c.registrations.entries, x.declaration.scope ≠ some scope ∧
      ∀ e ∈ x.extensions, e.scope ≠ some scope) ∧ ∀ k ∈ c.constraintScopes, k.2 ≠ some scope := by
  simp only [Contents.tagged, Nat.add_eq_zero_iff, List.countP_eq_zero, List.mem_flatMap,
    beq_iff_eq, forall_exists_index, and_imp]
  constructor
  · rintro ⟨⟨htypes, hexts⟩, hscopes⟩
    exact ⟨fun x hx => ⟨htypes x hx, fun e he => hexts e x hx he⟩, hscopes⟩
  · rintro ⟨htypes, hscopes⟩
    exact ⟨⟨fun x hx => (htypes x hx).1, fun e x hx he => (htypes x hx).2 e he⟩, hscopes⟩

/-- Where nothing belongs to a scope, nothing is taken out with it. -/
theorem registrationsWithout_of_untagged {scope : Value} (h : c.tagged scope = 0) :
    c.registrationsWithout scope = c.registrations := by
  obtain ⟨htypes, -⟩ := tagged_eq_zero_iff.1 h
  refine Catalog.ext ?_
  have hkeep : c.registrations.entries.filter (·.declaration.scope != some scope) =
      c.registrations.entries :=
    List.filter_eq_self.2 fun r hr => by simpa using (htypes r hr).1
  simp only [Contents.registrationsWithout, Catalog.filter, hkeep]
  refine (List.map_congr_left fun r hr => ?_).trans (List.map_id _)
  have hall : r.extensions.filter (·.scope != some scope) = r.extensions :=
    List.filter_eq_self.2 fun x hx => by simpa using (htypes r hr).2 x hx
  rw [hall]
  rfl

/-- Where nothing belongs to a scope, its release does nothing. -/
theorem release_of_untagged {scope : Value} (h : c.tagged scope = 0) :
    c.release scope = ⟨0, none⟩ := by
  rw [Contents.release]
  simp only [h, beq_self_eq_true, if_true]

/-- **A release of a scope that something belongs to** takes it out, and builds the types that are
left up anew. -/
theorem release_of_tagged {scope : Value} (h : c.tagged scope ≠ 0) :
    (c.release scope).result = c.tagged scope ∧
      ((c.release scope).after c).registrations = c.registrationsWithout scope ∧
      ((c.release scope).after c).types =
        rebuilt (defined (c.registrationsWithout scope)) c.isHeld := by
  have hb : ¬ (c.tagged scope == 0) = true := by simpa using h
  rw [Contents.release]
  simp only
  rw [if_neg hb]
  refine ⟨rfl, rfl, ?_⟩
  have hu : ∀ a ∈ (defined (c.registrationsWithout scope)).entries, a.isResolved = false := by
    intro a ha
    obtain ⟨r, -, rfl⟩ := List.mem_map.1 ha
    rfl
  exact rebuild_eq hu c.isHeld

/-- **A release** takes nothing out, or builds the types that are left up anew. -/
theorem release_cases (c : Contents) (scope : Value) :
    (c.registrationsWithout scope = c.registrations ∧ (c.release scope).after c = c) ∨
      ((c.release scope).after c).registrations = c.registrationsWithout scope ∧
      ((c.release scope).after c).types =
        rebuilt (defined (c.registrationsWithout scope)) c.isHeld := by
  by_cases h : c.tagged scope = 0
  · rw [release_of_untagged h]
    exact .inl ⟨registrationsWithout_of_untagged h, rfl⟩
  · exact .inr (release_of_tagged h).2

/-! ## Definitions mirror registrations -/

theorem extendAll_parent (a : TypeDefinition) (es : List Extension) :
    (a.extendAll es).parent = a.parent := by
  induction es generalizing a with
  | nil => rfl
  | cons e es ih => exact ih (a.extend e)

@[simp] theorem define_parent (r : Registration) (s : Standing) :
    (r.define s).parent = r.declaration.parent :=
  extendAll_parent _ _

theorem find?_defined (regs : Catalog Registration.id) (t : TypeId) :
    (defined regs).find? t = (regs.find? t).map (·.define .deferred) :=
  Catalog.find?_map _ _ _ _

theorem keys_defined (regs : Catalog Registration.id) : (defined regs).keys = regs.keys :=
  Catalog.keys_map _ _ _

theorem deferred_of_mem_defined {regs : Catalog Registration.id} {a : TypeDefinition}
    (h : a ∈ (defined regs).entries) : a.standing = .deferred := by
  obtain ⟨r, -, rfl⟩ := List.mem_map.1 h
  rfl

theorem unresolved_of_mem_defined {regs : Catalog Registration.id} {a : TypeDefinition}
    (h : a ∈ (defined regs).entries) : a.isResolved = false := by
  rw [TypeDefinition.isResolved, deferred_of_mem_defined h]
  rfl

/-- **Sound contents**: the stored types are what the registrations amount to, and their standings
are coherent. -/
structure Contents.Sound (c : Contents) : Prop where
  mirrors : c.types.restand (fun _ => .deferred) = defined c.registrations
  coherent : Coherent c.types

namespace Contents.Sound

variable (h : c.Sound)

include h

/-- **The stored types are exactly the registered ones**, in the same order. -/
theorem keys_eq : c.types.keys = c.registrations.keys := by
  rw [← keys_defined, ← h.mirrors, keys_restand]

theorem find?_eq_none_iff : c.types.find? t = none ↔ c.registrations.find? t = none := by
  rw [Catalog.find?_eq_none_iff, Catalog.find?_eq_none_iff, h.keys_eq]

/-- **A stored type is what its registration amounts to.** -/
theorem exists_registration {a : TypeDefinition} (ha : c.types.find? t = some a) :
    ∃ r, c.registrations.find? t = some r ∧ a = r.define a.standing := by
  have hf := congrArg (Catalog.find? · t) h.mirrors
  simp only [find?_restand, find?_defined, ha, Option.map_some] at hf
  obtain ⟨r, hr, hra⟩ := Option.map_eq_some_iff.1 hf.symm
  refine ⟨r, hr, ?_⟩
  have := congrArg (fun x : TypeDefinition => { x with standing := a.standing }) hra
  exact this.symm

/-- A registered type is stored. -/
theorem exists_definition {r : Registration} (hr : c.registrations.find? t = some r) :
    ∃ s, c.types.find? t = some (r.define s) := by
  cases ha : c.types.find? t with
  | none => rw [h.find?_eq_none_iff.1 ha] at hr; cases hr
  | some a =>
    obtain ⟨r', hr', hra⟩ := h.exists_registration ha
    rw [hr] at hr'
    obtain rfl := Option.some.inj hr'
    exact ⟨a.standing, congrArg some hra⟩

end Contents.Sound

theorem sound_empty : Contents.Sound {} := ⟨rfl, coherent_empty⟩

/-! ## One lemma for each event -/

theorem sound_register (h : c.Sound) (hnew : c.registrations.find? d.id = none) :
    Contents.Sound { c with
      types := Contents.markCyclic (withNew c.types d) (c.closedCycle d)
      registrations := c.registrations.insert ⟨d, []⟩ } := by
  have hnew' := h.find?_eq_none_iff.2 hnew
  refine ⟨?_, coherent_register hnew' h.coherent⟩
  have hm := congrArg Catalog.entries h.mirrors
  have hregs : (c.registrations.insert ⟨d, []⟩).entries = c.registrations.entries ++ [⟨d, []⟩] :=
    Catalog.entries_insert_new hnew
  rw [markCyclic_eq, restand_restand]
  refine Catalog.ext ?_
  simp only [restand, defined, Catalog.entries_map] at hm ⊢
  rw [hregs, entries_withNew hnew', List.map_append, List.map_append, hm]
  rfl

/-- Extending what a registration amounts to is extending the registration. -/
theorem extendIf_define (r : Registration) :
    extendIf t e (r.define .deferred) =
      (if r.id == t then r.extend e else r).define .deferred := by
  rw [extendIf, Registration.define_id]
  split
  · simp only [Registration.define, Registration.extend, TypeDefinition.extendAll,
      List.foldl_append, List.foldl_cons, List.foldl_nil]
    rfl
  · rfl

theorem sound_extended (h : c.Sound) :
    Contents.Sound { c with
      types := extended c.types t e
      registrations := addExtension c.registrations t e } := by
  refine ⟨?_, coherent_extended h.coherent⟩
  have hm := congrArg Catalog.entries h.mirrors
  have hmark : ∀ a : TypeDefinition, { extendIf t e a with standing := .deferred } =
      extendIf t e { a with standing := .deferred } := by
    intro a
    unfold extendIf
    split <;> rfl
  refine Catalog.ext ?_
  simp only [restand, extended, extendAt, defined, addExtension, Catalog.modify,
    Catalog.entries_map, List.map_map, Function.comp_def, hmark, ← extendIf_define] at hm ⊢
  simpa [Function.comp_def] using congrArg (List.map (extendIf t e)) hm

theorem sound_settled (h : c.Sound) : (c.resolveDeferred.after c).Sound := by
  rw [after_resolveDeferred h.coherent]
  refine ⟨?_, (isSettled_restand c.types).coherent⟩
  rw [restand_restand]
  exact h.mirrors

/-- The registrations that a release leaves are those of before, with fewer extensions. -/
theorem mem_registrationsWithout {scope : Value} {r : Registration}
    (h : r ∈ (c.registrationsWithout scope).entries) :
    ∃ r' ∈ c.registrations.entries, r'.declaration = r.declaration := by
  obtain ⟨r', hr', rfl⟩ := List.mem_map.1 h
  exact ⟨r', (List.mem_filter.1 hr').1, rfl⟩

theorem sound_released (h : c.Sound) (scope : Value) : ((c.release scope).after c).Sound := by
  rcases release_cases c scope with ⟨-, ha⟩ | ⟨hregs, htypes⟩
  · rwa [ha]
  constructor
  · rw [htypes, hregs, rebuilt, restand_restand]
    exact (restand_congr fun a ha => (deferred_of_mem_defined ha).symm).trans restand_self
  · rw [htypes]
    refine coherent_rebuilt (fun a ha => unresolved_of_mem_defined ha) fun a ha hheld hp => ?_
    -- a type that was unresolved before has a parent
    obtain ⟨r, hr, rfl⟩ := List.mem_map.1 ha
    obtain ⟨r', hr', hdecl⟩ := mem_registrationsWithout hr
    have hid : r'.id = r.id := congrArg (·.id) hdecl
    obtain ⟨s, hs⟩ := h.exists_definition (Catalog.find?_of_mem hr')
    rw [hid] at hs
    rw [Registration.define_id, Contents.isHeld, hs, Option.any_some, Bool.not_eq_true'] at hheld
    obtain ⟨p, hparent⟩ := h.coherent.exists_parent (Catalog.mem_of_find? hs) hheld
    rw [define_parent, hdecl, ← define_parent, hp] at hparent
    cases hparent

/-! ## Every step keeps contents sound -/

/-- **A step keeps contents sound.** -/
theorem step_sound (h : c.Sound) (hs : Step c ev c') : c'.Sound := by
  cases hs with
  | registered hok =>
    obtain ⟨hnew, ha⟩ := register_ok hok
    rw [ha]
    exact sound_register h hnew
  | extended hok =>
    rw [(commit_ok h.coherent hok).2]
    split
    · exact h
    · exact sound_extended h
  | settled => exact sound_settled h
  | constrained hok =>
    obtain ⟨ht, hr⟩ := addConstraint_ok hok
    exact ⟨by rw [ht, hr]; exact h.mirrors, by rw [ht]; exact h.coherent⟩
  | released scope => exact sound_released h scope
  | cleared => exact sound_empty

/-- **Contents are sound after any series of events.** -/
theorem reached_sound (h : Reached es c) : c.Sound := by
  induction h with
  | start => exact sound_empty
  | next _ hs ih => exact step_sound ih hs

end Taxonomy

import Taxonomy.Proofs.Registry.Extensions

/-!
# What a registry holds, scope by scope

The definitions of types follow from what was put into a registry: the declarations with their
extensions, and the constraints with their scopes. These **holdings** tell which changes are
granted, and what belongs to a scope can be taken out of them.

* `Holdings.without`: all but what belongs to a scope.
* `Event.act`, `step_holdings`: what an event does to the holdings.
* `without_act_of_belongs`: what belongs to the scope is gone with it.
* `without_act`: what does not belong to the scope is as if the scope had never been there.
* `contents_eq_of_holdings`: settled contents follow from their holdings.
-/

namespace Taxonomy

open TypeCatalog

/-- **What was put into a registry**: all but the definitions that result. -/
@[ext]
structure Holdings where
  registrations : Catalog Registration.id := .empty
  placement : List PlacementConstraint := []
  validation : List ValidationConstraint := []
  constraintScopes : List (String × Option Value) := []

/-- What was put into contents. -/
def Contents.holdings (c : Contents) : Holdings where
  registrations := c.registrations
  placement := c.placement
  validation := c.validation
  constraintScopes := c.constraintScopes

namespace Holdings

variable (h : Holdings) (s : Value)

/-- The ids of the constraints that belong to a scope. -/
def constraintsOf : List String := (h.constraintScopes.filter (·.2 == some s)).map (·.1)

/-- **All but what belongs to a scope.** -/
def without : Holdings where
  registrations := Contents.registrationsWithout { registrations := h.registrations } s
  placement := h.placement.filter (!(h.constraintsOf s).contains ·.id)
  validation := h.validation.filter (!(h.constraintsOf s).contains ·.id)
  constraintScopes := h.constraintScopes.filter (!(h.constraintsOf s).contains ·.1)

/-- With one more constraint. -/
def addConstraint (k : Constraint) (scope : Option Value) : Holdings :=
  let h := { h with constraintScopes := h.constraintScopes ++ [(k.id, scope)] }
  match k with
  | .placement k => { h with placement := h.placement ++ [k] }
  | .validation k => { h with validation := h.validation ++ [k] }

/-- **Is an event granted?** A type must be new, one that is extended must be there, and the id of a
constraint must not be taken. -/
def allows : Event → Bool
  | .registered d => (h.registrations.find? d.id).isNone
  | .extended t _ => (h.registrations.find? t).isSome
  | .constrained k _ => !h.constraintScopes.any (·.1 == k.id)
  | .settled | .released _ | .cleared => true

/-- **The scope of each constraint is known.** -/
structure Listed : Prop where
  placement : ∀ k ∈ h.placement, k.id ∈ h.constraintScopes.map (·.1)
  validation : ∀ k ∈ h.validation, k.id ∈ h.constraintScopes.map (·.1)

end Holdings

/-- **What an event does to the holdings.** -/
def Event.act (h : Holdings) : Event → Holdings
  | .registered d => { h with registrations := (Event.registered d).effect h.registrations }
  | .extended t e => { h with registrations := (Event.extended t e).effect h.registrations }
  | .settled => h
  | .constrained k scope => h.addConstraint k scope
  | .released scope => h.without scope
  | .cleared => {}

/-- Does what an event registers belong to a scope? -/
def Event.belongs (s : Value) : Event → Bool
  | .registered d => d.scope == some s
  | .extended _ e => e.scope == some s
  | .constrained _ scope => scope == some s
  | .settled | .released _ | .cleared => false

variable {h : Holdings} {s : Value} {c c' : Contents} {ev : Event} {es : List Event}

/-! ## Taking a scope out -/

/-- Where nothing belongs to a scope, all is left. -/
theorem without_of_untagged (h : c.tagged s = 0) : c.holdings.without s = c.holdings := by
  have hregs : c.registrationsWithout s = c.registrations := registrationsWithout_of_untagged h
  have hnone : c.holdings.constraintsOf s = [] := by
    have hc : c.constraintScopes.countP (·.2 == some s) = 0 := by
      rw [Contents.tagged] at h
      omega
    rw [Holdings.constraintsOf, List.map_eq_nil_iff, List.filter_eq_nil_iff]
    exact List.countP_eq_zero.1 hc
  have hkeep {α : Type} (f : α → String) (xs : List α) :
      xs.filter (fun x => !(c.holdings.constraintsOf s).contains (f x)) = xs :=
    List.filter_eq_self.2 fun x _ => by rw [hnone]; rfl
  exact Holdings.ext hregs (hkeep _ _) (hkeep _ _) (hkeep _ _)

/-- **Releasing a scope takes out what belongs to it**, be there anything or not. -/
theorem holdings_release (c : Contents) (s : Value) :
    ((c.release s).after c).holdings = c.holdings.without s := by
  rw [Contents.release]
  simp only
  split
  · next h =>
    have h0 : c.tagged s = 0 := by simpa using h
    exact (without_of_untagged h0).symm
  · rfl

/-- **What is left when a scope is taken out does not belong to it.** -/
theorem untagged_of_holdings (h : c'.holdings = c.holdings.without s) : c'.tagged s = 0 := by
  have hregs : c'.registrations = c.registrationsWithout s := congrArg Holdings.registrations h
  have hlist : c'.constraintScopes =
      c.constraintScopes.filter (!(c.holdings.constraintsOf s).contains ·.1) :=
    congrArg Holdings.constraintScopes h
  rw [tagged_eq_zero_iff, hregs, hlist]
  constructor
  · intro x hx
    obtain ⟨r, hr, rfl⟩ := List.mem_map.1 hx
    have hscope := (List.mem_filter.1 hr).2
    refine ⟨by simpa using hscope, fun e he => ?_⟩
    have hext := (List.mem_filter.1 he).2
    simpa using hext
  · intro k hk hs
    obtain ⟨hk, hout⟩ := List.mem_filter.1 hk
    have hin : k.1 ∈ c.holdings.constraintsOf s :=
      List.mem_map_of_mem (List.mem_filter.2 ⟨hk, beq_iff_eq.2 hs⟩)
    simp [hin] at hout

/-- The release of another scope puts nothing there. -/
theorem untagged_release (h : c.tagged s = 0) (t : Value) :
    ((c.release t).after c).tagged s = 0 := by
  have hheld := holdings_release c t
  have hregs : ((c.release t).after c).registrations = c.registrationsWithout t :=
    congrArg Holdings.registrations hheld
  have hlist : ((c.release t).after c).constraintScopes =
      c.constraintScopes.filter (!(c.holdings.constraintsOf t).contains ·.1) :=
    congrArg Holdings.constraintScopes hheld
  rw [tagged_eq_zero_iff] at h ⊢
  rw [hregs, hlist]
  obtain ⟨htypes, hscopes⟩ := h
  refine ⟨fun x hx => ?_, fun k hk => hscopes k (List.mem_filter.1 hk).1⟩
  obtain ⟨r, hr, rfl⟩ := List.mem_map.1 hx
  obtain ⟨htype, hexts⟩ := htypes r (List.mem_filter.1 hr).1
  exact ⟨htype, fun e he => hexts e (List.mem_filter.1 he).1⟩

theorem listed_without (h : Holdings) (hl : h.Listed) (s : Value) : (h.without s).Listed := by
  have hids : ∀ id ∈ h.constraintScopes.map (·.1), id ∉ h.constraintsOf s →
      id ∈ (h.without s).constraintScopes.map (·.1) := by
    intro id hid hn
    obtain ⟨p, hp, rfl⟩ := List.mem_map.1 hid
    exact List.mem_map_of_mem (List.mem_filter.2 ⟨hp, by simpa using hn⟩)
  constructor
  · intro k hk
    obtain ⟨hk, hn⟩ := List.mem_filter.1 hk
    exact hids _ (hl.placement k hk) (by simpa using hn)
  · intro k hk
    obtain ⟨hk, hn⟩ := List.mem_filter.1 hk
    exact hids _ (hl.validation k hk) (by simpa using hn)

theorem listed_addConstraint (hl : h.Listed) (k : Constraint) (scope : Option Value) :
    (h.addConstraint k scope).Listed := by
  cases k with
  | placement k =>
    refine ⟨fun k' hk' => ?_, fun k' hk' => ?_⟩
    · rw [Holdings.addConstraint, List.map_append, List.mem_append]
      rcases List.mem_append.1 hk' with hk' | hk'
      · exact .inl (hl.placement k' hk')
      · obtain rfl := List.mem_singleton.1 hk'
        exact .inr (List.mem_singleton.2 rfl)
    · rw [Holdings.addConstraint, List.map_append, List.mem_append]
      exact .inl (hl.validation k' hk')
  | validation k =>
    refine ⟨fun k' hk' => ?_, fun k' hk' => ?_⟩
    · rw [Holdings.addConstraint, List.map_append, List.mem_append]
      exact .inl (hl.placement k' hk')
    · rw [Holdings.addConstraint, List.map_append, List.mem_append]
      rcases List.mem_append.1 hk' with hk' | hk'
      · exact .inl (hl.validation k' hk')
      · obtain rfl := List.mem_singleton.1 hk'
        exact .inr (List.mem_singleton.2 rfl)

theorem listed_act (hl : h.Listed) (ev : Event) : (ev.act h).Listed := by
  cases ev with
  | registered d => exact ⟨hl.placement, hl.validation⟩
  | extended t e => exact ⟨hl.placement, hl.validation⟩
  | settled => exact hl
  | constrained k scope => exact listed_addConstraint hl k scope
  | released scope => exact listed_without h hl scope
  | cleared => exact ⟨by simp [Event.act], by simp [Event.act]⟩

/-! ## Steps -/

/-- **What a step does to the holdings** is what its event does. -/
theorem step_holdings (hc : c.Sound) (hs : Step c ev c') : c'.holdings = ev.act c.holdings := by
  have hregs := step_registrations hc hs
  cases hs with
  | registered hok =>
    obtain ⟨-, ha⟩ := register_ok hok
    rw [ha] at hregs ⊢
    exact Holdings.ext hregs rfl rfl rfl
  | extended hok =>
    obtain ⟨-, ha⟩ := commit_ok hc.coherent hok
    rw [ha] at hregs ⊢
    refine Holdings.ext hregs ?_ ?_ ?_ <;> split <;> rfl
  | settled =>
    rw [after_resolveDeferred hc.coherent]
    rfl
  | @constrained k scope ch hok =>
    rw [Contents.addConstraint] at hok
    split at hok
    · cases hok
    · obtain rfl := Except.ok.inj hok
      cases k <;> rfl
  | released scope => exact holdings_release c scope
  | cleared => rfl

/-- The scopes of constraints are known after any series of events. -/
theorem listed_of_reached (hr : Reached es c) : c.holdings.Listed := by
  induction hr with
  | start => exact ⟨by simp [Contents.holdings], by simp [Contents.holdings]⟩
  | next hr hs ih =>
    rw [step_holdings (reached_sound hr) hs]
    exact listed_act ih _

/-! ## Events of the scope, and others -/

variable {d : Declaration} {t : TypeId} {e : Extension}

/-- A registration without the extensions that belong to a scope. -/
def Registration.without (r : Registration) (s : Value) : Registration :=
  { r with extensions := r.extensions.filter (·.scope != some s) }

theorem entries_registrationsWithout (regs : Catalog Registration.id) (s : Value) :
    (Contents.registrationsWithout { registrations := regs } s).entries =
      (regs.entries.filter (·.declaration.scope != some s)).map (·.without s) := rfl

theorem entries_addExtension (regs : Catalog Registration.id) (t : TypeId) (e : Extension) :
    (addExtension regs t e).entries =
      regs.entries.map fun r => if r.id == t then r.extend e else r := rfl

/-- An extension of the scope is gone, and any other one stays. -/
theorem without_extend (r : Registration) (e : Extension) (s : Value) :
    (r.extend e).without s = if e.scope = some s then r.without s else (r.without s).extend e := by
  by_cases he : e.scope = some s <;> simp [Registration.extend, Registration.without, he]

/-- A new type is taken out with its scope, and with no other one. -/
theorem registrationsWithout_insert {regs : Catalog Registration.id}
    (hnew : regs.find? d.id = none) :
    Contents.registrationsWithout { registrations := regs.insert ⟨d, []⟩ } s =
      if d.scope = some s then Contents.registrationsWithout { registrations := regs } s
      else (Contents.registrationsWithout { registrations := regs } s).insert ⟨d, []⟩ := by
  have hins : (regs.insert ⟨d, []⟩).entries = regs.entries ++ [⟨d, []⟩] :=
    Catalog.entries_insert_new hnew
  have hnew' : (Contents.registrationsWithout { registrations := regs } s).find? d.id = none := by
    rw [find?_registrationsWithout, hnew]
    rfl
  have hins' := Catalog.entries_insert_new (a := (⟨d, []⟩ : Registration)) hnew'
  refine Catalog.ext ?_
  split
  · next hd =>
    rw [entries_registrationsWithout, entries_registrationsWithout, hins]
    simp [hd]
  · next hd =>
    rw [hins', entries_registrationsWithout, entries_registrationsWithout, hins]
    simp [hd, Registration.without]

/-- An extension is taken out with its scope; with another scope its type may be taken out. -/
theorem registrationsWithout_addExtension (regs : Catalog Registration.id) (t : TypeId)
    (e : Extension) (s : Value) :
    Contents.registrationsWithout { registrations := addExtension regs t e } s =
      if e.scope = some s then Contents.registrationsWithout { registrations := regs } s
      else addExtension (Contents.registrationsWithout { registrations := regs } s) t e := by
  have hdecl : ∀ r : Registration,
      (if r.id == t then r.extend e else r).declaration = r.declaration := by
    intro r
    split <;> rfl
  have hid : ∀ r : Registration, (r.without s).id = r.id := fun _ => rfl
  refine Catalog.ext ?_
  rw [entries_registrationsWithout, entries_addExtension, List.filter_map, List.map_map]
  simp only [Function.comp_def, hdecl]
  split
  · next he =>
    rw [entries_registrationsWithout]
    refine List.map_congr_left fun r _ => ?_
    split
    · rw [without_extend, if_pos he]
    · rfl
  · next he =>
    rw [entries_addExtension, entries_registrationsWithout, List.map_map]
    refine List.map_congr_left fun r _ => ?_
    simp only [Function.comp_apply, hid]
    split
    · rw [without_extend, if_neg he]
    · rfl

/-- An id that nothing bears may be left out of those that are dropped. -/
theorem filter_dropped_concat {α : Type} {f : α → String} {xs : List α} {id : String}
    (hne : ∀ x ∈ xs, f x ≠ id) (ids : List String) :
    xs.filter (fun x => !(ids ++ [id]).contains (f x)) = xs.filter fun x => !ids.contains (f x) :=
  List.filter_congr fun x hx => by simp [hne x hx]

theorem constraintsOf_addConstraint (h : Holdings) (k : Constraint) (scope : Option Value)
    (s : Value) :
    (h.addConstraint k scope).constraintsOf s =
      h.constraintsOf s ++ if scope = some s then [k.id] else [] := by
  have hcs : (h.addConstraint k scope).constraintScopes =
      h.constraintScopes ++ [(k.id, scope)] := by
    cases k <;> rfl
  rw [Holdings.constraintsOf, Holdings.constraintsOf, hcs]
  by_cases hs : scope = some s <;> simp [hs]

/-- A constraint that is granted bears a new id. -/
theorem ne_of_allows {k : Constraint} {scope : Option Value} (hl : h.Listed)
    (ha : h.allows (.constrained k scope) = true) :
    (∀ p ∈ h.constraintScopes, p.1 ≠ k.id) ∧ (∀ k' ∈ h.placement, k'.id ≠ k.id) ∧
      ∀ k' ∈ h.validation, k'.id ≠ k.id := by
  have hnew : ∀ p ∈ h.constraintScopes, p.1 ≠ k.id := by
    simpa [Holdings.allows] using ha
  have hids : ∀ id ∈ h.constraintScopes.map (·.1), id ≠ k.id := by
    intro id hid
    obtain ⟨p, hp, rfl⟩ := List.mem_map.1 hid
    exact hnew p hp
  exact ⟨hnew, fun k' hk' => hids _ (hl.placement k' hk'),
    fun k' hk' => hids _ (hl.validation k' hk')⟩

/-- A constraint is taken out with its scope, and with no other one. -/
theorem without_addConstraint {k : Constraint} {scope : Option Value} (hl : h.Listed)
    (ha : h.allows (.constrained k scope) = true) :
    (h.addConstraint k scope).without s =
      if scope = some s then h.without s else (h.without s).addConstraint k scope := by
  obtain ⟨hscopes, hplace, hvalid⟩ := ne_of_allows hl ha
  have hk : k.id ∉ h.constraintsOf s := by
    intro hm
    obtain ⟨p, hp, hid⟩ := List.mem_map.1 hm
    exact hscopes p (List.mem_filter.1 hp).1 hid
  have hof := constraintsOf_addConstraint h k scope s
  split
  · next hs =>
    -- the new constraint is dropped, and nothing else bears its id
    rw [if_pos hs] at hof
    have hcs := filter_dropped_concat hscopes (h.constraintsOf s)
    have hpl := filter_dropped_concat hplace (h.constraintsOf s)
    have hva := filter_dropped_concat hvalid (h.constraintsOf s)
    unfold Holdings.without
    rw [hof]
    cases k with
    | placement k =>
      simp only [Constraint.id] at hcs hpl hva
      simp only [Holdings.addConstraint, Constraint.id, List.filter_append, hcs, hpl, hva]
      simp
    | validation k =>
      simp only [Constraint.id] at hcs hpl hva
      simp only [Holdings.addConstraint, Constraint.id, List.filter_append, hcs, hpl, hva]
      simp
  · next hs =>
    rw [if_neg hs, List.append_nil] at hof
    unfold Holdings.without
    rw [hof]
    cases k with
    | placement k =>
      simp only [Constraint.id] at hk
      simp [Holdings.addConstraint, Constraint.id, hk]
    | validation k =>
      simp only [Constraint.id] at hk
      simp [Holdings.addConstraint, Constraint.id, hk]

/-- **What belongs to the scope is gone with it.** -/
theorem without_act_of_belongs (hl : h.Listed) (ha : h.allows ev = true)
    (hb : ev.belongs s = true) : (ev.act h).without s = h.without s := by
  cases ev with
  | registered d =>
    have hnew : h.registrations.find? d.id = none := by simpa [Holdings.allows] using ha
    have hd : d.scope = some s := by simpa [Event.belongs] using hb
    refine Holdings.ext ?_ rfl rfl rfl
    exact (registrationsWithout_insert hnew).trans (if_pos hd)
  | extended t e =>
    have he : e.scope = some s := by simpa [Event.belongs] using hb
    refine Holdings.ext ?_ rfl rfl rfl
    rw [Holdings.without, Event.act, Event.effect]
    split
    · rfl
    · exact (registrationsWithout_addExtension h.registrations t e s).trans (if_pos he)
  | constrained k scope =>
    have hs : scope = some s := by simpa [Event.belongs] using hb
    exact (without_addConstraint hl ha).trans (if_pos hs)
  | settled => rfl
  | released s' => cases hb
  | cleared => cases hb

/-- **What does not belong to the scope** is as if the scope had never been there. -/
theorem without_act (hl : h.Listed) (ha : h.allows ev = true) (hb : ev.belongs s = false)
    (hout : ev.takesOut = false) : (ev.act h).without s = ev.act (h.without s) := by
  cases ev with
  | registered d =>
    have hnew : h.registrations.find? d.id = none := by simpa [Holdings.allows] using ha
    have hd : d.scope ≠ some s := by simpa [Event.belongs] using hb
    refine Holdings.ext ?_ rfl rfl rfl
    exact (registrationsWithout_insert hnew).trans (if_neg hd)
  | extended t e =>
    have he : e.scope ≠ some s := by simpa [Event.belongs] using hb
    refine Holdings.ext ?_ rfl rfl rfl
    simp only [Holdings.without, Event.act, Event.effect]
    split
    · rfl
    · exact (registrationsWithout_addExtension h.registrations t e s).trans (if_neg he)
  | constrained k scope =>
    have hs : scope ≠ some s := by simpa [Event.belongs] using hb
    exact (without_addConstraint hl ha).trans (if_neg hs)
  | settled => rfl
  | released s' => cases hout
  | cleared => cases hout

/-- Does an event extend a type that belongs to a scope? -/
def Holdings.extendsTypeOf (h : Holdings) (s : Value) : Event → Bool
  | .extended t _ => (h.registrations.find? t).any (·.declaration.scope == some s)
  | .registered _ | .settled | .constrained .. | .released _ | .cleared => false

/-- **What is granted is granted without the scope as well**, unless it extends a type of it. -/
theorem allows_without (ha : h.allows ev = true) (hext : h.extendsTypeOf s ev = false) :
    (h.without s).allows ev = true := by
  cases ev with
  | registered d =>
    have hnew : h.registrations.find? d.id = none := by simpa [Holdings.allows] using ha
    have hf : (h.without s).registrations.find? d.id = none := by
      rw [Holdings.without, find?_registrationsWithout, hnew]
      rfl
    rw [Holdings.allows, hf]
    rfl
  | extended t e =>
    obtain ⟨r, hr⟩ := Option.isSome_iff_exists.1 ha
    rw [Holdings.extendsTypeOf, hr, Option.any_some] at hext
    have hf : (h.without s).registrations.find? t = some (r.without s) := by
      have hkeep : (r.declaration.scope != some s) = true := by rw [bne, hext]; rfl
      rw [Holdings.without, find?_registrationsWithout, hr, Option.filter_some, if_pos hkeep]
      rfl
    rw [Holdings.allows, hf]
    rfl
  | constrained k scope =>
    have hnew : ∀ p ∈ h.constraintScopes, p.1 ≠ k.id := by simpa [Holdings.allows] using ha
    have hnew' : ∀ p ∈ (h.without s).constraintScopes, p.1 ≠ k.id :=
      fun p hp => hnew p (List.mem_filter.1 hp).1
    simpa [Holdings.allows] using hnew'
  | settled => rfl
  | released s' => rfl
  | cleared => rfl

/-! ## Settled contents -/

/-- Settled types are what the registrations amount to, standing as their parents decide. -/
theorem types_of_settled (hs : c.Sound) (hset : IsSettled c.types) :
    c.types = (defined c.registrations).restand fun a =>
      settledStanding (defined c.registrations) a.toDeclaration := by
  rw [← hs.mirrors, restand_restand]
  simp only [settledStanding_restand]
  exact hset.restand_eq.symm

/-- **Settled contents follow from their holdings.** -/
theorem contents_eq_of_holdings (hs : c.Sound) (hs' : c'.Sound) (hset : IsSettled c.types)
    (hset' : IsSettled c'.types) (h : c.holdings = c'.holdings) : c = c' := by
  have hregs : c.registrations = c'.registrations := congrArg Holdings.registrations h
  have htypes : c.types = c'.types := by
    rw [types_of_settled hs hset, types_of_settled hs' hset', hregs]
  cases c
  cases c'
  simp only [Contents.holdings, Holdings.mk.injEq] at h htypes
  obtain ⟨rfl, rfl, rfl, rfl⟩ := h
  subst htypes
  rfl

end Taxonomy

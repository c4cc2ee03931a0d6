import Taxonomy.Proofs.Registry.Extensions

/-!
# Loading a registry

Modules declare types and extend those of others. As long as nothing is taken out again, all
that they ask for is granted, if every type is asked for once and extended after that.

* `Loaded`: the registrations are each declaration with its extensions.
* `Registry.requests`: the types and extensions that a run asks for.
* `Orderly`: types are asked for once each, and extended after that.
* `history_of_orderly`: an orderly run gets what it asks for.
-/

namespace Taxonomy

open Registry

/-- The declarations of a history, in order. -/
def declarationsIn (es : List Event) : List Declaration :=
  es.filterMap fun
    | .registered d => some d
    | _ => none

/-- The extensions of a type in a history, in order. -/
def extensionsIn (t : TypeId) (es : List Event) : List Extension :=
  es.filterMap fun
    | .extended u e => if u = t then some e else none
    | _ => none

variable {es : List Event} {c c' : Contents} {t : TypeId} {ev : Event}

theorem declarationsIn_append (es fs : List Event) :
    declarationsIn (es ++ fs) = declarationsIn es ++ declarationsIn fs :=
  List.filterMap_append

theorem extensionsIn_append (t : TypeId) (es fs : List Event) :
    extensionsIn t (es ++ fs) = extensionsIn t es ++ extensionsIn t fs :=
  List.filterMap_append

/-- **What registrations amount to while declarations are loaded.** A type that is
not registered yet has no extensions either. -/
structure Loaded (es : List Event) (c : Contents) : Prop where
  distinct : ((declarationsIn es).map (·.id)).Nodup
  registered : ∀ t, c.registrations.find? t =
    ((declarationsIn es).find? (·.id == t)).map fun d =>
      ⟨d, (extensionsIn t es).filter (!·.isEmpty)⟩
  unregistered : ∀ t, c.registrations.find? t = none → extensionsIn t es = []

theorem loaded_start : Loaded [] {} :=
  ⟨List.nodup_nil, fun _ => rfl, fun _ _ => rfl⟩

/-- An event that is about no type. -/
theorem Loaded.append_quiet (h : Loaded es c) (hregs : c'.registrations = c.registrations)
    (hd : declarationsIn [ev] = []) (he : ∀ t, extensionsIn t [ev] = []) :
    Loaded (es ++ [ev]) c' := by
  constructor
  · rw [declarationsIn_append, hd, List.append_nil]
    exact h.distinct
  · intro t
    rw [declarationsIn_append, extensionsIn_append, hd, he, List.append_nil, List.append_nil, hregs]
    exact h.registered t
  · intro t ht
    rw [extensionsIn_append, he, List.append_nil]
    exact h.unregistered t (hregs ▸ ht)

/-- A new type has no extensions yet. -/
theorem loaded_registered (h : Loaded es c) {d : Declaration}
    (hnew : c.registrations.find? d.id = none)
    (hregs : c'.registrations = c.registrations.insert ⟨d, []⟩) :
    Loaded (es ++ [.registered d]) c' := by
  have hfresh : (declarationsIn es).find? (·.id == d.id) = none := by
    have hr := h.registered d.id
    rw [hnew, eq_comm, Option.map_eq_none_iff] at hr
    exact hr
  have hone : declarationsIn [.registered d] = [d] := rfl
  have hnone : ∀ t, extensionsIn t [.registered d] = [] := fun _ => rfl
  constructor
  · rw [declarationsIn_append, hone, List.map_append, List.nodup_append]
    refine ⟨h.distinct, by simp, fun x hx y hy hxy => ?_⟩
    obtain ⟨d', hd', rfl⟩ := List.mem_map.1 hx
    obtain rfl : y = d.id := List.mem_singleton.1 hy
    exact absurd hxy (by simpa using List.find?_eq_none.1 hfresh d' hd')
  · intro t
    rw [hregs, Catalog.find?_insert, declarationsIn_append, extensionsIn_append, hone, hnone,
      List.append_nil, List.find?_append]
    by_cases hid : d.id = t
    · subst hid
      have heq : Registration.id ⟨d, []⟩ = d.id := rfl
      rw [if_pos heq, hfresh, h.unregistered _ hnew]
      simp
    · have hne : Registration.id ⟨d, []⟩ ≠ t := hid
      rw [if_neg hne, h.registered]
      simp [hid]
  · intro t ht
    rw [hregs, Catalog.find?_insert] at ht
    split at ht
    · cases ht
    · rw [extensionsIn_append, hnone, List.append_nil]
      exact h.unregistered t ht

/-- An extension is added behind those that its type has. -/
theorem loaded_extended (h : Loaded es c) {u : TypeId} {e : Extension}
    (hstored : ∃ reg, c.registrations.find? u = some reg)
    (hregs : c'.registrations = (Event.extended u e).effect c.registrations) :
    Loaded (es ++ [.extended u e]) c' := by
  have hone : declarationsIn [.extended u e] = [] := rfl
  have hext : ∀ t, extensionsIn t [.extended u e] = if u = t then [e] else [] := by
    intro t
    by_cases hu : u = t <;> simp [extensionsIn, hu]
  -- no registration is taken out
  have hkept : ∀ t, c'.registrations.find? t = none → c.registrations.find? t = none := by
    intro t ht
    rw [hregs, Event.effect] at ht
    split at ht
    · exact ht
    · rw [find?_addExtension] at ht
      split at ht
      · exact Option.map_eq_none_iff.1 ht
      · exact ht
  constructor
  · rw [declarationsIn_append, hone, List.append_nil]
    exact h.distinct
  · intro t
    rw [declarationsIn_append, extensionsIn_append, hone, hext, List.append_nil,
      List.filter_append, hregs, Event.effect]
    by_cases he : e.isEmpty = true
    · rw [if_pos he, h.registered]
      by_cases hu : u = t <;> simp [hu, he]
    · rw [if_neg he, find?_addExtension, h.registered]
      by_cases hu : u = t
      · simp [hu, he, Registration.extend, Function.comp_def]
      · simp [hu]
  · intro t ht
    have hnone := hkept t ht
    have hu : u ≠ t := by
      rintro rfl
      obtain ⟨reg, hreg⟩ := hstored
      rw [hnone] at hreg
      cases hreg
    rw [extensionsIn_append, hext, if_neg hu, List.append_nil]
    exact h.unregistered t hnone

/-- **Loading keeps to it**, by induction on the history. -/
theorem loaded_of_reached (h : Reached es c) (hk : ∀ ev ∈ es, ev.takesOut = false) :
    Loaded es c := by
  induction h with
  | start => exact loaded_start
  | @next es ev c c' hr hs ih =>
    have hl := ih fun ev hm => hk ev (List.mem_append_left _ hm)
    have hsound := reached_sound hr
    have hregs := step_registrations hsound hs
    have hev := hk ev (List.mem_append_right _ List.mem_cons_self)
    cases hs with
    | registered hok => exact loaded_registered hl (register_ok hok).1 hregs
    | extended hok =>
      obtain ⟨⟨a, ha⟩, -⟩ := commit_ok hsound.coherent hok
      obtain ⟨reg, hreg, -⟩ := hsound.exists_registration ha
      exact loaded_extended hl ⟨reg, hreg⟩ hregs
    | settled => exact hl.append_quiet hregs rfl fun _ => rfl
    | constrained hok => exact hl.append_quiet hregs rfl fun _ => rfl
    | released scope => cases hev
    | cleared => cases hev

/-! ## What a run asks for -/

/-- Does an operation take out what was registered, or queue a scope for it? -/
def Operation.takesOut : Operation → Bool
  | .releaseScope _ | .scheduleRelease _ | .releasePending | .clear => true
  | .register .. | .commit .. | .resolveDeferred | .addConstraint .. => false
  | .enterScope _ | .leaveScope => false
  | .evaluate .. | .validChildren _ | .validParents _ | .invalidateTable => false

namespace Registry

/-- The type or the extension that an operation asks for, be it granted or not. -/
def request (r : Registry) : Operation → Option Event
  | .register id clauses scope => (r.declared id clauses scope).toOption.map .registered
  | .commit draft scope =>
    if draft.committed then none
    else some (.extended draft.existing.id (draft.build (r.effectiveScope scope)))
  | .resolveDeferred | .addConstraint .. | .enterScope _ | .leaveScope => none
  | .releaseScope _ | .scheduleRelease _ | .releasePending | .clear => none
  | .evaluate .. | .validChildren _ | .validParents _ | .invalidateTable => none

/-- **The types and extensions that a run asks for**, in order. -/
def requests : Registry → List Operation → List Event
  | _, [] => []
  | r, op :: ops => (r.request op).toList ++ requests (r.perform op) ops

end Registry

/-- **Types are asked for once each, and extended after that**; some were declared before. -/
def Orderly (past : List Declaration) : List Event → Prop
  | [] => True
  | .registered d :: es => (∀ a ∈ past, a.id ≠ d.id) ∧ Orderly (past ++ [d]) es
  | .extended t _ :: es => (∃ a ∈ past, a.id = t) ∧ Orderly past es
  | .settled :: es | .constrained .. :: es => Orderly past es
  | .released _ :: es | .cleared :: es => Orderly past es

theorem orderly_append {past : List Declaration} {es fs : List Event} :
    Orderly past (es ++ fs) ↔ Orderly past es ∧ Orderly (past ++ declarationsIn es) fs := by
  induction es generalizing past with
  | nil =>
    have hnil : declarationsIn [] = [] := rfl
    rw [List.nil_append, hnil, List.append_nil, Orderly, true_and]
  | cons ev es ih =>
    cases ev with
    | registered d =>
      have hcons : declarationsIn (.registered d :: es) = d :: declarationsIn es := rfl
      rw [List.cons_append, Orderly, Orderly, ih, hcons, and_assoc,
        List.append_cons past d (declarationsIn es)]
    | extended t e =>
      have hcons : declarationsIn (.extended t e :: es) = declarationsIn es := rfl
      rw [List.cons_append, Orderly, Orderly, ih, hcons, and_assoc]
    | settled => exact ih
    | constrained k s => exact ih
    | released s => exact ih
    | cleared => exact ih

/-! ## What is granted -/

/-- Is an event of those that a run asks for? -/
def Event.adds : Event → Bool
  | .registered _ | .extended .. => true
  | .settled | .constrained .. | .released _ | .cleared => false

theorem declarationsIn_filter (es : List Event) :
    declarationsIn (es.filter Event.adds) = declarationsIn es := by
  rw [declarationsIn, List.filterMap_filter]
  refine congrArg (List.filterMap · es) (funext fun ev => ?_)
  cases ev <;> rfl

theorem extensionsIn_filter (t : TypeId) (es : List Event) :
    extensionsIn t (es.filter Event.adds) = extensionsIn t es := by
  rw [extensionsIn, List.filterMap_filter]
  refine congrArg (List.filterMap · es) (funext fun ev => ?_)
  cases ev <;> rfl

/-- Can an event be granted? A type must be new, and one that is extended must be there. -/
def Granted (c : Contents) : Event → Prop
  | .registered d => c.registrations.find? d.id = none
  | .extended t _ => ∃ reg, c.registrations.find? t = some reg
  | .settled | .constrained .. | .released _ | .cleared => True

/-- **What comes next in order can be granted.** -/
theorem granted_of_orderly (h : Loaded es c) (ho : Orderly (declarationsIn es) [ev]) :
    Granted c ev := by
  cases ev with
  | registered d =>
    rw [Granted, h.registered, Option.map_eq_none_iff, List.find?_eq_none]
    intro a ha
    simpa using ho.1 a ha
  | extended t e =>
    obtain ⟨a, ha, hid⟩ := ho.1
    cases hf : c.registrations.find? t with
    | some reg => exact ⟨reg, hf⟩
    | none =>
      rw [h.registered, Option.map_eq_none_iff, List.find?_eq_none] at hf
      exact absurd (beq_iff_eq.2 hid) (hf a ha)
  | settled => trivial
  | constrained k s => trivial
  | released s => trivial
  | cleared => trivial

section Step

variable {r : Registry} {op : Operation} (hop : op.takesOut = false) (hrel : r.released = [])

include hrel

theorem tried_of_released {α : Type} (ev : Event) (f : Contents → Result (Change α)) :
    r.tried ev f = match f r.snapshot.contents with
      | .ok _ => [ev]
      | .error _ => [] := by
  rw [tried, drained, drain_of_released hrel, hrel]
  rfl

theorem eq_of_mem_tried {α : Type} {ev ev' : Event} {f : Contents → Result (Change α)}
    (h : ev' ∈ r.tried ev f) : ev' = ev := by
  rw [tried_of_released hrel] at h
  split at h
  · exact List.mem_singleton.1 h
  · exact absurd h List.not_mem_nil

theorem released_queried {r' : Registry} (hq : Queried r r') : r'.released = [] := by
  obtain ⟨table, rebuilds, rfl⟩ := hq
  exact hrel

include hop

/-- **An operation that takes nothing out** has no event that does. -/
theorem keeps_events {ev : Event} (h : ev ∈ r.events op) : ev.takesOut = false := by
  cases op with
  | register id clauses scope =>
    rw [events] at h
    split at h
    · rw [eq_of_mem_tried hrel h, Event.takesOut]
    · exact absurd h List.not_mem_nil
  | commit draft scope =>
    rw [events] at h
    split at h
    · exact absurd h List.not_mem_nil
    · rw [eq_of_mem_tried hrel h, Event.takesOut]
  | resolveDeferred =>
    rw [events] at h
    rw [eq_of_mem_tried hrel h, Event.takesOut]
  | addConstraint k scope =>
    rw [events] at h
    split at h
    · rw [eq_of_mem_tried hrel h, Event.takesOut]
    · exact absurd h List.not_mem_nil
  | releaseScope scope => cases hop
  | scheduleRelease scope => cases hop
  | releasePending => cases hop
  | clear => cases hop
  | enterScope scope => exact absurd h List.not_mem_nil
  | leaveScope => exact absurd h List.not_mem_nil
  | evaluate parent child name => exact absurd h List.not_mem_nil
  | validChildren parent => exact absurd h List.not_mem_nil
  | validParents child => exact absurd h List.not_mem_nil
  | invalidateTable => exact absurd h List.not_mem_nil

/-- **An operation that takes nothing out gets what it asks for**, if that can be
granted. -/
theorem filter_events (hs : r.snapshot.contents.Sound)
    (hg : ∀ ev, r.request op = some ev → Granted r.snapshot.contents ev) :
    (r.events op).filter Event.adds = (r.request op).toList := by
  cases op with
  | register id clauses scope =>
    rw [request] at hg ⊢
    rw [events]
    cases hd : r.declared id clauses scope with
    | error e => rfl
    | ok d =>
      rw [hd] at hg
      obtain ⟨ch, hch⟩ := exists_register (hg _ rfl)
      simp only [tried_of_released hrel, hch]
      rfl
  | commit draft scope =>
    rw [request] at hg ⊢
    rw [events]
    split at hg
    · next hc =>
      rw [if_pos hc, if_pos hc]
      rfl
    · next hc =>
      obtain ⟨reg, hreg⟩ := hg _ rfl
      obtain ⟨s, hd⟩ := hs.exists_definition hreg
      obtain ⟨ch, hch⟩ := exists_commit hd (draft.build (r.effectiveScope scope))
      rw [if_neg hc, if_neg hc]
      simp only [tried_of_released hrel, hch]
      rfl
  | resolveDeferred =>
    rw [events, tried_of_released hrel]
    rfl
  | addConstraint k scope =>
    rw [events]
    split
    · rw [tried_of_released hrel]
      split <;> rfl
    · rfl
  | releaseScope scope => cases hop
  | scheduleRelease scope => cases hop
  | releasePending => cases hop
  | clear => cases hop
  | enterScope scope => rfl
  | leaveScope => rfl
  | evaluate parent child name => rfl
  | validChildren parent => rfl
  | validParents child => rfl
  | invalidateTable => rfl

/-- No scope is queued by an operation that takes nothing out. -/
theorem released_perform : (r.perform op).released = [] := by
  cases op with
  | register id clauses scope =>
    rw [perform, Action.after, run_register]
    cases r.declared id clauses scope with
    | ok d => exact released_change _ r
    | error e => exact hrel
  | commit draft scope =>
    rw [perform, Action.after, run_commit]
    split
    · exact hrel
    · exact released_change _ r
  | resolveDeferred => exact released_change _ r
  | addConstraint k scope =>
    rw [perform, Action.after, run_addConstraint]
    cases k.resolve with
    | ok k => exact released_change _ r
    | error e => exact hrel
  | releaseScope scope => cases hop
  | scheduleRelease scope => cases hop
  | releasePending => cases hop
  | clear => cases hop
  | enterScope scope => exact hrel
  | leaveScope => exact hrel
  | evaluate parent child name => exact released_queried hrel (queried_evaluate parent child name r)
  | validChildren parent => exact released_queried hrel (queried_validChildren parent r)
  | validParents child => exact released_queried hrel (queried_validParents child r)
  | invalidateTable => exact hrel

end Step

/-- **An orderly run gets what it asks for**, by induction on the run: whatever came before has
left the registrations of what was declared. -/
theorem history_of_orderly {r : Registry} {ops : List Operation}
    (h : Reached es r.snapshot.contents) (hk : ∀ ev ∈ es, ev.takesOut = false)
    (hrel : r.released = []) (hops : ∀ op ∈ ops, op.takesOut = false)
    (ho : Orderly (declarationsIn es) (r.requests ops)) :
    (r.history ops).filter Event.adds = r.requests ops ∧
      ∀ ev ∈ r.history ops, ev.takesOut = false := by
  induction ops generalizing es r with
  | nil => exact ⟨rfl, fun ev hm => absurd hm List.not_mem_nil⟩
  | cons op ops ih =>
    have hop := hops op List.mem_cons_self
    rw [requests] at ho ⊢
    obtain ⟨hnow, hlater⟩ := orderly_append.1 ho
    have hg : ∀ ev, r.request op = some ev → Granted r.snapshot.contents ev := by
      intro ev hev
      rw [hev] at hnow
      exact granted_of_orderly (loaded_of_reached h hk) hnow
    have hevs := filter_events hop hrel (reached_sound h) hg
    have hkeep : ∀ ev ∈ r.events op, ev.takesOut = false := fun ev => keeps_events hop hrel
    rw [← hevs, declarationsIn_filter, ← declarationsIn_append] at hlater
    obtain ⟨hrest, hkeeps⟩ := ih (reached_perform h op)
      (fun ev hm => (List.mem_append.1 hm).elim (hk ev) (hkeep ev)) (released_perform hop hrel)
      (fun op' hm => hops op' (List.mem_cons_of_mem _ hm)) hlater
    refine ⟨?_, fun ev hm => (List.mem_append.1 hm).elim (hkeep ev) (hkeeps ev)⟩
    rw [history, List.filter_append, hevs, hrest]

end Taxonomy

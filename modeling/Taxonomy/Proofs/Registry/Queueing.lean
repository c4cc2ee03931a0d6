import Mathlib.Algebra.GroupWithZero.Nat
import Taxonomy.Proofs.Placement.Currency
import Taxonomy.Proofs.Registry.Constraining
import Taxonomy.Proofs.Registry.Erasing
import Taxonomy.Proofs.Registry.Surviving

/-!
# Releases that are put off

A scope can be queued, to be released with the next change. The change then finds what it would have
found had the scopes been released at once; until then nothing is seen of the queue.

* `Registry.queue`, `releaseAll`: the same releases, put off and made at once.
* `run_releaseAll`: what releases come to that are made at once.
* `change_drained`: a change is the same before the queue is drained and afterwards.
* `drain_perform`: so is an operation that only adds.
* `snapshot_of_undrained`: what does not come to a change leaves the snapshot as it is.
* `queued_as_released`: a queue from any reachable state, and each change after it.
-/

namespace Taxonomy

open Registry

/-- **Queues scopes for release**, one after the other. -/
def Registry.queue (r : Registry) (ss : List ScopeRef) : Registry := ss.foldl scheduleRelease r

/-- **Releases scopes at once**, one after the other; what each release took out. -/
def releaseAll (ss : List ScopeRef) : Action (List Nat) := ss.mapM releaseScope

/-- **What an event has put there is there**: a type as it was declared, an extension of a type
unless it is empty, a constraint with its scope. -/
def Holdings.Has (h : Holdings) : Event → Prop
  | .registered d => ∃ reg, h.registrations.find? d.id = some reg ∧ reg.declaration = d
  | .extended t e => ∃ reg, h.registrations.find? t = some reg ∧
      (e.isEmpty = false → e ∈ reg.extensions)
  | .constrained (.placement k) scope => k ∈ h.placement ∧ (k.id, scope) ∈ h.constraintScopes
  | .constrained (.validation k) scope => k ∈ h.validation ∧ (k.id, scope) ∈ h.constraintScopes
  | .settled | .released _ | .cleared => True

variable {r : Registry} {ss : List ScopeRef} {op : Operation} {ev : Event}

/-! ## The queue and the releases -/

theorem queue_eq (r : Registry) (ss : List ScopeRef) :
    r.queue ss = { r with released := r.released ++ ss.filterMap (·.name?) } := by
  induction ss generalizing r with
  | nil => simp [queue]
  | cons s ss ih =>
    rw [queue, List.foldl_cons]
    refine (ih (r.scheduleRelease s)).trans ?_
    rw [scheduleRelease]
    cases hs : s.name? with
    | none => simp [hs]
    | some n => simp [hs]

theorem queue_eq_run (r : Registry) (ss : List ScopeRef) :
    r.queue ss = r.run (ss.map .scheduleRelease) := by
  rw [run, List.foldl_map]
  rfl

theorem drain_queue (hidle : r.released = []) (ss : List ScopeRef) :
    (r.queue ss).drain = (ss.filterMap (·.name?)).foldl
      (fun (n, r) s => let (m, r) := r.releaseNow s; (n + m, r)) (0, r) := by
  have hr : ({ r with released := [] } : Registry) = r := by
    cases r
    cases hidle
    rfl
  rw [queue_eq, drain, hidle, List.nil_append]
  simp only [hr]

/-- **What releases come to that are made at once**: as many are taken out, and the registry is
left in the same state, as when a queue of them is drained. -/
theorem run_releaseAll (hidle : r.released = []) (hss : ∀ s ∈ ss, s.name?.isSome = true) :
    ∃ counts, (releaseAll ss).run.run r = (.ok counts, (r.queue ss).drain.2) ∧
      counts.sum = (r.queue ss).drain.1 := by
  rw [drain_queue hidle]
  -- the count so far is carried along
  suffices h : ∀ (n : Nat) (r : Registry), r.released = [] →
      let q := (ss.filterMap (·.name?)).foldl
        (fun (n, r) s => let (m, r) := r.releaseNow s; (n + m, r)) (n, r)
      ∃ counts, (releaseAll ss).run.run r = (.ok counts, q.2) ∧ n + counts.sum = q.1 by
    obtain ⟨counts, hrun, hsum⟩ := h 0 r hidle
    exact ⟨counts, hrun, by rw [← hsum, Nat.zero_add]⟩
  intro n r hidle
  induction ss generalizing n r with
  | nil => exact ⟨[], rfl, rfl⟩
  | cons s ss ih =>
    obtain ⟨name, hname⟩ := Option.isSome_iff_exists.1 (hss s List.mem_cons_self)
    have hidle' : (r.releaseNow name).2.released = [] := (released_publish r _).trans hidle
    obtain ⟨counts, hrun, hsum⟩ := ih (fun s hs => hss s (List.mem_cons_of_mem _ hs))
      (n + (r.releaseNow name).1) (r.releaseNow name).2 hidle'
    simp only [List.filterMap_cons, hname, List.foldl_cons]
    refine ⟨(r.releaseNow name).1 :: counts, ?_, ?_⟩
    · rw [releaseAll, List.mapM_cons, run_bind, run_releaseScope_of_idle hidle hname]
      simp only
      rw [run_bind]
      rw [releaseAll] at hrun
      rw [hrun]
      rfl
    · rw [← hsum, List.sum_cons, Nat.add_assoc]

theorem run_releasePending (r : Registry) :
    releasePending.run.run r = (.ok r.drain.1, r.drain.2) := rfl

/-- What is done after the releases is done in the registry that a queue leaves. -/
theorem run_releaseAll_then {α : Type} (hidle : r.released = [])
    (hss : ∀ s ∈ ss, s.name?.isSome = true) (a : Action α) :
    (do let _ ← releaseAll ss; a).run.run r = a.run.run (r.queue ss).drain.2 := by
  obtain ⟨counts, hrun, -⟩ := run_releaseAll hidle hss
  rw [run_bind, hrun]

/-! ## Changes before and after the queue is drained -/

/-- **A change is the same before the queue is drained and afterwards.** -/
theorem change_drained {α : Type} (f : Contents → Result (Change α)) (r : Registry) :
    (change f).run.run r.drain.2 = (change f).run.run r := by
  rw [run_change, run_change, drain_of_released (released_drain r)]

theorem asked_drain (r : Registry) (op : Operation) : r.drain.2.asked op = r.asked op :=
  asked_congr (scopes_drain r) op

theorem declared_drain (r : Registry) (id : TypeRef) (clauses : List Clause) (scope : ScopeRef) :
    r.drain.2.declared id clauses scope = r.declared id clauses scope := by
  rw [declared, declared, effectiveScope_drain]

theorem register_drained {id : TypeRef} {clauses : List Clause} {scope : ScopeRef}
    {d : Declaration} (hd : r.declared id clauses scope = .ok d) :
    (register id clauses scope).run.run r.drain.2 = (register id clauses scope).run.run r := by
  rw [run_register, run_register, declared_drain, hd]
  exact change_drained _ r

theorem commit_drained {draft : ExtensionDraft} (hopen : draft.committed = false)
    (scope : ScopeRef) :
    (commit draft scope).run.run r.drain.2 = (commit draft scope).run.run r := by
  rw [run_commit, run_commit, hopen, effectiveScope_drain]
  exact change_drained _ r

theorem addConstraint_drained {k : ConstraintRef} {k' : Constraint} (hk : k.resolve = .ok k')
    (scope : ScopeRef) :
    (addConstraint k scope).run.run r.drain.2 = (addConstraint k scope).run.run r := by
  rw [run_addConstraint, run_addConstraint, hk, effectiveScope_drain]
  exact change_drained _ r

theorem releaseScope_drained {scope : ScopeRef} {s : Value} (hname : scope.name? = some s) :
    (releaseScope scope).run.run r.drain.2 = (releaseScope scope).run.run r := by
  rw [run_releaseScope, run_releaseScope, hname]
  exact change_drained _ r

theorem same_of_run {α : Type} {a : Action α} {r r' : Registry}
    (h : a.run.run r' = a.run.run r) :
    (Action.outcome a r').isOk = (Action.outcome a r).isOk ∧ Action.after a r' = Action.after a r :=
  ⟨congrArg (·.1.isOk) h, congrArg (·.2) h⟩

/-- An operation that asks for an event is granted, and done, in the same way. -/
theorem perform_drained (ha : r.asked op = .ok (some ev)) :
    r.drain.2.grants op = r.grants op ∧ r.drain.2.perform op = r.perform op := by
  cases op with
  | register id clauses scope =>
    rw [asked] at ha
    obtain ⟨d, hd, -⟩ := ok_of_bind ha
    exact same_of_run (register_drained hd)
  | commit draft scope =>
    rw [asked] at ha
    split at ha
    · cases ha
    · next hopen => exact same_of_run (commit_drained (by simpa using hopen) scope)
  | resolveDeferred =>
    have hsame : resolveDeferred.run.run r.drain.2 = resolveDeferred.run.run r :=
      change_drained _ r
    exact same_of_run hsame
  | addConstraint k scope =>
    rw [asked] at ha
    obtain ⟨k', hk, -⟩ := ok_of_bind ha
    exact same_of_run (addConstraint_drained hk scope)
  | _ => cases ha

/-- An operation whose arguments are refused leaves the registry as it is. -/
theorem perform_of_refused {e : Fault} (ha : r.asked op = .error e) : r.perform op = r := by
  cases op with
  | register id clauses scope =>
    rw [asked] at ha
    rw [perform, Action.after, run_register]
    cases hd : r.declared id clauses scope with
    | error f => rfl
    | ok d =>
      rw [hd] at ha
      cases ha
  | commit draft scope =>
    rw [asked] at ha
    rw [perform, Action.after, run_commit]
    split at ha
    · next hcommitted => rw [if_pos hcommitted]
    · cases ha
  | addConstraint k scope =>
    rw [asked] at ha
    rw [perform, Action.after, run_addConstraint]
    cases hk : k.resolve with
    | error f => rfl
    | ok k' =>
      rw [hk] at ha
      cases ha
  | _ => cases ha

/-- The releases that are due lead to a steady registry. -/
theorem steady_drain (hr : r.Reachable) : r.drain.2.Steady :=
  steady_of_reachable (hr.run [.releasePending]) rfl (released_drain r)

/-- **An operation that only adds leads to the same registry** when the queue is drained before
it. -/
theorem drain_perform (h : r.drain.2.Steady) (hop : op.loads = true) :
    (r.perform op).drain.2 = r.drain.2.perform op := by
  rcases perform_loads h hop with ⟨e, he, -, hsame⟩ | ⟨ev, hev, ht⟩ | rfl | ⟨scope, rfl⟩
  · rw [perform_of_refused ((asked_drain r op).symm.trans he), hsame]
  · -- the operation drains the queue itself
    obtain ⟨-, hperform⟩ := perform_drained ((asked_drain r op).symm.trans hev)
    rw [← hperform, drain_of_released ht.steady.idle]
  · refine (drain_withScopes r _).trans ?_
    rw [perform, leaveScope, scopes_drain]
  · refine (drain_withScopes r _).trans ?_
    rw [perform, enterScope, scopes_drain]

/-! ## Until the next change -/

theorem snapshot_of_queried {r' : Registry} (h : Queried r r') : r'.snapshot = r.snapshot := by
  obtain ⟨table, rebuilds, rfl⟩ := h
  rfl

/-- **What does not come to a change leaves the snapshot as it is**, unless all is forgotten. -/
theorem snapshot_of_undrained (h : r.drains op = false) (hop : op ≠ .clear) :
    (r.perform op).snapshot = r.snapshot := by
  cases op with
  | register id clauses scope =>
    rw [drains] at h
    rw [perform, Action.after, run_register]
    cases hd : r.declared id clauses scope with
    | error f => rfl
    | ok d =>
      rw [hd] at h
      cases h
  | commit draft scope =>
    rw [drains, Bool.not_eq_false'] at h
    rw [perform, Action.after, run_commit, if_pos h]
  | addConstraint k scope =>
    rw [drains] at h
    rw [perform, Action.after, run_addConstraint]
    cases hk : k.resolve with
    | error f => rfl
    | ok k' =>
      rw [hk] at h
      cases h
  | releaseScope scope =>
    rw [drains] at h
    rw [perform, Action.after, run_releaseScope]
    cases hs : scope.name? with
    | none => rfl
    | some name =>
      rw [hs] at h
      cases h
  | scheduleRelease scope =>
    rw [perform, scheduleRelease]
    cases scope.name? <;> rfl
  | evaluate parent child name => exact snapshot_of_queried (queried_evaluate parent child name r)
  | validChildren parent => exact snapshot_of_queried (queried_validChildren parent r)
  | validParents child => exact snapshot_of_queried (queried_validParents child r)
  | resolveDeferred => cases h
  | releasePending => cases h
  | clear => exact absurd rfl hop
  | enterScope scope => rfl
  | leaveScope => rfl
  | invalidateTable => rfl

theorem snapshot_of_undrained_run {ops : List Operation}
    (h : r.Throughout (fun r op => r.drains op = false ∧ op ≠ .clear) ops) :
    (r.run ops).snapshot = r.snapshot := by
  induction ops generalizing r with
  | nil => rfl
  | cons op ops ih =>
    obtain ⟨⟨hop, hne⟩, hops⟩ := h
    exact (ih hops).trans (snapshot_of_undrained hop hne)

/-! ## What a change puts there -/

/-- **What an event that is granted puts there is there.** -/
theorem has_act {h : Holdings} (ha : h.allows ev = true) : (ev.act h).Has ev := by
  cases ev with
  | registered d =>
    refine ⟨⟨d, []⟩, ?_, rfl⟩
    rw [Event.act, Event.effect, Catalog.find?_insert]
    exact if_pos rfl
  | extended t e =>
    obtain ⟨reg, hreg⟩ := Option.isSome_iff_exists.1 ha
    simp only [Holdings.Has, Event.act, Event.effect]
    cases he : e.isEmpty with
    | true => exact ⟨reg, hreg, fun hne => absurd hne (by simp)⟩
    | false =>
      refine ⟨reg.extend e, ?_, fun _ => List.mem_append_right _ (List.mem_singleton.2 rfl)⟩
      rw [if_neg Bool.false_ne_true, find?_addExtension, if_pos rfl, hreg, Option.map_some]
  | constrained k scope =>
    cases k with
    | placement k =>
      exact ⟨List.mem_append_right _ (List.mem_singleton.2 rfl),
        List.mem_append_right _ (List.mem_singleton.2 rfl)⟩
    | validation k =>
      exact ⟨List.mem_append_right _ (List.mem_singleton.2 rfl),
        List.mem_append_right _ (List.mem_singleton.2 rfl)⟩
  | settled => trivial
  | released s => trivial
  | cleared => trivial

theorem loads_of_asked (ha : r.asked op = .ok (some ev)) : op.loads = true := by
  rcases asked_cases ha with ⟨_, _, _, _, rfl, -⟩ | ⟨_, _, _, rfl, -⟩ | ⟨rfl, -⟩ |
    ⟨_, _, _, rfl, -⟩ <;> rfl

/-- **What an operation puts there is there afterwards**, behind whatever releases were due, and no
release is due any more. -/
theorem has_perform (hr : r.Reachable) (ha : r.asked op = .ok (some ev))
    (hok : r.grants op = true) :
    (r.perform op).holdings.Has ev ∧ (r.perform op).released = [] := by
  have hsteady := steady_drain hr
  obtain ⟨hgrants, hperform⟩ := perform_drained ha
  have htakes := takes_of_asked hsteady (loads_of_asked ha) ((asked_drain r op).trans ha)
  rw [hgrants, hperform] at htakes
  have hallowed : r.drain.2.holdings.allows ev = true := htakes.granted_eq ▸ hok
  refine ⟨?_, htakes.steady.idle⟩
  rw [htakes.holdings, Holdings.next, if_pos hallowed]
  exact has_act hallowed

/-! ## Queued and released -/

/-- The same is declared in a registry with a queue. -/
theorem declared_queue (r : Registry) (ss : List ScopeRef) (id : TypeRef) (clauses : List Clause)
    (scope : ScopeRef) : (r.queue ss).declared id clauses scope = r.declared id clauses scope := by
  rw [queue_eq]
  rfl

/-- **Queued scopes are as good as released.** From every reachable state in which no scope is
queued, for scopes that have names, be it several times the same:

* Until the next change the snapshot is as it was before they were queued.
* Each change whose arguments are not refused comes to what it comes to when the scopes are released
  before it: it has the same outcome, and leaves the same registry.
* When the queue is drained at once, the result is the sum of what the releases take out.
* What a change puts there is there afterwards, whatever its scope, and nothing is queued. -/
theorem queued_as_released (hr : r.Reachable) (hidle : r.released = [])
    (hss : ∀ s ∈ ss, s.name?.isSome = true) :
    (∀ ops, (r.queue ss).Throughout (fun r op => r.drains op = false ∧ op ≠ .clear) ops →
      ((r.queue ss).run ops).snapshot = r.snapshot) ∧
    (∀ id clauses scope d, r.declared id clauses scope = .ok d →
      (register id clauses scope).run.run (r.queue ss) =
        (do let _ ← releaseAll ss; register id clauses scope).run.run r) ∧
    (∀ draft scope, draft.committed = false →
      (commit draft scope).run.run (r.queue ss) =
        (do let _ ← releaseAll ss; commit draft scope).run.run r) ∧
    (∀ k scope, (addConstraint (.constraint k) scope).run.run (r.queue ss) =
      (do let _ ← releaseAll ss; addConstraint (.constraint k) scope).run.run r) ∧
    resolveDeferred.run.run (r.queue ss) =
      (do let _ ← releaseAll ss; resolveDeferred).run.run r ∧
    (∀ scope s, scope.name? = some s → (releaseScope scope).run.run (r.queue ss) =
      (do let _ ← releaseAll ss; releaseScope scope).run.run r) ∧
    releasePending.run.run (r.queue ss) =
      (do let counts ← releaseAll ss; return counts.sum).run.run r ∧
    ∀ op ev, (r.queue ss).asked op = .ok (some ev) → (r.queue ss).grants op = true →
      ((r.queue ss).perform op).holdings.Has ev ∧ ((r.queue ss).perform op).released = [] := by
  refine ⟨fun ops hops => ?_, fun id clauses scope d hd => ?_, fun draft scope hopen => ?_,
    fun k scope => ?_, ?_, fun scope s hname => ?_, ?_, fun op ev ha hok => ?_⟩
  · refine (snapshot_of_undrained_run hops).trans ?_
    rw [queue_eq]
  · rw [run_releaseAll_then hidle hss]
    exact (register_drained ((declared_queue r ss id clauses scope).trans hd)).symm
  · rw [run_releaseAll_then hidle hss]
    exact (commit_drained hopen scope).symm
  · rw [run_releaseAll_then hidle hss]
    exact (addConstraint_drained rfl scope).symm
  · rw [run_releaseAll_then hidle hss]
    exact (change_drained _ _).symm
  · rw [run_releaseAll_then hidle hss]
    exact (releaseScope_drained hname).symm
  · obtain ⟨counts, hrun, hsum⟩ := run_releaseAll hidle hss
    rw [run_releasePending, run_bind, hrun, ← hsum]
    rfl
  · rw [queue_eq_run] at ha hok ⊢
    exact has_perform (hr.run _) ha hok

/-- A registry with a type, and with one of a plugin. -/
def noted : Registry :=
  ({ name := "files" } : Registry).run
    [.register (.id ⟨"file", "base"⟩) [] .none,
      .register (.id ⟨"file", "note"⟩) [] (.value "plugin")]

/-- The plugin is queued twice; its type is extended, or is registered again for the plugin. -/
theorem queued_as_released_twice :
    let ss := [ScopeRef.value "plugin", .value "theme", .value "plugin"]
    let again := register (.id ⟨"file", "note"⟩) [] (.value "plugin")
    let extend := commit { existing := { id := ⟨"file", "note"⟩ } }
    (noted.queue ss).snapshot = noted.snapshot ∧
    again.run.run (noted.queue ss) = (do let _ ← releaseAll ss; again).run.run noted ∧
    (Action.outcome again (noted.queue ss)).isOk = true ∧
    (Action.after again (noted.queue ss)).holdings.Has
      (.registered { id := ⟨"file", "note"⟩, scope := some "plugin" }) ∧
    extend.run.run (noted.queue ss) = (do let _ ← releaseAll ss; extend).run.run noted ∧
    (Action.outcome extend (noted.queue ss)).isOk = false ∧
    releasePending.run.run (noted.queue ss) =
      (do let counts ← releaseAll ss; return counts.sum).run.run noted ∧
    (Action.outcome releasePending (noted.queue ss)).toOption = some 1 := by
  intro ss again extend
  have hr : noted.Reachable := ⟨"files", _, rfl⟩
  have hidle : noted.released = [] := by decide +kernel
  have hnames : ∀ s ∈ ss, s.name?.isSome = true := by decide +kernel
  have hscope : (ScopeRef.value "plugin").name? = some "plugin" := by decide +kernel
  have hdecl : noted.declared (.id ⟨"file", "note"⟩) [] (.value "plugin") =
      .ok { id := ⟨"file", "note"⟩, scope := some "plugin" } := by
    rw [declared, effectiveScope, hscope]
    rfl
  obtain ⟨huntil, hregister, hcommit, -, -, -, hpending, hhas⟩ :=
    queued_as_released hr hidle hnames
  have hagain : (Action.outcome again (noted.queue ss)).isOk = true := by decide +kernel
  have hasked : (noted.queue ss).asked
      (.register (.id ⟨"file", "note"⟩) [] (.value "plugin")) =
        .ok (some (.registered { id := ⟨"file", "note"⟩, scope := some "plugin" })) := by
    rw [asked, declared_queue, hdecl]
    rfl
  refine ⟨huntil [] trivial, hregister _ _ _ _ hdecl, hagain, (hhas _ _ hasked hagain).1,
    hcommit _ _ rfl, by decide +kernel, hpending, by decide +kernel⟩

end Taxonomy

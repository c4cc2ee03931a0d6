import Taxonomy.Registry.Basic
import Taxonomy.Proofs.Registry.Soundness

/-!
# Runs of a registry and their histories

A run is any series of operations on a registry, each of them done or refused. Its history says
what happened to the contents.

* `Operation`, `Registry.perform`, `Registry.run`: what callers do with a registry.
* `Registry.events`, `Registry.history`: what comes of it. Scopes that are queued are released
  with the next change, even when that change is refused.
* `tried_eq`: an event is recorded exactly if its change is made.
* `Registry.Causes`, `causes_of_mem_history`: the operations that events come of.
* `reached_run`: the contents after a run are those that its history leads to.
* `Registry.Reachable.sound`: the contents are sound in every reachable state.
-/

namespace Taxonomy

/-- **What callers do with a registry.** -/
inductive Operation where
  | register (id : TypeRef) (clauses : List Clause) (scope : ScopeRef)
  | commit (draft : ExtensionDraft) (scope : ScopeRef)
  | resolveDeferred
  | addConstraint (k : ConstraintRef) (scope : ScopeRef)
  | releaseScope (scope : ScopeRef)
  | scheduleRelease (scope : ScopeRef)
  | releasePending
  | clear
  | enterScope (scope : ScopeRef)
  | leaveScope
  | evaluate (parent child : TypeId) (name : Value)
  | validChildren (parent : TypeRef)
  | validParents (child : TypeRef)
  | invalidateTable

/-- The outcome of an operation on a registry. -/
def Action.outcome {α : Type} (a : Action α) (r : Registry) : Result α := (a.run.run r).1

/-- The registry after an operation, be it done or refused. -/
def Action.after {α : Type} (a : Action α) (r : Registry) : Registry := (a.run.run r).2

namespace Registry

variable (r : Registry)

/-- **The registry after an operation.** -/
def perform : Operation → Registry
  | .register id clauses scope => Action.after (register id clauses scope) r
  | .commit draft scope => Action.after (commit draft scope) r
  | .resolveDeferred => Action.after resolveDeferred r
  | .addConstraint k scope => Action.after (addConstraint k scope) r
  | .releaseScope scope => Action.after (releaseScope scope) r
  | .scheduleRelease scope => r.scheduleRelease scope
  | .releasePending => Action.after releasePending r
  | .clear => r.clear
  | .enterScope scope => r.enterScope scope
  | .leaveScope => r.leaveScope
  | .evaluate parent child name => Action.after (evaluate parent child name) r
  | .validChildren parent => Action.after (validChildren parent) r
  | .validParents child => Action.after (validParents child) r
  | .invalidateTable => r.invalidateTable

/-- **The registry after a run.** -/
def run (ops : List Operation) : Registry := ops.foldl perform r

/-- The declaration that the clauses of a registration amount to. -/
def declared (id : TypeRef) (clauses : List Clause) (scope : ScopeRef) : Result Declaration := do
  let draft ← ({ id := ← id.resolve } : TypeDraft).applyAll clauses
  return draft.build (r.effectiveScope scope)

/-- What comes of the queued scopes with the next change. -/
def drained : List Event := r.released.map .released

/-- What comes of a change that passes the checks of its arguments. -/
def tried {α : Type} (ev : Event) (f : Contents → Result (Change α)) : List Event :=
  r.drained ++ match f r.drain.2.snapshot.contents with
    | .ok _ => [ev]
    | .error _ => []

/-- **What comes of an operation.** -/
def events : Operation → List Event
  | .register id clauses scope => match r.declared id clauses scope with
    | .ok d => r.tried (.registered d) (·.register d)
    | .error _ => []
  | .commit draft scope =>
    if draft.committed then []
    else
      let e := draft.build (r.effectiveScope scope)
      r.tried (.extended draft.existing.id e) (·.commit draft.existing.id e)
  | .resolveDeferred => r.tried .settled fun c => pure c.resolveDeferred
  | .addConstraint k scope => match k.resolve with
    | .ok k =>
      let s := r.effectiveScope scope
      r.tried (.constrained k s) (·.addConstraint k s)
    | .error _ => []
  | .releaseScope scope => match scope.name? with
    | some name => r.tried (.released name) fun c => pure (c.release name)
    | none => []
  | .releasePending => r.drained
  | .clear => [.cleared]
  | .scheduleRelease _ | .enterScope _ | .leaveScope => []
  | .evaluate .. | .validChildren _ | .validParents _ | .invalidateTable => []

/-- **What comes of a run.** Events of one operation are those of the registry
that the operations before it have left. -/
def history : Registry → List Operation → List Event
  | _, [] => []
  | r, op :: ops => r.events op ++ history (r.perform op) ops

/-- **A state that some run of a new registry leads to.** -/
def Reachable (r : Registry) : Prop :=
  ∃ name ops, ({ name } : Registry).run ops = r

end Registry

open Registry

variable {r : Registry}

/-! ## Changes and the queue -/

@[simp] theorem contents_publish {α : Type} (r : Registry) (ch : Change α) :
    (r.publish ch).snapshot.contents = ch.after r.snapshot.contents := by
  unfold publish Change.after
  cases ch.update <;> rfl

@[simp] theorem released_publish {α : Type} (r : Registry) (ch : Change α) :
    (r.publish ch).released = r.released := by
  unfold publish
  cases ch.update <;> rfl

/-- Releases, one after the other, leave the queue alone. -/
theorem foldl_releaseNow (ss : List Value) (n : Nat) (r : Registry) :
    let q := ss.foldl (fun (n, r) s => let (m, r) := r.releaseNow s; (n + m, r)) (n, r)
    q.2.snapshot.contents = ss.foldl (fun c s => (c.release s).after c) r.snapshot.contents ∧
      q.2.released = r.released := by
  induction ss generalizing n r with
  | nil => exact ⟨rfl, rfl⟩
  | cons s ss ih =>
    obtain ⟨hc, hr⟩ := ih (n + (r.releaseNow s).1) (r.releaseNow s).2
    simp only [List.foldl_cons, releaseNow, contents_publish, released_publish] at hc hr ⊢
    exact ⟨hc, hr⟩

theorem contents_drain (r : Registry) :
    r.drain.2.snapshot.contents =
      r.released.foldl (fun c s => (c.release s).after c) r.snapshot.contents :=
  (foldl_releaseNow r.released 0 { r with released := [] }).1

@[simp] theorem released_drain (r : Registry) : r.drain.2.released = [] :=
  (foldl_releaseNow r.released 0 { r with released := [] }).2

/-- Where no scope is queued, there is nothing to release. -/
theorem drain_of_released (h : r.released = []) : r.drain = (0, r) := by
  rw [drain, h, List.foldl_nil]
  cases r
  cases h
  rfl

/-! ## Operations, told apart by their outcomes -/

section Peel

variable {α β : Type}

theorem run_lift (x : Result β) (k : β → Action α) (r : Registry) :
    (liftM x >>= k : Action α).run.run r = match x with
      | .ok b => (k b).run.run r
      | .error e => (.error e, r) := by
  cases x <;> rfl

theorem run_get (k : Registry → Action α) (r : Registry) :
    (get >>= k : Action α).run.run r = (k r).run.run r := rfl

theorem run_modify (g : Registry → Registry) (k : Unit → Action α) (r : Registry) :
    (modify g >>= k : Action α).run.run r = (k ()).run.run (g r) := rfl

/-- The bind of two operations on a state, told apart by the outcome of the first. -/
theorem run_bind {σ : Type} (a : ExceptT Fault (StateM σ) β) (k : β → ExceptT Fault (StateM σ) α)
    (s : σ) : (a >>= k).run.run s = match a.run.run s with
      | (.ok b, s') => (k b).run.run s'
      | (.error e, s') => (.error e, s') := by
  -- the bind of the outer layer, after the state has been passed on
  change (match a.run.run s with
    | (x, s') => ExceptT.bindCont k x s') = _
  rcases a.run.run s with ⟨x, s'⟩
  cases x <;> rfl

/-- A step that keeps the contents, before one that keeps the registry. -/
theorem after_bind {a : Action β} {k : β → Action α} (h : ∀ b r, Action.after (k b) r = r)
    (r : Registry) : Action.after (a >>= k) r = Action.after a r := by
  unfold Action.after at *
  rw [run_bind]
  rcases a.run.run r with ⟨x, r'⟩
  cases x with
  | ok b => exact h b r'
  | error e => rfl

end Peel

/-- **A change**: the queued scopes are released, and then it is made or refused. -/
theorem run_change {α : Type} (f : Contents → Result (Change α)) (r : Registry) :
    (change f).run.run r = match f r.drain.2.snapshot.contents with
      | .ok ch => (.ok ch.result, r.drain.2.publish ch)
      | .error e => (.error e, r.drain.2) := by
  rw [change, run_modify, run_get, run_lift]
  cases f r.drain.2.snapshot.contents <;> rfl

/-- No scope is queued after a change. -/
theorem released_change {α : Type} (f : Contents → Result (Change α)) (r : Registry) :
    (Action.after (change f) r).released = [] := by
  rw [Action.after, run_change]
  cases f r.drain.2.snapshot.contents with
  | ok ch => exact (released_publish _ _).trans (released_drain r)
  | error e => exact released_drain r

theorem run_register (id : TypeRef) (clauses : List Clause) (scope : ScopeRef) (r : Registry) :
    (register id clauses scope).run.run r = match r.declared id clauses scope with
      | .ok d => (change (·.register d)).run.run r
      | .error e => (.error e, r) := by
  rw [register, run_lift, declared]
  cases id.resolve with
  | error e => rfl
  | ok i =>
    simp only [bind, Except.bind]
    cases ({ id := i } : TypeDraft).applyAll clauses <;> rfl

theorem run_commit (draft : ExtensionDraft) (scope : ScopeRef) (r : Registry) :
    (commit draft scope).run.run r =
      if draft.committed then (.error (.alreadyCommitted draft.existing.id), r)
      else (change (·.commit draft.existing.id
        (draft.build (r.effectiveScope scope)))).run.run r := by
  rw [commit]
  split <;> rfl

theorem run_addConstraint (k : ConstraintRef) (scope : ScopeRef) (r : Registry) :
    (addConstraint k scope).run.run r = match k.resolve with
      | .ok k => (change (·.addConstraint k (r.effectiveScope scope))).run.run r
      | .error e => (.error e, r) := by
  rw [addConstraint, run_lift]
  cases k.resolve <;> rfl

theorem run_releaseScope (scope : ScopeRef) (r : Registry) :
    (releaseScope scope).run.run r = match scope.name? with
      | some name => (change fun c => pure (c.release name)).run.run r
      | none => (.error .releaseWithoutScope, r) := by
  rw [releaseScope]
  cases scope.name? <;> rfl

/-- **Queries** keep the placement table, and change nothing else. -/
def Queried (r r' : Registry) : Prop :=
  ∃ table rebuilds, r' = { r with table, rebuilds }

theorem queried_currentTable (r : Registry) : Queried r (Action.after currentTable r) := by
  unfold Action.after currentTable
  rw [run_get]
  cases ht : r.table with
  | none => exact ⟨_, _, rfl⟩
  | some table =>
    simp only
    split
    · exact ⟨r.table, r.rebuilds, rfl⟩
    · exact ⟨_, _, rfl⟩

/-! A question leaves what reading the table leaves; one whose argument is refused leaves all. -/

theorem after_evaluate (parent child : TypeId) (name : Value) (r : Registry) :
    Action.after (evaluate parent child name) r = Action.after currentTable r := by
  rw [evaluate, after_bind]
  intro table r
  rfl

theorem after_validChildren (parent : TypeRef) (r : Registry) :
    Action.after (validChildren parent) r = Action.after currentTable r := by
  rw [validChildren, after_bind]
  intro table r
  unfold Action.after
  rw [run_lift]
  cases parent.resolve <;> rfl

theorem after_validParents (child : TypeRef) (r : Registry) :
    Action.after (validParents child) r = Action.after currentTable r ∨
      Action.after (validParents child) r = r := by
  rw [Action.after, validParents, run_lift]
  cases child.resolve with
  | ok t => exact .inl (after_bind (fun _ _ => rfl) r)
  | error e => exact .inr rfl

theorem queried_evaluate (parent child : TypeId) (name : Value) (r : Registry) :
    Queried r (Action.after (evaluate parent child name) r) := by
  rw [after_evaluate]
  exact queried_currentTable r

theorem queried_validChildren (parent : TypeRef) (r : Registry) :
    Queried r (Action.after (validChildren parent) r) := by
  rw [after_validChildren]
  exact queried_currentTable r

theorem queried_validParents (child : TypeRef) (r : Registry) :
    Queried r (Action.after (validParents child) r) := by
  rcases after_validParents child r with h | h
  · rw [h]
    exact queried_currentTable r
  · rw [h]
    exact ⟨r.table, r.rebuilds, rfl⟩

/-! ## Events -/

/-- **An event is recorded exactly if its change is made.** -/
theorem tried_eq {α : Type} (ev : Event) (f : Contents → Result (Change α)) (r : Registry) :
    r.tried ev f =
      r.drained ++ if (Action.outcome (change f) r).isOk then [ev] else [] := by
  rw [tried, Action.outcome, run_change]
  cases f r.drain.2.snapshot.contents <;> rfl

/-- What comes of a change is its own event, apart from releases. -/
theorem of_mem_tried {α : Type} {ev ev' : Event} {f : Contents → Result (Change α)}
    (h : ev' ∈ r.tried ev f) : ev' = ev ∨ ∃ s, ev' = .released s := by
  rw [tried, List.mem_append] at h
  rcases h with h | h
  · obtain ⟨s, -, rfl⟩ := List.mem_map.1 h
    exact .inr ⟨s, rfl⟩
  · split at h
    · exact .inl (List.mem_singleton.1 h)
    · exact absurd h List.not_mem_nil

/-- **What an event comes of**: a release can come of any operation, and each other event comes of
the operation that asks for it. -/
inductive Registry.Causes (r : Registry) : Operation → Event → Prop where
  | register {id : TypeRef} {clauses : List Clause} {scope : ScopeRef} {d : Declaration}
    (h : r.declared id clauses scope = .ok d) :
    Causes r (.register id clauses scope) (.registered d)
  | commit (draft : ExtensionDraft) (scope : ScopeRef) : Causes r (.commit draft scope)
    (.extended draft.existing.id (draft.build (r.effectiveScope scope)))
  | settle : Causes r .resolveDeferred .settled
  | constrain {k : ConstraintRef} {k' : Constraint} (scope : ScopeRef) (h : k.resolve = .ok k') :
    Causes r (.addConstraint k scope) (.constrained k' (r.effectiveScope scope))
  | release (op : Operation) (s : Value) : Causes r op (.released s)
  | clear : Causes r .clear .cleared

/-- A change causes its own event. -/
theorem Registry.Causes.of_mem_tried {α : Type} {ev ev' : Event} {f : Contents → Result (Change α)}
    {op : Operation} (hev : r.Causes op ev) (h : ev' ∈ r.tried ev f) : r.Causes op ev' := by
  rcases Taxonomy.of_mem_tried h with rfl | ⟨s, rfl⟩
  · exact hev
  · exact .release op s

/-- **Every event of an operation is caused by it.** -/
theorem causes_of_mem_events {op : Operation} {ev : Event} (h : ev ∈ r.events op) :
    r.Causes op ev := by
  cases op with
  | register id clauses scope =>
    rw [events] at h
    split at h
    · next d hd => exact (Causes.register hd).of_mem_tried h
    · exact absurd h List.not_mem_nil
  | commit draft scope =>
    rw [events] at h
    split at h
    · exact absurd h List.not_mem_nil
    · exact (Causes.commit draft scope).of_mem_tried h
  | resolveDeferred =>
    rw [events] at h
    exact Causes.settle.of_mem_tried h
  | addConstraint k scope =>
    rw [events] at h
    split at h
    · next k' hk => exact (Causes.constrain scope hk).of_mem_tried h
    · exact absurd h List.not_mem_nil
  | releaseScope scope =>
    rw [events] at h
    split at h
    · next name _ => exact (Causes.release (.releaseScope scope) name).of_mem_tried h
    · exact absurd h List.not_mem_nil
  | releasePending =>
    obtain ⟨s, -, rfl⟩ := List.mem_map.1 h
    exact .release _ s
  | clear =>
    obtain rfl := List.mem_singleton.1 h
    exact .clear
  | scheduleRelease scope => exact absurd h List.not_mem_nil
  | enterScope scope => exact absurd h List.not_mem_nil
  | leaveScope => exact absurd h List.not_mem_nil
  | evaluate parent child name => exact absurd h List.not_mem_nil
  | validChildren parent => exact absurd h List.not_mem_nil
  | validParents child => exact absurd h List.not_mem_nil
  | invalidateTable => exact absurd h List.not_mem_nil

/-- **Every event of a run is caused by one of its operations.** -/
theorem causes_of_mem_history {ops : List Operation} {ev : Event} (h : ev ∈ r.history ops) :
    ∃ op ∈ ops, ∃ r' : Registry, r'.Causes op ev := by
  induction ops generalizing r with
  | nil => exact absurd h List.not_mem_nil
  | cons op ops ih =>
    rcases List.mem_append.1 h with h | h
    · exact ⟨op, List.mem_cons_self, r, causes_of_mem_events h⟩
    · obtain ⟨op', hop, hcause⟩ := ih h
      exact ⟨op', List.mem_cons_of_mem _ hop, hcause⟩

/-! ## The history of a run -/

variable {es : List Event} {c : Contents}

/-- What the queued scopes lead to. -/
theorem reached_releases (h : Reached es c) (ss : List Value) :
    Reached (es ++ ss.map .released) (ss.foldl (fun c s => (c.release s).after c) c) := by
  induction ss generalizing es c with
  | nil => rwa [List.map_nil, List.append_nil]
  | cons s ss ih =>
    have hr := ih (h.next (.released s))
    rwa [List.append_assoc] at hr

/-- What draining the queue leads to. -/
theorem reached_drain (h : Reached es r.snapshot.contents) :
    Reached (es ++ r.drained) r.drain.2.snapshot.contents := by
  rw [contents_drain]
  exact reached_releases h r.released

theorem after_change {α : Type} (f : Contents → Result (Change α)) (r : Registry) :
    (Action.after (change f) r).snapshot.contents =
      match f r.drain.2.snapshot.contents with
      | .ok ch => ch.after r.drain.2.snapshot.contents
      | .error _ => r.drain.2.snapshot.contents := by
  rw [Action.after, run_change]
  cases f r.drain.2.snapshot.contents with
  | ok ch => exact contents_publish _ _
  | error e => rfl

/-- A change that passes the checks of its arguments. -/
theorem reached_change {α : Type} {ev : Event} {f : Contents → Result (Change α)}
    (hf : ∀ c ch, f c = .ok ch → Step c ev (ch.after c)) (h : Reached es r.snapshot.contents) :
    Reached (es ++ r.tried ev f) (Action.after (change f) r).snapshot.contents := by
  have hd := reached_drain h
  rw [after_change, tried]
  cases hc : f r.drain.2.snapshot.contents with
  | ok ch =>
    have hn := hd.next (hf _ ch hc)
    rwa [List.append_assoc] at hn
  | error e => rwa [List.append_nil]

theorem reached_queried {r' : Registry} (h : Reached es r.snapshot.contents) (hq : Queried r r') :
    Reached es r'.snapshot.contents := by
  obtain ⟨table, rebuilds, rfl⟩ := hq
  exact h

/-- **The contents after an operation** are those that its events lead to. -/
theorem reached_perform (h : Reached es r.snapshot.contents) (op : Operation) :
    Reached (es ++ r.events op) (r.perform op).snapshot.contents := by
  cases op with
  | register id clauses scope =>
    rw [perform, events, Action.after, run_register]
    cases r.declared id clauses scope with
    | ok d => exact reached_change (fun c ch hc => .registered hc) h
    | error e => rwa [List.append_nil]
  | commit draft scope =>
    rw [perform, events, Action.after, run_commit]
    split
    · rwa [List.append_nil]
    · exact reached_change (fun c ch hc => .extended hc) h
  | resolveDeferred =>
    rw [perform, events, resolveDeferred]
    refine reached_change (fun c ch hc => ?_) h
    obtain rfl := Except.ok.inj hc
    exact .settled
  | addConstraint k scope =>
    rw [perform, events, Action.after, run_addConstraint]
    cases k.resolve with
    | ok k => exact reached_change (fun c ch hc => .constrained hc) h
    | error e => rwa [List.append_nil]
  | releaseScope scope =>
    rw [perform, events, Action.after, run_releaseScope]
    cases scope.name? with
    | none => rwa [List.append_nil]
    | some name =>
      refine reached_change (fun c ch hc => ?_) h
      obtain rfl := Except.ok.inj hc
      exact .released name
  | scheduleRelease scope =>
    rw [perform, events, List.append_nil, scheduleRelease]
    cases scope.name? <;> exact h
  | releasePending => exact reached_drain h
  | clear => exact h.next .cleared
  | enterScope scope => rwa [events, List.append_nil]
  | leaveScope => rwa [events, List.append_nil]
  | evaluate parent child name =>
    rw [perform, events, List.append_nil]
    exact reached_queried h (queried_evaluate parent child name r)
  | validChildren parent =>
    rw [perform, events, List.append_nil]
    exact reached_queried h (queried_validChildren parent r)
  | validParents child =>
    rw [perform, events, List.append_nil]
    exact reached_queried h (queried_validParents child r)
  | invalidateTable => rwa [events, List.append_nil]

theorem reached_runs (h : Reached es r.snapshot.contents) (ops : List Operation) :
    Reached (es ++ r.history ops) (r.run ops).snapshot.contents := by
  induction ops generalizing es r with
  | nil => rwa [history, List.append_nil]
  | cons op ops ih =>
    have hn := ih (reached_perform h op)
    rwa [List.append_assoc] at hn

/-- **The contents after a run** of a new registry are those that its history leads to. -/
theorem reached_run (name : String) (ops : List Operation) :
    Reached (({ name } : Registry).history ops) (({ name } : Registry).run ops).snapshot.contents :=
  reached_runs (r := { name }) .start ops

/-- Runs go on from reachable states. -/
theorem Registry.Reachable.run (h : r.Reachable) (ops : List Operation) :
    (r.run ops).Reachable := by
  obtain ⟨name, before, rfl⟩ := h
  exact ⟨name, before ++ ops, List.foldl_append⟩

/-- **In every reachable state the contents are sound.** -/
theorem Registry.Reachable.sound (h : r.Reachable) : r.snapshot.contents.Sound := by
  obtain ⟨name, ops, rfl⟩ := h
  exact reached_sound (reached_run name ops)

end Taxonomy

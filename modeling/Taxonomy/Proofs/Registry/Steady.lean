import Taxonomy.Proofs.Registry.Holdings
import Taxonomy.Proofs.Registry.Resolution

/-!
# Registries with an empty queue

Where no scope waits for its release, a change of a registry is an event of its own: it is granted
exactly if the holdings allow it, and then it does what the event says. Otherwise nothing changes.

* `Registry.Steady`: sound contents, and nothing queued.
* `takes_change`: what a change comes to.
* `Registry.asked`: the event that an operation asks for.
* `perform_loads`: what an operation comes to that only adds to a registry.
-/

namespace Taxonomy

open Registry

/-- What was put into a registry. -/
def Registry.holdings (r : Registry) : Holdings := r.snapshot.contents.holdings

/-- **A registry with sound contents and an empty queue.** -/
structure Registry.Steady (r : Registry) : Prop where
  sound : r.snapshot.contents.Sound
  listed : r.holdings.Listed
  idle : r.released = []

theorem steady_new (name : String) : ({ name } : Registry).Steady :=
  ⟨sound_empty, ⟨by simp [holdings, Contents.holdings], by simp [holdings, Contents.holdings]⟩, rfl⟩

/-- Where nothing is queued, a registry is steady whose snapshot some run has led to, whatever else
it keeps. -/
theorem steady_of_reachable {r q : Registry} (h : q.Reachable) (hsnap : r.snapshot = q.snapshot)
    (hidle : r.released = []) : r.Steady := by
  refine ⟨hsnap ▸ h.sound, ?_, hidle⟩
  obtain ⟨name, ops, rfl⟩ := h
  rw [holdings, hsnap]
  exact listed_of_reached (reached_run name ops)

theorem Registry.Steady.enterScope {r : Registry} (h : r.Steady) (scope : ScopeRef) :
    (r.enterScope scope).Steady := ⟨h.sound, h.listed, h.idle⟩

theorem Registry.Steady.leaveScope {r : Registry} (h : r.Steady) : r.leaveScope.Steady :=
  ⟨h.sound, h.listed, h.idle⟩

/-- What is held after an event that is granted or refused. -/
def Holdings.next (h : Holdings) (ev : Event) : Holdings := if h.allows ev then ev.act h else h

/-- **What an event comes to**: whether it is granted, and the registry afterwards. -/
structure Takes (r : Registry) (ev : Event) (granted : Bool) (r' : Registry) : Prop where
  granted_eq : granted = r.holdings.allows ev
  steady : r'.Steady
  scopes : r'.scopes = r.scopes
  holdings : r'.holdings = r.holdings.next ev

/-! ## Changes -/

/-- **A change that follows an event**: made exactly if the event is allowed. -/
structure Follows {α : Type} (f : Contents → Result (Change α)) (ev : Event) : Prop where
  made : ∀ {c}, c.Sound → c.holdings.allows ev = true → ∃ ch, f c = .ok ch
  step : ∀ {c ch}, c.Sound → f c = .ok ch →
    c.holdings.allows ev = true ∧ Step c ev (ch.after c)

theorem follows_register (d : Declaration) : Follows (·.register d) (.registered d) where
  made _ ha := exists_register (Option.isNone_iff_eq_none.1 ha)
  step _ hok := ⟨Option.isNone_iff_eq_none.2 (register_ok hok).1, .registered hok⟩

theorem follows_commit (t : TypeId) (e : Extension) : Follows (·.commit t e) (.extended t e) where
  made hc ha := by
    obtain ⟨r, hr⟩ := Option.isSome_iff_exists.1 ha
    obtain ⟨s, hs⟩ := hc.exists_definition hr
    exact exists_commit hs e
  step hc hok := by
    obtain ⟨⟨a, ha⟩, -⟩ := commit_ok hc.coherent hok
    obtain ⟨r, hr, -⟩ := hc.exists_registration ha
    exact ⟨Option.isSome_iff_exists.2 ⟨r, hr⟩, .extended hok⟩

theorem follows_resolveDeferred : Follows (fun c => pure c.resolveDeferred) .settled where
  made _ _ := ⟨_, rfl⟩
  step _ hok := by
    obtain rfl := Except.ok.inj hok
    exact ⟨rfl, .settled⟩

theorem follows_addConstraint (k : Constraint) (scope : Option Value) :
    Follows (·.addConstraint k scope) (.constrained k scope) where
  made {c} _ ha := by
    have hnot : c.constraintScopes.any (·.1 == k.id) = false := (Bool.not_eq_true' _).mp ha
    rw [Contents.addConstraint, hnot]
    exact ⟨_, rfl⟩
  step {c ch} _ hok := by
    refine ⟨?_, .constrained hok⟩
    rw [Contents.addConstraint] at hok
    split at hok
    · cases hok
    · next hnot => exact (Bool.not_eq_true' _).mpr (Bool.eq_false_iff.2 hnot)

theorem follows_release (s : Value) : Follows (fun c => pure (c.release s)) (.released s) where
  made _ _ := ⟨_, rfl⟩
  step _ hok := by
    obtain rfl := Except.ok.inj hok
    exact ⟨rfl, .released s⟩

variable {r r' : Registry} {ev : Event}

theorem scopes_publish {α : Type} (r : Registry) (ch : Change α) :
    (r.publish ch).scopes = r.scopes := by
  unfold publish
  cases ch.update <;> rfl

/-- **What a change comes to** in a steady registry. -/
theorem takes_change {α : Type} {f : Contents → Result (Change α)} (hf : Follows f ev)
    (h : r.Steady) :
    Takes r ev (Action.outcome (change f) r).isOk (Action.after (change f) r) := by
  rw [Action.outcome, Action.after, run_change, drain_of_released h.idle]
  cases hc : f r.snapshot.contents with
  | ok ch =>
    obtain ⟨ha, hs⟩ := hf.step h.sound hc
    have hh : (r.publish ch).holdings = ev.act r.holdings := by
      rw [Registry.holdings, contents_publish]
      exact step_holdings h.sound hs
    have hsound : (r.publish ch).snapshot.contents.Sound := by
      rw [contents_publish]
      exact step_sound h.sound hs
    refine ⟨ha.symm, ⟨hsound, ?_, (released_publish r ch).trans h.idle⟩, scopes_publish r ch, ?_⟩
    · rw [hh]
      exact listed_act h.listed ev
    · exact hh.trans (if_pos ha).symm
  | error e =>
    -- were it allowed, it would have been made
    have hno : r.holdings.allows ev ≠ true := by
      intro ha
      obtain ⟨ch, hch⟩ := hf.made h.sound ha
      rw [hc] at hch
      cases hch
    exact ⟨by simpa [Except.isOk, Except.toBool] using hno, h, rfl, (if_neg hno).symm⟩

/-- A release takes out what belongs to the scope. -/
theorem takes_releaseScope (h : r.Steady) {scope : ScopeRef} {s : Value}
    (hs : scope.name? = some s) :
    Takes r (.released s) (Action.outcome (releaseScope scope) r).isOk
      (Action.after (releaseScope scope) r) := by
  rw [Action.outcome, Action.after, run_releaseScope, hs]
  exact takes_change (follows_release s) h

theorem takes_resolveDeferred (h : r.Steady) :
    Takes r .settled (Action.outcome resolveDeferred r).isOk (Action.after resolveDeferred r) :=
  takes_change follows_resolveDeferred h

/-- **Registries that hold the same have the same contents once they are settled.** -/
theorem contents_eq_of_settled (h : r.Steady) (h' : r'.Steady) (hh : r.holdings = r'.holdings) :
    (Action.after resolveDeferred r).snapshot.contents =
      (Action.after resolveDeferred r').snapshot.contents := by
  obtain ⟨hs, hset⟩ := settled_after h.sound
  obtain ⟨hs', hset'⟩ := settled_after h'.sound
  have ht := (takes_resolveDeferred h).holdings
  have ht' := (takes_resolveDeferred h').holdings
  exact contents_eq_of_holdings hs hs' hset hset'
    (ht.trans ((congrArg (·.next .settled) hh).trans ht'.symm))

/-! ## Operations -/

/-- Does an operation only add to a registry, or settle what is there, or name a scope for what
comes? -/
def Operation.loads : Operation → Bool
  | .register .. | .commit .. | .resolveDeferred | .addConstraint .. => true
  | .enterScope _ | .leaveScope => true
  | .releaseScope _ | .scheduleRelease _ | .releasePending | .clear => false
  | .evaluate .. | .validChildren _ | .validParents _ | .invalidateTable => false

namespace Registry

/-- **Is an operation granted?** It is when it does not fail. -/
def grants (r : Registry) : Operation → Bool
  | .register id clauses scope => (Action.outcome (register id clauses scope) r).isOk
  | .commit draft scope => (Action.outcome (commit draft scope) r).isOk
  | .resolveDeferred => (Action.outcome resolveDeferred r).isOk
  | .addConstraint k scope => (Action.outcome (addConstraint k scope) r).isOk
  | .releaseScope scope => (Action.outcome (releaseScope scope) r).isOk
  | .scheduleRelease _ | .releasePending | .clear | .enterScope _ | .leaveScope => true
  | .evaluate parent child name => (Action.outcome (evaluate parent child name) r).isOk
  | .validChildren parent => (Action.outcome (validChildren parent) r).isOk
  | .validParents child => (Action.outcome (validParents child) r).isOk
  | .invalidateTable => true

/-- **The event that an operation asks for**, unless its arguments are refused; some ask for
none. -/
def asked (r : Registry) : Operation → Result (Option Event)
  | .register id clauses scope => do return some (.registered (← r.declared id clauses scope))
  | .commit draft scope =>
    if draft.committed then throw (.alreadyCommitted draft.existing.id)
    else pure (some (.extended draft.existing.id (draft.build (r.effectiveScope scope))))
  | .resolveDeferred => pure (some .settled)
  | .addConstraint k scope => do return some (.constrained (← k.resolve) (r.effectiveScope scope))
  | .releaseScope _ | .scheduleRelease _ | .releasePending | .clear => pure none
  | .enterScope _ | .leaveScope => pure none
  | .evaluate .. | .validChildren _ | .validParents _ | .invalidateTable => pure none

end Registry

/-- **An operation that only adds** has its arguments refused, or comes to what its event comes to,
or enters or leaves a scope. -/
theorem perform_loads (h : r.Steady) {op : Operation} (hop : op.loads = true) :
    (∃ e, r.asked op = .error e ∧ r.grants op = false ∧ r.perform op = r) ∨
      (∃ ev, r.asked op = .ok (some ev) ∧ Takes r ev (r.grants op) (r.perform op)) ∨
      op = .leaveScope ∨ ∃ scope, op = .enterScope scope := by
  cases op with
  | register id clauses scope =>
    rw [asked, grants, perform, Action.outcome, Action.after, run_register]
    cases r.declared id clauses scope with
    | ok d => exact .inr (.inl ⟨_, rfl, takes_change (follows_register d) h⟩)
    | error e => exact .inl ⟨e, rfl, rfl, rfl⟩
  | commit draft scope =>
    rw [asked, grants, perform, Action.outcome, Action.after, run_commit]
    split
    · exact .inl ⟨_, rfl, rfl, rfl⟩
    · exact .inr (.inl ⟨_, rfl, takes_change (follows_commit _ _) h⟩)
  | resolveDeferred => exact .inr (.inl ⟨_, rfl, takes_change follows_resolveDeferred h⟩)
  | addConstraint k scope =>
    rw [asked, grants, perform, Action.outcome, Action.after, run_addConstraint]
    cases k.resolve with
    | ok k => exact .inr (.inl ⟨_, rfl, takes_change (follows_addConstraint k _) h⟩)
    | error e => exact .inl ⟨e, rfl, rfl, rfl⟩
  | enterScope scope => exact .inr (.inr (.inr ⟨scope, rfl⟩))
  | leaveScope => exact .inr (.inr (.inl rfl))
  | releaseScope scope => cases hop
  | scheduleRelease scope => cases hop
  | releasePending => cases hop
  | clear => cases hop
  | evaluate parent child name => cases hop
  | validChildren parent => cases hop
  | validParents child => cases hop
  | invalidateTable => cases hop

theorem takes_of_asked (h : r.Steady) {op : Operation} (hop : op.loads = true)
    (ha : r.asked op = .ok (some ev)) : Takes r ev (r.grants op) (r.perform op) := by
  rcases perform_loads h hop with ⟨e, he, -⟩ | ⟨ev', hev', ht⟩ | rfl | ⟨scope, rfl⟩
  · rw [he] at ha
    cases ha
  · rw [hev'] at ha
    cases ha
    exact ht
  · cases ha
  · cases ha

/-- **A constraint under a new id is added**, for the scope that is entered. -/
theorem perform_addConstraint (h : r.Steady) {k : Constraint}
    (hnew : ∀ p ∈ r.holdings.constraintScopes, p.1 ≠ k.id) :
    (r.perform (.addConstraint k .none)).Steady ∧
      (r.perform (.addConstraint k .none)).holdings =
        r.holdings.addConstraint k (r.effectiveScope .none) := by
  have ht : Takes r (.constrained k (r.effectiveScope .none)) _
      (r.perform (.addConstraint k .none)) := takes_of_asked h rfl rfl
  have hallows : r.holdings.allows (.constrained k (r.effectiveScope .none)) = true := by
    rw [Holdings.allows, Bool.not_eq_true', List.any_eq_false]
    exact fun p hp => by simpa using hnew p hp
  refine ⟨ht.steady, ?_⟩
  rw [ht.holdings, Holdings.next, if_pos hallows]
  rfl

/-- What an operation asks for depends on the entered scopes, and on nothing else of the
registry. -/
theorem asked_congr (hs : r'.scopes = r.scopes) (op : Operation) : r'.asked op = r.asked op := by
  have he : ∀ scope, r'.effectiveScope scope = r.effectiveScope scope := by
    intro scope
    rw [effectiveScope, effectiveScope, currentScope, currentScope, hs]
  cases op with
  | register id clauses scope => rw [asked, asked, declared, declared, he]
  | commit draft scope => rw [asked, asked, he]
  | addConstraint k scope => rw [asked, asked, he]
  | _ => rfl

/-- A declaration belongs to the scope that it was registered for. -/
theorem scope_of_declared {id : TypeRef} {clauses : List Clause} {scope : ScopeRef}
    {d : Declaration} (hd : r.declared id clauses scope = .ok d) :
    d.scope = r.effectiveScope scope := by
  rw [declared] at hd
  obtain ⟨i, -, hd⟩ := ok_of_bind hd
  obtain ⟨draft, -, hd⟩ := ok_of_bind hd
  obtain rfl := Except.ok.inj hd
  rfl

/-- **What operations ask for**, and the scope that it belongs to. -/
theorem asked_cases {op : Operation} (ha : r.asked op = .ok (some ev)) :
    (∃ id clauses scope d, op = .register id clauses scope ∧ ev = .registered d ∧
      d.scope = r.effectiveScope scope) ∨
    (∃ draft scope e, op = .commit draft scope ∧ ev = .extended draft.existing.id e ∧
      e.scope = r.effectiveScope scope) ∨
    (op = .resolveDeferred ∧ ev = .settled) ∨
    ∃ k k' scope, op = .addConstraint k scope ∧ ev = .constrained k' (r.effectiveScope scope) := by
  cases op with
  | register id clauses scope =>
    rw [asked] at ha
    obtain ⟨d, hd, ha⟩ := ok_of_bind ha
    cases ha
    exact .inl ⟨id, clauses, scope, d, rfl, rfl, scope_of_declared hd⟩
  | commit draft scope =>
    rw [asked] at ha
    split at ha
    · cases ha
    · cases ha
      exact .inr (.inl ⟨draft, scope, _, rfl, rfl, rfl⟩)
  | resolveDeferred =>
    cases ha
    exact .inr (.inr (.inl ⟨rfl, rfl⟩))
  | addConstraint k scope =>
    rw [asked] at ha
    obtain ⟨k', -, ha⟩ := ok_of_bind ha
    cases ha
    exact .inr (.inr (.inr ⟨k, k', scope, rfl, rfl⟩))
  | _ => cases ha

end Taxonomy

import Taxonomy.Proofs.Registry.Constraining

/-!
# Changes that are refused

A change is refused before anything of it is published. What was wrong with its arguments shows
before the queued scopes are released, and leaves the registry alone; what is wrong with the change
itself shows behind the releases, and leaves what they have led to.

* `Registry.Spared`: nothing has happened but the releases that were due.
* `register_error`, `commit_error`, `addConstraint_error`, `releaseScope_error`: why a change is
  refused, and what it leaves.
* `refused_unseen`: all changes that callers can see refused.
-/

namespace Taxonomy

open Registry

/-- **Nothing has happened but the releases that were due**, if even those. -/
structure Registry.Spared (r r' : Registry) : Prop where
  releases : r' = r ∨ r' = Action.after releasePending r
  idle : r.released = [] → r' = r

variable {r r' : Registry} {scope : ScopeRef} {f : Fault}

theorem after_releasePending (r : Registry) : Action.after releasePending r = r.drain.2 := rfl

/-- Where no scope is queued, the releases that are due are none. -/
theorem after_releasePending_of_idle (h : r.released = []) : Action.after releasePending r = r :=
  congrArg Prod.snd (drain_of_released h)

/-- Where no scope is queued, it does not matter whether the releases were made. -/
theorem spared_of_or (h : r' = r ∨ r' = Action.after releasePending r) : r.Spared r' :=
  ⟨h, fun hidle => h.elim id fun h => h.trans (after_releasePending_of_idle hidle)⟩

/-! ## Why a change is refused -/

/-- A change that is refused finds the contents after the releases, and leaves them. -/
theorem change_error {α : Type} {g : Contents → Result (Change α)}
    (h : Action.outcome (change g) r = .error f) :
    g (Action.after releasePending r).snapshot.contents = .error f ∧
      Action.after (change g) r = Action.after releasePending r := by
  rw [Action.outcome, run_change] at h
  rw [after_releasePending, Action.after, run_change]
  cases hg : g r.drain.2.snapshot.contents with
  | ok ch =>
    rw [hg] at h
    cases h
  | error e =>
    rw [hg] at h
    obtain rfl := Except.error.inj h
    exact ⟨rfl, rfl⟩

/-- **A registration is refused** because the id or a clause is, or because the id is taken. -/
theorem register_error {id : TypeRef} {clauses : List Clause}
    (h : Action.outcome (register id clauses scope) r = .error f) :
    (r.declared id clauses scope = .error f ∧ Action.after (register id clauses scope) r = r) ∨
    ∃ d, r.declared id clauses scope = .ok d ∧ f = .typeTaken d.id ∧
      (Action.after releasePending r).snapshot.contents.registrations.contains d.id = true ∧
      Action.after (register id clauses scope) r = Action.after releasePending r := by
  rw [Action.outcome, run_register] at h
  rw [Action.after, run_register]
  cases hd : r.declared id clauses scope with
  | error e =>
    rw [hd] at h
    exact .inl ⟨congrArg _ (Except.error.inj h), rfl⟩
  | ok d =>
    rw [hd] at h
    obtain ⟨hrefused, hafter⟩ := change_error h
    refine .inr ⟨d, rfl, ?_⟩
    rw [Contents.register] at hrefused
    split at hrefused
    · next htaken => exact ⟨(Except.error.inj hrefused).symm, htaken, hafter⟩
    · cases hrefused

/-- **A commit is refused** because the draft is spent, or because the type is gone. -/
theorem commit_error {draft : ExtensionDraft}
    (h : Action.outcome (commit draft scope) r = .error f) :
    (draft.committed = true ∧ f = .alreadyCommitted draft.existing.id ∧
      Action.after (commit draft scope) r = r) ∨
    draft.committed = false ∧ f = .typeNotFound draft.existing.id [] ∧
      (Action.after releasePending r).snapshot.type? draft.existing.id = none ∧
      Action.after (commit draft scope) r = Action.after releasePending r := by
  rw [Action.outcome, run_commit] at h
  rw [Action.after, run_commit]
  cases hspent : draft.committed with
  | true =>
    rw [hspent, if_pos rfl] at h
    exact .inl ⟨rfl, (Except.error.inj h).symm, rfl⟩
  | false =>
    rw [hspent, if_neg Bool.false_ne_true] at h
    obtain ⟨hrefused, hafter⟩ := change_error h
    refine .inr ⟨rfl, ?_⟩
    rw [Contents.commit] at hrefused
    split at hrefused
    · next hgone => exact ⟨(Except.error.inj hrefused).symm, hgone, hafter⟩
    · split at hrefused <;> cases hrefused

/-- **A constraint is refused** because it is none, or because its id is taken by a constraint of
either kind. -/
theorem addConstraint_error {k : ConstraintRef}
    (h : Action.outcome (addConstraint k scope) r = .error f) :
    (∃ v, k = .value v ∧ f = .notAConstraint v ∧ Action.after (addConstraint k scope) r = r) ∨
    ∃ k', k = .constraint k' ∧ f = .constraintTaken k'.id ∧
      (Action.after releasePending r).snapshot.contents.hasConstraint k'.id = true ∧
      Action.after (addConstraint k scope) r = Action.after releasePending r := by
  cases k with
  | value v =>
    rw [Action.outcome, run_addConstraint_value] at h
    exact .inl ⟨v, rfl, (Except.error.inj h).symm, by rw [Action.after, run_addConstraint_value]⟩
  | constraint k =>
    rw [Action.outcome, run_addConstraint_constraint] at h
    rw [Action.after, run_addConstraint_constraint]
    split at h
    · next htaken =>
      exact .inr ⟨k, rfl, (Except.error.inj h).symm, htaken, by rw [if_pos htaken]; rfl⟩
    · cases h

/-- **A release is refused** because there is no scope, and for no other reason. -/
theorem releaseScope_error (h : Action.outcome (releaseScope scope) r = .error f) :
    scope.name? = none ∧ f = .releaseWithoutScope ∧ Action.after (releaseScope scope) r = r := by
  rw [Action.outcome, run_releaseScope] at h
  rw [Action.after, run_releaseScope]
  cases hname : scope.name? with
  | none =>
    rw [hname] at h
    exact ⟨rfl, (Except.error.inj h).symm, rfl⟩
  | some name =>
    rw [hname] at h
    cases (change_error h).1

/-! ## What callers see -/

/-- **Changes that are refused are not seen.** Each of them leaves the registry as it was, or as
the releases that were due leave it; where none were due, as it was. A series of constraints is
added up to the one that is refused: those before it are there, in order, and this one and those
behind it are not. -/
theorem refused_unseen (r : Registry) :
    (∀ id clauses scope f, Action.outcome (register id clauses scope) r = .error f →
      r.Spared (Action.after (register id clauses scope) r)) ∧
    (∀ draft scope f, Action.outcome (commit draft scope) r = .error f →
      r.Spared (Action.after (commit draft scope) r)) ∧
    (∀ k scope f, Action.outcome (addConstraint k scope) r = .error f →
      r.Spared (Action.after (addConstraint k scope) r)) ∧
    (∀ scope f, Action.outcome (releaseScope scope) r = .error f →
      r.Spared (Action.after (releaseScope scope) r)) ∧
    ∀ refs scope f, Action.outcome (addConstraints refs scope) r = .error f →
      ∃ added k behind q, refs = added.map .constraint ++ k :: behind ∧ r.Spared q ∧
        Action.outcome (addConstraint k scope)
          (q.withConstraints added (r.effectiveScope scope)) = .error f ∧
        Action.after (addConstraints refs scope) r =
          q.withConstraints added (r.effectiveScope scope) := by
  refine ⟨?_, ?_, ?_, ?_, ?_⟩
  · intro id clauses scope f h
    rcases register_error h with ⟨-, hafter⟩ | ⟨d, -, -, -, hafter⟩
    · exact spared_of_or (.inl hafter)
    · exact spared_of_or (.inr hafter)
  · intro draft scope f h
    rcases commit_error h with ⟨-, -, hafter⟩ | ⟨-, -, -, hafter⟩
    · exact spared_of_or (.inl hafter)
    · exact spared_of_or (.inr hafter)
  · intro k scope f h
    rcases addConstraint_error h with ⟨v, -, -, hafter⟩ | ⟨k, -, -, -, hafter⟩
    · exact spared_of_or (.inl hafter)
    · exact spared_of_or (.inr hafter)
  · intro scope f h
    obtain ⟨-, -, hafter⟩ := releaseScope_error h
    exact spared_of_or (.inl hafter)
  · intro refs scope f h
    obtain ⟨added, k, behind, q, hsplit, hq, hk, hafter⟩ := addConstraints_error h
    exact ⟨added, k, behind, q, hsplit, spared_of_or hq, hk, hafter⟩

/-- A registry with a type, and with one of a scope that is queued. -/
def leftover : Registry :=
  ({ name := "files" } : Registry).run
    [.register (.id ⟨"file", "base"⟩) [] .none,
      .register (.id ⟨"file", "note"⟩) [] (.value "plugin"),
      .scheduleRelease (.value "plugin")]

/-- A constraint that rejects nothing. -/
def lenient : ValidationConstraint where
  id := "lenient"
  check := fun _ _ _ => .ok none

/-- A type that is there is registered again, a type that the queued release takes out is extended,
a text is added as a constraint, no scope is released, and a constraint is added twice. -/
theorem refused_unseen_leftover :
    Action.outcome (register (.id ⟨"file", "base"⟩)) leftover =
        .error (.typeTaken ⟨"file", "base"⟩) ∧
      leftover.Spared (Action.after (register (.id ⟨"file", "base"⟩)) leftover) ∧
      Action.outcome (commit { existing := { id := ⟨"file", "note"⟩ } }) leftover =
        .error (.typeNotFound ⟨"file", "note"⟩ []) ∧
      leftover.Spared (Action.after (commit { existing := { id := ⟨"file", "note"⟩ } }) leftover) ∧
      leftover.Spared (Action.after (addConstraint (.value "lenient")) leftover) ∧
      leftover.Spared (Action.after (releaseScope .none) leftover) ∧
      ∃ added k behind q, [.constraint (.validation lenient), .constraint (.validation lenient)] =
          added.map ConstraintRef.constraint ++ k :: behind ∧
        leftover.Spared q ∧
        Action.outcome (addConstraint k) (q.withConstraints added none) =
          .error (.constraintTaken "lenient") ∧
        Action.after (addConstraints [.constraint (.validation lenient),
          .constraint (.validation lenient)]) leftover = q.withConstraints added none := by
  obtain ⟨hregister, hcommit, hadd, hrelease, hseries⟩ := refused_unseen leftover
  have hbase : Action.outcome (register (.id ⟨"file", "base"⟩)) leftover =
      .error (.typeTaken ⟨"file", "base"⟩) := rfl
  have hnote : Action.outcome (commit { existing := { id := ⟨"file", "note"⟩ } }) leftover =
      .error (.typeNotFound ⟨"file", "note"⟩ []) := by
    have hgone : leftover.drain.2.snapshot.contents.types.find? ⟨"file", "note"⟩ = none := by
      decide +kernel
    rw [Action.outcome, run_commit, if_neg Bool.false_ne_true, run_change, Contents.commit, hgone]
    rfl
  have htwice : Action.outcome (addConstraints [.constraint (.validation lenient),
      .constraint (.validation lenient)]) leftover = .error (.constraintTaken "lenient") := rfl
  exact ⟨hbase, hregister _ _ _ _ hbase, hnote, hcommit _ _ _ hnote, hadd _ _ _ rfl,
    hrelease _ _ rfl, hseries _ _ _ htwice⟩

end Taxonomy

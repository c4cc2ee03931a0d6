import Taxonomy.Proofs.Registry.History

/-!
# A kept placement table is never out of date

A registry keeps the placement table that it built last, and asks only for its generation before it
answers from it. This is enough: a generation belongs to one snapshot, whatever changes are made,
refused, or queued in between.

* `Advances`: the generation grows, or nothing has changed.
* `Registry.moments`: all snapshots of a run, those between two queued releases among them.
* `moves_perform`: what one operation does to the snapshot and to the kept table.
* `answers_of_run`: every answer of a run is that of a table built at the time of the question.
-/

namespace Taxonomy

open Registry

/-- **A later snapshot**: its generation is not smaller, and it is the same snapshot where the
generation is the same. -/
structure Advances (s t : Snapshot) : Prop where
  le : s.generation ≤ t.generation
  eq_of_eq : s.generation = t.generation → s = t

namespace Advances

variable {s t u : Snapshot}

theorem refl (s : Snapshot) : Advances s s := ⟨Nat.le_refl _, fun _ => rfl⟩

theorem trans (h : Advances s t) (h' : Advances t u) : Advances s u := by
  refine ⟨Nat.le_trans h.le h'.le, fun he => ?_⟩
  have hle := h.le
  have hle' := h'.le
  have hst : s = t := h.eq_of_eq (by omega)
  have htu : t = u := h'.eq_of_eq (by omega)
  exact hst.trans htu

theorem of_lt (h : s.generation < t.generation) : Advances s t :=
  ⟨Nat.le_of_lt h, fun he => absurd he (Nat.ne_of_lt h)⟩

end Advances

/-! ## Changes -/

/-- **A change leaves the kept table alone**, and the snapshot is a later one. -/
structure Progress (r r' : Registry) : Prop where
  table : r'.table = r.table
  advances : Advances r.snapshot r'.snapshot

namespace Progress

variable {r r' r'' : Registry}

theorem refl (r : Registry) : Progress r r := ⟨rfl, .refl _⟩

theorem trans (h : Progress r r') (h' : Progress r' r'') : Progress r r'' :=
  ⟨h'.table.trans h.table, h.advances.trans h'.advances⟩

end Progress

/-- What is published bears a new number, and without anything new nothing is published. -/
theorem progress_publish {α : Type} (r : Registry) (ch : Change α) :
    Progress r (r.publish ch) := by
  unfold publish
  cases ch.update with
  | none => exact .refl r
  | some u => exact ⟨rfl, .of_lt (Nat.lt_succ_self _)⟩

theorem progress_releaseNow (r : Registry) (s : Value) : Progress r (r.releaseNow s).2 :=
  progress_publish r _

/-- The snapshots that releases lead to, one after the other. -/
def Registry.afterReleases : Registry → List Value → List Snapshot
  | _, [] => []
  | r, s :: ss =>
    let r' := (r.releaseNow s).2
    r'.snapshot :: r'.afterReleases ss

/-- **Releases, one after the other**: each leads to a later snapshot, and the last one to what the
registry is left with. -/
theorem progress_releases (ss : List Value) (n : Nat) (r : Registry) :
    let q := ss.foldl (fun (n, r) s => let (m, r) := r.releaseNow s; (n + m, r)) (n, r)
    Progress r q.2 ∧ (r.afterReleases ss).Pairwise Advances ∧
      ∀ m ∈ r.afterReleases ss, Advances r.snapshot m ∧ Advances m q.2.snapshot := by
  induction ss generalizing n r with
  | nil => exact ⟨.refl r, .nil, by simp [afterReleases]⟩
  | cons s ss ih =>
    have hs := progress_releaseNow r s
    obtain ⟨hq, hp, hm⟩ := ih (n + (r.releaseNow s).1) (r.releaseNow s).2
    rw [List.foldl_cons, afterReleases]
    refine ⟨hs.trans hq, List.pairwise_cons.2 ⟨fun m h => (hm m h).1, hp⟩, fun m h => ?_⟩
    rcases List.mem_cons.1 h with rfl | h
    · exact ⟨hs.advances, hq.advances⟩
    · exact ⟨hs.advances.trans (hm m h).1, (hm m h).2⟩

/-- The snapshots that draining the queue leads to. -/
def Registry.drainMoments (r : Registry) : List Snapshot :=
  ({ r with released := [] } : Registry).afterReleases r.released

theorem progress_drain (r : Registry) : Progress r r.drain.2 := by
  obtain ⟨hp, -⟩ := progress_releases r.released 0 { r with released := [] }
  exact ⟨hp.table, hp.advances⟩

theorem pairwise_drainMoments (r : Registry) :
    r.drainMoments.Pairwise Advances ∧
      ∀ m ∈ r.drainMoments, Advances r.snapshot m ∧ Advances m r.drain.2.snapshot :=
  (progress_releases r.released 0 { r with released := [] }).2

/-- **A change, made or refused**: first the queue is drained. -/
theorem progress_change {α : Type} (f : Contents → Result (Change α)) (r : Registry) :
    Progress r.drain.2 (Action.after (change f) r) := by
  rw [Action.after, run_change]
  cases f r.drain.2.snapshot.contents with
  | ok ch => exact progress_publish _ ch
  | error e => exact .refl _

/-! ## Operations -/

/-- **What an operation does**: the snapshot is a later one, and the table that is kept is the one
of before, none, or that of the snapshot. -/
structure Moves (r r' : Registry) : Prop where
  advances : Advances r.snapshot r'.snapshot
  table : r'.table = r.table ∨ r'.table = none ∨ r'.table = some (.build r'.snapshot)

variable {r r' : Registry}

theorem Progress.moves (h : Progress r r') : Moves r r' := ⟨h.advances, .inl h.table⟩

theorem Moves.refl (r : Registry) : Moves r r := (Progress.refl r).moves

theorem moves_currentTable (r : Registry) : Moves r (Action.after currentTable r) := by
  unfold Action.after currentTable
  rw [run_get]
  cases ht : r.table with
  | none => exact ⟨.refl _, .inr (.inr rfl)⟩
  | some table =>
    simp only
    split
    · exact .refl r
    · exact ⟨.refl _, .inr (.inr rfl)⟩

/-- Does an operation come to a change, so that the queue is drained first? -/
def Registry.drains (r : Registry) : Operation → Bool
  | .register id clauses scope => (r.declared id clauses scope).isOk
  | .commit draft _ => !draft.committed
  | .resolveDeferred | .releasePending => true
  | .addConstraint k _ => k.resolve.isOk
  | .releaseScope scope => scope.name?.isSome
  | _ => false

/-- **One operation, done or refused**: with a change the queue is drained first, and without one
the snapshot stays, unless everything is forgotten. -/
theorem perform_cases (r : Registry) (op : Operation) :
    (r.drains op = true ∧ Progress r.drain.2 (r.perform op)) ∨
      r.drains op = false ∧ Moves r (r.perform op) := by
  cases op with
  | register id clauses scope =>
    rw [perform, drains, Action.after, run_register]
    cases r.declared id clauses scope with
    | ok d => exact .inl ⟨rfl, progress_change _ r⟩
    | error e => exact .inr ⟨rfl, .refl r⟩
  | commit draft scope =>
    rw [perform, drains, Action.after, run_commit]
    cases draft.committed with
    | true => exact .inr ⟨rfl, .refl r⟩
    | false => exact .inl ⟨rfl, progress_change _ r⟩
  | resolveDeferred => exact .inl ⟨rfl, progress_change _ r⟩
  | addConstraint k scope =>
    rw [perform, drains, Action.after, run_addConstraint]
    cases k.resolve with
    | ok k => exact .inl ⟨rfl, progress_change _ r⟩
    | error e => exact .inr ⟨rfl, .refl r⟩
  | releaseScope scope =>
    rw [perform, drains, Action.after, run_releaseScope]
    cases scope.name? with
    | some name => exact .inl ⟨rfl, progress_change _ r⟩
    | none => exact .inr ⟨rfl, .refl r⟩
  | scheduleRelease scope =>
    refine .inr ⟨rfl, ?_⟩
    rw [perform, scheduleRelease]
    cases scope.name? with
    | some name => exact ⟨.refl _, .inl rfl⟩
    | none => exact .refl r
  | releasePending => exact .inl ⟨rfl, .refl _⟩
  | clear => exact .inr ⟨rfl, .of_lt (Nat.lt_succ_self _), .inl rfl⟩
  | enterScope scope => exact .inr ⟨rfl, .refl _, .inl rfl⟩
  | leaveScope => exact .inr ⟨rfl, .refl _, .inl rfl⟩
  | evaluate parent child name =>
    rw [perform, after_evaluate]
    exact .inr ⟨rfl, moves_currentTable r⟩
  | validChildren parent =>
    rw [perform, after_validChildren]
    exact .inr ⟨rfl, moves_currentTable r⟩
  | validParents child =>
    refine .inr ⟨rfl, ?_⟩
    rcases after_validParents child r with h | h
    · rw [perform, h]
      exact moves_currentTable r
    · rw [perform, h]
      exact .refl r
  | invalidateTable => exact .inr ⟨rfl, .refl _, .inr (.inl rfl)⟩

/-- **One operation** leads to a later snapshot, and to no table but that of the snapshot. -/
theorem moves_perform (r : Registry) (op : Operation) : Moves r (r.perform op) := by
  rcases perform_cases r op with ⟨-, h⟩ | ⟨-, h⟩
  · exact ((progress_drain r).trans h).moves
  · exact h

/-! ## The moments of a run -/

/-- The snapshots that an operation leads to, one after the other. -/
def Registry.momentsOf (r : Registry) (op : Operation) : List Snapshot :=
  (if r.drains op then r.drainMoments else []) ++ [(r.perform op).snapshot]

/-- **The moments of a run**: the snapshot at its beginning, and all that follow. -/
def Registry.moments : Registry → List Operation → List Snapshot
  | r, [] => [r.snapshot]
  | r, op :: ops => r.snapshot :: r.momentsOf op ++ moments (r.perform op) ops

theorem pairwise_momentsOf (r : Registry) (op : Operation) :
    (r.momentsOf op).Pairwise Advances ∧
      ∀ m ∈ r.momentsOf op, Advances r.snapshot m ∧ Advances m (r.perform op).snapshot := by
  have hop := (moves_perform r op).advances
  rw [momentsOf]
  rcases perform_cases r op with ⟨hd, hp⟩ | ⟨hd, -⟩
  · obtain ⟨hpair, hbetween⟩ := pairwise_drainMoments r
    have hlast : ∀ m ∈ r.drainMoments, Advances m (r.perform op).snapshot :=
      fun m hm => (hbetween m hm).2.trans hp.advances
    rw [if_pos hd]
    refine ⟨List.pairwise_append.2 ⟨hpair, List.pairwise_singleton _ _, fun m hm m' hm' => ?_⟩,
      fun m hm => ?_⟩
    · obtain rfl := List.mem_singleton.1 hm'
      exact hlast m hm
    · rcases List.mem_append.1 hm with hm | hm
      · exact ⟨(hbetween m hm).1, hlast m hm⟩
      · obtain rfl := List.mem_singleton.1 hm
        exact ⟨hop, .refl _⟩
  · rw [hd, if_neg Bool.false_ne_true, List.nil_append]
    refine ⟨List.pairwise_singleton _ _, fun m hm => ?_⟩
    obtain rfl := List.mem_singleton.1 hm
    exact ⟨hop, .refl _⟩

/-- **The moments of a run advance**, from the snapshot at its beginning on. -/
theorem pairwise_moments (r : Registry) (ops : List Operation) :
    (r.moments ops).Pairwise Advances ∧ ∀ m ∈ r.moments ops, Advances r.snapshot m := by
  induction ops generalizing r with
  | nil =>
    refine ⟨List.pairwise_singleton _ _, fun m hm => ?_⟩
    obtain rfl := List.mem_singleton.1 hm
    exact .refl _
  | cons op ops ih =>
    obtain ⟨hpair, hfrom⟩ := ih (r.perform op)
    obtain ⟨hpair', hbetween⟩ := pairwise_momentsOf r op
    have hop := (moves_perform r op).advances
    have hall : ∀ m ∈ r.momentsOf op ++ (r.perform op).moments ops, Advances r.snapshot m := by
      intro m hm
      rcases List.mem_append.1 hm with hm | hm
      · exact (hbetween m hm).1
      · exact hop.trans (hfrom m hm)
    rw [moments, List.cons_append]
    refine ⟨List.pairwise_cons.2 ⟨hall, ?_⟩, fun m hm => ?_⟩
    · exact List.pairwise_append.2
        ⟨hpair', hpair, fun m hm m' hm' => (hbetween m hm).2.trans (hfrom m' hm')⟩
    · rcases List.mem_cons.1 hm with rfl | hm
      · exact .refl _
      · exact hall m hm

/-! ## The kept table -/

/-- **The kept table was built from an earlier snapshot**, if there is one. -/
def Registry.Kept (r : Registry) : Prop :=
  ∀ table, r.table = some table → ∃ s, table = .build s ∧ Advances s r.snapshot

theorem Moves.kept (hm : Moves r r') (h : r.Kept) : r'.Kept := by
  intro table ht
  rcases hm.table with hsame | hnone | hnew
  · obtain ⟨s, hs, ha⟩ := h table (hsame ▸ ht)
    exact ⟨s, hs, ha.trans hm.advances⟩
  · rw [hnone] at ht
    cases ht
  · rw [hnew] at ht
    exact ⟨r'.snapshot, (Option.some.inj ht).symm, .refl _⟩

theorem kept_run (h : r.Kept) (ops : List Operation) : (r.run ops).Kept := by
  induction ops generalizing r with
  | nil => exact h
  | cons op ops ih => exact ih ((moves_perform r op).kept h)

theorem Registry.Reachable.kept (hr : r.Reachable) : r.Kept := by
  obtain ⟨registry, ops, rfl⟩ := hr
  exact kept_run (fun table ht => by cases ht) ops

/-- **The table that answers** is that of the current snapshot: a table of the same generation was
built from this very snapshot. -/
theorem outcome_currentTable (h : r.Kept) :
    ∃ r', currentTable.run.run r = (.ok (.build r.snapshot), r') := by
  rw [currentTable, run_get]
  cases ht : r.table with
  | none => exact ⟨_, rfl⟩
  | some table =>
    obtain ⟨s, rfl, hs⟩ := h table ht
    by_cases hg : s.generation = r.snapshot.generation
    · obtain rfl : s = r.snapshot := hs.eq_of_eq hg
      refine ⟨r, ?_⟩
      simp only
      rw [if_pos (by simp [PlacementTable.build, generation])]
      rfl
    · refine ⟨{ r with table := some (.build r.snapshot), rebuilds := r.rebuilds + 1 }, ?_⟩
      simp only
      rw [if_neg (by simpa [PlacementTable.build, generation] using hg)]
      rfl

/-- What is asked of the current table is asked of a table that is built anew. -/
theorem outcome_bind_currentTable {α : Type} (h : r.Kept) (k : PlacementTable → Action α) :
    ∃ r', Action.outcome (currentTable >>= k) r = Action.outcome (k (.build r.snapshot)) r' := by
  obtain ⟨r', hr'⟩ := outcome_currentTable h
  refine ⟨r', ?_⟩
  rw [Action.outcome, run_bind, hr']
  rfl

/-- **A kept table is never out of date.** In every run, of changes that are made or refused, of
queued releases and of questions, two moments with the same generation are one snapshot, and the
generation does not decrease; and every answer is that of a table built from the snapshot at the
time of the question. -/
theorem answers_of_run (registry : String) (ops : List Operation) :
    ((({ name := registry } : Registry).moments ops).Pairwise fun s t =>
      s.generation ≤ t.generation ∧ (s.generation = t.generation → s = t)) ∧
    let r := ({ name := registry } : Registry).run ops
    let fresh := PlacementTable.build r.snapshot
    (∀ parent child name,
      Action.outcome (evaluate parent child name) r = fresh.evaluate parent child name) ∧
    (∀ parent : TypeRef,
      Action.outcome (validChildren parent) r = fresh.validChildren <$> parent.resolve) ∧
    ∀ child : TypeRef,
      Action.outcome (validParents child) r = fresh.validParents <$> child.resolve := by
  refine ⟨(pairwise_moments _ ops).1.imp fun h => ⟨h.le, h.eq_of_eq⟩, ?_⟩
  have hk : (({ name := registry } : Registry).run ops).Kept :=
    kept_run (fun table ht => by cases ht) ops
  generalize ({ name := registry } : Registry).run ops = r at hk
  refine ⟨fun parent child name => ?_, fun parent => ?_, fun child => ?_⟩
  · obtain ⟨r', hr'⟩ := outcome_bind_currentTable hk fun table =>
      liftM (table.evaluate parent child name)
    refine hr'.trans ?_
    cases PlacementTable.evaluate _ parent child name <;> rfl
  · obtain ⟨r', hr'⟩ := outcome_bind_currentTable hk fun table => do
      return table.validChildren (← parent.resolve)
    refine hr'.trans ?_
    cases parent.resolve <;> rfl
  · unfold Action.outcome
    rw [validParents, run_lift]
    cases child.resolve with
    | error e => rfl
    | ok t =>
      obtain ⟨r', hr'⟩ := outcome_bind_currentTable hk fun table =>
        pure (table.validParents t)
      exact hr'

end Taxonomy

import Taxonomy.Proofs.Registry.Steady

/-!
# Releasing a scope erases it

What belongs to a scope may have been an ancestor of other types, resolved them, closed cycles with
them, or been laid over their rules. Once the scope is released and what remains is settled, the
contents are those of a run in which the scope had never registered anything.

* `Registry.outside`: a run without the operations that register something for a scope.
* `Registry.Throughout`: what holds at every operation of a run.
* `outside_step`: one operation, in the run with the scope and in the one without it.
* `release_erases`: both runs lead to the same contents.
-/

namespace Taxonomy

open Registry

namespace Registry

/-- The scope that belongs to what an operation registers. -/
def tagOf (r : Registry) : Operation → Option Value
  | .register _ _ scope | .commit _ scope | .addConstraint _ scope => r.effectiveScope scope
  | .resolveDeferred | .enterScope _ | .leaveScope => none
  | .releaseScope _ | .scheduleRelease _ | .releasePending | .clear => none
  | .evaluate .. | .validChildren _ | .validParents _ | .invalidateTable => none

/-- Does an operation extend a type that was registered for a scope? -/
def extendsTypeOf (r : Registry) (s : Value) : Operation → Bool
  | .commit draft _ => (r.snapshot.contents.registrations.find? draft.existing.id).any
      (·.declaration.scope == some s)
  | .register .. | .resolveDeferred | .addConstraint .. | .enterScope _ | .leaveScope => false
  | .releaseScope _ | .scheduleRelease _ | .releasePending | .clear => false
  | .evaluate .. | .validChildren _ | .validParents _ | .invalidateTable => false

/-- **What holds at every operation of a run**, in the registry that those before it have left. -/
def Throughout (P : Registry → Operation → Prop) : Registry → List Operation → Prop
  | _, [] => True
  | r, op :: ops => P r op ∧ Throughout P (r.perform op) ops

instance (P : Registry → Operation → Prop) [∀ r op, Decidable (P r op)] :
    ∀ (r : Registry) (ops : List Operation), Decidable (r.Throughout P ops)
  | _, [] => .isTrue trivial
  | r, op :: ops =>
    have := instDecidableThroughout P (r.perform op) ops
    inferInstanceAs (Decidable (P r op ∧ Throughout P (r.perform op) ops))

/-- **A run without the operations that register something for a scope.** -/
def outside (s : Value) : Registry → List Operation → List Operation
  | _, [] => []
  | r, op :: ops =>
    if r.tagOf op = some s then outside s (r.perform op) ops
    else op :: outside s (r.perform op) ops

end Registry

variable {r r' : Registry} {s : Value} {op : Operation} {ev : Event}

/-! ## What an operation asks for -/

/-- What an operation asks for belongs to the scope that it registers for. -/
theorem belongs_of_asked (ha : r.asked op = .ok (some ev)) :
    ev.belongs s = (r.tagOf op == some s) := by
  rcases asked_cases ha with ⟨id, clauses, scope, d, rfl, rfl, hd⟩ |
    ⟨draft, scope, e, rfl, rfl, he⟩ | ⟨rfl, rfl⟩ | ⟨k, k', scope, rfl, rfl⟩
  · rw [Event.belongs, hd, tagOf]
  · rw [Event.belongs, he, tagOf]
  · rfl
  · rfl

/-- No operation asks for anything to be taken out. -/
theorem takesOut_of_asked (ha : r.asked op = .ok (some ev)) : ev.takesOut = false := by
  rcases asked_cases ha with ⟨_, _, _, _, -, rfl, -⟩ | ⟨_, _, _, -, rfl, -⟩ | ⟨-, rfl⟩ |
    ⟨_, _, _, -, rfl⟩ <;> rfl

theorem extendsTypeOf_of_asked (ha : r.asked op = .ok (some ev)) :
    r.holdings.extendsTypeOf s ev = r.extendsTypeOf s op := by
  rcases asked_cases ha with ⟨_, _, _, _, rfl, rfl, -⟩ | ⟨_, _, _, rfl, rfl, -⟩ | ⟨rfl, rfl⟩ |
    ⟨_, _, _, rfl, rfl⟩ <;> rfl

/-! ## Two runs side by side -/

/-- **A registry beside one in which a scope never registered anything.** -/
structure Beside (s : Value) (r r' : Registry) : Prop where
  steady : r.Steady
  steady' : r'.Steady
  scopes : r'.scopes = r.scopes
  holdings : r'.holdings = r.holdings.without s

theorem beside_new (s : Value) (name : String) : Beside s { name } { name } where
  steady := steady_new name
  steady' := steady_new name
  scopes := rfl
  holdings := rfl

/-- An operation that registers something for the scope is not seen on the other side. -/
theorem Beside.skip (h : Beside s r r') (hop : op.loads = true) (hok : r.grants op = true)
    (htag : r.tagOf op = some s) : Beside s (r.perform op) r' := by
  rcases perform_loads h.steady hop with ⟨e, -, hno, -⟩ | ⟨ev, hev, ht⟩ | rfl | ⟨scope, rfl⟩
  · rw [hno] at hok
    cases hok
  · have ha : r.holdings.allows ev = true := ht.granted_eq ▸ hok
    have hb : ev.belongs s = true := by rw [belongs_of_asked hev, htag]; exact beq_self_eq_true _
    refine ⟨ht.steady, h.steady', h.scopes.trans ht.scopes.symm, ?_⟩
    rw [ht.holdings, Holdings.next, if_pos ha, without_act_of_belongs h.steady.listed ha hb]
    exact h.holdings
  · cases htag
  · cases htag

/-- **Any other operation is granted on both sides**, unless it extends a type of the scope. -/
theorem Beside.step (h : Beside s r r') (hop : op.loads = true) (hok : r.grants op = true)
    (htag : r.tagOf op ≠ some s) (hext : r.extendsTypeOf s op = false) :
    r'.grants op = true ∧ Beside s (r.perform op) (r'.perform op) := by
  rcases perform_loads h.steady hop with ⟨e, -, hno, -⟩ | ⟨ev, hev, ht⟩ | rfl | ⟨scope, rfl⟩
  · rw [hno] at hok
    cases hok
  · have ha : r.holdings.allows ev = true := ht.granted_eq ▸ hok
    have hb : ev.belongs s = false := by rw [belongs_of_asked hev]; simpa using htag
    -- the same is asked on the other side, where the scope does not stand in the way of it
    have ht' := takes_of_asked h.steady' hop ((asked_congr h.scopes op).trans hev)
    have ha' : r'.holdings.allows ev = true := by
      rw [h.holdings]
      exact allows_without ha ((extendsTypeOf_of_asked hev).trans hext)
    refine ⟨ht'.granted_eq.trans ha', ht.steady, ht'.steady, ?_, ?_⟩
    · rw [ht'.scopes, ht.scopes, h.scopes]
    · rw [ht'.holdings, ht.holdings, Holdings.next, Holdings.next, if_pos ha, if_pos ha',
        h.holdings, without_act h.steady.listed ha hb (takesOut_of_asked hev)]
  · exact ⟨rfl, h.steady.leaveScope, h.steady'.leaveScope, congrArg List.tail h.scopes, h.holdings⟩
  · exact ⟨rfl, h.steady.enterScope scope, h.steady'.enterScope scope,
      congrArg (scope.name? :: ·) h.scopes, h.holdings⟩

/-- **A whole run**, by induction on its operations. -/
theorem beside_run (h : Beside s r r') {ops : List Operation} (hops : ∀ op ∈ ops, op.loads = true)
    (hok : r.Throughout (fun r op => r.grants op = true) ops)
    (hsep : r.Throughout (fun r op => r.tagOf op ≠ some s → r.extendsTypeOf s op = false) ops) :
    r'.Throughout (fun r op => r.grants op = true) (r.outside s ops) ∧
      Beside s (r.run ops) (r'.run (r.outside s ops)) := by
  induction ops generalizing r r' with
  | nil => exact ⟨trivial, h⟩
  | cons op ops ih =>
    have hop := hops op List.mem_cons_self
    have hrest : ∀ op ∈ ops, op.loads = true := fun op' hm => hops op' (List.mem_cons_of_mem _ hm)
    obtain ⟨hok, hoks⟩ := hok
    obtain ⟨hsep, hseps⟩ := hsep
    rw [outside]
    split
    · next htag => exact ih (h.skip hop hok htag) hrest hoks hseps
    · next htag =>
      obtain ⟨hok', hb⟩ := h.step hop hok htag (hsep htag)
      obtain ⟨hoks', hbs⟩ := ih hb hrest hoks hseps
      exact ⟨⟨hok', hoks'⟩, hbs⟩

/-- **Releasing a scope erases it.** Take a run of a new registry that registers types, commits
extensions, adds constraints and settles what is deferred, all of it granted, in which a type of the
scope is extended for that scope only. Without the operations of the scope the run is granted as
well; and once the scope is released and the rest is settled, the contents are those of the run
without it. -/
theorem release_erases {name : String} {scope : ScopeRef} {s : Value} (hs : scope.name? = some s)
    {ops : List Operation} (hops : ∀ op ∈ ops, op.loads = true)
    (hok : ({ name } : Registry).Throughout (fun r op => r.grants op = true) ops)
    (hsep : ({ name } : Registry).Throughout
      (fun r op => r.tagOf op ≠ some s → r.extendsTypeOf s op = false) ops) :
    let rest := ({ name } : Registry).outside s ops
    ({ name } : Registry).Throughout (fun r op => r.grants op = true) rest ∧
      (({ name } : Registry).run
          (ops ++ [.releaseScope scope, .resolveDeferred])).snapshot.contents =
        (({ name } : Registry).run (rest ++ [.resolveDeferred])).snapshot.contents := by
  obtain ⟨hoks, hb⟩ := beside_run (beside_new s name) hops hok hsep
  refine ⟨hoks, ?_⟩
  have hr := takes_releaseScope hb.steady hs
  simp only [run, List.foldl_append]
  exact contents_eq_of_settled hr.steady hb.steady' (hr.holdings.trans hb.holdings.symm)

/-- A run in which a plugin registers the parent of a type, extends another type between two
extensions of it, closes a cycle, and adds a constraint. -/
def pluginRun : List Operation :=
  [.register (.id ⟨"file", "note"⟩) [.inherit (.id ⟨"file", "text"⟩)] .none,
    .register (.id ⟨"file", "folder"⟩) [.acceptChildren "file"] .none,
    .commit { existing := { id := ⟨"file", "folder"⟩ }
              rules := { children := [{ family := "note" }] } }
      (.value "theme"),
    .enterScope (.value "plugin"),
    .register (.id ⟨"file", "text"⟩) [.inherit (.id ⟨"file", "note"⟩)] .none,
    .commit { existing := { id := ⟨"file", "folder"⟩ }
              rules := { children := [{ family := "note", required := true }] } } .none,
    .addConstraint
      (.constraint (.placement { id := "no-notes", check := fun _ => pure false })) .none,
    .leaveScope,
    .resolveDeferred,
    .commit { existing := { id := ⟨"file", "folder"⟩ }
              rules := { children := [{ family := "link" }] } }
      (.value "theme")]

theorem release_erases_plugin :
    let rest := ({ name := "files" } : Registry).outside "plugin" pluginRun
    (∀ op ∈ pluginRun, op.loads = true) ∧ rest.length = 7 ∧
      ({ name := "files" } : Registry).Throughout (fun r op => r.grants op = true) rest ∧
      (({ name := "files" } : Registry).run
          (pluginRun ++ [.releaseScope (.value "plugin"), .resolveDeferred])).snapshot.contents =
        (({ name := "files" } : Registry).run (rest ++ [.resolveDeferred])).snapshot.contents := by
  intro rest
  have hops : ∀ op ∈ pluginRun, op.loads = true := by decide
  have hok : ({ name := "files" } : Registry).Throughout (fun r op => r.grants op = true)
      pluginRun := by decide +kernel
  have hsep : ({ name := "files" } : Registry).Throughout
      (fun r op => r.tagOf op ≠ some "plugin" → r.extendsTypeOf "plugin" op = false)
      pluginRun := by decide +kernel
  have hs : (ScopeRef.value "plugin").name? = some "plugin" := by decide +kernel
  obtain ⟨hgranted, hsame⟩ := release_erases hs hops hok hsep
  exact ⟨hops, by decide +kernel, hgranted, hsame⟩

end Taxonomy

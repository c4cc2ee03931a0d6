import Taxonomy.Proofs.Registry.Erasing

/-!
# Actions that are confined to a scope

A module that names no scopes registers everything for the scope it runs in. What it does then
depends on what the registry holds, and on nothing else; and it can be taken back with its scope.

* `Grows`: holdings with more of one scope.
* `Alike`: registries that hold the same.
* `Confined`: an action does the same to registries that hold the same, and adds to the current
  scope only.
* `alike_perform`: an operation that registers something for the current scope.
-/

namespace Taxonomy

open Registry

/-! ## Growing holdings -/

/-- What belongs to a scope belongs to no other one. -/
theorem Event.belongs_unique {ev : Event} {s t : Value} (hst : s ≠ t) (hb : ev.belongs s = true) :
    ev.belongs t = false := by
  have hne : ∀ scope : Option Value, (scope == some s) = true → (scope == some t) = false := by
    intro scope hs
    rw [beq_iff_eq] at hs
    rw [hs, beq_eq_false_iff_ne]
    exact fun h => hst (Option.some.inj h)
  cases ev with
  | registered d => exact hne _ hb
  | extended t e => exact hne _ hb
  | constrained k scope => exact hne _ hb
  | settled => rfl
  | released s' => rfl
  | cleared => rfl

/-- What belongs to a scope takes nothing out. -/
theorem Event.takesOut_of_belongs {ev : Event} {s : Value} (hb : ev.belongs s = true) :
    ev.takesOut = false := by
  cases ev with
  | released s' => cases hb
  | cleared => cases hb
  | registered d => rfl
  | extended t e => rfl
  | settled => rfl
  | constrained k scope => rfl

/-- **Holdings with more of one scope**: what belongs to it came to them, event by event. -/
inductive Grows (s : Value) (h : Holdings) : Holdings → Prop where
  | refl : Grows s h h
  | step {h' : Holdings} {ev : Event} (hg : Grows s h h') (ha : h'.allows ev = true)
    (hb : ev.belongs s = true) : Grows s h (ev.act h')

namespace Grows

variable {s t : Value} {h h' h'' : Holdings}

theorem trans (hg : Grows s h h') (hg' : Grows s h' h'') : Grows s h h'' := by
  induction hg' with
  | refl => exact hg
  | step _ ha hb ih => exact ih.step ha hb

theorem listed (hg : Grows s h h') (hl : h.Listed) : h'.Listed := by
  induction hg with
  | refl => exact hl
  | step _ _ _ ih => exact listed_act ih _

/-- **What came with the scope is gone with it.** -/
theorem without_self (hg : Grows s h h') (hl : h.Listed) : h'.without s = h.without s := by
  induction hg with
  | refl => rfl
  | step hg ha hb ih => rw [without_act_of_belongs (hg.listed hl) ha hb, ih]

/-- **Another scope gets nothing**: where it had nothing, it has nothing. -/
theorem without_other (hg : Grows s h h') (hl : h.Listed) (hst : s ≠ t) (hn : h.without t = h) :
    h'.without t = h' := by
  induction hg with
  | refl => exact hn
  | @step h' ev hg ha hb ih =>
    rw [without_act (hg.listed hl) ha (Event.belongs_unique hst hb)
      (Event.takesOut_of_belongs hb), ih]

end Grows

/-! ## Registries that hold the same -/

/-- **Registries that hold the same**, in which the same scopes are entered. -/
structure Alike (r r' : Registry) : Prop where
  steady : r.Steady
  steady' : r'.Steady
  scopes : r'.scopes = r.scopes
  holdings : r'.holdings = r.holdings

variable {r r' : Registry} {s : Value} {α : Type}

theorem Registry.Steady.alike (h : r.Steady) : Alike r r := ⟨h, h, rfl, rfl⟩

theorem Alike.enterScope (h : Alike r r') (scope : ScopeRef) :
    Alike (r.enterScope scope) (r'.enterScope scope) :=
  ⟨h.steady.enterScope scope, h.steady'.enterScope scope, congrArg (scope.name? :: ·) h.scopes,
    h.holdings⟩

theorem Alike.leaveScope (h : Alike r r') : Alike r.leaveScope r'.leaveScope :=
  ⟨h.steady.leaveScope, h.steady'.leaveScope, congrArg List.tail h.scopes, h.holdings⟩

/-- **What an action does that is confined to a scope**: the outcomes are of one kind, the
registries hold the same afterwards, and what is new belongs to the scope. -/
structure Keeps (s : Value) (r : Registry) (ok ok' : Bool) (after after' : Registry) : Prop where
  same : ok' = ok
  alike : Alike after after'
  scopes : after.scopes = r.scopes
  grows : Grows s r.holdings after.holdings

/-- **An action that is confined to the current scope.** -/
def Confined (a : Action α) : Prop :=
  ∀ (r r' : Registry) (s : Value), Alike r r' → r.currentScope = some s →
    Keeps s r (a.outcome r).isOk (a.outcome r').isOk (a.after r) (a.after r')

/-- **An operation that registers something for the current scope**, in registries that hold the
same. -/
theorem alike_perform (h : Alike r r') {op op' : Operation} (hop : op.loads = true)
    (hop' : op'.loads = true) (htag : r.tagOf op = some s) (hasked : r'.asked op' = r.asked op) :
    Keeps s r (r.grants op) (r'.grants op') (r.perform op) (r'.perform op') := by
  rcases perform_loads h.steady hop with ⟨e, he, hno, hsame⟩ | ⟨ev, hev, ht⟩ | rfl | ⟨scope, rfl⟩
  · rcases perform_loads h.steady' hop' with
      ⟨e', he', hno', hsame'⟩ | ⟨ev', hev', -⟩ | rfl | ⟨_, rfl⟩
    · rw [hno, hno', hsame, hsame']
      exact ⟨rfl, h, rfl, .refl⟩
    · rw [hasked, he] at hev'
      cases hev'
    · rw [he] at hasked
      cases hasked
    · rw [he] at hasked
      cases hasked
  · -- one event on both sides, and whether it is allowed shows in the holdings
    have ht' := takes_of_asked h.steady' hop' (hasked.trans hev)
    have hsame : r'.holdings.allows ev = r.holdings.allows ev := by rw [h.holdings]
    refine ⟨ht'.granted_eq.trans (hsame.trans ht.granted_eq.symm), ?_, ht.scopes, ?_⟩
    · refine ⟨ht.steady, ht'.steady, ?_, ?_⟩
      · rw [ht'.scopes, ht.scopes, h.scopes]
      · rw [ht'.holdings, ht.holdings, h.holdings]
    · rw [ht.holdings, Holdings.next]
      split
      · next ha =>
        have hb : ev.belongs s = true := by
          rw [belongs_of_asked hev, htag]
          exact beq_self_eq_true _
        exact .step .refl ha hb
      · exact .refl
  · cases htag
  · cases htag

end Taxonomy

import Taxonomy.Session
import Taxonomy.Proofs.Provider.Confined

/-!
# Providers that run a list of steps

A provider registers types, opens extensions and commits them, and adds constraints, one step after
the other, until a step is refused; at the end it may fail of itself. It names no scopes. All that
it does depends on what the registry holds, and belongs to the scope that it runs in.

* `ProviderStep`, `loadSteps`: the steps, and a load that runs them.
* `Together`: two operations of sessions, side by side; `together_bind` puts them one after the
  other.
* `together_step`: one step.
* `confined_loadSteps`: a load that runs steps is confined to the scope that it runs in.
-/

namespace Taxonomy

open Registry Session

/-- **A step of a provider**, without a scope of its own. -/
inductive ProviderStep where
  | register (id : TypeRef) (clauses : List Clause)
  /-- Opens an extension and keeps the draft under a name. -/
  | findType (name : String) (id : TypeRef) (clauses : List Clause)
  | addToDraft (name : String) (clauses : List Clause)
  | commit (name : String)
  | addConstraint (k : ConstraintRef)

/-- What a step does in the session of a provider. -/
def ProviderStep.perform : ProviderStep → SessionAction Unit
  | register id clauses => do let _ ← onRegistry (Registry.register id clauses)
  | findType name id clauses => do let _ ← Session.findType name id clauses
  | addToDraft name clauses => do let _ ← Session.addToDraft name clauses
  | commit name => do let _ ← commitDraft name .none
  | addConstraint k => onRegistry (Registry.addConstraint k)

/-- **A load that runs steps**, in a session of its own, until one is refused; it may fail after the
last one. -/
def loadSteps (steps : List ProviderStep) (failure : Option Fault) : Action Unit := do
  let all : SessionAction Unit := steps.forM ProviderStep.perform
  let (outcome, s) := all.run.run { registry := ← get }
  set s.registry
  match outcome with
  | .error f => throw f
  | .ok _ => match failure with
    | some f => throw f
    | none => return

/-! ## Sessions side by side -/

/-- Drafts that extend the same type by the same rules, whatever the type was when they were
opened. -/
structure SameDraft (d d' : ExtensionDraft) : Prop where
  id : d'.existing.id = d.existing.id
  rules : d'.rules = d.rules
  committed : d'.committed = d.committed

/-- **Sessions whose registries hold the same**, with the same drafts under the same names. -/
structure SameSession (σ σ' : Session) : Prop where
  registry : Alike σ.registry σ'.registry
  drafts : List.Forall₂ (fun p p' => p'.1 = p.1 ∧ SameDraft p.2 p'.2) σ.drafts σ'.drafts

/-- Outcomes of one kind, with related results. -/
inductive SameOutcome {α β : Type} (P : α → β → Prop) : Result α → Result β → Prop where
  | ok {a : α} {b : β} (h : P a b) : SameOutcome P (.ok a) (.ok b)
  | error {e e' : Fault} : SameOutcome P (.error e) (.error e')

/-- **Two operations side by side**, in sessions that are the same: their outcomes are of one kind,
the sessions stay the same, and what is new belongs to the scope that is entered. -/
def Together {α β : Type} (P : α → β → Prop) (a : SessionAction α) (a' : SessionAction β) : Prop :=
  ∀ (σ σ' : Session) (s : Value), SameSession σ σ' → σ.registry.currentScope = some s →
    SameOutcome P (a.run.run σ).1 (a'.run.run σ').1 ∧
      SameSession (a.run.run σ).2 (a'.run.run σ').2 ∧
      (a.run.run σ).2.registry.scopes = σ.registry.scopes ∧
      Grows s σ.registry.holdings (a.run.run σ).2.registry.holdings

section Rules

variable {α β γ δ : Type} {P : α → β → Prop} {Q : γ → δ → Prop}

theorem together_pure {a : α} {b : β} (h : P a b) : Together P (pure a) (pure b) :=
  fun _ _ _ hσ _ => ⟨.ok h, hσ, rfl, .refl⟩

theorem together_throw {e e' : Fault} : Together P (throw e) (throw e') :=
  fun _ _ _ hσ _ => ⟨.error, hσ, rfl, .refl⟩

/-- **One after the other**: operations that run side by side, and then what follows on their
results. -/
theorem together_bind {a : SessionAction α} {a' : SessionAction β} {k : α → SessionAction γ}
    {k' : β → SessionAction δ} (ha : Together P a a')
    (hk : ∀ v v', P v v' → Together Q (k v) (k' v')) : Together Q (a >>= k) (a' >>= k') := by
  intro σ σ' s hσ hs
  obtain ⟨hout, hτ, hscopes, hgrows⟩ := ha σ σ' s hσ hs
  rw [run_bind, run_bind]
  rcases hx : a.run.run σ with ⟨x, τ⟩
  rcases hx' : a'.run.run σ' with ⟨x', τ'⟩
  rw [hx] at hout hτ hscopes hgrows
  rw [hx'] at hout hτ
  simp only at hout hτ hscopes hgrows
  cases hout with
  | error => exact ⟨.error, hτ, hscopes, hgrows⟩
  | @ok v v' hv =>
    have hcur : τ.registry.currentScope = some s := by
      rw [← hs, Registry.currentScope, Registry.currentScope, hscopes]
    obtain ⟨hout, hτ', hscopes', hgrows'⟩ := hk v v' hv τ τ' s hτ hcur
    exact ⟨hout, hτ', hscopes'.trans hscopes, hgrows.trans hgrows'⟩

end Rules

/-! ## Drafts -/

variable {σ σ' : Session}

/-- The drafts under a name are the same, if there are any. -/
theorem lookup_same {ds ds' : List (String × ExtensionDraft)}
    (h : List.Forall₂ (fun p p' => p'.1 = p.1 ∧ SameDraft p.2 p'.2) ds ds') (name : String) :
    (ds.lookup name = none ∧ ds'.lookup name = none) ∨
      ∃ d d', ds.lookup name = some d ∧ ds'.lookup name = some d' ∧ SameDraft d d' := by
  induction h with
  | nil => exact .inl ⟨rfl, rfl⟩
  | @cons p p' ds ds' hp _ ih =>
    obtain ⟨n, d⟩ := p
    obtain ⟨n', d'⟩ := p'
    obtain ⟨rfl, hd⟩ : n' = n ∧ SameDraft d d' := hp
    rw [List.lookup_cons, List.lookup_cons]
    cases name == n' with
    | true => exact .inr ⟨d, d', rfl, rfl, hd⟩
    | false => exact ih

theorem put_same {ds ds' : List (String × ExtensionDraft)} {d d' : ExtensionDraft}
    (h : List.Forall₂ (fun p p' => p'.1 = p.1 ∧ SameDraft p.2 p'.2) ds ds') (hd : SameDraft d d')
    (name : String) :
    List.Forall₂ (fun p p' => p'.1 = p.1 ∧ SameDraft p.2 p'.2) (put Prod.fst (name, d) ds)
      (put Prod.fst (name, d') ds') := by
  induction h with
  | nil => exact .cons ⟨rfl, hd⟩ .nil
  | @cons p p' ds ds' hp hds ih =>
    rw [put, put, hp.1]
    split
    · exact .cons ⟨rfl, hd⟩ hds
    · exact .cons hp ih

/-- A clause does the same to both drafts; where it is refused, it may be so in different words. -/
theorem same_apply {d d' : ExtensionDraft} (h : SameDraft d d') (c : Clause) :
    SameOutcome SameDraft (d.apply c) (d'.apply c) := by
  have hrules : SameOutcome SameDraft (do return { d with rules := ← d.rules.apply c })
      (do return { d' with rules := ← d'.rules.apply c }) := by
    rw [h.rules]
    cases d.rules.apply c with
    | ok r => exact .ok ⟨h.id, rfl, h.committed⟩
    | error e => exact .error
  cases c with
  | describe v => exact .error
  | inherit p => exact .error
  | inheritParts f s => exact .error
  | _ => exact hrules

theorem same_applyAll {d d' : ExtensionDraft} (h : SameDraft d d') (cs : List Clause) :
    SameDraft (d.applyAll cs).1 (d'.applyAll cs).1 ∧
      (d'.applyAll cs).2.isSome = (d.applyAll cs).2.isSome := by
  unfold ExtensionDraft.applyAll
  induction cs generalizing d d' with
  | nil => exact ⟨h, rfl⟩
  | cons c cs ih =>
    have hc := same_apply h c
    rw [applyUntilFault, applyUntilFault]
    revert hc
    cases d.apply c with
    | ok x =>
      cases d'.apply c with
      | ok x' => rintro ⟨hx⟩; exact ih hx
      | error e => rintro ⟨⟩
    | error e =>
      cases d'.apply c with
      | ok x' => rintro ⟨⟩
      | error e' => exact fun _ => ⟨h, rfl⟩

/-! ## Steps -/

/-- Reading a draft, told apart by what is kept under the name. -/
theorem run_draft (name : String) (σ : Session) :
    (∀ d, σ.drafts.lookup name = some d → (draft name).run.run σ = (.ok d, σ)) ∧
      (σ.drafts.lookup name = none → (draft name).run.run σ = (.error (.missingKey name), σ)) := by
  have hget : (get : SessionAction Session).run.run σ = (.ok σ, σ) := rfl
  rw [draft, run_bind, hget]
  constructor
  · intro d h
    simp only [h]
    rfl
  · intro h
    simp only [h]
    rfl

theorem together_draft (name : String) : Together SameDraft (draft name) (draft name) := by
  intro σ σ' s hσ hs
  rcases lookup_same hσ.drafts name with ⟨h, h'⟩ | ⟨d, d', h, h', hd⟩
  · rw [(run_draft name σ).2 h, (run_draft name σ').2 h']
    exact ⟨.error, hσ, rfl, .refl⟩
  · rw [(run_draft name σ).1 d h, (run_draft name σ').1 d' h']
    exact ⟨.ok hd, hσ, rfl, .refl⟩

theorem together_keepDraft {d d' : ExtensionDraft} (hd : SameDraft d d') (name : String) :
    Together (fun _ _ => True) (keepDraft name d) (keepDraft name d') :=
  fun _ _ _ hσ _ => ⟨.ok trivial, ⟨hσ.registry, put_same hσ.drafts hd name⟩, rfl, .refl⟩

theorem together_addToDraft (name : String) (clauses : List Clause) :
    Together SameDraft (addToDraft name clauses) (addToDraft name clauses) := by
  refine together_bind (together_draft name) fun d d' hd => ?_
  obtain ⟨hkeep, hfault⟩ := same_applyAll hd clauses
  generalize d.applyAll clauses = q at hkeep hfault
  generalize d'.applyAll clauses = q' at hkeep hfault
  obtain ⟨x, fault⟩ := q
  obtain ⟨x', fault'⟩ := q'
  refine together_bind (together_keepDraft hkeep name) fun _ _ _ => ?_
  cases fault with
  | some f =>
    obtain ⟨f', rfl⟩ := Option.isSome_iff_exists.1 hfault
    exact together_throw
  | none =>
    obtain rfl := Option.not_isSome_iff_eq_none.1 (by simpa using hfault)
    exact together_pure hkeep

/-- An operation on the registry of a session. -/
theorem run_onRegistry {α : Type} (a : Action α) (σ : Session) :
    (onRegistry a).run.run σ = (a.outcome σ.registry, { σ with registry := a.after σ.registry }) :=
  rfl

theorem sameOutcome_of_isOk {α β : Type} {x : Result α} {x' : Result β} (h : x'.isOk = x.isOk) :
    SameOutcome (fun _ _ => True) x x' := by
  cases x <;> cases x' <;> first | exact .ok trivial | exact .error | cases h

/-- **An operation that registers something** for the scope that is entered. -/
theorem together_onRegistry {α β : Type} {a : Action α} {a' : Action β} (op op' : Operation)
    (ha : ∀ r, (a.outcome r).isOk = r.grants op ∧ a.after r = r.perform op)
    (ha' : ∀ r, (a'.outcome r).isOk = r.grants op' ∧ a'.after r = r.perform op')
    (hop : op.loads = true) (hop' : op'.loads = true)
    (htag : ∀ r : Registry, r.tagOf op = r.currentScope)
    (hasked : ∀ r r' : Registry, r'.scopes = r.scopes → r'.asked op' = r.asked op) :
    Together (fun _ _ => True) (onRegistry a) (onRegistry a') := by
  intro σ σ' s hσ hs
  have hk := alike_perform hσ.registry hop hop' ((htag _).trans hs)
    (hasked _ _ hσ.registry.scopes)
  rw [← (ha _).1, ← (ha' _).1, ← (ha _).2, ← (ha' _).2] at hk
  rw [run_onRegistry, run_onRegistry]
  exact ⟨sameOutcome_of_isOk hk.same, ⟨hk.alike, hσ.drafts⟩, hk.scopes, hk.grows⟩

/-- What is registered is stored, and nothing else. -/
theorem isSome_type? {r : Registry} (h : r.Steady) (t : TypeId) :
    (r.snapshot.type? t).isSome = (r.holdings.registrations.find? t).isSome := by
  rw [Bool.eq_iff_iff, Option.isSome_iff_exists, Option.isSome_iff_exists]
  constructor
  · rintro ⟨d, hd⟩
    obtain ⟨reg, hreg, -⟩ := h.sound.exists_registration hd
    exact ⟨reg, hreg⟩
  · rintro ⟨reg, hreg⟩
    obtain ⟨st, hst⟩ := h.sound.exists_definition hreg
    exact ⟨_, hst⟩

/-- Opening an extension, told apart by what is found. -/
theorem run_findType (id : TypeRef) (r : Registry) :
    (Registry.findType id).run.run r = match id.resolve with
      | .error e => (.error e, r)
      | .ok t => match r.snapshot.type? t with
        | some d => (.ok { existing := d }, r)
        | none => (.error (.typeNotFound t r.snapshot.names), r) := by
  rw [Registry.findType, run_get, run_lift]
  cases id.resolve with
  | error e => rfl
  | ok t =>
    simp only
    rw [run_lift, Snapshot.requireType]
    cases r.snapshot.type? t <;> rfl

/-- **A type is found in both sessions or in none**; the drafts extend the same type, even where its
definition differs. -/
theorem together_registryFindType (id : TypeRef) :
    Together SameDraft (onRegistry (Registry.findType id)) (onRegistry (Registry.findType id)) := by
  intro σ σ' s hσ hs
  have hsame : ∀ t, (σ'.registry.snapshot.type? t).isSome =
      (σ.registry.snapshot.type? t).isSome := by
    intro t
    rw [isSome_type? hσ.registry.steady, isSome_type? hσ.registry.steady', hσ.registry.holdings]
  rw [run_onRegistry, run_onRegistry]
  simp only [Action.outcome, Action.after, run_findType]
  cases id.resolve with
  | error e => exact ⟨.error, hσ, rfl, .refl⟩
  | ok t =>
    have ht := hsame t
    cases hd : σ.registry.snapshot.type? t with
    | none =>
      cases hd' : σ'.registry.snapshot.type? t with
      | none =>
        simp only [hd, hd']
        exact ⟨.error, hσ, trivial, .refl⟩
      | some d' =>
        rw [hd, hd'] at ht
        cases ht
    | some d =>
      cases hd' : σ'.registry.snapshot.type? t with
      | none =>
        rw [hd, hd'] at ht
        cases ht
      | some d' =>
        have hid : d'.id = d.id := by
          rw [(Catalog.find?_eq_some_iff.1 hd).2, (Catalog.find?_eq_some_iff.1 hd').2]
        simp only [hd, hd']
        exact ⟨.ok ⟨hid, rfl, rfl⟩, hσ, trivial, .refl⟩

/-- **One step of a provider.** -/
theorem together_step (st : ProviderStep) :
    Together (fun _ _ => True) st.perform st.perform := by
  have hdone : ∀ {α β : Type} {P : α → β → Prop} {a : SessionAction α} {b : SessionAction β},
      Together P a b → Together (fun _ _ => True) (do let _ ← a) (do let _ ← b) :=
    fun h => together_bind h fun _ _ _ => together_pure trivial
  cases st with
  | register id clauses =>
    refine hdone (together_onRegistry (.register id clauses .none)
      (.register id clauses .none) (fun _ => ⟨rfl, rfl⟩) (fun _ => ⟨rfl, rfl⟩) rfl rfl
      (fun _ => rfl) fun r r' h => asked_congr h _)
  | findType name id clauses =>
    exact hdone (together_bind (together_registryFindType id) fun d d' hd =>
      together_bind (together_keepDraft hd name) fun _ _ _ => together_addToDraft name clauses)
  | addToDraft name clauses => exact hdone (together_addToDraft name clauses)
  | commit name =>
    refine hdone (P := fun _ _ => True) (together_bind (together_draft name) fun d d' hd => ?_)
    -- a commit looks at the id and the rules of its draft, not at the definition it was opened on
    have hasked : ∀ r r' : Registry, r'.scopes = r.scopes →
        r'.asked (.commit d' .none) = r.asked (.commit d .none) := by
      intro r r' h
      rw [← asked_congr h, asked, asked, hd.committed, hd.id, ExtensionDraft.build,
        ExtensionDraft.build, hd.rules]
    refine together_bind (together_onRegistry (.commit d .none) (.commit d' .none)
      (fun _ => ⟨rfl, rfl⟩) (fun _ => ⟨rfl, rfl⟩) rfl rfl (fun _ => rfl) hasked) fun _ _ _ => ?_
    have hspent : SameDraft { d with committed := true } { d' with committed := true } :=
      ⟨hd.id, hd.rules, rfl⟩
    exact together_bind (together_keepDraft hspent name) fun _ _ _ => together_pure trivial
  | addConstraint k =>
    exact together_onRegistry (.addConstraint k .none) (.addConstraint k .none)
      (fun _ => ⟨rfl, rfl⟩) (fun _ => ⟨rfl, rfl⟩) rfl rfl (fun _ => rfl)
      fun r r' h => asked_congr h _

/-- **All steps**, by induction on them. -/
theorem together_steps (steps : List ProviderStep) :
    Together (fun _ _ => True) (steps.forM ProviderStep.perform)
      (steps.forM ProviderStep.perform) := by
  induction steps with
  | nil => exact together_pure trivial
  | cons st steps ih => exact together_bind (together_step st) fun _ _ _ => ih

/-- What a load comes to: what its steps come to, and then a failure of its own. -/
theorem run_loadSteps (steps : List ProviderStep) (failure : Option Fault) (r : Registry) :
    (loadSteps steps failure).run.run r =
      let x := (steps.forM ProviderStep.perform : SessionAction Unit).run.run { registry := r }
      (match x.1, failure with
        | .error f, _ => .error f
        | .ok _, some f => .error f
        | .ok _, none => .ok (), x.2.registry) := by
  unfold loadSteps
  rw [run_get]
  generalize (steps.forM ProviderStep.perform : SessionAction Unit).run.run { registry := r } = x
  obtain ⟨outcome, τ⟩ := x
  cases outcome with
  | error f => rfl
  | ok u => cases failure <;> rfl

/-- **A load that runs steps is confined** to the scope that it runs in. -/
theorem confined_loadSteps (steps : List ProviderStep) (failure : Option Fault) :
    Confined (loadSteps steps failure) := by
  intro r r' s hr hs
  obtain ⟨hout, hτ, hscopes, hgrows⟩ := together_steps steps { registry := r } { registry := r' } s
    ⟨hr, .nil⟩ hs
  simp only [Action.outcome, Action.after, run_loadSteps]
  refine ⟨?_, hτ.registry, hscopes, hgrows⟩
  generalize (StateT.run (ExceptT.run (steps.forM ProviderStep.perform)) { registry := r }).1 = x
    at hout ⊢
  generalize (StateT.run (ExceptT.run (steps.forM ProviderStep.perform)) { registry := r' }).1 = x'
    at hout ⊢
  cases hout with
  | error => rfl
  | ok _ => cases failure <;> rfl

end Taxonomy

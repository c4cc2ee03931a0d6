import Taxonomy.Registry.Basic

/-!
# Providers

A provider is a module's unit of registration: it says what it depends on, and registers types and
constraints when it is loaded.

* `orderProviders`: dependencies first, then the lesser priority, then the earlier provider.
-/

namespace Taxonomy

/-- **What a provider says about itself.** -/
structure ProviderInfo where
  id : String
  dependencies : List String := []
  /-- The lesser priority comes first among providers that do not depend on each other. -/
  priority : Int := 100
  description : Value := ""
  deriving DecidableEq, Repr, Inhabited

/-- What a provider says about itself, from values. The dependencies are the elements of one. -/
def ProviderInfo.make (id : Value) (dependencies : Value := .list []) (priority : Int := 100)
    (description : Value := "") : Result ProviderInfo := do
  let id := if id.isTruthy then Text.trim id.text else ""
  if id == "" then throw .providerIdMissing
  let dependencies := (← elementsOf dependencies).map fun d => Text.trim d.text
  return { id, priority, description, dependencies := textSet dependencies }

/-- **A provider**, with the name of its kind and what it does to a registry. -/
structure Provider extends ProviderInfo where
  kind : String
  load : Action Unit

instance : Inhabited Provider := ⟨{ id := "", kind := "", load := pure () }⟩

namespace Provider

/-- The provider in one line. -/
def text (p : Provider) : String := s!"{p.kind}({Text.quote p.id})"

/-- The scope that a provider's registrations belong to. -/
def scope (p : Provider) : ScopeRef := .handle s!"provider:{p.id}"

/-- The dependencies of a provider that are among the given ones. -/
def knownDependencies (p : Provider) (ids : List String) : List String :=
  p.dependencies.filter ids.contains

end Provider

/-- The first of the providers with the least priority. -/
def leastPriority : List Provider → Option Provider
  | [] => none
  | p :: ps => match leastPriority ps with
    | some q => if q.priority < p.priority then some q else some p
    | none => some p

theorem mem_of_leastPriority {ps : List Provider} {p : Provider} (h : leastPriority ps = some p) :
    p ∈ ps := by
  induction ps generalizing p with
  | nil => simp [leastPriority] at h
  | cons q qs ih =>
    unfold leastPriority at h
    split at h
    · next r hr =>
      split at h
      · cases h; exact List.mem_cons_of_mem _ (ih hr)
      · cases h; exact List.mem_cons_self
    · cases h; exact List.mem_cons_self

/-- The providers whose dependencies are all placed, as far as they are among the given ones. -/
def readyProviders (ids placed : List String) (rest : List Provider) : List Provider :=
  rest.filter fun p => (p.knownDependencies ids).all placed.contains

/-- Places providers one after the other, each time the least one that is ready; those that never
get ready are left over. -/
def placeProviders (ids placed : List String) (rest : List Provider) :
    List Provider × List Provider :=
  match _h : leastPriority (readyProviders ids placed rest) with
  | none => ([], rest)
  | some p =>
    let (ordered, stuck) := placeProviders ids (placed ++ [p.id]) (rest.eraseP (·.id == p.id))
    (p :: ordered, stuck)
termination_by rest.length
decreasing_by
  have hm := (List.mem_filter.1 (mem_of_leastPriority _h)).1
  have := List.length_pos_of_mem hm
  rw [List.length_eraseP_of_mem hm (by simp)]
  omega

/-- **Providers in the order of loading.** Of several with one id the first counts; dependencies
that are not among the providers do not. There is no order when dependencies form a cycle. -/
def orderProviders (providers : List Provider) : Result (List Provider) :=
  let kept := distinctBy (·.id) providers
  match kept.find? fun p => p.dependencies.contains p.id with
  | some p => throw (.providerCycle [p.id])
  | none =>
    let (ordered, stuck) := placeProviders (kept.map (·.id)) [] kept
    if stuck.isEmpty then pure ordered else throw (.providerCycle (sortTexts (stuck.map (·.id))))

end Taxonomy

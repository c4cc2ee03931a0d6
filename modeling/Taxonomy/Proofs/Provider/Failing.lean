import Taxonomy.Proofs.Provider.Rollback

/-!
# What a failing provider takes with it

A provider that fails has its scope released. This takes back what it has registered now, and with
it whatever belonged to the scope before: when a provider that has loaded is run again and fails,
its earlier registrations are gone, too, and what it has put into the types of others.

* `untagged_of_without`: taking a scope out changes something exactly where something belongs to it.
* `failed_provider_releases`: what is left after a failure, and when it is what was there before.
* `failed_provider_takes_earlier`: a provider that is run twice.
-/

namespace Taxonomy

open Registry

variable {c : Contents} {s : Value} {r q : Registry} {p : Provider}

/-- **Where taking a scope out changes nothing, nothing belongs to it.** -/
theorem untagged_of_without (h : c.holdings.without s = c.holdings) : c.tagged s = 0 :=
  untagged_of_holdings h.symm

/-- **A provider that fails takes with it all that belongs to its scope.** Take a registry whose
snapshot some run has led to, in which no scope is queued for release, and a provider that runs
steps and then possibly fails.

* The failure names the provider.
* What is left are the types, extensions and constraints that do not belong to its scope, whenever
  they were registered.
* This is what was there before exactly when nothing belonged to the scope. -/
theorem failed_provider_releases (hq : q.Reachable) (hsnap : r.snapshot = q.snapshot)
    (hidle : r.released = []) {steps : List ProviderStep} {failure : Option Fault}
    (hload : p.load = loadSteps steps failure) {f : Fault}
    (hout : Action.outcome (runProvider p) r = .error f) :
    (∃ cause, f = .providerFailed p.id cause) ∧
      (Action.after (runProvider p) r).holdings = r.holdings.without p.scopeName ∧
      ((Action.after (runProvider p) r).holdings = r.holdings ↔
        r.snapshot.contents.tagged p.scopeName = 0) := by
  have hconf : Confined p.load := hload ▸ confined_loadSteps steps failure
  have hsteady := steady_of_reachable hq hsnap hidle
  cases hcause : Action.outcome p.load (r.enterScope p.scope) with
  | ok _ =>
    rw [Action.outcome, runProvider_ok hcause] at hout
    cases hout
  | error cause =>
    obtain ⟨-, -, hleft⟩ := runProvider_failed hconf hsteady hcause
    rw [Action.outcome, runProvider_error hcause] at hout
    refine ⟨⟨cause, (Except.error.inj hout).symm⟩, hleft, ?_⟩
    rw [hleft]
    exact ⟨untagged_of_without, without_of_untagged⟩

/-- A registry in which a provider has loaded. -/
def loadedTexts : Registry := Action.after (runProvider textProvider) { name := "files" }

theorem reachable_loadedTexts : ∃ q : Registry, q.Reachable ∧ loadedTexts.snapshot = q.snapshot :=
  ⟨_, ⟨"files", [.enterScope textProvider.scope,
    .register (.id ⟨"file", "folder"⟩) [.acceptChildren "file"] .none,
    .register (.id ⟨"file", "note"⟩) [.inherit (.id ⟨"file", "text"⟩)] .none,
    .leaveScope], rfl⟩, rfl⟩

/-- The provider is run again: its first type is taken, by itself. -/
theorem outcome_loadedTexts : Action.outcome (runProvider textProvider) loadedTexts =
    .error (.providerFailed "texts" (.typeTaken ⟨"file", "folder"⟩)) := rfl

theorem failed_provider_releases_texts :
    (Action.after (runProvider textProvider) loadedTexts).holdings =
        loadedTexts.holdings.without textProvider.scopeName ∧
      loadedTexts.snapshot.contents.tagged textProvider.scopeName = 2 ∧
      (Action.after (runProvider textProvider) loadedTexts).holdings ≠ loadedTexts.holdings := by
  obtain ⟨q, hq, hsnap⟩ := reachable_loadedTexts
  have hidle : loadedTexts.released = [] := rfl
  obtain ⟨steps, failure, hload⟩ : ∃ steps failure,
      textProvider.load = loadSteps steps failure := by
    simp only [textProvider]
    exact ⟨_, _, rfl⟩
  obtain ⟨-, hleft, hsame⟩ := failed_provider_releases hq hsnap hidle hload outcome_loadedTexts
  have htagged : loadedTexts.snapshot.contents.tagged textProvider.scopeName = 2 := by
    decide +kernel
  refine ⟨hleft, htagged, fun h => ?_⟩
  have hnone := hsame.1 h
  omega

/-- **What was registered before is not always left.** The provider has loaded two types; it is run
again in the registry that this has led to, and fails; and the types are gone. -/
theorem failed_provider_takes_earlier :
    Action.outcome (runProvider textProvider) { name := "files" } = .ok () ∧
      (∃ q : Registry, q.Reachable ∧ loadedTexts.snapshot = q.snapshot) ∧
      loadedTexts.released = [] ∧
      Action.outcome (runProvider textProvider) loadedTexts =
        .error (.providerFailed "texts" (.typeTaken ⟨"file", "folder"⟩)) ∧
      loadedTexts.holdings.registrations.keys = [⟨"file", "folder"⟩, ⟨"file", "note"⟩] ∧
      (Action.after (runProvider textProvider) loadedTexts).holdings.registrations.keys = [] := by
  have hfirst : loadedTexts.holdings.registrations.keys =
      [⟨"file", "folder"⟩, ⟨"file", "note"⟩] := by decide +kernel
  have hthen : (Action.after (runProvider textProvider) loadedTexts).holdings.registrations.keys =
      [] := by decide +kernel
  exact ⟨rfl, reachable_loadedTexts, rfl, outcome_loadedTexts, hfirst, hthen⟩

end Taxonomy

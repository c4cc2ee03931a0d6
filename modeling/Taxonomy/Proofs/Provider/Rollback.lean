import Taxonomy.Proofs.Provider.Order
import Taxonomy.Proofs.Provider.Script

/-!
# Failing providers leave no trace

A provider that fails may have registered parents that other types waited for, closed cycles with
them, extended types of other providers, or added constraints. All of it goes with its scope, and
the providers after it do what they would have done had it never run.

* `candidates`: the providers that a bootstrap takes.
* `runProvider_failed`: what a provider that fails leaves, whatever its scope held before.
* `runProvider_cases`: what running a provider comes to.
* `LoadsApart`, `exists_loadsApart`: a list of providers, beside only those of them that load.
* `bootstrap_leaves_no_trace`: a bootstrap as a whole.
-/

namespace Taxonomy

open Registry

/-- The name of the scope that a provider runs in. -/
def Provider.scopeName (p : Provider) : Value := s!"provider:{p.id}"

/-- **The providers that a bootstrap takes**: those that are given or found, without those that are
disabled. -/
def candidates (sources : ProviderSources) (providers : Option (List Provider))
    (options : ProviderOptions) : Result (List Provider) := do
  let disabled := (← elementsOf options.disabled).map fun d => Text.trim d.text
  return (providers.getD (discover sources options)).filter fun p => !disabled.contains p.id

/-- **Loads only some providers**, each in its own scope; then what was deferred is resolved. -/
def loadOnly (providers : List Provider) : Action Nat := do
  providers.forM runProvider
  resolveDeferred

theorem scopeName_ne {p q : Provider} (h : p.id ≠ q.id) : p.scopeName ≠ q.scopeName := by
  intro hpq
  exact h (by simpa [Provider.scopeName, toString] using hpq)

/-! ## One provider -/

variable {p : Provider} {r r' : Registry}

/-- An attempt never fails, and leaves what the operation leaves. -/
theorem run_attempt {α β : Type} (a : Action β) (k : Result β → Action α) (r : Registry) :
    (attempt a >>= k).run.run r = (k (a.outcome r)).run.run (a.after r) := rfl

/-- A release of a scope that has a name is always made. -/
theorem run_discard_releaseScope {α : Type} {scope : ScopeRef} {s : Value}
    (hs : scope.name? = some s) (k : Unit → Action α) (r : Registry) :
    (discard (releaseScope scope) >>= k).run.run r =
      (k ()).run.run (Action.after (releaseScope scope) r) := by
  have hrun : (releaseScope scope).run.run r =
      (.ok (r.drain.2.snapshot.contents.release s).result,
        Action.after (releaseScope scope) r) := by
    rw [Action.after, run_releaseScope, hs]
    exact run_change _ r
  have hdiscard : discard (releaseScope scope) = releaseScope scope >>= fun _ => pure () :=
    (bind_pure_comp _ (releaseScope scope)).symm
  rw [hdiscard, run_bind, run_bind, hrun]
  rfl

/-- A provider loads when its load is done. -/
theorem runProvider_ok (hout : Action.outcome p.load (r.enterScope p.scope) = .ok ()) :
    (runProvider p).run.run r =
      (.ok (), (Action.after p.load (r.enterScope p.scope)).leaveScope) := by
  rw [runProvider, run_modify, run_attempt, run_modify, hout]
  rfl

/-- **A provider fails when its load fails**, and its scope is released. -/
theorem runProvider_error {cause : Fault}
    (hout : Action.outcome p.load (r.enterScope p.scope) = .error cause) :
    (runProvider p).run.run r = (.error (.providerFailed p.id cause),
      Action.after (releaseScope p.scope)
        (Action.after p.load (r.enterScope p.scope)).leaveScope) := by
  rw [runProvider, run_modify, run_attempt, run_modify, hout]
  exact run_discard_releaseScope rfl _ _

/-- **What a provider that fails leaves**: all but what belongs to its scope. -/
theorem runProvider_failed (hload : Confined p.load) (h : r.Steady) {cause : Fault}
    (hout : Action.outcome p.load (r.enterScope p.scope) = .error cause) :
    (Action.after (runProvider p) r).Steady ∧
      (Action.after (runProvider p) r).scopes = r.scopes ∧
      (Action.after (runProvider p) r).holdings = r.holdings.without p.scopeName := by
  obtain ⟨-, halike, hscopes, hgrows⟩ :=
    hload _ _ p.scopeName (h.enterScope p.scope).alike rfl
  obtain ⟨-, hsteady, hs, hh⟩ :=
    takes_releaseScope halike.leaveScope.steady (rfl : p.scope.name? = some p.scopeName)
  rw [Action.after, runProvider_error hout]
  refine ⟨hsteady, hs.trans (congrArg List.tail hscopes), hh.trans ?_⟩
  -- the release takes out what the load has brought, and what was there before
  exact hgrows.without_self h.listed

/-- **What running a provider comes to**, in registries that hold the same and nothing of its scope.
It loads in both of them, and then they hold the same; or it fails, and then the one it has run in
holds what it did before. -/
theorem runProvider_cases (hload : Confined p.load) (h : Alike r r')
    (hnone : r.holdings.without p.scopeName = r.holdings) :
    (Action.outcome (runProvider p) r = .ok () ∧ Action.outcome (runProvider p) r' = .ok () ∧
      Alike (Action.after (runProvider p) r) (Action.after (runProvider p) r') ∧
      Grows p.scopeName r.holdings (Action.after (runProvider p) r).holdings) ∨
    ∃ cause, Action.outcome (runProvider p) r = .error (.providerFailed p.id cause) ∧
      Alike (Action.after (runProvider p) r) r' := by
  obtain ⟨hsame, halike, hscopes, hgrows⟩ := hload _ _ p.scopeName (h.enterScope p.scope) rfl
  have hleft := halike.leaveScope
  cases hout : Action.outcome p.load (r.enterScope p.scope) with
  | ok _ =>
    cases hout' : Action.outcome p.load (r'.enterScope p.scope) with
    | ok _ =>
      rw [Action.outcome, Action.outcome, Action.after, Action.after, runProvider_ok hout,
        runProvider_ok hout']
      exact .inl ⟨rfl, rfl, hleft, hgrows⟩
    | error e =>
      rw [hout, hout'] at hsame
      cases hsame
  | error cause =>
    obtain ⟨hsteady, hs, hh⟩ := runProvider_failed hload h.steady hout
    rw [hnone] at hh
    refine .inr ⟨cause, ?_, hsteady, h.steady', h.scopes.trans hs.symm, h.holdings.trans hh.symm⟩
    rw [Action.outcome, runProvider_error hout]

/-! ## A list of providers -/

variable {ps loaded : List Provider} {report : BootstrapReport}

theorem runReported_ok (hout : Action.outcome (runProvider p) r = .ok ()) :
    (runReported report p).run.run r =
      (.ok { report with loaded := report.loaded ++ [p.id] }, Action.after (runProvider p) r) := by
  rw [runReported, run_attempt, hout]
  rfl

theorem runReported_error {id : String} {cause : Fault}
    (hout : Action.outcome (runProvider p) r = .error (.providerFailed id cause)) :
    (runReported report p).run.run r =
      (.ok { report with failed := report.failed ++ [(p.id, s!"{cause.label}: {cause.message}")] },
        Action.after (runProvider p) r) := by
  rw [runReported, run_attempt, hout]
  rfl

/-- **What loading providers comes to**, in registries that hold the same, when only those that load
are run in the second one. -/
structure LoadsApart (ps : List Provider) (report : BootstrapReport) (r r' : Registry)
    (loaded : List Provider) (failed : List (String × String)) : Prop where
  sublist : loaded.Sublist ps
  failed_eq : failed.map Prod.fst = (ps.map (·.id)).filter (· ∉ loaded.map (·.id))
  outcome : Action.outcome (ps.foldlM runReported report) r =
    .ok { report with
      loaded := report.loaded ++ loaded.map (·.id)
      failed := report.failed ++ failed }
  outcome' : Action.outcome (loaded.forM runProvider) r' = .ok ()
  alike : Alike (Action.after (ps.foldlM runReported report) r)
    (Action.after (loaded.forM runProvider) r')

/-- The ids that are left when one more is taken out. -/
theorem filter_not_mem_cons {id : String} {ids taken : List String} (h : id ∉ ids) :
    (id :: ids).filter (· ∉ id :: taken) = ids.filter (· ∉ taken) := by
  rw [List.filter_cons_of_neg (by simp)]
  refine List.filter_congr fun x hx => ?_
  have hne : x ≠ id := fun e => h (e ▸ hx)
  simp [hne]

/-- One more provider that loads. -/
theorem LoadsApart.cons_ok {failed : List (String × String)} (hp : p.id ∉ ps.map (·.id))
    (hout : Action.outcome (runProvider p) r = .ok ())
    (hout' : Action.outcome (runProvider p) r' = .ok ())
    (h : LoadsApart ps { report with loaded := report.loaded ++ [p.id] }
      (Action.after (runProvider p) r) (Action.after (runProvider p) r') loaded failed) :
    LoadsApart (p :: ps) report r r' (p :: loaded) failed := by
  have hrun : ((p :: ps).foldlM runReported report).run.run r =
      (ps.foldlM runReported { report with loaded := report.loaded ++ [p.id] }).run.run
        (Action.after (runProvider p) r) := by
    rw [List.foldlM_cons, run_bind, runReported_ok hout]
  have hrun' : ((p :: loaded).forM runProvider).run.run r' =
      (loaded.forM runProvider).run.run (Action.after (runProvider p) r') := by
    have hp : (runProvider p).run.run r' = (.ok (), Action.after (runProvider p) r') :=
      Prod.ext hout' rfl
    rw [List.forM_eq_forM, List.forM_cons, run_bind, hp]
  refine ⟨h.sublist.cons_cons p, ?_, ?_, ?_, ?_⟩
  · rw [h.failed_eq, List.map_cons, List.map_cons, filter_not_mem_cons hp]
  · rw [Action.outcome, hrun]
    refine h.outcome.trans ?_
    rw [List.append_assoc]
    rfl
  · rw [Action.outcome, hrun']
    exact h.outcome'
  · rw [Action.after, Action.after, hrun, hrun']
    exact h.alike

/-- One more provider that fails, whatever the report says of it. -/
theorem LoadsApart.cons_error {failed : List (String × String)} {text : String}
    (hp : p.id ∉ ps.map (·.id))
    (hrep : (runReported report p).run.run r =
      (.ok { report with failed := report.failed ++ [(p.id, text)] },
        Action.after (runProvider p) r))
    (h : LoadsApart ps { report with failed := report.failed ++ [(p.id, text)] }
      (Action.after (runProvider p) r) r' loaded failed) :
    LoadsApart (p :: ps) report r r' loaded ((p.id, text) :: failed) := by
  have hrun : ((p :: ps).foldlM runReported report).run.run r =
      (ps.foldlM runReported { report with failed := report.failed ++ [(p.id, text)] }).run.run
        (Action.after (runProvider p) r) := by
    rw [List.foldlM_cons, run_bind, hrep]
  have hnot : p.id ∉ loaded.map (·.id) := fun hm => hp ((h.sublist.map _).subset hm)
  refine ⟨h.sublist.cons p, ?_, ?_, h.outcome', ?_⟩
  · rw [List.map_cons, h.failed_eq, List.map_cons, List.filter_cons_of_pos (by simpa using hnot)]
  · rw [Action.outcome, hrun]
    refine h.outcome.trans ?_
    rw [List.append_assoc]
    rfl
  · rw [Action.after, hrun]
    exact h.alike

/-- **Providers one after the other**, by induction on them: each of them loads on both sides, or
fails and leaves nothing behind. -/
theorem exists_loadsApart (hids : (ps.map (·.id)).Nodup) (hload : ∀ p ∈ ps, Confined p.load)
    (h : Alike r r') (hnone : ∀ p ∈ ps, r.holdings.without p.scopeName = r.holdings)
    (report : BootstrapReport) : ∃ loaded failed, LoadsApart ps report r r' loaded failed := by
  induction ps generalizing r r' report with
  | nil => exact ⟨[], [], .slnil, rfl, by simp only [List.map_nil, List.append_nil]; rfl, rfl, h⟩
  | cons p ps ih =>
    obtain ⟨hp, hids⟩ := List.nodup_cons.1 hids
    have hloads : ∀ q ∈ ps, Confined q.load := fun q hq => hload q (List.mem_cons_of_mem _ hq)
    have hnones : ∀ q ∈ ps, r.holdings.without q.scopeName = r.holdings := fun q hq =>
      hnone q (List.mem_cons_of_mem _ hq)
    rcases runProvider_cases (hload p List.mem_cons_self) h (hnone p List.mem_cons_self) with
      ⟨hout, hout', halike, hgrows⟩ | ⟨cause, hout, halike⟩
    · -- what is new belongs to the scope of this provider, and the others have scopes of their own
      have hrest : ∀ q ∈ ps, (Action.after (runProvider p) r).holdings.without q.scopeName =
          (Action.after (runProvider p) r).holdings := by
        intro q hq
        have hne : p.id ≠ q.id := fun e => hp (List.mem_map.2 ⟨q, hq, e.symm⟩)
        exact hgrows.without_other h.steady.listed (scopeName_ne hne) (hnones q hq)
      obtain ⟨loaded, failed, hl⟩ := ih hids hloads halike hrest _
      exact ⟨_, _, hl.cons_ok hp hout hout'⟩
    · -- nothing is new, and the second registry has not moved
      have hsame : (Action.after (runProvider p) r).holdings = r.holdings :=
        halike.holdings.symm.trans h.holdings
      have hrest : ∀ q ∈ ps, (Action.after (runProvider p) r).holdings.without q.scopeName =
          (Action.after (runProvider p) r).holdings := by
        rw [hsame]
        exact hnones
      obtain ⟨loaded, failed, hl⟩ := ih hids hloads halike hrest _
      exact ⟨_, _, hl.cons_error hp (runReported_error hout)⟩

/-! ## A bootstrap -/

/-- Entries of a list are found in it again by their keys. -/
theorem filter_of_sublist (h : loaded.Sublist ps) (hids : (ps.map (·.id)).Nodup) :
    (ps.filter fun p => p.id ∈ loaded.map (·.id)) = loaded := by
  induction h with
  | slnil => rfl
  | @cons l₁ l₂ p h ih =>
    obtain ⟨hp, hids⟩ := List.nodup_cons.1 hids
    have hnot : p.id ∉ l₁.map (·.id) := fun hm => hp ((h.map _).subset hm)
    rw [List.filter_cons_of_neg (by simpa using hnot), ih hids]
  | @cons_cons l₁ l₂ p h ih =>
    obtain ⟨hp, hids⟩ := List.nodup_cons.1 hids
    rw [List.filter_cons_of_pos (by simp)]
    refine congrArg (p :: ·) (Eq.trans (List.filter_congr fun q hq => ?_) (ih hids))
    -- among the entries behind it none has the key of the one that is kept
    have hne : q.id ≠ p.id := fun e => hp (List.mem_map.2 ⟨q, hq, e⟩)
    simp [hne]

/-- **There are no problems when every type is resolved.** -/
theorem problems_eq_nil_iff (s : Snapshot) :
    s.problems = [] ↔ ∀ d ∈ s.types, d.isResolved = true := by
  rw [Snapshot.problems, List.map_eq_nil_iff, List.filter_eq_nil_iff]
  simp [Snapshot.sortedTypes]

/-- **A bootstrap whose providers have an order**: they are loaded, and then what was deferred is
resolved. -/
theorem run_bootstrap {sources : ProviderSources} {providers : Option (List Provider)}
    {options : ProviderOptions} {taken ordered : List Provider}
    (htaken : candidates sources providers options = .ok taken)
    (hordered : orderProviders taken = .ok ordered) :
    ∃ skipped, (bootstrap sources providers options).run.run r =
      match (ordered.foldlM runReported { order := ordered.map (·.id), skipped }).run.run r with
      | (.ok report, after) =>
        let settled := Action.after resolveDeferred after
        (.ok { report with
          resolved := after.drain.2.snapshot.contents.resolveDeferred.result
          unresolved := settled.snapshot.problems }, settled)
      | (.error f, after) => (.error f, after) := by
  rw [candidates] at htaken
  obtain ⟨disabled, hd, htaken⟩ := ok_of_bind htaken
  obtain rfl := Except.ok.inj htaken
  refine ⟨((providers.getD (discover sources options)).filter fun p =>
    (disabled.map fun d => Text.trim d.text).contains p.id).map (·.id), ?_⟩
  rw [bootstrap, run_lift, hd]
  simp only
  rw [run_lift, hordered]
  simp only
  rw [run_bind]
  split
  · next report after heq =>
    rw [heq]
    simp only
    rw [run_bind, Action.after, run_resolveDeferred]
    rfl
  · next f after heq => rw [heq]

theorem run_loadOnly (hout : Action.outcome (loaded.forM runProvider) r = .ok ()) :
    (loadOnly loaded).run.run r =
      resolveDeferred.run.run (Action.after (loaded.forM runProvider) r) := by
  have hrun : (loaded.forM runProvider).run.run r =
      (.ok (), Action.after (loaded.forM runProvider) r) := Prod.ext hout rfl
  rw [loadOnly, run_bind, hrun]

/-- **A failing provider leaves no trace.** Take a registry whose snapshot some run has led to, in
which no scope is queued for release and nothing belongs to the scopes of the providers; and
providers that run steps and then possibly fail, whose dependencies form no cycle. A bootstrap takes
them in their order; it reports each of them as loaded or as failed; and it leads to the contents
that come of running only those that have loaded, and resolving what was deferred. -/
theorem bootstrap_leaves_no_trace {r q : Registry} (hq : q.Reachable)
    (hsnap : r.snapshot = q.snapshot) (hidle : r.released = []) {sources : ProviderSources}
    {providers : Option (List Provider)} {options : ProviderOptions} {taken : List Provider}
    (htaken : candidates sources providers options = .ok taken)
    (hload : ∀ p ∈ taken, ∃ steps failure, p.load = loadSteps steps failure)
    (huntagged : ∀ p ∈ taken, r.snapshot.contents.tagged p.scopeName = 0) (hac : Acyclic taken) :
    ∃ report ordered, Action.outcome (bootstrap sources providers options) r = .ok report ∧
      orderProviders taken = .ok ordered ∧ ordered.Perm (distinctBy (·.id) taken) ∧
      report.order = ordered.map (·.id) ∧ report.loaded.Sublist report.order ∧
      report.failed.map Prod.fst = report.order.filter (· ∉ report.loaded) ∧
      (report.ok = true ↔ report.failed = [] ∧
        ∀ d ∈ (Action.after (bootstrap sources providers options) r).snapshot.types,
          d.isResolved = true) ∧
      let loaded := ordered.filter fun p => p.id ∈ report.loaded
      (Action.outcome (loadOnly loaded) r).isOk ∧
        (Action.after (bootstrap sources providers options) r).snapshot.contents =
          (Action.after (loadOnly loaded) r).snapshot.contents := by
  obtain ⟨ordered, hordered, hperm⟩ := exists_order hac
  have hids : (ordered.map (·.id)).Nodup :=
    (hperm.map _).nodup_iff.2 (nodup_distinctFrom _ _ _)
  have hmem : ∀ p ∈ ordered, p ∈ taken := fun p hp => (mem_distinctFrom (hperm.subset hp)).1
  have hconf : ∀ p ∈ ordered, Confined p.load := by
    intro p hp
    obtain ⟨steps, failure, h⟩ := hload p (hmem p hp)
    rw [h]
    exact confined_loadSteps steps failure
  have hnone : ∀ p ∈ ordered, r.holdings.without p.scopeName = r.holdings := fun p hp =>
    without_of_untagged (huntagged p (hmem p hp))
  obtain ⟨skipped, hrun⟩ := run_bootstrap (r := r) htaken hordered
  obtain ⟨loaded, failed, hl⟩ := exists_loadsApart hids hconf
    (steady_of_reachable hq hsnap hidle).alike hnone { order := ordered.map (·.id), skipped }
  have hfold : (ordered.foldlM runReported { order := ordered.map (·.id), skipped }).run.run r =
      (.ok { order := ordered.map (·.id), skipped, loaded := loaded.map (·.id), failed },
        Action.after (ordered.foldlM runReported { order := ordered.map (·.id), skipped }) r) :=
    Prod.ext hl.outcome rfl
  rw [hfold] at hrun
  have hafter : Action.after (bootstrap sources providers options) r = Action.after resolveDeferred
      (Action.after (ordered.foldlM runReported { order := ordered.map (·.id), skipped }) r) :=
    congrArg Prod.snd hrun
  have halone : Action.after (loadOnly loaded) r =
      Action.after resolveDeferred (Action.after (loaded.forM runProvider) r) :=
    congrArg Prod.snd (run_loadOnly hl.outcome')
  refine ⟨_, ordered, congrArg Prod.fst hrun, hordered, hperm, rfl, hl.sublist.map _, hl.failed_eq,
    ?_, ?_, ?_⟩
  · rw [hafter, ← problems_eq_nil_iff]
    exact Bool.and_eq_true_iff.trans (and_congr List.isEmpty_iff List.isEmpty_iff)
  · rw [filter_of_sublist hl.sublist hids, Action.outcome, run_loadOnly hl.outcome',
      run_resolveDeferred]
    rfl
  · rw [filter_of_sublist hl.sublist hids, hafter, halone]
    exact contents_eq_of_settled hl.alike.steady hl.alike.steady' hl.alike.holdings.symm

/-- A provider of a folder, and of a type that waits for its parent. -/
def textProvider : Provider where
  id := "texts"
  kind := "TextProvider"
  load := loadSteps [
    .register (.id ⟨"file", "folder"⟩) [.acceptChildren "file"],
    .register (.id ⟨"file", "note"⟩) [.inherit (.id ⟨"file", "text"⟩)]] none

/-- A provider that closes a cycle with that type, extends the folder, and then fails. -/
def brokenProvider : Provider where
  id := "plugin"
  dependencies := ["texts"]
  priority := 50
  kind := "PluginProvider"
  load := loadSteps [
    .register (.id ⟨"file", "text"⟩) [.inherit (.id ⟨"file", "note"⟩)],
    .findType "folder" (.id ⟨"file", "folder"⟩) [.acceptChildren "link"],
    .commit "folder",
    .addConstraint (.constraint (.placement { id := "no-notes", check := fun _ => pure false }))]
    (some (.raised "RuntimeError" "no disk"))

/-- A provider that registers the parent. -/
def themeProvider : Provider where
  id := "themes"
  dependencies := ["texts", "fonts"]
  kind := "ThemeProvider"
  load := loadSteps [.register (.id ⟨"file", "text"⟩) []] none

/-- Three providers; the one that fails has registered a type that another one registers, too. -/
def threeProviders : List Provider := [themeProvider, brokenProvider, textProvider]

theorem acyclic_threeProviders : Acyclic threeProviders := by
  -- every dependency leads to a provider that has none itself
  have hdep : ∀ a b, DependsOn threeProviders a b → a ≠ "texts" ∧ b = "texts" := by
    rintro a b ⟨p, hp, rfl, hb, hin⟩
    have hp := (mem_distinctFrom hp).1
    simp only [threeProviders, List.mem_cons, List.not_mem_nil, or_false] at hp
    rcases hp with rfl | rfl | rfl
    · simp [threeProviders, themeProvider, brokenProvider, textProvider] at hb hin ⊢
      rcases hb with rfl | rfl
      · rfl
      · simp at hin
    · simp [brokenProvider] at hb ⊢
      exact hb
    · simp [textProvider] at hb
  intro a h
  obtain ⟨b, hab, -⟩ := Relation.TransGen.head'_iff.1 h
  obtain ⟨c, -, hca⟩ := Relation.TransGen.tail'_iff.1 h
  exact (hdep a b hab).1 (hdep c a hca).2

theorem order_threeProviders :
    orderProviders threeProviders = .ok [textProvider, brokenProvider, themeProvider] := by
  have hplaced : placeProviders ["themes", "plugin", "texts"] [] threeProviders =
      ([textProvider, brokenProvider, themeProvider], []) := by
    rw [placeProviders_some (p := textProvider) rfl, placeProviders_some (p := brokenProvider) rfl,
      placeProviders_some (p := themeProvider) rfl, placeProviders_none rfl]
    rfl
  have hkept : distinctBy (·.id) threeProviders = threeProviders := rfl
  have hself : threeProviders.find? (fun p => p.dependencies.contains p.id) = none := rfl
  have hids : threeProviders.map (·.id) = ["themes", "plugin", "texts"] := rfl
  rw [orderProviders, hkept, hself, hids, hplaced]
  rfl

theorem bootstrap_leaves_no_trace_plugin :
    (Action.outcome (bootstrap {} (some threeProviders)) { name := "files" }).toOption.map
        (fun report => (report.order, report.loaded, report.failed)) =
      some (["texts", "plugin", "themes"], ["texts", "themes"],
        [("plugin", "RuntimeError: no disk")]) ∧
    (Action.after (bootstrap {} (some threeProviders)) { name := "files" }).snapshot.contents =
      (Action.after (loadOnly [textProvider, themeProvider])
        { name := "files" }).snapshot.contents := by
  have hfacts :
      (Action.outcome (bootstrap {} (some threeProviders)) { name := "files" }).toOption.map
        (fun report => (report.order, report.loaded, report.failed)) =
      some (["texts", "plugin", "themes"], ["texts", "themes"],
        [("plugin", "RuntimeError: no disk")]) := by decide +kernel
  have htaken : candidates {} (some threeProviders) {} = .ok threeProviders := by rfl
  have hload : ∀ p ∈ threeProviders, ∃ steps failure, p.load = loadSteps steps failure := by
    unfold threeProviders themeProvider brokenProvider textProvider
    simp only [List.forall_mem_cons]
    exact ⟨⟨_, _, rfl⟩, ⟨_, _, rfl⟩, ⟨_, _, rfl⟩, by simp⟩
  have huntagged : ∀ p ∈ threeProviders,
      ({ name := "files" } : Registry).snapshot.contents.tagged p.scopeName = 0 := by
    decide +kernel
  obtain ⟨report, ordered, hout, hord, -, -, -, -, -, -, hsame⟩ :=
    bootstrap_leaves_no_trace (r := { name := "files" }) ⟨"files", [], rfl⟩ rfl rfl htaken hload
      huntagged acyclic_threeProviders
  obtain rfl := Except.ok.inj (hord.symm.trans order_threeProviders)
  refine ⟨hfacts, hsame.trans ?_⟩
  rw [hout] at hfacts
  have hloaded : report.loaded = ["texts", "themes"] := congrArg (·.2.1) (Option.some.inj hfacts)
  rw [hloaded]
  rfl

end Taxonomy

import Mathlib.Data.List.Sort
import Taxonomy.Proofs.Provider.Countdown
import Taxonomy.Proofs.Provider.Rollback

/-!
# Dependencies in a cycle

There is no order exactly when some provider depends on itself, near or far. The providers that are
left over are then those that lead into a cycle: each of them waits for another one that is left
over, and whatever is placed depends only on what is placed before it.

* `LeadsToCycle`: some path of dependencies leads into a cycle.
* `not_leadsToCycle_of_placed`, `leadsToCycle_of_stuck`: who is placed, and who is left over.
* `order_error_iff`, `mem_report_iff`: when there is no order, and who is reported.
* `orderProviders_withLoad`: what a provider does when it loads plays no part in this.
* `cycles_are_found`: all of it together, and a bootstrap that is refused.
-/

namespace Taxonomy

open Registry

/-- **A provider leads to a cycle**: it is in one, or depends on one that is, near or far. -/
def LeadsToCycle (ps : List Provider) (a : String) : Prop :=
  ∃ b, Relation.ReflTransGen (DependsOn ps) a b ∧ Relation.TransGen (DependsOn ps) b b

variable {ps ordered stuck : List Provider} {p q : Provider} {a b : String}

/-! ## The way into a cycle -/

/-- Who leads to a cycle depends on one that does. -/
theorem LeadsToCycle.step (h : LeadsToCycle ps a) : ∃ c, DependsOn ps a c ∧ LeadsToCycle ps c := by
  obtain ⟨b, hab, hb⟩ := h
  rcases Relation.ReflTransGen.cases_head hab with rfl | ⟨c, hac, hcb⟩
  · -- it is in the cycle, and goes on along it
    obtain ⟨c, hac, hca⟩ := Relation.TransGen.head'_iff.1 hb
    exact ⟨c, hac, a, hca, hb⟩
  · exact ⟨c, hac, b, hcb, hb⟩

theorem LeadsToCycle.of_dependsOn (hab : DependsOn ps a b) (h : LeadsToCycle ps b) :
    LeadsToCycle ps a := by
  obtain ⟨c, hbc, hc⟩ := h
  exact ⟨c, .head hab hbc, hc⟩

/-- Who leads to a cycle is one of the providers that count. -/
theorem LeadsToCycle.exists_provider (h : LeadsToCycle ps a) :
    ∃ p ∈ distinctBy (·.id) ps, p.id = a := by
  obtain ⟨c, ⟨p, hp, hid, -⟩, -⟩ := h.step
  exact ⟨p, hp, hid⟩

/-- Who is placed leads to no cycle, by induction on the list of those that are placed. -/
theorem not_leadsToCycle_of_prefix {before after : List Provider}
    (h : (placeProviders ((distinctBy (·.id) ps).map (·.id)) [] (distinctBy (·.id) ps)).1 =
      before ++ after) : ∀ a ∈ before.map (·.id), ¬ LeadsToCycle ps a := by
  induction before using List.reverseRecOn generalizing after with
  | nil => simp
  | append_singleton before p ih =>
    rw [List.append_assoc] at h
    have hbefore := ih h
    intro a ha hcycle
    rw [List.map_append, List.mem_append] at ha
    rcases ha with ha | ha
    · exact hbefore a ha hcycle
    · obtain rfl : a = p.id := by simpa using ha
      -- the next one on the way into the cycle is placed before
      obtain ⟨c, hpc, hc⟩ := hcycle.step
      exact hbefore c (placed_closed h c hpc) hc

/-- **Who is placed leads to no cycle.** -/
theorem not_leadsToCycle_of_placed
    (h : placeProviders ((distinctBy (·.id) ps).map (·.id)) [] (distinctBy (·.id) ps) =
      (ordered, stuck)) (hp : p ∈ ordered) : ¬ LeadsToCycle ps p.id := by
  have hall : (placeProviders ((distinctBy (·.id) ps).map (·.id)) [] (distinctBy (·.id) ps)).1 =
      ordered ++ [] := by rw [h, List.append_nil]
  exact not_leadsToCycle_of_prefix hall p.id (List.mem_map_of_mem hp)

/-- **Who is left over leads to a cycle.** -/
theorem leadsToCycle_of_stuck
    (h : placeProviders ((distinctBy (·.id) ps).map (·.id)) [] (distinctBy (·.id) ps) =
      (ordered, stuck)) (hp : p ∈ stuck) : LeadsToCycle ps p.id := by
  classical
  by_contra hnot
  -- those that are left over and lead to no cycle would wait for each other
  have hfree : ∀ q ∈ stuck.filter (fun q => ¬ LeadsToCycle ps q.id),
      ¬ Relation.TransGen (DependsOn ps) q.id q.id := by
    intro q hq hcycle
    exact of_decide_eq_true (List.mem_filter.1 hq).2 ⟨q.id, .refl, hcycle⟩
  have hnil : stuck.filter (fun q => ¬ LeadsToCycle ps q.id) = [] := by
    refine eq_nil_of_descends hfree fun q hq => ?_
    obtain ⟨hq, hqfree⟩ := List.mem_filter.1 hq
    obtain ⟨x, hx, hqx⟩ := exists_dependsOn_of_stuck h hq
    have hxfree : ¬ LeadsToCycle ps x.id := fun hc =>
      of_decide_eq_true hqfree (.of_dependsOn hqx hc)
    exact ⟨x, List.mem_filter.2 ⟨hx, decide_eq_true hxfree⟩, hqx⟩
  have hin : p ∈ stuck.filter (fun q => ¬ LeadsToCycle ps q.id) :=
    List.mem_filter.2 ⟨hp, decide_eq_true hnot⟩
  rw [hnil] at hin
  cases hin

/-! ## What is reported -/

/-- **What ordering comes to**: a provider that depends on itself is reported alone; otherwise
those that are left over are reported, if there are any. -/
theorem order_cases (ps : List Provider) :
    (∃ p, (distinctBy (·.id) ps).find? (fun p => p.dependencies.contains p.id) = some p ∧
      orderProviders ps = .error (.providerCycle [p.id])) ∨
    (∀ p ∈ distinctBy (·.id) ps, p.id ∉ p.dependencies) ∧ ∃ ordered stuck,
      placeProviders ((distinctBy (·.id) ps).map (·.id)) [] (distinctBy (·.id) ps) =
        (ordered, stuck) ∧
      (stuck = [] ∧ orderProviders ps = .ok ordered ∨
        stuck ≠ [] ∧
          orderProviders ps = .error (.providerCycle (sortTexts (stuck.map (·.id))))) := by
  rw [orderProviders]
  simp only
  cases hself : (distinctBy (·.id) ps).find? fun p => p.dependencies.contains p.id with
  | some p => exact .inl ⟨p, rfl, rfl⟩
  | none =>
    refine .inr ⟨fun p hp hd => ?_, _, _, rfl, ?_⟩
    · exact List.find?_eq_none.1 hself p hp (by simpa using hd)
    · by_cases hstuck : (placeProviders ((distinctBy (·.id) ps).map (·.id)) []
          (distinctBy (·.id) ps)).2 = []
      · exact .inl ⟨hstuck, if_pos (List.isEmpty_iff.2 hstuck)⟩
      · exact .inr ⟨hstuck, if_neg (fun h => hstuck (List.isEmpty_iff.1 h))⟩

/-- Where there is no order, a cycle is reported. -/
theorem error_order {f : Fault} (h : orderProviders ps = .error f) :
    ∃ ids, f = .providerCycle ids := by
  rcases order_cases ps with ⟨p, -, horder⟩ | ⟨-, _, _, -, ⟨-, horder⟩ | ⟨-, horder⟩⟩
  · exact ⟨_, Except.error.inj (h.symm.trans horder)⟩
  · cases h.symm.trans horder
  · exact ⟨_, Except.error.inj (h.symm.trans horder)⟩

theorem pairwise_sortTexts (ss : List String) : (sortTexts ss).Pairwise (· ≤ ·) := by
  have htrans : ∀ a b c : String, decide (a ≤ b) = true → decide (b ≤ c) = true →
      decide (a ≤ c) = true := fun a b c => by simpa using String.le_trans
  have htotal : ∀ a b : String, (decide (a ≤ b) || decide (b ≤ a)) = true := fun a b => by
    simpa using String.le_total a b
  exact (List.pairwise_mergeSort htrans htotal ss).imp of_decide_eq_true

/-- **There is no order exactly when there is a cycle.** -/
theorem order_error_iff (ps : List Provider) :
    (∃ ids, orderProviders ps = .error (.providerCycle ids)) ↔
      ∃ a, Relation.TransGen (DependsOn ps) a a := by
  constructor
  · rintro ⟨ids, h⟩
    rcases order_cases ps with ⟨p, hp, -⟩ | ⟨-, ordered, stuck, hplace, ⟨-, hok⟩ | ⟨hne, -⟩⟩
    · have hmem := List.mem_of_find?_eq_some hp
      have hd : p.id ∈ p.dependencies := by simpa using List.find?_some hp
      exact ⟨p.id, .single ((dependsOn_iff hmem).2 ⟨hd, List.mem_map_of_mem hmem⟩)⟩
    · cases h.symm.trans hok
    · obtain ⟨p, hp⟩ := List.exists_mem_of_ne_nil stuck hne
      obtain ⟨b, -, hb⟩ := leadsToCycle_of_stuck hplace hp
      exact ⟨b, hb⟩
  · rintro ⟨a, ha⟩
    cases h : orderProviders ps with
    | error f =>
      obtain ⟨ids, rfl⟩ := error_order h
      exact ⟨ids, rfl⟩
    | ok ordered =>
      -- in an order of all providers nobody leads to a cycle
      obtain ⟨p, hp, rfl⟩ := LeadsToCycle.exists_provider ⟨a, .refl, ha⟩
      have hin : p ∈ ordered := (greedy_order h).perm.symm.subset hp
      exact absurd ⟨p.id, .refl, ha⟩ (not_leadsToCycle_of_placed (placeProviders_of_order h) hin)

/-- **Who is reported**, when none depends on itself directly. -/
theorem mem_report_iff {ids : List String} (h : orderProviders ps = .error (.providerCycle ids))
    (hself : ∀ p ∈ distinctBy (·.id) ps, p.id ∉ p.dependencies) :
    ids.Pairwise (· ≤ ·) ∧ ids.Nodup ∧ ∀ a, a ∈ ids ↔ LeadsToCycle ps a := by
  rcases order_cases ps with ⟨p, hp, -⟩ | ⟨-, ordered, stuck, hplace, ⟨-, hok⟩ | ⟨-, herr⟩⟩
  · exact absurd (by simpa using List.find?_some hp) (hself p (List.mem_of_find?_eq_some hp))
  · cases h.symm.trans hok
  · obtain rfl : ids = sortTexts (stuck.map (·.id)) := by
      injection Except.error.inj (h.symm.trans herr)
    have hperm := (placeProviders_spec ((distinctBy (·.id) ps).map (·.id)) []
      (distinctBy (·.id) ps) (nodup_ids ps)).1
    rw [hplace] at hperm
    have hnodup : (stuck.map (·.id)).Nodup :=
      ((hperm.map (·.id)).nodup_iff.2 (nodup_ids ps)).sublist
        ((List.sublist_append_right _ _).map _)
    refine ⟨pairwise_sortTexts _, (List.mergeSort_perm _ _).nodup_iff.2 hnodup, fun a => ?_⟩
    rw [sortTexts, List.mem_mergeSort]
    constructor
    · intro ha
      obtain ⟨p, hp, rfl⟩ := List.mem_map.1 ha
      exact leadsToCycle_of_stuck hplace hp
    · intro ha
      obtain ⟨p, hp, rfl⟩ := ha.exists_provider
      -- every provider is placed or left over, and who is placed leads to no cycle
      rcases List.mem_append.1 (hperm.symm.subset hp) with hin | hin
      · exact absurd ha (not_leadsToCycle_of_placed hplace hin)
      · exact List.mem_map_of_mem hin

/-- The first provider that depends on itself is reported alone. -/
theorem report_self {before after : List Provider}
    (hkept : distinctBy (·.id) ps = before ++ p :: after) (hp : p.id ∈ p.dependencies)
    (hbefore : ∀ q ∈ before, q.id ∉ q.dependencies) :
    orderProviders ps = .error (.providerCycle [p.id]) := by
  have hfind : (distinctBy (·.id) ps).find? (fun p => p.dependencies.contains p.id) = some p := by
    rw [hkept, List.find?_append, List.find?_eq_none.2 (by simpa using hbefore)]
    simp [hp]
  rw [orderProviders, hfind]
  rfl

/-! ## Loading plays no part -/

/-- **The same providers, doing something else when they load.** -/
def Provider.withLoad (load : Provider → Action Unit) (p : Provider) : Provider :=
  { p with load := load p }

section WithLoad

variable {load : Provider → Action Unit} {ids placed : List String}

theorem distinctFrom_withLoad (seen : List String) (ps : List Provider) :
    distinctFrom (·.id) seen (ps.map (Provider.withLoad load)) =
      (distinctFrom (·.id) seen ps).map (Provider.withLoad load) :=
  distinctFrom_map _ seen ps

theorem leastPriority_withLoad (ps : List Provider) :
    leastPriority (ps.map (Provider.withLoad load)) =
      (leastPriority ps).map (Provider.withLoad load) := by
  induction ps with
  | nil => rfl
  | cons p ps ih =>
    rw [List.map_cons, leastPriority, leastPriority, ih]
    cases leastPriority ps with
    | none => rfl
    | some q =>
      have hprio : ∀ p : Provider, (p.withLoad load).priority = p.priority := fun _ => rfl
      simp only [Option.map_some, hprio]
      split <;> rfl

theorem placeProviders_withLoad (rest : List Provider) :
    placeProviders ids placed (rest.map (Provider.withLoad load)) =
      ((placeProviders ids placed rest).1.map (Provider.withLoad load),
        (placeProviders ids placed rest).2.map (Provider.withLoad load)) := by
  have hready : ∀ placed rest, readyProviders ids placed (rest.map (Provider.withLoad load)) =
      (readyProviders ids placed rest).map (Provider.withLoad load) := by
    intro placed rest
    rw [readyProviders, readyProviders, List.filter_map]
    rfl
  induction placed, rest using placeProviders.induct ids with
  | case1 placed rest hnone =>
    have hnone' : leastPriority (readyProviders ids placed (rest.map (Provider.withLoad load))) =
        none := by
      rw [hready, leastPriority_withLoad, hnone]
      rfl
    rw [placeProviders_none hnone, placeProviders_none hnone']
    rfl
  | case2 placed rest p hp _ _ _ ih =>
    have hp' : leastPriority (readyProviders ids placed (rest.map (Provider.withLoad load))) =
        some (p.withLoad load) := by
      rw [hready, leastPriority_withLoad, hp]
      rfl
    have herase : (rest.map (Provider.withLoad load)).eraseP (·.id == (p.withLoad load).id) =
        (rest.eraseP (·.id == p.id)).map (Provider.withLoad load) := List.eraseP_map
    rw [placeProviders_some hp, placeProviders_some hp', herase]
    have hid : (p.withLoad load).id = p.id := rfl
    rw [hid, ih, List.map_cons]

/-- **What a provider does when it loads plays no part in the order.** -/
theorem orderProviders_withLoad (ps : List Provider) :
    orderProviders (ps.map (Provider.withLoad load)) =
      (orderProviders ps).map (List.map (Provider.withLoad load)) := by
  have hids : ∀ ps : List Provider, (ps.map (Provider.withLoad load)).map (·.id) = ps.map (·.id) :=
    fun ps => List.map_map
  rw [orderProviders, orderProviders, distinctBy, distinctFrom_withLoad, ← distinctBy]
  simp only [hids, placeProviders_withLoad, List.find?_map, List.isEmpty_map]
  have hself : (fun p : Provider => p.dependencies.contains p.id) ∘ Provider.withLoad load =
      fun p => p.dependencies.contains p.id := rfl
  rw [hself]
  cases (distinctBy (·.id) ps).find? fun p => p.dependencies.contains p.id with
  | some p => rfl
  | none =>
    simp only [Option.map_none]
    split <;> rfl

end WithLoad

/-! ## A bootstrap that is refused -/

variable {sources : ProviderSources} {providers : Option (List Provider)}
  {options : ProviderOptions} {taken : List Provider}

/-- Reporting on a provider never fails, whatever came of it. -/
theorem exists_runReported (report : BootstrapReport) (p : Provider) (r : Registry) : ∃ report',
    (runReported report p).run.run r = (.ok report', Action.after (runProvider p) r) := by
  cases hout : Action.outcome p.load (r.enterScope p.scope) with
  | ok _ => exact ⟨_, runReported_ok (congrArg Prod.fst (runProvider_ok hout))⟩
  | error _ => exact ⟨_, runReported_error (congrArg Prod.fst (runProvider_error hout))⟩

/-- Loading providers one after the other never fails. -/
theorem exists_loaded (ps : List Provider) (report : BootstrapReport) (r : Registry) :
    ∃ report' r', (ps.foldlM runReported report).run.run r = (.ok report', r') := by
  induction ps generalizing report r with
  | nil => exact ⟨report, r, rfl⟩
  | cons p ps ih =>
    obtain ⟨report', hrun⟩ := exists_runReported report p r
    rw [List.foldlM_cons, run_bind, hrun]
    exact ih report' _

/-- **A bootstrap whose providers have no order** does nothing else. -/
theorem run_bootstrap_error {f : Fault} {r : Registry}
    (htaken : candidates sources providers options = .ok taken)
    (horder : orderProviders taken = .error f) :
    (bootstrap sources providers options).run.run r = (.error f, r) := by
  rw [candidates] at htaken
  obtain ⟨disabled, hd, htaken⟩ := ok_of_bind htaken
  obtain rfl := Except.ok.inj htaken
  rw [bootstrap, run_lift, hd]
  simp only
  rw [run_lift, horder]

/-- **A cycle is reported by a bootstrap only where there is no order.** -/
theorem order_of_bootstrap_error {ids : List String} {r : Registry}
    (h : Action.outcome (bootstrap sources providers options) r = .error (.providerCycle ids)) :
    ∃ taken, candidates sources providers options = .ok taken ∧
      orderProviders taken = .error (.providerCycle ids) := by
  cases hd : options.disabled.iterate? with
  | none =>
    -- what is disabled cannot be told, and this is another failure
    rw [Action.outcome, bootstrap, elementsOf, hd] at h
    cases h
  | some disabled =>
    have htaken : candidates sources providers options = .ok
        ((providers.getD (discover sources options)).filter fun p =>
          !(disabled.map fun d => Text.trim d.text).contains p.id) := by
      rw [candidates, elementsOf, hd]
      rfl
    refine ⟨_, htaken, ?_⟩
    cases horder : orderProviders ((providers.getD (discover sources options)).filter fun p =>
        !(disabled.map fun d => Text.trim d.text).contains p.id) with
    | error f =>
      rw [Action.outcome, run_bootstrap_error htaken horder] at h
      obtain rfl : f = .providerCycle ids := by injection h
      rfl
    | ok ordered =>
      -- once there is an order, whatever fails is reported and does not stop the others
      obtain ⟨skipped, hrun⟩ := run_bootstrap (r := r) htaken horder
      obtain ⟨report, r', hloaded⟩ :=
        exists_loaded ordered { order := ordered.map (·.id), skipped } r
      rw [Action.outcome, hrun, hloaded] at h
      cases h

theorem candidates_withLoad {load : Provider → Action Unit}
    (h : candidates sources providers options = .ok taken) :
    candidates sources
      (some ((providers.getD (discover sources options)).map (Provider.withLoad load))) options =
        .ok (taken.map (Provider.withLoad load)) := by
  rw [candidates] at h ⊢
  obtain ⟨disabled, hd, h⟩ := ok_of_bind h
  obtain rfl := Except.ok.inj h
  rw [hd]
  refine congrArg Except.ok ?_
  rw [Option.getD_some, List.filter_map]
  rfl

/-- **Cycles are found, and nothing else is refused.** Take any list of providers; of several with
one id the first counts, and a dependency that is not in the list does not.

* Counting dependencies down comes to the same, in an order as in a report.
* An order holds each provider that counts once.
* There is none exactly when there is a cycle, and then nothing else is reported.
* When no provider depends on itself directly, those are reported that lead to a cycle: sorted, each
  of them once. Otherwise the first one that depends on itself is reported alone.
* A bootstrap that reports a cycle has left the registry as it was. Whatever the providers do when
  they load, it comes to the same. -/
theorem cycles_are_found (ps : List Provider) :
    Countdown.order ps = orderProviders ps ∧
    (∀ ordered, orderProviders ps = .ok ordered → ordered.Perm (distinctBy (·.id) ps)) ∧
    (∀ f, orderProviders ps = .error f → ∃ ids, f = .providerCycle ids) ∧
    ((∃ ids, orderProviders ps = .error (.providerCycle ids)) ↔
      ∃ a, Relation.TransGen (DependsOn ps) a a) ∧
    (∀ ids, orderProviders ps = .error (.providerCycle ids) →
      (∀ p ∈ distinctBy (·.id) ps, p.id ∉ p.dependencies) →
        ids.Pairwise (· ≤ ·) ∧ ids.Nodup ∧ ∀ a, a ∈ ids ↔ LeadsToCycle ps a) ∧
    (∀ before p after, distinctBy (·.id) ps = before ++ p :: after → p.id ∈ p.dependencies →
      (∀ q ∈ before, q.id ∉ q.dependencies) →
        orderProviders ps = .error (.providerCycle [p.id])) ∧
    ∀ sources providers options r ids,
      Action.outcome (bootstrap sources providers options) r = .error (.providerCycle ids) →
        Action.after (bootstrap sources providers options) r = r ∧
        (∃ taken, candidates sources providers options = .ok taken ∧
          orderProviders taken = .error (.providerCycle ids)) ∧
        ∀ load, (bootstrap sources (some ((providers.getD (discover sources options)).map
          (Provider.withLoad load))) options).run.run r = (.error (.providerCycle ids), r) := by
  refine ⟨Countdown.countdown_eq_order ps, fun ordered h => (greedy_order h).perm,
    fun f h => error_order h, order_error_iff ps, fun ids h hself => mem_report_iff h hself,
    fun before p after hkept hp hbefore => report_self hkept hp hbefore, ?_⟩
  intro sources providers options r ids h
  obtain ⟨taken, htaken, horder⟩ := order_of_bootstrap_error h
  refine ⟨?_, ⟨taken, htaken, horder⟩, fun load => ?_⟩
  · rw [Action.after, run_bootstrap_error htaken horder]
  · refine run_bootstrap_error (candidates_withLoad htaken) ?_
    rw [orderProviders_withLoad, horder]
    rfl

/-- Two providers in a cycle, one that depends on them, one that does not, and an id given twice. -/
def loopProviders : List Provider := [idleProvider "top" ["left"] 0,
  idleProvider "left" ["right", "base"] 100, idleProvider "right" ["left"] 100,
  idleProvider "base" ["nowhere"] 100, idleProvider "base" ["top"] 100]

theorem cycles_are_found_loop :
    orderProviders loopProviders = .error (.providerCycle ["left", "right", "top"]) ∧
    (∀ a, a ∈ ["left", "right", "top"] ↔ LeadsToCycle loopProviders a) ∧
    Action.after (bootstrap {} (some loopProviders)) { name := "files" } = { name := "files" } := by
  have hplaced : placeProviders ["top", "left", "right", "base"] [] loopProviders.dropLast =
      ([idleProvider "base" ["nowhere"] 100], loopProviders.take 3) := by
    rw [placeProviders_some (p := idleProvider "base" ["nowhere"] 100) rfl, placeProviders_none rfl]
    rfl
  have hself : ∀ p ∈ distinctBy (·.id) loopProviders, p.id ∉ p.dependencies := by decide
  have hsorted : sortTexts ["top", "left", "right"] = ["left", "right", "top"] := by
    simp [sortTexts, List.mergeSort, List.MergeSort.Internal.splitInTwo]
  have horder : orderProviders loopProviders =
      .error (.providerCycle ["left", "right", "top"]) := by
    have hkept : distinctBy (·.id) loopProviders = loopProviders.dropLast := rfl
    have hids : loopProviders.dropLast.map (·.id) = ["top", "left", "right", "base"] := rfl
    have hfind : loopProviders.dropLast.find? (fun p => p.dependencies.contains p.id) = none := rfl
    rw [orderProviders, hkept, hfind, hids, hplaced, ← hsorted]
    rfl
  have hrefused : Action.outcome (bootstrap {} (some loopProviders)) { name := "files" } =
      .error (.providerCycle ["left", "right", "top"]) := by
    have htaken : candidates {} (some loopProviders) {} = .ok loopProviders := rfl
    rw [Action.outcome, run_bootstrap_error htaken horder]
  obtain ⟨-, -, -, -, hreport, -, hboot⟩ := cycles_are_found loopProviders
  exact ⟨horder, (hreport _ horder hself).2.2, (hboot _ _ _ _ _ hrefused).1⟩

end Taxonomy

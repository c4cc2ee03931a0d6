import Mathlib.Data.List.Nodup
import Mathlib.Order.WellFoundedSet
import Taxonomy.Provider.Basic
import Taxonomy.Proofs.Keyed

/-!
# The order of providers

Providers whose dependencies form no cycle are all put in order: were some left over, then each of
them would wait for another one that is left over.

* `DependsOn`: the known dependencies between the providers that count.
* `placeProviders_spec`: placing keeps all providers, and leaves none over that is ready.
* `exists_dependsOn_of_stuck`: who is left over waits for another one that is left over.
* `exists_order`: without a cycle there is an order of all providers.
-/

namespace Taxonomy

/-- **One provider of a list depends on another one**, by their ids. Of several with one id the
first counts, and a dependency that is not in the list does not. -/
def DependsOn (ps : List Provider) (a b : String) : Prop :=
  ∃ p ∈ distinctBy (·.id) ps, p.id = a ∧ b ∈ p.dependencies ∧ b ∈ ps.map (·.id)

/-- Dependencies without a cycle. -/
def Acyclic (ps : List Provider) : Prop := ∀ a, ¬ Relation.TransGen (DependsOn ps) a a

variable {ps ordered stuck : List Provider}

/-- A provider that is ready: its known dependencies are placed. -/
theorem mem_readyProviders {ids placed : List String} {p : Provider} :
    p ∈ readyProviders ids placed ps ↔
      p ∈ ps ∧ ∀ b ∈ p.dependencies, b ∈ ids → b ∈ placed := by
  rw [readyProviders, List.mem_filter]
  refine and_congr_right fun _ => ?_
  simp only [Provider.knownDependencies, List.all_eq_true, List.mem_filter, List.contains_iff_mem]
  exact ⟨fun h b hb hi => h b ⟨hb, hi⟩, fun h b hb => h b hb.1 hb.2⟩

theorem leastPriority_eq_none (h : leastPriority ps = none) : ps = [] := by
  cases ps with
  | nil => rfl
  | cons p ps =>
    rw [leastPriority] at h
    split at h
    · split at h <;> cases h
    · cases h

/-- Taking out the provider of an id takes out that provider. -/
theorem perm_eraseP_id {p : Provider} (hp : p ∈ ps) (hn : (ps.map (·.id)).Nodup) :
    (p :: ps.eraseP (·.id == p.id)).Perm ps := by
  obtain ⟨q, l₁, l₂, -, hq, hps, he⟩ := List.exists_of_eraseP hp (p := (·.id == p.id)) (by simp)
  have hqp : q = p := by
    refine List.inj_on_of_nodup_map hn ?_ hp (beq_iff_eq.1 hq)
    rw [hps]
    simp
  rw [he, hps, hqp]
  exact List.perm_middle.symm

/-- Nothing is placed when nothing is ready. -/
theorem placeProviders_none {ids placed : List String}
    (h : leastPriority (readyProviders ids placed ps) = none) :
    placeProviders ids placed ps = ([], ps) := by
  rw [placeProviders]
  split
  · rfl
  · next hp => rw [h] at hp; cases hp

/-- The least provider that is ready is placed first. -/
theorem placeProviders_some {ids placed : List String} {p : Provider}
    (h : leastPriority (readyProviders ids placed ps) = some p) :
    placeProviders ids placed ps =
      (p :: (placeProviders ids (placed ++ [p.id]) (ps.eraseP (·.id == p.id))).1,
        (placeProviders ids (placed ++ [p.id]) (ps.eraseP (·.id == p.id))).2) := by
  rw [placeProviders]
  split
  · next hn => rw [h] at hn; cases hn
  · next q hq => rw [Option.some.inj (h.symm.trans hq)]

/-- **Placing keeps all providers**, and leaves none over that is ready. -/
theorem placeProviders_spec (ids placed : List String) (rest : List Provider)
    (hn : (rest.map (·.id)).Nodup) :
    ((placeProviders ids placed rest).1 ++ (placeProviders ids placed rest).2).Perm rest ∧
      readyProviders ids (placed ++ (placeProviders ids placed rest).1.map (·.id))
        (placeProviders ids placed rest).2 = [] := by
  induction placed, rest using placeProviders.induct ids with
  | case1 placed rest h =>
    rw [placeProviders_none h]
    exact ⟨.rfl, by simpa using leastPriority_eq_none h⟩
  | case2 placed rest p h _ _ _ ih =>
    have hp : p ∈ rest := (mem_readyProviders.1 (mem_of_leastPriority h)).1
    have hn' : ((rest.eraseP (·.id == p.id)).map (·.id)).Nodup :=
      hn.sublist (List.eraseP_sublist.map _)
    obtain ⟨hperm, hready⟩ := ih hn'
    rw [placeProviders_some h]
    refine ⟨(hperm.cons p).trans (perm_eraseP_id hp hn), ?_⟩
    rw [List.map_cons, List.append_cons]
    exact hready

/-- **Who is left over waits for another one that is left over.** -/
theorem exists_dependsOn_of_stuck {p : Provider}
    (h : placeProviders ((distinctBy (·.id) ps).map (·.id)) [] (distinctBy (·.id) ps) =
      (ordered, stuck)) (hp : p ∈ stuck) : ∃ q ∈ stuck, DependsOn ps p.id q.id := by
  obtain ⟨hperm, hready⟩ := placeProviders_spec ((distinctBy (·.id) ps).map (·.id)) []
    (distinctBy (·.id) ps) (nodup_distinctFrom _ _ _)
  rw [h] at hperm hready
  have hwait :
      p ∉ readyProviders ((distinctBy (·.id) ps).map (·.id)) (ordered.map (·.id)) stuck := by
    rw [List.nil_append] at hready
    rw [hready]
    exact List.not_mem_nil
  rw [mem_readyProviders] at hwait
  push Not at hwait
  -- it waits for something that is not placed, and so is left over as well
  obtain ⟨b, hb, hbk, hbo⟩ := hwait hp
  obtain ⟨q, hq, rfl⟩ := List.mem_map.1 hbk
  have hqs : q ∈ stuck := by
    rcases List.mem_append.1 (hperm.symm.subset hq) with h | h
    · exact absurd (List.mem_map_of_mem h) hbo
    · exact h
  have hkept : p ∈ distinctBy (·.id) ps := hperm.subset (List.mem_append_right _ hp)
  exact ⟨q, hqs, p, hkept, rfl, hb, List.mem_map_of_mem (mem_distinctFrom hq).1⟩

/-! ## Without a cycle -/

/-- **Where each one has another one below it in a list, one of them is in a cycle.** -/
theorem eq_nil_of_descends {l : List Provider}
    (hac : ∀ p ∈ l, ¬ Relation.TransGen (DependsOn ps) p.id p.id)
    (h : ∀ p ∈ l, ∃ q ∈ l, DependsOn ps p.id q.id) : l = [] := by
  -- on a finite set what a provider depends on, near or far, is a well-founded order
  let below (q p : Provider) : Prop :=
    Relation.TransGen (DependsOn ps) p.id q.id ∧ ¬ Relation.TransGen (DependsOn ps) q.id q.id
  have : IsStrictOrder Provider below :=
    { irrefl := fun p hp => hp.2 hp.1
      trans := fun _ _ _ h h' => ⟨h'.1.trans h.1, h.2⟩ }
  have hwf : {p | p ∈ l}.WellFoundedOn below := l.finite_toSet.wellFoundedOn
  rw [List.eq_nil_iff_forall_not_mem]
  intro p hp
  refine hwf.induction hp (P := fun _ => False) fun p hp ih => ?_
  obtain ⟨q, hq, hpq⟩ := h p hp
  exact ih q hq ⟨.single hpq, hac q hq⟩

/-- **Without a cycle there is an order** of all providers that count. -/
theorem exists_order (hac : Acyclic ps) :
    ∃ ordered, orderProviders ps = .ok ordered ∧ ordered.Perm (distinctBy (·.id) ps) := by
  have hids : ∀ p ∈ distinctBy (·.id) ps, p.id ∈ ps.map (·.id) := fun p hp =>
    List.mem_map_of_mem (mem_distinctFrom hp).1
  have hself : (distinctBy (·.id) ps).find? (fun p => p.dependencies.contains p.id) = none := by
    rw [List.find?_eq_none]
    intro p hp hd
    exact hac p.id (.single ⟨p, hp, rfl, by simpa using hd, hids p hp⟩)
  have hperm := (placeProviders_spec ((distinctBy (·.id) ps).map (·.id)) []
    (distinctBy (·.id) ps) (nodup_distinctFrom _ _ _)).1
  rcases hplace : placeProviders ((distinctBy (·.id) ps).map (·.id)) [] (distinctBy (·.id) ps) with
    ⟨ordered, stuck⟩
  obtain rfl : stuck = [] :=
    eq_nil_of_descends (fun p _ => hac p.id) fun p hp => exists_dependsOn_of_stuck hplace hp
  rw [hplace] at hperm
  rw [orderProviders, hself]
  exact ⟨ordered, by simp only [hplace]; rfl, by simpa using hperm⟩

end Taxonomy

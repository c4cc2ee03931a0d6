import Mathlib.Data.Prod.Lex
import Taxonomy.Proofs.Provider.Order

/-!
# The greedy order

Providers are placed one after the other; at every place stands the one of the least rank among
those that wait for nothing any more. The rank is the priority, and among equals the place in the
order of discovery. There is only one such order, and it is the order in which providers load.

* `Greedy`: what is said of an order, place by place.
* `leastPriority_rank`: the first provider of the least priority is the one of the least rank.
* `placeProviders_least`: who stands at a place was the least one then.
* `Greedy.unique`: two greedy orders are the same.
* `placed_closed`: what is placed depends on nothing that comes later, be there a cycle or not.
-/

namespace Taxonomy

variable {ps ordered stuck : List Provider} {ids placed : List String} {p q : Provider}

/-! ## Ranks and readiness -/

/-- **The rank of a provider** among those that count: its priority, then its place in the order of
discovery. -/
def Provider.rank (ps : List Provider) (p : Provider) : ℤ ×ₗ ℕ :=
  toLex (p.priority, ((distinctBy (·.id) ps).map (·.id)).idxOf p.id)

/-- **A provider can be placed** once all its known dependencies are placed. -/
def Placeable (ps : List Provider) (placed : List String) (p : Provider) : Prop :=
  ∀ b, DependsOn ps p.id b → b ∈ placed

/-- **A greedy order** of the providers that count: each of them once, and at every place a provider
that is ready there and has the least rank of all that are ready and not placed before. -/
structure Greedy (ps ordered : List Provider) : Prop where
  perm : ordered.Perm (distinctBy (·.id) ps)
  ready : ∀ before p after, ordered = before ++ p :: after → Placeable ps (before.map (·.id)) p
  least : ∀ before p after, ordered = before ++ p :: after →
    ∀ q ∈ p :: after, Placeable ps (before.map (·.id)) q → p.rank ps ≤ q.rank ps

theorem mem_ids {b : String} : b ∈ (distinctBy (·.id) ps).map (·.id) ↔ b ∈ ps.map (·.id) := by
  rw [distinctBy, mem_map_distinctFrom]
  simp

theorem nodup_ids (ps : List Provider) : ((distinctBy (·.id) ps).map (·.id)).Nodup :=
  nodup_distinctFrom _ _ _

/-- Of the providers that count, one is known by its id. -/
theorem eq_of_id (hp : p ∈ distinctBy (·.id) ps) (hq : q ∈ distinctBy (·.id) ps)
    (h : p.id = q.id) : p = q :=
  List.inj_on_of_nodup_map (nodup_ids ps) hp hq h

/-- What a provider that counts depends on. -/
theorem dependsOn_iff (hp : p ∈ distinctBy (·.id) ps) {b : String} :
    DependsOn ps p.id b ↔ b ∈ p.dependencies ∧ b ∈ (distinctBy (·.id) ps).map (·.id) := by
  rw [mem_ids]
  constructor
  · rintro ⟨q, hq, hid, hb, hin⟩
    obtain rfl := eq_of_id hq hp hid
    exact ⟨hb, hin⟩
  · rintro ⟨hb, hin⟩
    exact ⟨p, hp, rfl, hb, hin⟩

/-- The providers that are found ready are those that are ready. -/
theorem mem_readyProviders_iff {rest : List Provider}
    (hrest : ∀ p ∈ rest, p ∈ distinctBy (·.id) ps) :
    p ∈ readyProviders ((distinctBy (·.id) ps).map (·.id)) placed rest ↔
      p ∈ rest ∧ Placeable ps placed p := by
  rw [mem_readyProviders]
  refine and_congr_right fun hp => ?_
  have hdep := fun b => dependsOn_iff (hrest p hp) (b := b)
  constructor
  · intro h b hb
    obtain ⟨hd, hk⟩ := (hdep b).1 hb
    exact h b hd hk
  · intro h b hd hk
    exact h b ((hdep b).2 ⟨hd, hk⟩)

/-- Providers of one rank have one place in the order of discovery. -/
theorem eq_of_rank (hp : p ∈ distinctBy (·.id) ps) (hq : q ∈ distinctBy (·.id) ps)
    (h : p.rank ps = q.rank ps) : p = q := by
  have hidx := congrArg (fun x => (ofLex x).2) h
  have hmem : p.id ∈ (distinctBy (·.id) ps).map (·.id) := List.mem_map_of_mem hp
  exact eq_of_id hp hq ((List.idxOf_inj hmem).1 hidx)

/-- Along the order of discovery the places grow. -/
theorem pairwise_idxOf {ids : List String} (h : ids.Nodup) :
    ids.Pairwise fun a b => ids.idxOf a < ids.idxOf b := by
  rw [List.pairwise_iff_getElem]
  intro i j hi hj hij
  rwa [h.idxOf_getElem, h.idxOf_getElem]

/-- **The first provider of the least priority has the least rank**, in a part of the providers in
the order of discovery. -/
theorem leastPriority_rank {l : List Provider} (hl : l.Sublist (distinctBy (·.id) ps))
    (h : leastPriority l = some p) : ∀ q ∈ l, p.rank ps ≤ q.rank ps := by
  have hpair : l.Pairwise fun a b =>
      ((distinctBy (·.id) ps).map (·.id)).idxOf a.id <
        ((distinctBy (·.id) ps).map (·.id)).idxOf b.id :=
    (List.pairwise_map.1 (pairwise_idxOf (nodup_ids ps))).sublist hl
  clear hl
  induction l generalizing p with
  | nil => cases h
  | cons x xs ih =>
    obtain ⟨hx, hpair⟩ := List.pairwise_cons.1 hpair
    rw [leastPriority] at h
    cases hm : leastPriority xs with
    | none =>
      rw [hm] at h
      obtain rfl := Option.some.inj h
      obtain rfl := leastPriority_eq_none hm
      intro q hq
      rw [List.mem_singleton.1 hq]
    | some m =>
      rw [hm] at h
      have hleast := ih hm hpair
      -- the one in front has the smaller place, so it goes first unless its priority is greater
      have hplace := hx m (mem_of_leastPriority hm)
      simp only at h
      split at h
      · next hlt =>
        obtain rfl := Option.some.inj h
        intro q hq
        rcases List.mem_cons.1 hq with rfl | hq
        · exact (Prod.Lex.toLex_le_toLex).2 (.inl hlt)
        · exact hleast q hq
      · next hge =>
        obtain rfl := Option.some.inj h
        intro q hq
        rcases List.mem_cons.1 hq with rfl | hq
        · exact le_refl _
        · refine le_trans ((Prod.Lex.toLex_le_toLex).2 ?_) (hleast q hq)
          rcases lt_or_eq_of_le (not_lt.1 hge) with hlt | heq
          · exact .inl hlt
          · exact .inr ⟨heq, hplace.le⟩

/-! ## Placing -/

/-- Taking the provider of an id out leaves those of other ids, in their order. -/
theorem eraseP_eq_filter {rest : List Provider} (hn : (rest.map (·.id)).Nodup) (p : Provider) :
    rest.eraseP (·.id == p.id) = rest.filter (·.id ∉ [p.id]) := by
  induction rest with
  | nil => rfl
  | cons q rest ih =>
    obtain ⟨hq, hn⟩ := List.nodup_cons.1 hn
    by_cases hid : q.id = p.id
    · rw [List.eraseP_cons_of_pos (by simpa using hid),
        List.filter_cons_of_neg (by simpa using hid)]
      refine (List.filter_eq_self.2 fun x hx => ?_).symm
      have hne : x.id ≠ p.id := fun e => hq (List.mem_map.2 ⟨x, hx, e.trans hid.symm⟩)
      simpa using hne
    · rw [List.eraseP_cons_of_neg (by simpa using hid),
        List.filter_cons_of_pos (by simpa using hid), ih hn]

/-- Those that are left are told apart by what is placed. -/
theorem filter_filter_placed {rest : List Provider} (placed placed' : List String) :
    (rest.filter (·.id ∉ placed)).filter (·.id ∉ placed') =
      rest.filter (·.id ∉ placed ++ placed') := by
  rw [List.filter_filter]
  refine List.filter_congr fun q _ => ?_
  by_cases h : q.id ∈ placed <;> by_cases h' : q.id ∈ placed' <;> simp [h, h']

/-- **Who stands at a place was the least one then**, of all that were ready and left. -/
theorem placeProviders_least {rest before after : List Provider} (hn : (rest.map (·.id)).Nodup)
    (h : (placeProviders ids placed rest).1 = before ++ p :: after) :
    leastPriority (readyProviders ids (placed ++ before.map (·.id))
      (rest.filter (·.id ∉ before.map (·.id)))) = some p := by
  induction placed, rest using placeProviders.induct ids generalizing before with
  | case1 placed rest hnone =>
    rw [placeProviders_none hnone] at h
    simp at h
  | case2 placed rest first hfirst _ _ _ ih =>
    rw [placeProviders_some hfirst] at h
    cases before with
    | nil =>
      obtain rfl := (List.cons.inj h).1
      simpa using hfirst
    | cons x before =>
      obtain ⟨rfl, htail⟩ := List.cons.inj h
      have hn' : ((rest.eraseP (·.id == first.id)).map (·.id)).Nodup :=
        hn.sublist (List.eraseP_sublist.map _)
      have hleast := ih hn' htail
      rwa [eraseP_eq_filter hn, filter_filter_placed, ← List.append_cons] at hleast

/-- Those that are left over are those that are not placed, in the order of discovery. -/
theorem placeProviders_left {rest : List Provider} (hn : (rest.map (·.id)).Nodup) :
    (placeProviders ids placed rest).2 =
      rest.filter (·.id ∉ (placeProviders ids placed rest).1.map (·.id)) := by
  induction placed, rest using placeProviders.induct ids with
  | case1 placed rest hnone => simp [placeProviders_none hnone]
  | case2 placed rest first hfirst _ _ _ ih =>
    have hn' : ((rest.eraseP (·.id == first.id)).map (·.id)).Nodup :=
      hn.sublist (List.eraseP_sublist.map _)
    rw [placeProviders_some hfirst]
    refine (ih hn').trans ?_
    rw [eraseP_eq_filter hn, filter_filter_placed]
    rfl

/-- **What is placed depends only on what is placed before it.** -/
theorem placed_closed {before after : List Provider}
    (h : (placeProviders ((distinctBy (·.id) ps).map (·.id)) [] (distinctBy (·.id) ps)).1 =
      before ++ p :: after) : Placeable ps (before.map (·.id)) p := by
  have hleast := mem_of_leastPriority (placeProviders_least (nodup_ids ps) h)
  rw [List.nil_append] at hleast
  exact ((mem_readyProviders_iff fun q hq => (List.mem_filter.1 hq).1).1 hleast).2

/-- An order of all providers that count is the order in which they are placed. -/
theorem placeProviders_of_order (h : orderProviders ps = .ok ordered) :
    placeProviders ((distinctBy (·.id) ps).map (·.id)) [] (distinctBy (·.id) ps) =
      (ordered, []) := by
  rw [orderProviders] at h
  simp only at h
  split at h
  · cases h
  · split at h
    · next hs =>
      obtain rfl := Except.ok.inj h
      exact Prod.ext rfl (List.isEmpty_iff.1 hs)
    · cases h

/-- **The order of providers is greedy.** -/
theorem greedy_order (h : orderProviders ps = .ok ordered) : Greedy ps ordered := by
  have hplace := placeProviders_of_order h
  have hperm : ordered.Perm (distinctBy (·.id) ps) := by
    simpa [hplace] using (placeProviders_spec ((distinctBy (·.id) ps).map (·.id)) []
      (distinctBy (·.id) ps) (nodup_ids ps)).1
  refine ⟨hperm, fun before p after hs => ?_, fun before p after hs q hq hready => ?_⟩
  · exact placed_closed (by rw [hplace, hs])
  · have hleast := placeProviders_least (nodup_ids ps) (p := p) (by rw [hplace, hs])
    rw [List.nil_append] at hleast
    refine leastPriority_rank (List.filter_sublist.trans List.filter_sublist) hleast q ?_
    -- a provider of a later place is not placed before, since every id is placed once
    have hnod : (ordered.map (·.id)).Nodup := (hperm.map _).nodup_iff.2 (nodup_ids ps)
    rw [hs, List.map_append, List.nodup_append] at hnod
    have hlater : q.id ∉ before.map (·.id) := fun hb =>
      hnod.2.2 _ hb _ (List.mem_map_of_mem hq) rfl
    have hkept : q ∈ distinctBy (·.id) ps :=
      hperm.subset (hs ▸ List.mem_append_right _ hq)
    have hrest : q ∈ (distinctBy (·.id) ps).filter (·.id ∉ before.map (·.id)) :=
      List.mem_filter.2 ⟨hkept, by simpa using hlater⟩
    exact (mem_readyProviders_iff fun x hx => (List.mem_filter.1 hx).1).2 ⟨hrest, hready⟩

/-! ## One order only -/

/-- Greedy orders that begin alike go on alike. -/
theorem Greedy.unique_from (before : List Provider) {rest rest' : List Provider}
    (h : Greedy ps (before ++ rest)) (h' : Greedy ps (before ++ rest')) : rest = rest' := by
  have hperm : rest.Perm rest' := (List.perm_append_left_iff before).1 (h.perm.trans h'.perm.symm)
  induction rest generalizing before rest' with
  | nil => exact (List.nil_perm.1 hperm).symm
  | cons p rest ih =>
    cases rest' with
    | nil => exact absurd (List.perm_nil.1 hperm) (List.cons_ne_nil _ _)
    | cons q rest' =>
      -- each of the two was there when the other one was placed
      have hpq : p.rank ps ≤ q.rank ps := h.least before p rest rfl q
        (hperm.symm.subset List.mem_cons_self) (h'.ready before q rest' rfl)
      have hqp : q.rank ps ≤ p.rank ps := h'.least before q rest' rfl p
        (hperm.subset List.mem_cons_self) (h.ready before p rest rfl)
      have hp : p ∈ distinctBy (·.id) ps := h.perm.subset (by simp)
      have hq : q ∈ distinctBy (·.id) ps := h'.perm.subset (by simp)
      obtain rfl := eq_of_rank hp hq (le_antisymm hpq hqp)
      rw [List.append_cons] at h h'
      rw [ih _ h h' hperm.cons_inv]

/-- **There is only one greedy order.** -/
theorem Greedy.unique {ordered' : List Provider} (h : Greedy ps ordered) (h' : Greedy ps ordered') :
    ordered' = ordered :=
  Greedy.unique_from [] h' h

end Taxonomy

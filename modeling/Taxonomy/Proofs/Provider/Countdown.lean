import Mathlib.Algebra.GroupWithZero.Nat
import Mathlib.Algebra.Order.BigOperators.Group.List
import Mathlib.Algebra.Order.Group.Nat
import Mathlib.Data.Finset.Card
import Taxonomy.Proofs.Catalog
import Taxonomy.Proofs.Provider.Greedy

/-!
# Counting dependencies down

The greedy order can be found without looking at all providers for every place. For each provider
it is counted how many of its known dependencies are not placed; those that wait for none stand in a
queue. The provider of the least rank leaves the queue, and those that depend on it wait for one
less. Providers that still wait at the end form the cycles or depend on them.

* `Countdown.run`: the loop; the work that is left falls with every provider that is placed.
* `Countdown.Tracks`: the counts are those of the dependencies that are not placed, and the queue
  holds exactly the ready providers that are not placed.
* `tracks_place`: placing a provider keeps this.
* `countdown_eq_order`: counting down orders any list of providers as looking at all of them does,
  and reports the same cycles.
* `order_is_greedy`: without a cycle the order is the one greedy order there is.
-/

namespace Taxonomy

/-- The known dependencies of a provider, each of them once. -/
def Provider.known (ps : List Provider) (p : Provider) : Finset String :=
  (p.knownDependencies ((distinctBy (·.id) ps).map (·.id))).toFinset

/-- **A countdown**: for how many known dependencies each provider waits, and the queue of those
that are to be placed. -/
structure Countdown where
  waits : String → ℤ
  queue : List Provider

/-- The providers that depend on one. -/
def Provider.dependents (ps : List Provider) (p : Provider) : List Provider :=
  (distinctBy (·.id) ps).filter fun q => p.id ∈ q.known ps

namespace Countdown

/-- At the beginning nothing is placed, and the queue holds the providers that depend on none. -/
def start (ps : List Provider) : Countdown where
  waits id :=
    (((distinctBy (·.id) ps).find? (·.id == id)).map fun p => ((p.known ps).card : ℤ)).getD 0
  queue := (distinctBy (·.id) ps).filter fun p => (p.known ps).card = 0

/-- A dependency of a provider is placed: it waits for one less, and when this was the last one it
joins the queue. -/
def arrive (c : Countdown) (q : Provider) : Countdown where
  waits := Function.update c.waits q.id (c.waits q.id - 1)
  queue := if c.waits q.id - 1 = 0 then q :: c.queue else c.queue

/-- **A provider is placed**: it leaves the queue, and those that depend on it are told. -/
def place (ps : List Provider) (c : Countdown) (p : Provider) : Countdown :=
  (p.dependents ps).foldl arrive { c with queue := c.queue.eraseP (·.id == p.id) }

/-- The work that is left: the queue, and all that is waited for. -/
def work (ps : List Provider) (c : Countdown) : ℕ :=
  c.queue.length + ((distinctBy (·.id) ps).map fun q => (c.waits q.id).toNat).sum

variable {ps : List Provider} {c : Countdown} {p q : Provider}

/-- Who joins the queue has waited for one. -/
theorem work_arrive (hq : q ∈ distinctBy (·.id) ps) : (c.arrive q).work ps ≤ c.work ps := by
  have hle : ∀ x ∈ distinctBy (·.id) ps,
      ((c.arrive q).waits x.id).toNat ≤ (c.waits x.id).toNat := by
    intro x _
    by_cases hx : x.id = q.id
    · simp only [arrive, hx, Function.update_self]
      omega
    · simp only [arrive, Function.update_of_ne hx]
      exact Nat.le_refl _
  unfold work
  by_cases h0 : c.waits q.id - 1 = 0
  · have hlt : ((c.arrive q).waits q.id).toNat < (c.waits q.id).toNat := by
      simp only [arrive, Function.update_self]
      omega
    have hsum := List.sum_lt_sum _ _ hle ⟨q, hq, hlt⟩
    have hlen : (c.arrive q).queue.length = c.queue.length + 1 := by simp [arrive, h0]
    omega
  · have hsum := List.sum_le_sum hle
    have hlen : (c.arrive q).queue.length = c.queue.length := by simp [arrive, h0]
    omega

theorem work_arrivals {qs : List Provider} (hqs : ∀ q ∈ qs, q ∈ distinctBy (·.id) ps) :
    (qs.foldl arrive c).work ps ≤ c.work ps := by
  induction qs generalizing c with
  | nil => exact Nat.le_refl _
  | cons q qs ih =>
    have hrest := ih (c := c.arrive q) fun x hx => hqs x (List.mem_cons_of_mem _ hx)
    exact hrest.trans (work_arrive (hqs q List.mem_cons_self))

/-- **With every provider that is placed there is less to do.** -/
theorem work_place (hp : p ∈ c.queue) : (c.place ps p).work ps < c.work ps := by
  have harrive : (c.place ps p).work ps ≤
      work ps { c with queue := c.queue.eraseP (·.id == p.id) } :=
    work_arrivals fun q hq => (List.mem_filter.1 hq).1
  refine lt_of_le_of_lt harrive ?_
  have hlen := List.length_eraseP_of_mem hp (p := (·.id == p.id)) (by simp)
  have hpos := List.length_pos_of_mem hp
  simp only [work, hlen]
  omega

/-- **Counts down**: places the provider of the least rank until the queue is empty. -/
def run (ps : List Provider) (c : Countdown) : List Provider × Countdown :=
  match _h : c.queue.minOn? (Provider.rank ps) with
  | none => ([], c)
  | some p =>
    let (ordered, last) := run ps (c.place ps p)
    (p :: ordered, last)
termination_by c.work ps
decreasing_by exact work_place (List.minOn?_mem _h)

/-- **The order that counting down finds.** When some are not placed, those that still wait are
reported. -/
def order (ps : List Provider) : Result (List Provider) :=
  let kept := distinctBy (·.id) ps
  match kept.find? fun p => p.dependencies.contains p.id with
  | some p => throw (.providerCycle [p.id])
  | none =>
    let (ordered, last) := run ps (start ps)
    if ordered.length = kept.length then pure ordered
    else throw (.providerCycle
      (sortTexts ((kept.filter fun p => 0 < last.waits p.id).map (·.id))))

/-! ## What the counts mean -/

/-- **The counts track what is placed**: every provider waits for its known dependencies that are
not placed, and the queue holds the ready ones that are not placed; what is placed depends on
nothing else. -/
structure Tracks (ps : List Provider) (placed : List String) (c : Countdown) : Prop where
  waits : ∀ q ∈ distinctBy (·.id) ps, c.waits q.id = ((q.known ps \ placed.toFinset).card : ℤ)
  nodup : c.queue.Nodup
  queue : ∀ q, q ∈ c.queue ↔
    q ∈ distinctBy (·.id) ps ∧ q.id ∉ placed ∧ q.known ps ⊆ placed.toFinset
  closed : ∀ q ∈ distinctBy (·.id) ps, q.id ∈ placed → q.known ps ⊆ placed.toFinset

theorem tracks_start (ps : List Provider) : Tracks ps [] (start ps) where
  waits q hq := by
    let kept : Catalog fun p : Provider => p.id := ⟨distinctBy (·.id) ps, nodup_ids ps⟩
    have hfind : (distinctBy (·.id) ps).find? (·.id == q.id) = some q :=
      Catalog.find?_of_mem (c := kept) hq
    simp [start, hfind]
  nodup := ((nodup_ids ps).of_map _).filter _
  queue q := by simp [start]
  closed q _ hq := absurd hq List.not_mem_nil

/-- The counts after several arrivals: those that arrive wait for one less. -/
theorem waits_arrivals {qs : List Provider} (hn : (qs.map (·.id)).Nodup) (id : String) :
    (qs.foldl arrive c).waits id =
      if id ∈ qs.map (·.id) then c.waits id - 1 else c.waits id := by
  induction qs generalizing c with
  | nil => rfl
  | cons q qs ih =>
    obtain ⟨hq, hn⟩ := List.nodup_cons.1 hn
    rw [List.foldl_cons, ih hn, List.map_cons]
    by_cases hid : id = q.id
    · subst hid
      simp [hq, arrive]
    · simp [hid, arrive]

/-- The queue after several arrivals: those that have waited for one are in front. -/
theorem queue_arrivals {qs : List Provider} (hn : (qs.map (·.id)).Nodup) :
    (qs.foldl arrive c).queue = (qs.filter fun q => c.waits q.id = 1).reverse ++ c.queue := by
  induction qs generalizing c with
  | nil => rfl
  | cons q qs ih =>
    obtain ⟨hq, hn⟩ := List.nodup_cons.1 hn
    have hsame : qs.filter (fun x => (c.arrive q).waits x.id = 1) =
        qs.filter fun x => c.waits x.id = 1 := by
      refine List.filter_congr fun x hx => ?_
      have hne : x.id ≠ q.id := fun e => hq (List.mem_map.2 ⟨x, hx, e⟩)
      simp only [arrive, Function.update_of_ne hne]
    rw [List.foldl_cons, ih hn, hsame]
    by_cases h1 : c.waits q.id = 1
    · simp [arrive, h1]
    · have h0 : c.waits q.id - 1 ≠ 0 := by omega
      simp [arrive, h1, h0]

/-- With one more provider placed, one dependency less is missing. -/
theorem missing_append (known : Finset String) (placed : List String) (a : String) :
    known \ (placed ++ [a]).toFinset = (known \ placed.toFinset).erase a := by
  ext b
  simp only [Finset.mem_sdiff, List.mem_toFinset, List.mem_append, List.mem_singleton,
    Finset.mem_erase]
  tauto

theorem nodup_dependents (ps : List Provider) (p : Provider) :
    ((p.dependents ps).map (·.id)).Nodup :=
  (nodup_ids ps).sublist (List.filter_sublist.map _)

/-- The dependents of a provider, by their ids. -/
theorem mem_map_dependents (hq : q ∈ distinctBy (·.id) ps) :
    q.id ∈ (p.dependents ps).map (·.id) ↔ p.id ∈ q.known ps := by
  rw [List.mem_map]
  constructor
  · rintro ⟨x, hx, hid⟩
    obtain ⟨hx, hpx⟩ := List.mem_filter.1 hx
    obtain rfl := eq_of_id hx hq hid
    exact of_decide_eq_true hpx
  · intro hpq
    exact ⟨q, List.mem_filter.2 ⟨hq, decide_eq_true hpq⟩, rfl⟩

/-- A provider waits for nothing exactly when it is ready. -/
theorem known_subset_iff {placed : List String} :
    q.known ps ⊆ placed.toFinset ↔
      ∀ b ∈ q.dependencies, b ∈ (distinctBy (·.id) ps).map (·.id) → b ∈ placed := by
  simp only [Finset.subset_iff, Provider.known, Provider.knownDependencies, List.mem_toFinset,
    List.mem_filter, List.contains_iff_mem, and_imp]

section Placing

variable {placed : List String} (h : Tracks ps placed c)

include h

theorem Tracks.nodup_queue : (c.queue.map (·.id)).Nodup :=
  h.nodup.map_on fun _ hp _ hq hid => eq_of_id ((h.queue _).1 hp).1 ((h.queue _).1 hq).1 hid

/-- What depends on a provider of the queue is neither in the queue nor placed. -/
theorem Tracks.dependent (hp : p ∈ c.queue) (hq : q ∈ distinctBy (·.id) ps)
    (hpq : p.id ∈ q.known ps) : q ∉ c.queue ∧ q.id ∉ placed := by
  obtain ⟨-, hplaced, -⟩ := (h.queue p).1 hp
  refine ⟨fun hc => hplaced ?_, fun hc => hplaced ?_⟩
  · exact List.mem_toFinset.1 (((h.queue q).1 hc).2.2 hpq)
  · exact List.mem_toFinset.1 (h.closed q hq hc hpq)

/-- The counts after a provider of the queue is placed. -/
theorem Tracks.waits_place (hp : p ∈ c.queue) (hq : q ∈ distinctBy (·.id) ps) :
    (c.place ps p).waits q.id = ((q.known ps \ (placed ++ [p.id]).toFinset).card : ℤ) := by
  obtain ⟨-, hplaced, -⟩ := (h.queue p).1 hp
  rw [place, waits_arrivals (nodup_dependents ps p), missing_append, h.waits q hq]
  by_cases hpq : p.id ∈ q.known ps
  · have hmissing : p.id ∈ q.known ps \ placed.toFinset := by simp [hpq, hplaced]
    have hpos := Finset.card_pos.2 ⟨_, hmissing⟩
    rw [if_pos ((mem_map_dependents hq).2 hpq), Finset.card_erase_of_mem hmissing]
    omega
  · have hmissing : p.id ∉ q.known ps \ placed.toFinset := fun hm =>
      hpq (Finset.mem_sdiff.1 hm).1
    rw [if_neg (fun hm => hpq ((mem_map_dependents hq).1 hm)), Finset.erase_eq_of_notMem hmissing]

/-- The queue after a provider of it is placed. -/
theorem Tracks.mem_queue_place (hp : p ∈ c.queue) :
    q ∈ (c.place ps p).queue ↔ q ∈ distinctBy (·.id) ps ∧ q.id ∉ placed ++ [p.id] ∧
      q.known ps ⊆ (placed ++ [p.id]).toFinset := by
  obtain ⟨hpk, hplaced, -⟩ := (h.queue p).1 hp
  have hsplit : q ∈ (c.place ps p).queue ↔
      (q ∈ p.dependents ps ∧ c.waits q.id = 1) ∨ (q ∈ c.queue ∧ q.id ≠ p.id) := by
    rw [place, queue_arrivals (nodup_dependents ps p), eraseP_eq_filter h.nodup_queue]
    simp
  rw [hsplit, Provider.dependents, List.mem_filter, decide_eq_true_eq, List.mem_append,
    List.mem_singleton, not_or, ← Finset.sdiff_eq_empty_iff_subset, missing_append]
  by_cases hq : q ∈ distinctBy (·.id) ps
  · by_cases hpq : p.id ∈ q.known ps
    · -- a dependent joins when the provider that is placed was the last one missing
      obtain ⟨hnot, hleft⟩ := h.dependent hp hq hpq
      have hne : q.id ≠ p.id := fun e => hnot (eq_of_id hq hpk e ▸ hp)
      have hmissing : p.id ∈ q.known ps \ placed.toFinset := by simp [hpq, hplaced]
      have hlast : c.waits q.id = 1 ↔ (q.known ps \ placed.toFinset).erase p.id = ∅ := by
        rw [h.waits q hq, ← Finset.card_eq_zero, Finset.card_erase_of_mem hmissing]
        have hpos := Finset.card_pos.2 ⟨_, hmissing⟩
        omega
      simp only [hq, hpq, hnot, hleft, hne, hlast, true_and, false_and, or_false, not_false_eq_true,
        ne_eq]
    · -- what does not depend on it stays where it is
      have hmissing : p.id ∉ q.known ps \ placed.toFinset := fun hm =>
        hpq (Finset.mem_sdiff.1 hm).1
      rw [Finset.erase_eq_of_notMem hmissing, Finset.sdiff_eq_empty_iff_subset, h.queue q]
      tauto
  · have hnot : q ∉ c.queue := fun hc => hq ((h.queue q).1 hc).1
    tauto

/-- **Placing a provider of the queue keeps the track.** -/
theorem tracks_place (hp : p ∈ c.queue) : Tracks ps (placed ++ [p.id]) (c.place ps p) where
  waits q hq := h.waits_place hp hq
  nodup := by
    rw [place, queue_arrivals (nodup_dependents ps p)]
    have hleft : (c.queue.eraseP (·.id == p.id)).Nodup := h.nodup.sublist List.eraseP_sublist
    have hjoin : ((p.dependents ps).filter fun q => c.waits q.id = 1).Nodup :=
      ((nodup_dependents ps p).of_map _).filter _
    refine List.nodup_append.2 ⟨List.nodup_reverse.2 hjoin, hleft, ?_⟩
    -- who joins the queue was not in it
    rintro q hq _ hq' rfl
    obtain ⟨hq, hpq⟩ := List.mem_filter.1 (List.mem_filter.1 (List.mem_reverse.1 hq)).1
    exact (h.dependent hp hq (of_decide_eq_true hpq)).1 (List.mem_of_mem_eraseP hq')
  queue _ := h.mem_queue_place hp
  closed q hq hc := by
    have hmono : placed.toFinset ⊆ (placed ++ [p.id]).toFinset := by
      rw [List.toFinset_append]
      exact Finset.subset_union_left
    rcases List.mem_append.1 hc with hc | hc
    · exact (h.closed q hq hc).trans hmono
    · obtain ⟨hkept, -, hknown⟩ := (h.queue p).1 hp
      obtain rfl := eq_of_id hq hkept (List.mem_singleton.1 hc)
      exact hknown.trans hmono

end Placing

/-! ## Counting down is ordering -/

/-- The queue holds those that are found ready among all that are left. -/
theorem Tracks.mem_ready {placed : List String} (h : Tracks ps placed c) :
    q ∈ readyProviders ((distinctBy (·.id) ps).map (·.id)) placed
      ((distinctBy (·.id) ps).filter (·.id ∉ placed)) ↔ q ∈ c.queue := by
  rw [mem_readyProviders, ← known_subset_iff, List.mem_filter, decide_eq_true_eq, h.queue q,
    and_assoc]

/-- **The queue and the providers that are left have the same least one.** -/
theorem Tracks.leastPriority {placed : List String} (h : Tracks ps placed c)
    (hp : c.queue.minOn? (Provider.rank ps) = some p) :
    leastPriority (readyProviders ((distinctBy (·.id) ps).map (·.id)) placed
      ((distinctBy (·.id) ps).filter (·.id ∉ placed))) = some p := by
  have hmem := List.minOn?_mem hp
  cases hm : Taxonomy.leastPriority (readyProviders ((distinctBy (·.id) ps).map (·.id)) placed
      ((distinctBy (·.id) ps).filter (·.id ∉ placed))) with
  | none =>
    have hready := h.mem_ready.2 hmem
    rw [leastPriority_eq_none hm] at hready
    cases hready
  | some m =>
    have hmq : m ∈ c.queue := h.mem_ready.1 (mem_of_leastPriority hm)
    have hmp := leastPriority_rank (List.filter_sublist.trans List.filter_sublist) hm p
      (h.mem_ready.2 hmem)
    have hpm : p.rank ps ≤ m.rank ps := by
      have hle := List.apply_get_minOn?_le_of_mem (f := Provider.rank ps) hmq
      simpa only [hp, Option.get_some] using hle
    rw [eq_of_rank ((h.queue m).1 hmq).1 ((h.queue p).1 hmem).1 (le_antisymm hmp hpm)]

/-- **Counting down places the providers that looking at all of them places**, by induction on the
work that is left. -/
theorem run_spec {placed : List String} (h : Tracks ps placed c) :
    (run ps c).1 = (placeProviders ((distinctBy (·.id) ps).map (·.id)) placed
      ((distinctBy (·.id) ps).filter (·.id ∉ placed))).1 ∧
    Tracks ps (placed ++ (run ps c).1.map (·.id)) (run ps c).2 ∧ (run ps c).2.queue = [] := by
  induction c using run.induct ps generalizing placed with
  | case1 c hnone =>
    have hqueue : c.queue = [] := by
      by_contra hne
      have hsome := List.isSome_minOn?_iff (f := Provider.rank ps).2 hne
      rw [hnone] at hsome
      cases hsome
    have hready : readyProviders ((distinctBy (·.id) ps).map (·.id)) placed
        ((distinctBy (·.id) ps).filter (·.id ∉ placed)) = [] := by
      rw [List.eq_nil_iff_forall_not_mem]
      intro q hq
      have hq' := h.mem_ready.1 hq
      rw [hqueue] at hq'
      cases hq'
    have hrun : run ps c = ([], c) := by
      rw [run]
      split
      · rfl
      · next p hp => rw [hnone] at hp; cases hp
    rw [hrun, placeProviders_none (by rw [hready]; rfl)]
    exact ⟨rfl, by simpa using h, hqueue⟩
  | case2 c p hp _ _ _ ih =>
    have hrun : run ps c = (p :: (run ps (c.place ps p)).1, (run ps (c.place ps p)).2) := by
      rw [run]
      split
      · next hn => rw [hp] at hn; cases hn
      · next q hq => rw [Option.some.inj (hp.symm.trans hq)]
    have hnodup : (((distinctBy (·.id) ps).filter (·.id ∉ placed)).map (·.id)).Nodup :=
      (nodup_ids ps).sublist (List.filter_sublist.map _)
    obtain ⟨hsame, htracks, hqueue⟩ := ih (tracks_place h (List.minOn?_mem hp))
    rw [hrun, placeProviders_some (h.leastPriority hp), eraseP_eq_filter hnodup,
      filter_filter_placed, ← hsame]
    refine ⟨rfl, ?_, hqueue⟩
    rw [List.map_cons, List.append_cons]
    exact htracks

/-- At the end those that are not placed still wait. -/
theorem Tracks.waits_pos {placed : List String} (h : Tracks ps placed c) (hqueue : c.queue = [])
    (hq : q ∈ distinctBy (·.id) ps) : 0 < c.waits q.id ↔ q.id ∉ placed := by
  rw [h.waits q hq, Int.natCast_pos, Finset.card_pos, Finset.sdiff_nonempty]
  constructor
  · exact fun hmissing hplaced => hmissing (h.closed q hq hplaced)
  · intro hplaced hknown
    have hin := (h.queue q).2 ⟨hq, hplaced, hknown⟩
    rw [hqueue] at hin
    cases hin

/-- **Counting down orders the providers**, and finds the same cycles. -/
theorem countdown_eq_order (ps : List Provider) : Countdown.order ps = orderProviders ps := by
  rw [Countdown.order, orderProviders]
  simp only
  cases (distinctBy (·.id) ps).find? fun p => p.dependencies.contains p.id with
  | some p => rfl
  | none =>
    obtain ⟨hsame, htracks, hqueue⟩ := run_spec (tracks_start ps)
    have hall : (distinctBy (·.id) ps).filter (·.id ∉ ([] : List String)) =
        distinctBy (·.id) ps := List.filter_eq_self.2 (by simp)
    have hleft : (placeProviders ((distinctBy (·.id) ps).map (·.id)) []
        (distinctBy (·.id) ps)).2 = _ := placeProviders_left (nodup_ids ps)
    have hperm := (placeProviders_spec ((distinctBy (·.id) ps).map (·.id)) []
      (distinctBy (·.id) ps) (nodup_ids ps)).1
    rw [hall] at hsame
    rw [List.nil_append] at htracks
    rw [← hsame] at hleft hperm ⊢
    -- those that still wait are those that are not placed
    have hstuck : (distinctBy (·.id) ps).filter (fun p => 0 < (run ps (start ps)).2.waits p.id) =
        (distinctBy (·.id) ps).filter (·.id ∉ (run ps (start ps)).1.map (·.id)) :=
      List.filter_congr fun q hq => decide_eq_decide.2 (htracks.waits_pos hqueue hq)
    rw [hstuck, ← hleft]
    have hlen := hperm.length_eq
    rw [List.length_append] at hlen
    by_cases hall : (placeProviders ((distinctBy (·.id) ps).map (·.id)) []
        (distinctBy (·.id) ps)).2 = []
    · rw [hall, List.length_nil] at hlen
      rw [if_pos (by omega), if_pos (by rw [hall]; rfl)]
    · have hpos := List.length_pos_iff.2 hall
      rw [if_neg (by omega), if_neg (by simpa using hall)]

end Countdown

/-! ## The order of loading -/

variable {ps ordered : List Provider}

/-- In a greedy order what a provider depends on comes before it. -/
theorem Greedy.precedes (h : Greedy ps ordered) {a b : String} (hab : DependsOn ps a b) :
    (ordered.map (·.id)).idxOf b < (ordered.map (·.id)).idxOf a := by
  obtain ⟨p, hp, rfl, -, -⟩ := id hab
  obtain ⟨before, after, hs⟩ := List.append_of_mem (h.perm.symm.subset hp)
  have hnodup : (ordered.map (·.id)).Nodup := (h.perm.map _).nodup_iff.2 (nodup_ids ps)
  have hb : b ∈ before.map (·.id) := h.ready before p after hs b hab
  rw [hs, List.map_append, List.map_cons] at hnodup ⊢
  have hlater : p.id ∉ before.map (·.id) := fun hm =>
    (List.nodup_append.1 hnodup).2.2 _ hm _ List.mem_cons_self rfl
  rw [List.idxOf_append_of_mem hb, List.idxOf_append_of_notMem hlater]
  have hlt := List.idxOf_lt_length_of_mem hb
  omega

/-- Where every dependency goes down there is no cycle. -/
theorem acyclic_of_level (level : String → ℕ)
    (h : ∀ p ∈ distinctBy (·.id) ps, ∀ b ∈ p.dependencies, b ∈ ps.map (·.id) →
      level b < level p.id) : Acyclic ps := by
  have hstep : ∀ a b, DependsOn ps a b → level b < level a := by
    rintro _ b ⟨p, hp, rfl, hb, hin⟩
    exact h p hp b hb hin
  have hpath : ∀ a b, Relation.TransGen (DependsOn ps) a b → level b < level a := by
    intro a b hab
    induction hab with
    | single hab => exact hstep _ _ hab
    | tail _ hbc ih => exact (hstep _ _ hbc).trans ih
  exact fun a ha => Nat.lt_irrefl _ (hpath a a ha)

/-- **The order of loading is the one greedy order.** Take any list of providers whose known
dependencies form no cycle; of several with one id the first counts.

* They are put in order, and counting dependencies down puts them in the same order.
* The order is greedy: each provider that counts is in it once, and at every place stands the one of
  the least priority, and among equals of the earliest discovery, of all that are not placed and
  whose known dependencies are.
* No other order is greedy.
* What a provider depends on comes before it, whatever the priorities are. -/
theorem order_is_greedy (hac : Acyclic ps) :
    ∃ ordered, orderProviders ps = .ok ordered ∧ Countdown.order ps = .ok ordered ∧
      Greedy ps ordered ∧ (∀ other, Greedy ps other → other = ordered) ∧
      ∀ a b, DependsOn ps a b →
        (ordered.map (·.id)).idxOf b < (ordered.map (·.id)).idxOf a := by
  obtain ⟨ordered, hordered, -⟩ := exists_order hac
  have hgreedy := greedy_order hordered
  exact ⟨ordered, hordered, (Countdown.countdown_eq_order ps).trans hordered, hgreedy,
    fun other hother => hgreedy.unique hother, fun a b hab => hgreedy.precedes hab⟩

/-- A provider that registers nothing. -/
def idleProvider (id : String) (dependencies : List String) (priority : Int) : Provider where
  id := id
  dependencies := dependencies
  priority := priority
  kind := "Provider"
  load := pure ()

/-- Two ways from one provider to another one, an id given twice, and a dependency that is not
there. -/
def diamondProviders : List Provider := [idleProvider "top" ["left", "right", "nowhere"] 0,
  idleProvider "right" ["base"] 20, idleProvider "left" ["base", "base"] 20,
  idleProvider "base" [] 90, idleProvider "left" ["top"] 10, idleProvider "other" [] 50]

theorem order_is_greedy_diamond :
    ∃ ordered, orderProviders diamondProviders = .ok ordered ∧ Greedy diamondProviders ordered ∧
      ordered.map (·.id) = ["other", "base", "right", "left", "top"] := by
  have hac : Acyclic diamondProviders :=
    acyclic_of_level (["base", "right", "left", "top"].idxOf ·) (by decide)
  obtain ⟨ordered, hordered, -, hgreedy, -⟩ := order_is_greedy hac
  refine ⟨ordered, hordered, hgreedy, ?_⟩
  have hplaced := placeProviders_of_order hordered
  have hkept : distinctBy (·.id) diamondProviders = diamondProviders.eraseIdx 4 := rfl
  rw [hkept, placeProviders_some (p := idleProvider "other" [] 50) rfl,
    placeProviders_some (p := idleProvider "base" [] 90) rfl,
    placeProviders_some (p := idleProvider "right" ["base"] 20) rfl,
    placeProviders_some (p := idleProvider "left" ["base", "base"] 20) rfl,
    placeProviders_some (p := idleProvider "top" ["left", "right", "nowhere"] 0) rfl,
    placeProviders_none rfl] at hplaced
  have hlist : _ = ordered := congrArg Prod.fst hplaced
  rw [← hlist]
  rfl

end Taxonomy

import Mathlib.Tactic.Tauto
import Taxonomy.Rule.Rules

/-!
# Laws of the two merges

* `distinctBy_append_distinctBy`, `distinctBy_distinctBy_append`: where the nearest entry counts, the
  farther entries may be merged first, and so may the nearer ones.
* `mem_of_mem_overlay`, `mem_map_overlay`: the entries that are left, and their keys.
* `overlay_overlay`: laying entries over others in two rounds is laying them in one.
* `Rules.nearest_concat`, `Rules.nearest_nearest`, `Rules.overlay_overlay_concat`: the same for rules
  together.
-/

namespace Taxonomy

section Entries

variable {α : Type _} {κ : Type _} [DecidableEq κ] {key : α → κ}

/-- Only which keys were seen counts, not their order. -/
theorem distinctFrom_congr {s s' : List κ} (h : ∀ k, k ∈ s ↔ k ∈ s') (xs : List α) :
    distinctFrom key s xs = distinctFrom key s' xs := by
  induction xs generalizing s s' with
  | nil => rfl
  | cons x xs ih =>
    have hc : ∀ k, k ∈ key x :: s ↔ k ∈ key x :: s' := fun k => by simp [h]
    simp only [distinctFrom, h]
    rw [ih h, ih hc]

/-- **The keys of the entries that are left** are the keys that were there and not seen. -/
theorem mem_map_distinctFrom {seen : List κ} {xs : List α} {k : κ} :
    k ∈ (distinctFrom key seen xs).map key ↔ k ∈ xs.map key ∧ k ∉ seen := by
  induction xs generalizing seen with
  | nil => simp [distinctFrom]
  | cons x xs ih =>
    rw [distinctFrom]
    split
    · next hx =>
      rw [ih, List.map_cons, List.mem_cons]
      -- the key of the entry that is left out was seen
      have hne : k ∉ seen → k ≠ key x := fun hk e => hk (e ▸ hx)
      exact ⟨fun h => ⟨.inr h.1, h.2⟩, fun h => ⟨h.1.resolve_left (hne h.2), h.2⟩⟩
    · next hx =>
      rw [List.map_cons, List.mem_cons, ih, List.map_cons, List.mem_cons, List.mem_cons]
      have heq : k = key x → k ∉ seen := fun e => e ▸ hx
      tauto

/-- Leaving out more keys afterwards is leaving them out at once, also before other entries. -/
theorem distinctFrom_distinctFrom_append {s s' : List κ} (h : s ⊆ s') (xs ys : List α) :
    distinctFrom key s' (distinctFrom key s xs ++ ys) = distinctFrom key s' (xs ++ ys) := by
  induction xs generalizing s s' with
  | nil => rfl
  | cons x xs ih =>
    -- a key may be left out in both rounds, in the second only, or in neither
    by_cases hs : key x ∈ s
    · have hs' : key x ∈ s' := h hs
      simp only [distinctFrom, hs, hs', if_true, List.cons_append]
      exact ih h
    · by_cases hs' : key x ∈ s'
      · have hc : key x :: s ⊆ s' := List.cons_subset.2 ⟨hs', h⟩
        simp only [distinctFrom, hs, hs', if_true, if_false, List.cons_append]
        exact ih hc
      · simp only [distinctFrom, hs, hs', if_false, List.cons_append]
        rw [ih (List.cons_subset_cons _ h)]

theorem distinctFrom_distinctFrom {s s' : List κ} (h : s ⊆ s') (xs : List α) :
    distinctFrom key s' (distinctFrom key s xs) = distinctFrom key s' xs := by
  simpa using distinctFrom_distinctFrom_append h xs []

/-- What comes behind other entries may be thinned out before. -/
theorem distinctFrom_append_distinctFrom {s s' : List κ} (h : s' ⊆ s) (xs ys : List α) :
    distinctFrom key s (xs ++ distinctFrom key s' ys) = distinctFrom key s (xs ++ ys) := by
  induction xs generalizing s with
  | nil => exact distinctFrom_distinctFrom h ys
  | cons x xs ih =>
    simp only [List.cons_append, distinctFrom]
    rw [ih h, ih (List.Subset.trans h (List.subset_cons_self _ _))]

/-- **The farther entries may be merged first.** -/
theorem distinctBy_append_distinctBy (xs ys : List α) :
    distinctBy key (xs ++ distinctBy key ys) = distinctBy key (xs ++ ys) :=
  distinctFrom_append_distinctFrom (List.nil_subset _) xs ys

/-- **The nearer entries may be merged first.** -/
theorem distinctBy_distinctBy_append (xs ys : List α) :
    distinctBy key (distinctBy key xs ++ ys) = distinctBy key (xs ++ ys) :=
  distinctFrom_distinctFrom_append (List.nil_subset _) xs ys

/-- Which of the images of entries are left is decided by the keys of the images. -/
theorem distinctFrom_map {β : Type _} (f : β → α) (seen : List κ) (xs : List β) :
    distinctFrom key seen (xs.map f) = (distinctFrom (key ∘ f) seen xs).map f := by
  induction xs generalizing seen with
  | nil => rfl
  | cons x xs ih =>
    rw [List.map_cons, distinctFrom, distinctFrom, Function.comp_apply]
    split
    · exact ih seen
    · rw [List.map_cons, ih]

/-- What is there after an entry was put is the entry, or was there before. -/
theorem mem_of_mem_put {x y : α} {xs : List α} (h : y ∈ put key x xs) : y = x ∨ y ∈ xs := by
  induction xs with
  | nil => exact .inl (List.mem_singleton.1 h)
  | cons z zs ih =>
    rw [put] at h
    split at h
    · exact (List.mem_cons.1 h).imp id (List.mem_cons_of_mem _)
    · rcases List.mem_cons.1 h with rfl | h
      · exact .inr List.mem_cons_self
      · exact (ih h).imp id (List.mem_cons_of_mem _)

theorem mem_map_put {x : α} {xs : List α} {k : κ} :
    k ∈ (put key x xs).map key ↔ k = key x ∨ k ∈ xs.map key := by
  by_cases hx : key x ∈ xs.map key
  · rw [map_put_of_mem hx]
    exact ⟨.inr, fun h => h.elim (fun e => e ▸ hx) id⟩
  · rw [map_put_of_not_mem hx, List.mem_append, List.mem_singleton, or_comm]

theorem mem_of_mem_putAll {xs ys : List α} {y : α} (h : y ∈ putAll key xs ys) :
    y ∈ xs ∨ y ∈ ys := by
  induction xs generalizing ys with
  | nil => exact .inr h
  | cons x xs ih =>
    rcases ih h with hm | hm
    · exact .inl (List.mem_cons_of_mem _ hm)
    · exact (mem_of_mem_put hm).imp (fun (e : y = x) => e ▸ List.mem_cons_self) id

theorem mem_map_putAll {xs ys : List α} {k : κ} :
    k ∈ (putAll key xs ys).map key ↔ k ∈ xs.map key ∨ k ∈ ys.map key := by
  induction xs generalizing ys with
  | nil => simp [putAll]
  | cons x xs ih =>
    rw [putAll, List.foldl_cons, ← putAll, ih, mem_map_put, List.map_cons, List.mem_cons]
    tauto

/-- What is left of entries and of those laid over them is one of the former or of the latter. -/
theorem mem_of_mem_overlay {base additions : List α} {y : α}
    (h : y ∈ overlay key base additions) : y ∈ base ∨ y ∈ additions :=
  List.mem_append.1 ((mem_of_mem_putAll h).resolve_right List.not_mem_nil)

/-- **Laying entries over others loses no key.** -/
theorem mem_map_overlay {base additions : List α} {k : κ} :
    k ∈ (overlay key base additions).map key ↔ k ∈ base.map key ∨ k ∈ additions.map key := by
  rw [overlay, mem_map_putAll, List.map_append, List.mem_append]
  simp

/-- An entry under a new key goes to the end. -/
theorem put_of_not_mem {x : α} {xs : List α} (h : key x ∉ xs.map key) :
    put key x xs = xs ++ [x] := by
  induction xs with
  | nil => rfl
  | cons y ys ih =>
    simp only [List.map_cons, List.mem_cons, not_or] at h
    rw [put, if_neg fun e => h.1 e.symm, ih h.2, List.cons_append]

/-- Entries under new keys go to the end, one after the other. -/
theorem putAll_of_nodup {xs ys : List α} (h : ((ys ++ xs).map key).Nodup) :
    putAll key xs ys = ys ++ xs := by
  induction xs generalizing ys with
  | nil => simp [putAll]
  | cons x xs ih =>
    have hx : key x ∉ ys.map key := by
      intro hm
      rw [List.map_append, List.map_cons, List.nodup_append] at h
      exact h.2.2 _ hm _ List.mem_cons_self rfl
    have hr : (ys ++ [x] ++ xs) = ys ++ x :: xs := by simp
    rw [putAll, List.foldl_cons, put_of_not_mem hx, ← hr]
    exact ih (by rwa [hr])

theorem putAll_append (xs ys zs : List α) :
    putAll key (xs ++ ys) zs = putAll key ys (putAll key xs zs) :=
  List.foldl_append

/-- Entries under distinct keys stay as they are when nothing is laid over them. -/
theorem overlay_nil {xs : List α} (h : (xs.map key).Nodup) : overlay key xs [] = xs := by
  rw [overlay, List.append_nil]
  exact putAll_of_nodup h

/-- **Laying entries over others in two rounds is laying them in one.** -/
theorem overlay_overlay (base xs ys : List α) :
    overlay key (overlay key base xs) ys = overlay key base (xs ++ ys) := by
  have h : putAll key (overlay key base xs) [] = overlay key base xs :=
    putAll_of_nodup (nodup_overlay key base xs)
  rw [overlay, putAll_append, h, overlay, overlay, ← List.append_assoc, putAll_append _ ys]

/-- Noting what is not there yet, one after the other, notes the first of each. -/
theorem foldl_note [DecidableEq α] (xs ys : List α) :
    xs.foldl (fun acc x => if x ∈ acc then acc else acc ++ [x]) ys =
      ys ++ distinctFrom id ys xs := by
  induction xs generalizing ys with
  | nil => simp [distinctFrom]
  | cons x xs ih =>
    simp only [List.foldl_cons, distinctFrom, id_eq]
    by_cases hx : x ∈ ys
    · rw [if_pos hx, if_pos hx, ih]
    · have hc : ∀ k, k ∈ ys ++ [x] ↔ k ∈ x :: ys := fun k => by simp [or_comm]
      rw [if_neg hx, if_neg hx, ih, List.append_assoc, List.singleton_append,
        distinctFrom_congr hc]

end Entries

namespace Rules

/-- **Each list holds one entry per key.** -/
structure Distinct (r : Rules) : Prop where
  children : (r.children.map ChildRule.key).Nodup
  parents : (r.parents.map ParentRule.key).Nodup
  attributes : (r.attributes.map AttributeSpec.name).Nodup

theorem distinct_empty : ({} : Rules).Distinct := ⟨by simp, by simp, by simp⟩

theorem Distinct.addChild {r : Rules} (h : r.Distinct) (rule : ChildRule) :
    (r.addChild rule).Distinct :=
  ⟨nodup_put h.children, h.parents, h.attributes⟩

theorem Distinct.addParent {r : Rules} (h : r.Distinct) (rule : ParentRule) :
    (r.addParent rule).Distinct :=
  ⟨h.children, nodup_put h.parents, h.attributes⟩

theorem Distinct.addAttribute {r : Rules} (h : r.Distinct) (a : AttributeSpec) :
    (r.addAttribute a).Distinct :=
  ⟨nodup_put h.children, h.parents, nodup_put h.attributes⟩

theorem distinct_overlay (r s : Rules) : (r.overlay s).Distinct :=
  ⟨nodup_overlay _ _ _, nodup_overlay _ _ _, nodup_overlay _ _ _⟩

/-- What a chain of sets amounts to: the first one before what the others amount to. -/
theorem nearest_concat (r : Rules) (rs : List Rules) :
    ({} : Rules).nearest (concat (r :: rs)) = r.nearest (({} : Rules).nearest (concat rs)) := by
  simp only [nearest, concat, List.flatMap_cons, List.nil_append, distinctBy_append_distinctBy]

/-- **Three sets may be merged in any grouping.** -/
theorem nearest_nearest (r s t : Rules) : (r.nearest s).nearest t = r.nearest (s.nearest t) := by
  simp only [nearest, distinctBy_distinctBy_append, distinctBy_append_distinctBy, List.append_assoc]

@[simp] theorem nearest_concat_nil : ({} : Rules).nearest (concat []) = {} := rfl

theorem concat_singleton (r : Rules) : concat [r] = r := by
  simp only [concat, List.flatMap_singleton]

theorem overlay_empty {r : Rules} (h : r.Distinct) : r.overlay {} = r := by
  simp only [overlay, overlay_nil h.children, overlay_nil h.parents, overlay_nil h.attributes]

/-- **A set, and then several, laid over another** are all of them laid over it at once. -/
theorem overlay_overlay_concat (r s : Rules) (rs : List Rules) :
    (r.overlay s).overlay (concat rs) = r.overlay (concat (s :: rs)) := by
  simp only [overlay, concat, List.flatMap_cons, Taxonomy.overlay_overlay]

end Rules

end Taxonomy

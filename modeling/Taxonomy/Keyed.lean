/-!
# Lists of keyed entries

A list of entries, each with a key, is read in two ways. Where the nearest entry counts, the first
one of a key wins; where entries are declared again, the last one wins but keeps the place of the
first.

* `distinctBy`: the first entry of each key.
* `put`: puts an entry in the place of the one with its key, or at the end.
* `overlay`: puts entries onto others, one after the other.
-/

namespace Taxonomy

variable {α : Type _} {κ : Type _} [DecidableEq κ]

/-- The first entry of each key that is not among `seen`. -/
def distinctFrom (key : α → κ) (seen : List κ) : List α → List α
  | [] => []
  | x :: xs =>
    if key x ∈ seen then distinctFrom key seen xs
    else x :: distinctFrom key (key x :: seen) xs

/-- **The first entry of each key**, in order of first occurrence. -/
def distinctBy (key : α → κ) (xs : List α) : List α := distinctFrom key [] xs

/-- **Puts an entry into a list**: in the place of the first entry with its key, or at the end. -/
def put (key : α → κ) (x : α) : List α → List α
  | [] => [x]
  | y :: ys => if key y = key x then x :: ys else y :: put key x ys

/-- Puts entries into a list, one after the other. -/
def putAll (key : α → κ) (xs ys : List α) : List α := xs.foldl (fun acc x => put key x acc) ys

/-- **Lays entries over others**: one entry per key, the last one, at the place of the first. -/
def overlay (key : α → κ) (base additions : List α) : List α := putAll key (base ++ additions) []

theorem mem_distinctFrom {key : α → κ} {seen : List κ} {xs : List α} {x : α} :
    x ∈ distinctFrom key seen xs → x ∈ xs ∧ key x ∉ seen := by
  induction xs generalizing seen with
  | nil => simp [distinctFrom]
  | cons y ys ih =>
    unfold distinctFrom
    split
    · intro h; exact ⟨List.mem_cons_of_mem _ (ih h).1, (ih h).2⟩
    · intro h
      rcases List.mem_cons.1 h with rfl | h
      · exact ⟨List.mem_cons_self, by assumption⟩
      · exact ⟨List.mem_cons_of_mem _ (ih h).1,
          fun hx => (ih h).2 (List.mem_cons_of_mem _ hx)⟩

theorem nodup_distinctFrom (key : α → κ) (seen : List κ) (xs : List α) :
    ((distinctFrom key seen xs).map key).Nodup := by
  induction xs generalizing seen with
  | nil => simp [distinctFrom]
  | cons y ys ih =>
    unfold distinctFrom
    split
    · exact ih seen
    · refine List.nodup_cons.2 ⟨fun h => ?_, ih _⟩
      obtain ⟨z, hz, hk⟩ := List.mem_map.1 h
      exact (mem_distinctFrom hz).2 (hk ▸ List.mem_cons_self)

theorem map_put_of_mem {key : α → κ} {x : α} {xs : List α} (h : key x ∈ xs.map key) :
    (put key x xs).map key = xs.map key := by
  induction xs with
  | nil => simp at h
  | cons y ys ih =>
    unfold put
    split
    · next hk => simp [hk]
    · next hk =>
      have : key x ∈ ys.map key := by
        rcases List.mem_cons.1 h with h | h
        · exact absurd h.symm hk
        · exact h
      simp [ih this]

theorem map_put_of_not_mem {key : α → κ} {x : α} {xs : List α} (h : key x ∉ xs.map key) :
    (put key x xs).map key = xs.map key ++ [key x] := by
  induction xs with
  | nil => rfl
  | cons y ys ih =>
    simp only [List.map_cons, List.mem_cons, not_or] at h
    unfold put
    rw [if_neg fun hk => h.1 hk.symm]
    simp [ih h.2]

/-- **Putting an entry keeps the keys distinct.** -/
theorem nodup_put {key : α → κ} {x : α} {xs : List α} (h : (xs.map key).Nodup) :
    ((put key x xs).map key).Nodup := by
  by_cases hx : key x ∈ xs.map key
  · rwa [map_put_of_mem hx]
  · rw [map_put_of_not_mem hx, List.nodup_append]
    exact ⟨h, by simp, fun a ha b hb hab => hx (by simp_all)⟩

theorem nodup_putAll {key : α → κ} (xs : List α) {ys : List α} (h : (ys.map key).Nodup) :
    ((putAll key xs ys).map key).Nodup := by
  induction xs generalizing ys with
  | nil => exact h
  | cons x xs ih => exact ih (nodup_put h)

theorem nodup_overlay (key : α → κ) (base additions : List α) :
    ((overlay key base additions).map key).Nodup :=
  nodup_putAll _ (by simp)

end Taxonomy

import Mathlib.Data.String.Basic
import Taxonomy.TypeId.Basic

/-!
# The order of type ids

Ids are listed by family, then by subtype. Where no id is listed twice the order is strict, so that
a list is determined by what is on it.

* `TypeId.Before`: one id comes before another.
* `pairwise_before_mergeSort`: things with ids of their own, once they are sorted.
-/

namespace Taxonomy

/-- **One id comes before another**: by family, then by subtype. -/
def TypeId.Before (a b : TypeId) : Prop :=
  a.family < b.family ∨ a.family = b.family ∧ a.subtype < b.subtype

theorem TypeId.le_iff {a b : TypeId} :
    a.le b = true ↔ a.family < b.family ∨ a.family = b.family ∧ a.subtype ≤ b.subtype := by
  simp [le]

theorem TypeId.le_trans {a b c : TypeId} (hab : a.le b = true) (hbc : b.le c = true) :
    a.le c = true := by
  rw [le_iff] at hab hbc ⊢
  rcases hab with hab | ⟨hab, hsab⟩
  · rcases hbc with hbc | ⟨hbc, -⟩
    · exact .inl (String.lt_trans hab hbc)
    · exact .inl (hbc ▸ hab)
  · rw [hab]
    exact hbc.imp_right fun ⟨hbc, hsbc⟩ => ⟨hbc, String.le_trans hsab hsbc⟩

theorem TypeId.le_total (a b : TypeId) : (a.le b || b.le a) = true := by
  rw [Bool.or_eq_true, le_iff, le_iff]
  rcases lt_trichotomy a.family b.family with h | h | h
  · exact .inl (.inl h)
  · exact (String.le_total a.subtype b.subtype).imp (fun hs => .inr ⟨h, hs⟩)
      fun hs => .inr ⟨h.symm, hs⟩
  · exact .inr (.inl h)

theorem TypeId.before_of_le {a b : TypeId} (h : a.le b = true) (hne : a ≠ b) : a.Before b := by
  refine (le_iff.1 h).imp_right fun ⟨hf, hs⟩ => ⟨hf, lt_of_le_of_ne hs fun hs => hne ?_⟩
  cases a; cases b; cases hf; cases hs; rfl

/-- **Things with ids of their own, once they are sorted**: none of them is there twice, so the
order of their ids is strict. -/
theorem pairwise_before_mergeSort {α : Type} (id : α → TypeId) {xs : List α}
    (hn : (xs.map id).Nodup) :
    ((xs.mergeSort fun a b => (id a).le (id b)).map id).Pairwise TypeId.Before := by
  have hnodup : ((xs.mergeSort fun a b => (id a).le (id b)).map id).Nodup :=
    ((List.mergeSort_perm xs _).map id).nodup_iff.2 hn
  have hle : ((xs.mergeSort fun a b => (id a).le (id b)).map id).Pairwise
      fun a b => a.le b = true := by
    rw [List.pairwise_map]
    apply List.pairwise_mergeSort
    · exact fun _ _ _ => TypeId.le_trans
    · exact fun a b => TypeId.le_total (id a) (id b)
  exact hle.imp₂ (fun _ _ => TypeId.before_of_le) hnodup

end Taxonomy

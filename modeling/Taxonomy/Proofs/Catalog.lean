import Mathlib.Data.List.Basic
import Mathlib.Logic.Relation
import Taxonomy.Catalog
import Taxonomy.Proofs.Keyed

/-!
# What is found in a catalogue

One lemma per operation of a catalogue: what is found afterwards under each key. An entry that goes
to the place of another one changes the catalogue as a map would.

* `Catalog.find?_eq_some_iff`: an entry is found under its own key.
* `Catalog.ext_find?`: a catalogue is its keys and what is found under them.
* `Catalog.insert_eq_map`, `Catalog.entries_insert_new`: the two cases of an insertion.
-/

namespace Taxonomy

namespace Catalog

variable {α β : Type _} {κ : Type _} [DecidableEq κ] {key : α → κ} {key' : β → κ}

/-- **An entry is found under its own key.** -/
theorem find?_eq_some_iff {c : Catalog key} {k : κ} {a : α} :
    c.find? k = some a ↔ a ∈ c.entries ∧ key a = k := by
  refine ⟨fun h => ⟨mem_of_find? h, find?_key h⟩, ?_⟩
  rintro ⟨ha, rfl⟩
  obtain ⟨l, hl⟩ : ∃ l, c.entries = l := ⟨_, rfl⟩
  have hn := c.nodup
  unfold find?
  rw [hl] at ha hn ⊢
  clear hl
  -- with distinct keys no entry before it has the key
  induction l with
  | nil => simp at ha
  | cons b bs ih =>
    rw [List.map_cons, List.nodup_cons] at hn
    rcases List.mem_cons.1 ha with rfl | hb
    · simp
    · have hne : key b ≠ key a := fun e => hn.1 (e ▸ List.mem_map_of_mem hb)
      rw [List.find?_cons_of_neg (by simpa using hne)]
      exact ih hb hn.2

theorem find?_of_mem {c : Catalog key} {a : α} (h : a ∈ c.entries) : c.find? (key a) = some a :=
  find?_eq_some_iff.2 ⟨h, rfl⟩

theorem filterMap_find? (c : Catalog key) : c.keys.filterMap c.find? = c.entries := by
  have hfind : ∀ a ∈ c.entries, c.find? (key a) = some a := fun _ ha => find?_of_mem ha
  rw [keys, List.filterMap_map, Function.comp_def, List.filterMap_congr hfind, List.filterMap_some]

/-- **A catalogue is its keys in order and what is found under them.** -/
theorem ext_find? {c d : Catalog key} (hk : c.keys = d.keys) (hf : ∀ k, c.find? k = d.find? k) :
    c = d := by
  have hfind : c.find? = d.find? := funext hf
  apply ext
  rw [← filterMap_find?, hk, hfind, filterMap_find?]

theorem find?_eq_none_iff {c : Catalog key} {k : κ} : c.find? k = none ↔ k ∉ c.keys := by
  simp only [find?, keys, List.find?_eq_none, List.mem_map, not_exists, not_and, beq_iff_eq]

theorem mem_keys_iff {c : Catalog key} {k : κ} : k ∈ c.keys ↔ ∃ a, c.find? k = some a := by
  rw [← Option.isSome_iff_exists, Option.isSome_iff_ne_none, ne_eq, find?_eq_none_iff,
    Classical.not_not]

theorem contains_iff {c : Catalog key} {k : κ} : c.contains k = true ↔ ∃ a, c.find? k = some a :=
  Option.isSome_iff_exists

theorem contains_eq_false_iff {c : Catalog key} {k : κ} :
    c.contains k = false ↔ c.find? k = none := by
  rw [contains, Option.isSome_eq_false_iff, Option.isNone_iff_eq_none]

omit [DecidableEq κ] in
@[simp] theorem entries_empty : (empty : Catalog key).entries = [] := rfl

@[simp] theorem find?_empty (k : κ) : (empty : Catalog key).find? k = none := rfl

omit [DecidableEq κ] in
@[simp] theorem entries_map (c : Catalog key) (f : α → β) (h : ∀ a, key' (f a) = key a) :
    (c.map f h).entries = c.entries.map f := rfl

omit [DecidableEq κ] in
@[simp] theorem keys_map (c : Catalog key) (f : α → β) (h : ∀ a, key' (f a) = key a) :
    (c.map f h).keys = c.keys := by
  simp only [keys, entries_map, List.map_map]
  exact List.map_congr_left fun a _ => h a

@[simp] theorem find?_map (c : Catalog key) (f : α → β) (h : ∀ a, key' (f a) = key a) (k : κ) :
    (c.map f h).find? k = (c.find? k).map f := by
  simp only [find?, entries_map, List.find?_map, Function.comp_def, h]

omit [DecidableEq κ] in
theorem map_congr {c : Catalog key} {f g : α → β} (hf : ∀ a, key' (f a) = key a)
    (hg : ∀ a, key' (g a) = key a) (h : ∀ a ∈ c.entries, f a = g a) : c.map f hf = c.map g hg :=
  ext (List.map_congr_left h)

/-- The entries that a test leaves are found as before. -/
theorem find?_filter (c : Catalog key) (p : α → Bool) (k : κ) :
    (c.filter p).find? k = (c.find? k).filter p := by
  cases h : c.find? k with
  | none =>
    rw [Option.filter_none, find?_eq_none_iff]
    rw [find?_eq_none_iff] at h
    exact fun hk => h ((List.filter_sublist.map key).subset hk)
  | some a =>
    obtain ⟨ha, rfl⟩ := find?_eq_some_iff.1 h
    by_cases hp : p a = true
    · rw [Option.filter_some, if_pos hp]
      exact find?_of_mem (c := c.filter p) (List.mem_filter.2 ⟨ha, hp⟩)
    · rw [Option.filter_some, if_neg hp, find?_eq_none_iff]
      intro hk
      obtain ⟨b, hb, hkey⟩ := List.mem_map.1 hk
      obtain ⟨hb, hpb⟩ := List.mem_filter.1 hb
      have : b = a := Option.some.inj ((find?_eq_some_iff.2 ⟨hb, hkey⟩).symm.trans h)
      exact hp (this ▸ hpb)

/-- Changing an entry changes what is found under its key only. -/
theorem find?_modify (c : Catalog key) (k : κ) (f : α → α) (h : ∀ a, key (f a) = key a) (k' : κ) :
    (c.modify k f h).find? k' = if k = k' then (c.find? k').map f else c.find? k' := by
  rw [modify, find?_map]
  cases hk : c.find? k' with
  | none => simp
  | some a =>
    have : key a = k' := find?_key hk
    by_cases hkk : k = k'
    · simp [this, hkk]
    · simp [this, hkk, Ne.symm hkk]

/-- With distinct keys, putting an entry under a known key replaces one entry. -/
theorem put_eq_map {a : α} {xs : List α} (hn : (xs.map key).Nodup) (h : key a ∈ xs.map key) :
    put key a xs = xs.map fun b => if key b = key a then a else b := by
  induction xs with
  | nil => simp at h
  | cons x xs ih =>
    rw [List.map_cons, List.nodup_cons] at hn
    rw [put, List.map_cons]
    by_cases hx : key x = key a
    · -- the entry is replaced here, and no other one has its key
      rw [if_pos hx, if_pos hx]
      have hid : xs.map (fun b => if key b = key a then a else b) = xs.map id :=
        List.map_congr_left fun b hb =>
          if_neg fun e : key b = key a => hn.1 (hx.trans e.symm ▸ List.mem_map_of_mem hb)
      rw [hid, List.map_id]
    · rw [if_neg hx, if_neg hx, ih hn.2]
      exact (List.mem_cons.1 h).resolve_left (Ne.symm hx)

/-- **An entry under a known key** goes to the place of the one that is there. -/
theorem insert_eq_map {c : Catalog key} {a b : α} (h : c.find? (key a) = some b) :
    c.insert a = c.map (fun x => if key x = key a then a else x)
      (fun x => by split <;> simp_all) :=
  ext (put_eq_map c.nodup (mem_keys_iff.2 ⟨b, h⟩))

/-- **An entry under a new key** goes to the end. -/
theorem entries_insert_new {c : Catalog key} {a : α} (h : c.find? (key a) = none) :
    (c.insert a).entries = c.entries ++ [a] :=
  put_of_not_mem (find?_eq_none_iff.1 h)

end Catalog

end Taxonomy

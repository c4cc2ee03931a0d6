import Taxonomy.Keyed

/-!
# Catalogues

A catalogue holds entries under distinct keys, in the order in which the keys came.

* `Catalog.find?`: the entry under a key.
* `Catalog.insert`: an entry goes to the place of the one with its key, or to the end.
* `Catalog.find?_insert`: what is found after an insertion.
-/

namespace Taxonomy

variable {α β : Type _} {κ : Type _} [DecidableEq κ]

/-- **Entries under distinct keys**, in the order in which the keys came. -/
structure Catalog (key : α → κ) where
  entries : List α
  nodup : (entries.map key).Nodup

namespace Catalog

variable {key : α → κ}

instance : Inhabited (Catalog key) := ⟨⟨[], by simp⟩⟩

/-- The catalogue without entries. -/
def empty : Catalog key := ⟨[], by simp⟩

omit [DecidableEq κ] in
@[ext] theorem ext {c d : Catalog key} (h : c.entries = d.entries) : c = d := by
  cases c; cases d; cases h; rfl

/-- The keys in order. -/
def keys (c : Catalog key) : List κ := c.entries.map key

/-- **The entry under a key.** -/
def find? (c : Catalog key) (k : κ) : Option α := c.entries.find? (key · == k)

/-- Is there an entry under the key? -/
def contains (c : Catalog key) (k : κ) : Bool := (c.find? k).isSome

/-- **Puts an entry** in the place of the one with its key, or at the end. -/
def insert (c : Catalog key) (a : α) : Catalog key := ⟨put key a c.entries, nodup_put c.nodup⟩

/-- The entries that satisfy a test. -/
def filter (p : α → Bool) (c : Catalog key) : Catalog key :=
  ⟨c.entries.filter p, c.nodup.sublist ((List.filter_sublist).map _)⟩

/-- **The image of every entry**, under the same key. -/
def map {key' : β → κ} (c : Catalog key) (f : α → β) (h : ∀ a, key' (f a) = key a) :
    Catalog key' :=
  ⟨c.entries.map f, by simpa [Function.comp_def, h] using c.nodup⟩

/-- Changes the entry under a key, if there is one. -/
def modify (c : Catalog key) (k : κ) (f : α → α) (h : ∀ a, key (f a) = key a) : Catalog key :=
  c.map (fun a => if key a == k then f a else a) fun a => by split <;> simp [h]

theorem find?_key {c : Catalog key} {k : κ} {a : α} (h : c.find? k = some a) : key a = k := by
  simpa using List.find?_some h

theorem mem_of_find? {c : Catalog key} {k : κ} {a : α} (h : c.find? k = some a) : a ∈ c.entries :=
  List.mem_of_find?_eq_some h

theorem find?_put (xs : List α) (a : α) (k : κ) :
    (put key a xs).find? (key · == k) =
      if key a = k then some a else xs.find? (key · == k) := by
  induction xs with
  | nil => by_cases h : key a = k <;> simp [put, h]
  | cons x xs ih =>
    by_cases hx : key x = key a
    · rw [put, if_pos hx]
      by_cases h : key a = k <;> simp [hx, h]
    · rw [put, if_neg hx, List.find?_cons, List.find?_cons, ih]
      by_cases h : key a = k
      · have : (key x == k) = false := by simpa using fun e => hx (e.trans h.symm)
        simp [h, this]
      · simp [h]

/-- **What is found after an insertion**: the new entry under its key, and the old ones. -/
theorem find?_insert (c : Catalog key) (a : α) (k : κ) :
    (c.insert a).find? k = if key a = k then some a else c.find? k :=
  find?_put c.entries a k

end Catalog

end Taxonomy

import Mathlib.Data.List.Sort
import Taxonomy.Proofs.Registry.Extensions

/-!
# What the two merges keep

Where the nearest rule counts, the first entry of each key is kept; where later rules replace
earlier ones, the last entry is. Either stands where its key came first, so that both merges keep
the same keys in the same order, and differ only in the entry under a key that came more than once.

* `FirstOfEach`, `LastOfEach`: one entry for each key, said without a merge; there is only one such
  list (`OneOfEach.unique`).
* `firstOfEach_iff`, `lastOfEach_iff`: the two merges make these lists.
* `map_overlay`: both merges keep the same keys in the same order.
* `merges_are_lawful`: what the merges keep, in which grouping they may be made, and what that means
  for extensions.
-/

namespace Taxonomy

section Entries

variable {α : Type _} {κ : Type _} [DecidableEq κ] {key : α → κ} {xs ys zs : List α} {k : κ}
  {found : κ → Option α}

/-! ## One entry for each key -/

/-- **One entry for each key of a list**, in the order in which the keys came first. -/
structure OneOfEach (key : α → κ) (xs : List α) (found : κ → Option α) (ys : List α) : Prop where
  /-- No key is lost, and none is new. -/
  mem_keys (k : κ) : k ∈ ys.map key ↔ k ∈ xs.map key
  /-- The keys stand in the order of their first places, so none stands twice. -/
  order : (ys.map key).Pairwise fun k l => (xs.map key).idxOf k < (xs.map key).idxOf l
  /-- The entry that each key has. -/
  entry (k : κ) : ys.find? (key · == k) = found k

/-- **The first entry of each key**, where the key came first. -/
def FirstOfEach (key : α → κ) (xs : List α) : List α → Prop :=
  OneOfEach key xs fun k => xs.find? (key · == k)

/-- **The last entry of each key**, where the key came first. -/
def LastOfEach (key : α → κ) (xs : List α) : List α → Prop :=
  OneOfEach key xs fun k => xs.reverse.find? (key · == k)

theorem OneOfEach.nodup (h : OneOfEach key xs found ys) : (ys.map key).Nodup :=
  h.order.imp fun {k l} hlt heq => by
    rw [heq] at hlt
    exact Nat.lt_irrefl _ hlt

/-- **There is only one list of one entry for each key**: its keys and their order are given, and
the entry under each key is. -/
theorem OneOfEach.unique (hy : OneOfEach key xs found ys) (hz : OneOfEach key xs found zs) :
    ys = zs := by
  have hirrefl : Std.Irrefl fun k l => (xs.map key).idxOf k < (xs.map key).idxOf l :=
    ⟨fun _ => Nat.lt_irrefl _⟩
  have hmem : ∀ k, k ∈ ys.map key ↔ k ∈ zs.map key :=
    fun k => (hy.mem_keys k).trans (hz.mem_keys k).symm
  have hkeys : ys.map key = zs.map key := hy.order.eq_of_mem_iff hz.order hmem
  have hentry : ∀ k, ys.find? (key · == k) = zs.find? (key · == k) :=
    fun k => (hy.entry k).trans (hz.entry k).symm
  have hsame : (⟨ys, hy.nodup⟩ : Catalog key) = ⟨zs, hz.nodup⟩ :=
    Catalog.ext_find? hkeys hentry
  exact congrArg Catalog.entries hsame

/-! ## The nearest entry -/

/-- Which keys are left is decided by the keys alone. -/
theorem map_distinctFrom (seen : List κ) (xs : List α) :
    (distinctFrom key seen xs).map key = distinctFrom id seen (xs.map key) := by
  rw [distinctFrom_map, Function.id_comp]

/-- **Keys are left in the order of their first places.** -/
theorem pairwise_idxOf_distinctFrom (seen ks : List κ) :
    (distinctFrom id seen ks).Pairwise fun k l => ks.idxOf k < ks.idxOf l := by
  induction ks generalizing seen with
  | nil => exact List.Pairwise.nil
  | cons k ks ih =>
    have hback : ∀ l, k ≠ l → (k :: ks).idxOf l = ks.idxOf l + 1 :=
      fun l hl => List.idxOf_cons_ne ks hl
    -- once the first key is seen, all that are left stand one place further back
    have htail : ∀ seen, k ∈ seen →
        (distinctFrom id seen ks).Pairwise fun a b => (k :: ks).idxOf a < (k :: ks).idxOf b := by
      intro seen hk
      refine (ih seen).imp_of_mem ?_
      intro a b ha hb hlt
      have hka : k ≠ a := fun e => (mem_distinctFrom ha).2 (e ▸ hk)
      have hkb : k ≠ b := fun e => (mem_distinctFrom hb).2 (e ▸ hk)
      rw [hback a hka, hback b hkb]
      omega
    rw [distinctFrom]
    split
    · next hk => exact htail seen hk
    · refine List.pairwise_cons.2 ⟨?_, htail (k :: seen) List.mem_cons_self⟩
      intro a ha
      have hka : k ≠ a := fun e => (mem_distinctFrom ha).2 (e ▸ List.mem_cons_self)
      rw [List.idxOf_cons_self, hback a hka]
      omega

/-- What is left under a key that was not seen is the first entry. -/
theorem find?_distinctFrom {seen : List κ} (h : k ∉ seen) (xs : List α) :
    (distinctFrom key seen xs).find? (key · == k) = xs.find? (key · == k) := by
  induction xs generalizing seen with
  | nil => rfl
  | cons x xs ih =>
    rw [distinctFrom]
    by_cases hx : key x = k
    · have hnew : key x ∉ seen := hx ▸ h
      rw [if_neg hnew, List.find?_cons_of_pos (by simpa using hx),
        List.find?_cons_of_pos (by simpa using hx)]
    · rw [List.find?_cons_of_neg (a := x) (l := xs) (by simpa using hx)]
      split
      · exact ih h
      · have hnew : k ∉ key x :: seen := by
          rw [List.mem_cons, not_or]
          exact ⟨Ne.symm hx, h⟩
        rw [List.find?_cons_of_neg (by simpa using hx)]
        exact ih hnew

theorem firstOfEach_distinctBy (key : α → κ) (xs : List α) :
    FirstOfEach key xs (distinctBy key xs) where
  mem_keys k := by
    rw [distinctBy, mem_map_distinctFrom]
    exact and_iff_left List.not_mem_nil
  order := by
    rw [distinctBy, map_distinctFrom]
    exact pairwise_idxOf_distinctFrom [] (xs.map key)
  entry k := find?_distinctFrom List.not_mem_nil xs

/-- **Where the nearest entry counts**, the first entry of each key is kept. -/
theorem firstOfEach_iff : FirstOfEach key xs ys ↔ ys = distinctBy key xs := by
  have hd := firstOfEach_distinctBy key xs
  exact ⟨fun h => h.unique hd, fun h => h ▸ hd⟩

/-! ## The latest entry -/

/-- The keys after entries were put: new ones come behind, in the order in which they come first. -/
theorem map_putAll (xs ys : List α) :
    (putAll key xs ys).map key = ys.map key ++ distinctFrom id (ys.map key) (xs.map key) := by
  rw [← foldl_note]
  induction xs generalizing ys with
  | nil => rfl
  | cons x xs ih =>
    have hput : (put key x ys).map key =
        if key x ∈ ys.map key then ys.map key else ys.map key ++ [key x] := by
      split
      · next h => exact map_put_of_mem h
      · next h => exact map_put_of_not_mem h
    rw [List.map_cons, List.foldl_cons, ← hput]
    exact ih (put key x ys)

/-- **Both merges keep the same keys in the same order.** -/
theorem map_overlay (base additions : List α) :
    (overlay key base additions).map key = (distinctBy key (base ++ additions)).map key := by
  rw [overlay, map_putAll, distinctBy, map_distinctFrom, List.map_nil, List.nil_append]

/-- What was put last is found under its key. -/
theorem find?_putAll (xs ys : List α) (k : κ) :
    (putAll key xs ys).find? (key · == k) = (xs.reverse ++ ys).find? (key · == k) := by
  induction xs generalizing ys with
  | nil => rfl
  | cons x xs ih =>
    have hput : (put key x ys).find? (key · == k) = (x :: ys).find? (key · == k) := by
      rw [Catalog.find?_put]
      split
      · next hx => rw [List.find?_cons_of_pos (by simpa using hx)]
      · next hx => rw [List.find?_cons_of_neg (by simpa using hx)]
    calc (putAll key (x :: xs) ys).find? (key · == k)
      _ = (xs.reverse ++ put key x ys).find? (key · == k) := ih (put key x ys)
      _ = (xs.reverse ++ x :: ys).find? (key · == k) := by
        rw [List.find?_append, hput, ← List.find?_append]
      _ = ((x :: xs).reverse ++ ys).find? (key · == k) := by
        rw [List.reverse_cons, List.append_assoc, List.singleton_append]

theorem lastOfEach_overlay (key : α → κ) (base additions : List α) :
    LastOfEach key (base ++ additions) (overlay key base additions) where
  mem_keys k := by rw [mem_map_overlay, List.map_append, List.mem_append]
  order := by
    rw [map_overlay]
    exact (firstOfEach_distinctBy key _).order
  entry k := by rw [overlay, find?_putAll, List.append_nil]

/-- **Where later entries replace earlier ones**, the last entry of each key is kept. -/
theorem lastOfEach_iff {base additions : List α} :
    LastOfEach key (base ++ additions) ys ↔ ys = overlay key base additions := by
  have ho := lastOfEach_overlay key base additions
  exact ⟨fun h => h.unique ho, fun h => h ▸ ho⟩

end Entries

/-! ## Rules together -/

namespace Rules

/-- **A merge of two sets of rules**: each of its lists is made of theirs as `each` says. -/
structure MergedBy (each : ∀ {α κ : Type} [DecidableEq κ], (α → κ) → List α → List α → Prop)
    (r s m : Rules) : Prop where
  children : each ChildRule.key (r.children ++ s.children) m.children
  parents : each ParentRule.key (r.parents ++ s.parents) m.parents
  attributes : each AttributeSpec.name (r.attributes ++ s.attributes) m.attributes

variable {r s m : Rules}

theorem mergedBy_firstOfEach_iff : MergedBy FirstOfEach r s m ↔ m = r.nearest s := by
  constructor
  · intro h
    rw [nearest, ← firstOfEach_iff.1 h.children, ← firstOfEach_iff.1 h.parents,
      ← firstOfEach_iff.1 h.attributes]
  · rintro rfl
    exact ⟨firstOfEach_distinctBy _ _, firstOfEach_distinctBy _ _, firstOfEach_distinctBy _ _⟩

theorem mergedBy_lastOfEach_iff : MergedBy LastOfEach r s m ↔ m = r.overlay s := by
  constructor
  · intro h
    rw [overlay, ← lastOfEach_iff.1 h.children, ← lastOfEach_iff.1 h.parents,
      ← lastOfEach_iff.1 h.attributes]
  · rintro rfl
    exact ⟨lastOfEach_overlay _ _ _, lastOfEach_overlay _ _ _, lastOfEach_overlay _ _ _⟩

end Rules

/-! ## The laws -/

/-- **The two merges are lawful.** Of entries with keys of any kind the one keeps the first entry of
each key and the other the last, both in the order in which the keys came first; the nearest entries
may be merged in any grouping, and laying entries over others in two rounds is laying them in one.
The same holds of rules and attributes together. So extensions may be laid over a type in any
portions, and any number of them amounts to a single round with all their rules. -/
theorem merges_are_lawful {α κ : Type _} [DecidableEq κ] (key : α → κ) :
    (∀ direct inherited out : List α,
      FirstOfEach key (direct ++ inherited) out ↔ out = distinctBy key (direct ++ inherited)) ∧
    (∀ xs ys zs : List α, distinctBy key (distinctBy key (xs ++ ys) ++ zs) =
      distinctBy key (xs ++ distinctBy key (ys ++ zs))) ∧
    (∀ base additions out : List α,
      LastOfEach key (base ++ additions) out ↔ out = overlay key base additions) ∧
    (∀ base xs ys : List α,
      overlay key (overlay key base xs) ys = overlay key base (xs ++ ys)) ∧
    (∀ direct inherited m : Rules,
      Rules.MergedBy FirstOfEach direct inherited m ↔ m = direct.nearest inherited) ∧
    (∀ r s t : Rules, (r.nearest s).nearest t = r.nearest (s.nearest t)) ∧
    (∀ base additions m : Rules,
      Rules.MergedBy LastOfEach base additions m ↔ m = base.overlay additions) ∧
    (∀ base r s : Rules, (base.overlay r).overlay s = base.overlay (Rules.concat [r, s])) ∧
    (∀ (d : TypeDefinition) (es fs : List Extension),
      (d.extendAll es).extendAll fs = d.extendAll (es ++ fs)) ∧
    ∀ (d : TypeDefinition) (e : Extension) (es : List Extension),
      d.extendAll (e :: es) = { d with
        toRules := d.toRules.overlay (Rules.concat ((e :: es).map (·.toRules)))
        extendedBy := d.extendedBy ++ distinctFrom id d.extendedBy (scopesOf (e :: es)) } := by
  refine ⟨fun _ _ _ => firstOfEach_iff, fun xs ys zs => ?_, fun _ _ _ => lastOfEach_iff,
    overlay_overlay, fun _ _ _ => Rules.mergedBy_firstOfEach_iff, Rules.nearest_nearest,
    fun _ _ _ => Rules.mergedBy_lastOfEach_iff, fun base r s => ?_, fun d es fs => ?_, extendAll_cons⟩
  · rw [distinctBy_distinctBy_append, distinctBy_append_distinctBy, List.append_assoc]
  · rw [← Rules.overlay_overlay_concat, Rules.concat_singleton]
  · exact List.foldl_append.symm

/-- Of two rules under one key the nearer one is kept where a type inherits, and the later one where
it is extended, both where the key came first. -/
example :
    distinctBy ChildRule.key
        [{ family := "file" }, { family := "note" }, { family := "file", required := true }] =
      [{ family := "file" }, { family := "note" }] ∧
    overlay ChildRule.key [{ family := "file" }, { family := "note" }]
        [{ family := "file", required := true }] =
      [{ family := "file", required := true }, { family := "note" }] := by
  decide

end Taxonomy

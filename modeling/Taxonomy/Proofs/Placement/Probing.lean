import Mathlib.Data.List.Nodup
import Mathlib.Order.Lattice
import Taxonomy.Placement

/-!
# Probing rules by their keys

A child is governed by the most specific of the rules that accept it. The rules that accept it are
those whose keys are among a few **probes**, and the probes come in the order of what they weigh. So
the first probe under which there is a rule finds the rule that governs.

* `mostSpecific?`: the most specific accepting rule, by its definition.
* `governing?_eq_mostSpecific?`: this is what a pass over the rules arrives at.
* `mem_probes_iff`, `pairwise_probes`: which keys are probed, and in which order.
* `findSome?_probeKeys`: probing finds the most specific accepting rule.
-/

namespace Taxonomy

/-- **The most specific of the rules that accept a child**: the first one that no accepting rule
outweighs. -/
def mostSpecific? (rules : List ChildRule) (family subtype name : Value) : Option ChildRule :=
  rules.find? fun r => r.accepts family subtype name &&
    rules.all fun q => !q.accepts family subtype name || decide (q.specificity ≤ r.specificity)

/-- A rule that accepts the child and outweighs all others that do is the most specific one. -/
theorem mostSpecific?_eq_some {rules : List ChildRule} {family subtype name : Value} {r : ChildRule}
    (hr : r ∈ rules) (hacc : r.accepts family subtype name = true)
    (hother : ∀ q ∈ rules, q.accepts family subtype name = true →
      q = r ∨ q.specificity < r.specificity) :
    mostSpecific? rules family subtype name = some r := by
  have hfound : ∃ q, mostSpecific? rules family subtype name = some q := by
    rw [← Option.isSome_iff_exists, mostSpecific?, List.find?_isSome]
    refine ⟨r, hr, ?_⟩
    simp only [hacc, Bool.true_and, List.all_eq_true, Bool.or_eq_true, Bool.not_eq_true',
      decide_eq_true_eq]
    intro q hq
    cases hqacc : q.accepts family subtype name with
    | false => exact .inl rfl
    | true =>
      rcases hother q hq hqacc with rfl | hlt
      · exact .inr le_rfl
      · exact .inr hlt.le
  obtain ⟨q, hq⟩ := hfound
  have hsome := List.find?_some hq
  simp only [Bool.and_eq_true, List.all_eq_true, Bool.or_eq_true, Bool.not_eq_true',
    decide_eq_true_eq] at hsome
  obtain ⟨hqacc, hmax⟩ := hsome
  have hle : r.specificity ≤ q.specificity := (hmax r hr).resolve_left (by simp [hacc])
  rcases hother q (List.mem_of_find?_eq_some hq) hqacc with rfl | hlt
  · exact hq
  · exact absurd hle (not_le.2 hlt)

/-! ## One pass over the rules -/

/-- **A pass keeps the first rule of greatest weight.** What comes before it weighs less, and what
comes behind it does not weigh more. -/
theorem foldl_heaviest (b : ChildRule) (rs : List ChildRule) :
    ∃ before r behind, b :: rs = before ++ r :: behind ∧
      rs.foldl (fun best r => match best with
        | none => some r
        | some b => if b.specificity < r.specificity then some r else some b) (some b) = some r ∧
      (∀ q ∈ before, q.specificity < r.specificity) ∧
      ∀ q ∈ behind, q.specificity ≤ r.specificity := by
  induction rs generalizing b with
  | nil => exact ⟨[], b, [], rfl, rfl, by simp, by simp⟩
  | cons y ys ih =>
    rw [List.foldl_cons]
    by_cases hby : b.specificity < y.specificity
    · -- the new rule takes over, and what wins later does not weigh less
      obtain ⟨before, r, behind, heq, hfold, hlt, hle⟩ := ih y
      refine ⟨b :: before, r, behind, by rw [heq, List.cons_append], ?_, ?_, hle⟩
      · simpa only [hby, if_true] using hfold
      · have hyr : y.specificity ≤ r.specificity := by
          have hy : y ∈ before ++ r :: behind := heq ▸ List.mem_cons_self
          rcases List.mem_append.1 hy with hy | hy
          · exact (hlt y hy).le
          · rcases List.mem_cons.1 hy with rfl | hy
            · exact le_rfl
            · exact hle y hy
        intro q hq
        rcases List.mem_cons.1 hq with rfl | hq
        · exact lt_of_lt_of_le hby hyr
        · exact hlt q hq
    · obtain ⟨before, r, behind, heq, hfold, hlt, hle⟩ := ih b
      have hyb : y.specificity ≤ b.specificity := not_lt.1 hby
      simp only [hby, if_false]
      cases before with
      | nil =>
        obtain ⟨rfl, rfl⟩ := List.cons.inj heq
        refine ⟨[], b, y :: ys, rfl, hfold, by simp, ?_⟩
        intro q hq
        rcases List.mem_cons.1 hq with rfl | hq
        · exact hyb
        · exact hle q hq
      | cons b' before =>
        obtain ⟨rfl, rfl⟩ := List.cons.inj heq
        have hbr : b.specificity < r.specificity := hlt b List.mem_cons_self
        refine ⟨b :: y :: before, r, behind, rfl, hfold, ?_, hle⟩
        intro q hq
        rcases List.mem_cons.1 hq with rfl | hq
        · exact hbr
        · rcases List.mem_cons.1 hq with rfl | hq
          · exact lt_of_le_of_lt hyb hbr
          · exact hlt q (List.mem_cons_of_mem _ hq)

/-- **The governing rule is the most specific one that accepts the child.** -/
theorem governing?_eq_mostSpecific? (rules : List ChildRule) (family subtype name : Value) :
    governing? rules family subtype name = mostSpecific? rules family subtype name := by
  have hfind : mostSpecific? rules family subtype name =
      (rules.filter (·.accepts family subtype name)).find? fun r =>
        (rules.filter (·.accepts family subtype name)).all
          fun q => decide (q.specificity ≤ r.specificity) := by
    rw [mostSpecific?, List.find?_filter]
    congr 1
    funext r
    rw [List.all_filter, Bool.decide_and, Bool.decide_eq_true, Bool.decide_eq_true]
  rw [hfind, governing?]
  cases hf : rules.filter (·.accepts family subtype name) with
  | nil => rfl
  | cons b rs =>
    obtain ⟨before, r, behind, heq, hfold, hlt, hle⟩ := foldl_heaviest b rs
    rw [List.foldl_cons]
    refine hfold.trans (Eq.symm ?_)
    rw [List.find?_eq_some_iff_append, heq]
    refine ⟨?_, before, behind, rfl, ?_⟩
    · simp only [List.all_append, List.all_cons, Bool.and_eq_true, List.all_eq_true,
        decide_eq_true_eq]
      exact ⟨fun q hq => (hlt q hq).le, le_rfl, hle⟩
    · intro q hq
      simp only [Bool.not_eq_true', List.all_eq_false]
      exact ⟨r, by simp, by simpa using hlt q hq⟩

/-! ## The keys that are probed -/

/-- The weight of a key: that of a rule under it. -/
def weight (k : RuleKey) : Nat :=
  (if k.2.2 != wildcard then 4 else 0) + (if k.2.1 != wildcard then 2 else 0) +
    if k.1 != wildcard then 1 else 0

theorem specificity_eq_weight (r : ChildRule) : r.specificity = weight r.key := rfl

/-- What is tried for one part of a key: the text that is given, then the wildcard. -/
def tries (s : String) : List String := if s = wildcard then [wildcard] else [s, wildcard]

/-- What is tried for the name. -/
def triesOfName : Value → List String
  | .str n => tries n
  | _ => [wildcard]

/-- **The probes for a child**, each key once. -/
def probes (child : TypeId) (name : Value) : List RuleKey :=
  (triesOfName name).flatMap fun n => (tries child.subtype).flatMap fun s =>
    (tries child.family).map fun f => (f, s, n)

variable {child : TypeId} {name : Value}

theorem covers_iff_mem_tries {p s : String} : covers p (.str s) = true ↔ p ∈ tries s := by
  rw [covers_str, tries, Bool.or_eq_true, beq_iff_eq, beq_iff_eq]
  split
  · next hs => rw [hs, List.mem_singleton, @eq_comm _ wildcard p, or_self]
  · rw [List.mem_cons, List.mem_singleton, or_comm, @eq_comm _ s p]

theorem covers_iff_mem_triesOfName {p : String} :
    covers p name = true ↔ p ∈ triesOfName name := by
  cases name with
  | str n => exact covers_iff_mem_tries
  | _ => simp [covers, triesOfName]

/-- **A rule accepts a child exactly if its key is probed.** -/
theorem mem_probes_iff {r : ChildRule} :
    r.key ∈ probes child name ↔ r.accepts (.str child.family) (.str child.subtype) name = true := by
  simp only [probes, ChildRule.key, ChildRule.accepts, List.mem_flatMap, List.mem_map,
    Prod.mk.injEq, Bool.and_eq_true, covers_iff_mem_triesOfName]
  constructor
  · rintro ⟨n, hn, s, hs, f, hf, rfl, rfl, rfl⟩
    exact ⟨⟨hf, hs⟩, hn⟩
  · rintro ⟨⟨hf, hs⟩, hn⟩
    exact ⟨_, hn, _, hs, _, hf, rfl, rfl, rfl⟩

/-- **Every probe weighs more than those behind it.** A name outweighs a subtype together with a
family, and a subtype outweighs a family. -/
theorem pairwise_probes (child : TypeId) (name : Value) :
    (probes child name).Pairwise fun k k' => weight k' < weight k := by
  have hnames : triesOfName name = [wildcard] ∨
      ∃ n, n ≠ wildcard ∧ triesOfName name = [n, wildcard] := by
    cases name with
    | str n =>
      by_cases hn : n = wildcard
      · exact .inl (by simp [triesOfName, tries, hn])
      · exact .inr ⟨n, hn, by simp [triesOfName, tries, hn]⟩
    | _ => exact .inl rfl
  unfold probes
  by_cases hs : child.subtype = wildcard <;> by_cases hf : child.family = wildcard <;>
    rcases hnames with hn | ⟨n, hn, hnames⟩ <;>
    simp_all [tries, weight]

/-- Trying a text, and then the wildcard, comes to the same when the text is the wildcard. -/
theorem findSome?_tries {β : Type} (s : String) (g : String → Option β) :
    [s, wildcard].findSome? g = (tries s).findSome? g := by
  unfold tries
  split
  · next h =>
    subst h
    cases hg : g wildcard <;> simp [hg]
  · rfl

theorem findSome?_flatMap {α β γ : Type} (xs : List α) (f : α → List β) (g : β → Option γ) :
    (xs.flatMap f).findSome? g = xs.findSome? fun x => (f x).findSome? g := by
  induction xs with
  | nil => rfl
  | cons x xs ih =>
    rw [List.flatMap_cons, List.findSome?_append, ih, List.findSome?_cons]
    cases (f x).findSome? g <;> rfl

/-- A key that is probed again finds nothing new. -/
theorem findSome?_probeKeys_eq {β : Type} (child : TypeId) (name : Value)
    (g : RuleKey → Option β) :
    (probeKeys child name).findSome? g = (probes child name).findSome? g := by
  have hnames : probeKeys child name = (triesOfName name).flatMap fun n =>
      [child.subtype, wildcard].flatMap fun s =>
        [child.family, wildcard].map fun f => (f, s, n) := by
    cases name with
    | str n =>
      by_cases hn : n = wildcard
      · simp [probeKeys, triesOfName, tries, hn]
      · simp [probeKeys, triesOfName, tries, hn]
    | _ => rfl
  have hmap (n s : String) :
      ([child.family, wildcard].map fun f => ((f, s, n) : RuleKey)).findSome? g =
        ((tries child.family).map fun f => ((f, s, n) : RuleKey)).findSome? g := by
    rw [List.findSome?_map, List.findSome?_map, findSome?_tries]
  rw [hnames, probes]
  simp only [findSome?_flatMap, findSome?_tries, hmap]

/-- **Probing finds the most specific rule** among rules that differ by their keys. -/
theorem findSome?_probeKeys {rules : List ChildRule} (hn : (rules.map ChildRule.key).Nodup) :
    ((probeKeys child name).findSome? fun k => rules.find? (·.key == k)) =
      mostSpecific? rules (.str child.family) (.str child.subtype) name := by
  rw [findSome?_probeKeys_eq]
  cases h : (probes child name).findSome? fun k => rules.find? (·.key == k) with
  | none =>
    rw [List.findSome?_eq_none_iff] at h
    refine (List.find?_eq_none.2 fun r hr => ?_).symm
    -- the key of an accepting rule is probed, and would have been found
    intro hacc
    have hk := mem_probes_iff.2 (Bool.and_eq_true_iff.1 hacc).1
    exact List.find?_eq_none.1 (h r.key hk) r hr (beq_self_eq_true _)
  | some r =>
    obtain ⟨before, k, behind, hsplit, hfind, hnone⟩ := List.findSome?_eq_some_iff.1 h
    have hr : r ∈ rules := List.mem_of_find?_eq_some hfind
    have hkey : r.key = k := by simpa using List.find?_some hfind
    have hacc : r.accepts (.str child.family) (.str child.subtype) name = true :=
      mem_probes_iff.1 (by rw [hsplit, hkey]; simp)
    -- an accepting rule is the one that was found, or weighs less
    have hother : ∀ q ∈ rules, q.accepts (.str child.family) (.str child.subtype) name = true →
        q = r ∨ q.specificity < r.specificity := by
      intro q hq hqacc
      have hmem := mem_probes_iff.2 hqacc
      rw [hsplit, List.mem_append, List.mem_cons] at hmem
      rcases hmem with hb | hk | hb
      · exact absurd (beq_self_eq_true _) (List.find?_eq_none.1 (hnone _ hb) q hq)
      · exact .inl (List.inj_on_of_nodup_map hn hq hr (hk.trans hkey.symm))
      · have hp := pairwise_probes child name
        rw [hsplit, List.pairwise_append, List.pairwise_cons] at hp
        refine .inr ?_
        rw [specificity_eq_weight, specificity_eq_weight, hkey]
        exact hp.2.1.1 _ hb
    exact (mostSpecific?_eq_some hr hacc hother).symm

end Taxonomy

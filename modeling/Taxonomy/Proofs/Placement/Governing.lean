import Mathlib.Data.List.Nodup
import Taxonomy.Proofs.Placement.Probing
import Taxonomy.Proofs.Registry.History

/-!
# Inherited child rules

A type has the child rules of its parent and its own before them. A rule of its own takes the place
of the inherited one with the same key, so that for every child at least one rule is left of the
weight that governs under the parent. The rule that governs under the type is then the same one, or
one that the type declares itself.

* `key_eq_of_specificity_eq`: rules of the same weight that accept the same child have one key.
* `governing?_eq_some_iff`: the rule that governs, among rules with keys of their own.
* `governing?_nearest`: what own rules before others change.
* `child_rule_inherited`: the types of a registry, in every reachable state.
-/

namespace Taxonomy

open Registry

variable {rules direct inherited : List ChildRule} {family subtype name : Value} {r q : ChildRule}

/-! ## Rules that accept the same child -/

/-- Patterns that cover the same value are equal, if they are both the wildcard or neither is. -/
theorem eq_of_covers {p p' : String} {v : Value} (h : covers p v = true) (h' : covers p' v = true)
    (hw : p = wildcard ↔ p' = wildcard) : p = p' := by
  simp only [covers, Bool.or_eq_true, beq_iff_eq] at h h'
  by_cases hp : p = wildcard
  · exact hp.trans (hw.1 hp).symm
  · have hv : v = .str p := h.resolve_left hp
    have hv' : v = .str p' := h'.resolve_left fun e => hp (hw.2 e)
    exact Value.str.inj (hv.symm.trans hv')

/-- **Rules of the same weight that accept the same child have one key.** The weight tells which
parts are the wildcard, and the other parts are those of the child. -/
theorem key_eq_of_specificity_eq (hr : r.accepts family subtype name = true)
    (hq : q.accepts family subtype name = true) (h : r.specificity = q.specificity) :
    r.key = q.key := by
  simp only [ChildRule.accepts, Bool.and_eq_true] at hr hq
  obtain ⟨⟨hrf, hrs⟩, hrn⟩ := hr
  obtain ⟨⟨hqf, hqs⟩, hqn⟩ := hq
  have hparts : (r.name = wildcard ↔ q.name = wildcard) ∧
      (r.subtype = wildcard ↔ q.subtype = wildcard) ∧
      (r.family = wildcard ↔ q.family = wildcard) := by
    simp only [ChildRule.specificity, bne_iff_ne, ne_eq, ite_not] at h
    grind
  obtain ⟨hname, hsubtype, hfamily⟩ := hparts
  rw [ChildRule.key, ChildRule.key, eq_of_covers hrf hqf hfamily, eq_of_covers hrs hqs hsubtype,
    eq_of_covers hrn hqn hname]

/-- What a rule accepts shows in its key. -/
theorem accepts_of_key (h : r.key = q.key) (hq : q.accepts family subtype name = true) :
    r.accepts family subtype name = true := by
  simp only [ChildRule.key, Prod.mk.injEq] at h
  obtain ⟨hf, hs, hn⟩ := h
  rwa [ChildRule.accepts, hf, hs, hn]

/-! ## The rule that governs -/

/-- Where some rule accepts the child, some rule governs. -/
theorem exists_governing? (hr : r ∈ rules) (hacc : r.accepts family subtype name = true) :
    ∃ q, governing? rules family subtype name = some q := by
  have hmem : r ∈ rules.filter (·.accepts family subtype name) := List.mem_filter.2 ⟨hr, hacc⟩
  rw [governing?]
  cases hf : rules.filter (·.accepts family subtype name) with
  | nil =>
    rw [hf] at hmem
    cases hmem
  | cons b bs =>
    obtain ⟨-, q, -, -, hq, -, -⟩ := foldl_heaviest b bs
    exact ⟨q, hq⟩

/-- **The rule that governs, among rules with keys of their own**: it accepts the child, and every
other one that does weighs less. -/
theorem governing?_eq_some_iff (hn : (rules.map ChildRule.key).Nodup) :
    governing? rules family subtype name = some r ↔
      r ∈ rules ∧ r.accepts family subtype name = true ∧
        ∀ q ∈ rules, q.accepts family subtype name = true →
          q = r ∨ q.specificity < r.specificity := by
  rw [governing?_eq_mostSpecific?]
  constructor
  · intro h
    have hmem := List.mem_of_find?_eq_some h
    have hsome := List.find?_some h
    simp only [Bool.and_eq_true, List.all_eq_true, Bool.or_eq_true, Bool.not_eq_true',
      decide_eq_true_eq] at hsome
    obtain ⟨hacc, hmax⟩ := hsome
    refine ⟨hmem, hacc, fun q hq hqacc => ?_⟩
    have hle : q.specificity ≤ r.specificity := (hmax q hq).resolve_left (by simp [hqacc])
    rcases hle.lt_or_eq with hlt | heq
    · exact .inr hlt
    · exact .inl (List.inj_on_of_nodup_map hn hq hmem (key_eq_of_specificity_eq hqacc hacc heq))
  · rintro ⟨hmem, hacc, hother⟩
    exact mostSpecific?_eq_some hmem hacc hother

/-- An entry of rules with others behind them is one of the former or one of the latter. -/
theorem mem_or_mem_of_nearest (h : r ∈ distinctBy ChildRule.key (direct ++ inherited)) :
    r ∈ direct ∨ r ∈ inherited := List.mem_append.1 (mem_distinctFrom h).1

/-- **What stands behind own rules is there still, or an own rule has its key.** -/
theorem exists_key_of_mem (direct : List ChildRule) (hr : r ∈ inherited) :
    ∃ q ∈ distinctBy ChildRule.key (direct ++ inherited), q.key = r.key := by
  have hkey : r.key ∈ (distinctBy ChildRule.key (direct ++ inherited)).map ChildRule.key :=
    mem_map_distinctFrom.2
      ⟨List.mem_map_of_mem (List.mem_append_right direct hr), List.not_mem_nil⟩
  exact List.mem_map.1 hkey

/-- **What own rules change**: the rule that governed without them governs, or one of them that does
not weigh less. -/
theorem governing?_nearest (hn : (inherited.map ChildRule.key).Nodup)
    (h : governing? inherited family subtype name = some r) :
    ∃ r', governing? (distinctBy ChildRule.key (direct ++ inherited)) family subtype name =
        some r' ∧
      (r' = r ∨ r' ∈ direct ∧ r.specificity ≤ r'.specificity) := by
  obtain ⟨hr, hacc, hother⟩ := (governing?_eq_some_iff hn).1 h
  -- under the key of the rule there still is one, which accepts the child and weighs the same
  obtain ⟨q, hq, hkey⟩ := exists_key_of_mem direct hr
  have hqacc := accepts_of_key hkey hacc
  have hweight : q.specificity = r.specificity := by
    rw [specificity_eq_weight, specificity_eq_weight, hkey]
  obtain ⟨r', hr'⟩ := exists_governing? hq hqacc
  obtain ⟨hmem, hacc', hother'⟩ := (governing?_eq_some_iff (nodup_distinctFrom _ _ _)).1 hr'
  have hle : r.specificity ≤ r'.specificity := by
    rcases hother' q hq hqacc with rfl | hlt
    · exact hweight.ge
    · omega
  refine ⟨r', hr', ?_⟩
  rcases mem_or_mem_of_nearest hmem with hdirect | hinherited
  · exact .inr ⟨hdirect, hle⟩
  · rcases hother r' hinherited hacc' with heq | hlt
    · exact .inl heq
    · omega

/-! ## The types of a registry -/

/-- **The child rules of a type go on where those of its parent leave off**, in every reachable
state. Where a rule governs a child under the parent of a resolved type, as the parent is stored
now, a rule governs it under the type: the same one, or one that the type itself declares and that
does not weigh less. -/
theorem child_rule_inherited {r : Registry} (hr : r.Reachable) {t : TypeId} {d : TypeDefinition}
    {h : Heritage} (hd : r.snapshot.type? t = some d) (hres : d.standing = .resolved h) :
    ∃ p P, d.parent = some p ∧ r.snapshot.type? p = some P ∧
      ∀ child rule, P.childRule? child = some rule →
        ∃ rule', d.childRule? child = some rule' ∧
          (rule' = rule ∨ rule' ∈ d.children ∧ rule.specificity ≤ rule'.specificity) := by
  have hmem : d ∈ r.snapshot.contents.types.entries := Catalog.mem_of_find? hd
  obtain ⟨p, P, hp, hP, -, -, hinh⟩ := hr.sound.coherent.inherits hmem hres
  have heff : d.inherited = P.effective := by rw [← hinh, TypeDefinition.inherited, hres]
  refine ⟨p, P, hp, hP, fun child rule hrule => ?_⟩
  -- the rules of the parent have keys of their own, and stand behind those of the type
  have hn : (P.effective.children.map ChildRule.key).Nodup := nodup_distinctFrom _ _ _
  have hchildren : d.effective.children =
      distinctBy ChildRule.key (d.children ++ P.effective.children) := by rw [← heff]; rfl
  rw [TypeDefinition.childRule?, hchildren]
  exact governing?_nearest hn hrule

/-- A run that registers a type with a rule, and under it a type with a rule for some of the same
children. -/
def albumRun : List Operation :=
  [.register (.id ⟨"file", "album"⟩)
      [.inherit (.id ⟨"file", "base"⟩), .acceptChildren "*" "picture"] .none,
    .register (.id ⟨"file", "base"⟩) [.acceptChildren "file"] .none,
    .resolveDeferred]

/-- What the run leaves of the type with the parent. -/
def album : TypeDefinition :=
  { id := ⟨"file", "album"⟩
    parent := some ⟨"file", "base"⟩
    children := [{ subtype := "picture" }]
    standing := .resolved { children := [{ family := "file" }], ancestors := [⟨"file", "base"⟩] } }

/-- The rule on files governs a picture without a name under the parent, so under the type it is
governed by that rule or by one of the type itself. -/
theorem child_rule_inherited_album :
    (({ name := "files" } : Registry).run albumRun).snapshot.type? ⟨"file", "album"⟩ =
        some album ∧
      ∃ P, (({ name := "files" } : Registry).run albumRun).snapshot.type? ⟨"file", "base"⟩ =
          some P ∧
        P.childRule? ⟨"file", "picture", .null⟩ = some { family := "file" } ∧
        ∃ rule, album.childRule? ⟨"file", "picture", .null⟩ = some rule ∧
          (rule = { family := "file" } ∨
            rule ∈ album.children ∧ ({ family := "file" } : ChildRule).specificity ≤
              rule.specificity) := by
  have hd : (({ name := "files" } : Registry).run albumRun).snapshot.type? ⟨"file", "album"⟩ =
      some album := by decide +kernel
  have hbase : ((({ name := "files" } : Registry).run albumRun).snapshot.type?
      ⟨"file", "base"⟩).bind (·.childRule? ⟨"file", "picture", .null⟩) =
        some { family := "file" } := by decide +kernel
  obtain ⟨p, P, hp, hP, hrules⟩ := child_rule_inherited ⟨"files", albumRun, rfl⟩ hd rfl
  obtain rfl := Option.some.inj hp
  rw [hP] at hbase
  exact ⟨hd, P, hP, hbase, hrules _ _ hbase⟩

end Taxonomy

import Taxonomy.Inheritance
import Taxonomy.Proofs.Catalog

/-!
# Where chains of parents lead

A walk sees of the stored definitions only what is declared: ids, parents and rules, not where a
type stands. So walks are stated over `TypeCatalog.declaration?`.

* `Climbs`: following parents passes a chain and then stands before an id, or at the end.
* `walk_reports`: what the ending of a walk says about its chain.
* `chain_congr`, `ending_congr`: walks agree where the declarations do.
* `ending_complete_of_climbs`, `ending_missing_of_climbs`, `ending_cycle_of_climbs`: the ending of a
  walk is decided by any climb that leads to the top, to an unknown id, or into a loop.
-/

namespace Taxonomy

namespace TypeCatalog

variable (types : TypeCatalog)

/-- **What is declared about a stored type**, its extensions included. -/
def declaration? (t : TypeId) : Option Declaration := (types.find? t).map (·.toDeclaration)

/-- **The declarations on the chain of parents**, the nearest first. -/
def chain (d : Declaration) : List Declaration :=
  (walk d types.entries).chain.map (·.toDeclaration)

/-- How the chain of parents ends. -/
def ending (d : Declaration) : ChainEnd := (walk d types.entries).ending

end TypeCatalog

variable {types types' : TypeCatalog} {d : Declaration}

theorem id_of_declaration? {t : TypeId} (h : types.declaration? t = some d) : d.id = t := by
  obtain ⟨a, ha, rfl⟩ := Option.map_eq_some_iff.1 h
  exact Catalog.find?_key (c := types) ha

theorem declaration?_of_mem {a : TypeDefinition} (h : a ∈ types.entries) :
    types.declaration? a.id = some a.toDeclaration := by
  rw [TypeCatalog.declaration?, Catalog.find?_of_mem h, Option.map_some]

theorem declaration?_eq_none_iff {t : TypeId} :
    types.declaration? t = none ↔ types.find? t = none := by
  rw [TypeCatalog.declaration?, Option.map_eq_none_iff]

/-! ## The four cases of a step -/

section Step

variable {seen : List TypeId} {rest : List TypeDefinition} {p : TypeId}

@[simp] theorem walkFrom_top : walkFrom seen rest none = ⟨[], .complete⟩ := by
  rw [walkFrom]

theorem walkFrom_back (hp : p ∈ seen) :
    walkFrom seen rest (some p) = ⟨[], .cycle (seen.dropWhile (· != p))⟩ := by
  rw [walkFrom, if_pos hp]

theorem walkFrom_unknown (hp : p ∉ seen) (hf : rest.find? (·.id == p) = none) :
    walkFrom seen rest (some p) = ⟨[], .missing p⟩ := by
  rw [walkFrom, if_neg hp]
  split
  · rfl
  · simp_all

theorem walkFrom_known {a : TypeDefinition} (hp : p ∉ seen)
    (hf : rest.find? (·.id == p) = some a) :
    walkFrom seen rest (some p) =
      ⟨a :: (walkFrom (seen ++ [p]) (rest.eraseP (·.id == p)) a.parent).chain,
        (walkFrom (seen ++ [p]) (rest.eraseP (·.id == p)) a.parent).ending⟩ := by
  rw [walkFrom, if_neg hp]
  split
  · simp_all
  · next b hb =>
    obtain rfl : b = a := Option.some.inj (hb.symm.trans hf)
    rfl

end Step

/-! ## Walks see declarations only -/

theorem find?_eraseP_of_ne {p q : TypeId} (h : q ≠ p) (xs : List TypeDefinition) :
    (xs.eraseP (·.id == p)).find? (·.id == q) = xs.find? (·.id == q) := by
  induction xs with
  | nil => rfl
  | cons x xs ih =>
    by_cases hx : x.id = p
    · have hq : (x.id == q) = false := by simpa [hx] using Ne.symm h
      rw [List.eraseP_cons_of_pos (by simpa using hx), List.find?_cons, hq]
    · rw [List.eraseP_cons_of_neg (by simpa using hx), List.find?_cons, List.find?_cons, ih]

/-- Along a walk only ids outside of the chain so far are looked up. -/
theorem walkFrom_congr {seen : List TypeId} {rest rest' : List TypeDefinition}
    {p : Option TypeId}
    (h : ∀ q ∉ seen, (rest.find? (·.id == q)).map (·.toDeclaration) =
      (rest'.find? (·.id == q)).map (·.toDeclaration)) :
    (walkFrom seen rest p).chain.map (·.toDeclaration) =
        (walkFrom seen rest' p).chain.map (·.toDeclaration) ∧
      (walkFrom seen rest p).ending = (walkFrom seen rest' p).ending := by
  induction seen, rest, p using walkFrom.induct generalizing rest' with
  | case1 seen rest => simp
  | case2 seen rest p hp => simp [walkFrom_back hp]
  | case3 seen rest p hp hf =>
    have hf' : rest'.find? (·.id == p) = none := by
      have := h p hp
      rwa [hf, Option.map_none, eq_comm, Option.map_eq_none_iff] at this
    rw [walkFrom_unknown hp hf, walkFrom_unknown hp hf']
    exact ⟨rfl, rfl⟩
  | case4 seen rest p hp a hf ih =>
    obtain ⟨b, hf', hb⟩ : ∃ b, rest'.find? (·.id == p) = some b ∧
        b.toDeclaration = a.toDeclaration := by
      have := h p hp
      rwa [hf, Option.map_some, eq_comm, Option.map_eq_some_iff] at this
    have hrest : ∀ q ∉ seen ++ [p],
        ((rest.eraseP (·.id == p)).find? (·.id == q)).map (·.toDeclaration) =
          ((rest'.eraseP (·.id == p)).find? (·.id == q)).map (·.toDeclaration) := by
      intro q hq
      rw [List.mem_append, List.mem_singleton, not_or] at hq
      rw [find?_eraseP_of_ne hq.2, find?_eraseP_of_ne hq.2, h q hq.1]
    obtain ⟨h₁, h₂⟩ := ih hrest
    rw [walkFrom_known hp hf, walkFrom_known hp hf', List.map_cons, List.map_cons, hb, h₁]
    exact ⟨rfl, h₂⟩

/-- **Walks agree where the declarations do**; what is stored under the id of the type itself is
never looked at. -/
theorem walk_congr (h : ∀ q ≠ d.id, types.declaration? q = types'.declaration? q) :
    types.chain d = types'.chain d ∧ types.ending d = types'.ending d :=
  walkFrom_congr fun q hq => h q (by simpa using hq)

theorem chain_congr (h : ∀ q ≠ d.id, types.declaration? q = types'.declaration? q) :
    types.chain d = types'.chain d :=
  (walk_congr h).1

theorem ending_congr (h : ∀ q ≠ d.id, types.declaration? q = types'.declaration? q) :
    types.ending d = types'.ending d :=
  (walk_congr h).2

/-- Every definition on a chain is a stored one. -/
theorem find?_of_mem_walkFrom {seen : List TypeId} {rest : List TypeDefinition} {p : Option TypeId}
    (h : ∀ q ∉ seen, rest.find? (·.id == q) = types.find? q) {a : TypeDefinition}
    (ha : a ∈ (walkFrom seen rest p).chain) : types.find? a.id = some a := by
  induction seen, rest, p using walkFrom.induct with
  | case1 seen rest => simp at ha
  | case2 seen rest p hp => simp [walkFrom_back hp] at ha
  | case3 seen rest p hp hf => simp [walkFrom_unknown hp hf] at ha
  | case4 seen rest p hp b hf ih =>
    rw [walkFrom_known hp hf] at ha
    rcases List.mem_cons.1 ha with rfl | ha
    · have hid : a.id = p := by simpa using List.find?_some hf
      rw [hid, ← h p hp, hf]
    · refine ih (fun q hq => ?_) ha
      rw [List.mem_append, List.mem_singleton, not_or] at hq
      rw [find?_eraseP_of_ne hq.2, h q hq.1]

theorem find?_of_mem_walk {a : TypeDefinition} (ha : a ∈ (walk d types.entries).chain) :
    types.find? a.id = some a :=
  find?_of_mem_walkFrom (fun _ _ => rfl) ha

/-! ## Climbs -/

/-- **Following parents** from `p` passes the declarations of a chain, and then stands before `q`;
`none` is the top, above a type without a parent. -/
def Climbs (types : TypeCatalog) : Option TypeId → List Declaration → Option TypeId → Prop
  | p, [], q => p = q
  | p, a :: as, q => p = some a.id ∧ types.declaration? a.id = some a ∧ Climbs types a.parent as q

/-- No climb goes on from here: this is the top, or an id that is not stored. -/
def Ends (types : TypeCatalog) (q : Option TypeId) : Prop :=
  ∀ t, q = some t → types.declaration? t = none

theorem ends_top : Ends types none := by
  intro t h; cases h

theorem ends_unknown {t : TypeId} (h : types.declaration? t = none) : Ends types (some t) := by
  rintro s ⟨⟩; exact h

/-- A climb in two parts. -/
theorem climbs_append {p q : Option TypeId} {as bs : List Declaration} :
    Climbs types p (as ++ bs) q ↔ ∃ m, Climbs types p as m ∧ Climbs types m bs q := by
  induction as generalizing p with
  | nil => simp [Climbs]
  | cons a as ih => simp only [List.cons_append, Climbs, ih, exists_and_left, and_assoc]

/-- **There is one way up**: a climb that cannot go on passes all that any other one passes. -/
theorem Climbs.split {p q r : Option TypeId} {as bs : List Declaration}
    (h : Climbs types p as q) (hq : Ends types q) (h' : Climbs types p bs r) :
    ∃ cs, as = bs ++ cs ∧ Climbs types r cs q := by
  induction bs generalizing p as with
  | nil => obtain rfl : p = r := h'; exact ⟨as, rfl, h⟩
  | cons b bs ih =>
    obtain ⟨rfl, hb, h'⟩ := h'
    cases as with
    | nil =>
      obtain rfl : some b.id = q := h
      rw [hq _ rfl] at hb; simp at hb
    | cons a as =>
      obtain ⟨hid, ha, h⟩ := h
      rw [← Option.some.inj hid, hb] at ha
      obtain rfl : b = a := Option.some.inj ha
      obtain ⟨cs, rfl, hcs⟩ := ih h h'
      exact ⟨cs, rfl, hcs⟩

/-- A climb that cannot go on from where it ends never comes back. -/
theorem Climbs.no_loop {p q : Option TypeId} {as loop : List Declaration}
    (h : Climbs types p as q) (hq : Ends types q) (hne : loop ≠ [])
    (hl : Climbs types p loop p) : False := by
  have hpos : 0 < loop.length := List.length_pos_iff.2 hne
  obtain ⟨n, hn⟩ : ∃ n, as.length = n := ⟨_, rfl⟩
  induction n using Nat.strongRecOn generalizing as with
  | ind n ih =>
    -- the climb begins with the loop, and its rest is a shorter climb from the same place
    obtain ⟨cs, rfl, hcs⟩ := h.split hq hl
    rw [List.length_append] at hn
    exact ih cs.length (by omega) hcs rfl

/-- **What the ending of a walk says** about its chain, where `seen` are the ids before it. -/
def Reports (types : TypeCatalog) (seen : List TypeId) (p : Option TypeId)
    (as : List Declaration) : ChainEnd → Prop
  | .complete => Climbs types p as none
  | .missing t => Climbs types p as (some t) ∧ types.declaration? t = none
  | .cycle members => ∃ t, Climbs types p as (some t) ∧ t ∈ seen ++ as.map (·.id) ∧
      members = (seen ++ as.map (·.id)).dropWhile (· != t)

theorem Reports.cons {seen : List TypeId} {a : Declaration} {as : List Declaration}
    {e : ChainEnd} (ha : types.declaration? a.id = some a)
    (h : Reports types (seen ++ [a.id]) a.parent as e) :
    Reports types seen (some a.id) (a :: as) e := by
  cases e with
  | complete => exact ⟨rfl, ha, h⟩
  | missing t => exact ⟨⟨rfl, ha, h.1⟩, h.2⟩
  | cycle members =>
    obtain ⟨t, hc, hm, he⟩ := h
    rw [List.append_assoc, List.singleton_append] at hm he
    exact ⟨t, ⟨rfl, ha, hc⟩, hm, he⟩

theorem walkFrom_reports {seen : List TypeId} {rest : List TypeDefinition} {p : Option TypeId}
    (h : ∀ q ∉ seen, rest.find? (·.id == q) = types.find? q) :
    Reports types seen p ((walkFrom seen rest p).chain.map (·.toDeclaration))
      (walkFrom seen rest p).ending := by
  induction seen, rest, p using walkFrom.induct with
  | case1 seen rest => simp [Reports, Climbs]
  | case2 seen rest p hp =>
    rw [walkFrom_back hp]
    exact ⟨p, rfl, by simpa using hp, by simp⟩
  | case3 seen rest p hp hf =>
    rw [walkFrom_unknown hp hf]
    refine ⟨rfl, declaration?_eq_none_iff.2 ?_⟩
    rw [← h p hp, hf]
  | case4 seen rest p hp a hf ih =>
    obtain rfl : a.id = p := by simpa using List.find?_some hf
    have ha : types.find? a.id = some a := by rw [← h a.id hp, hf]
    rw [walkFrom_known hp hf, List.map_cons]
    refine Reports.cons (declaration?_of_mem (Catalog.mem_of_find? ha)) (ih fun q hq => ?_)
    rw [List.mem_append, List.mem_singleton, not_or] at hq
    rw [find?_eraseP_of_ne hq.2, h q hq.1]

/-- **A walk reports how its chain ends.** -/
theorem walk_reports (types : TypeCatalog) (d : Declaration) :
    Reports types [d.id] d.parent (types.chain d) (types.ending d) :=
  walkFrom_reports fun _ _ => rfl

/-! ## The ending of a walk is decided by any climb -/

/-- Following parents from an id comes back to it. -/
def Loops (types : TypeCatalog) (t : TypeId) : Prop :=
  ∃ loop, loop ≠ [] ∧ Climbs types (some t) loop (some t)

/-- A type with this id and this parent is stored. -/
def Known (types : TypeCatalog) (d : Declaration) : Prop :=
  ∃ a, types.declaration? d.id = some a ∧ a.parent = d.parent

theorem known_of_declaration? {t : TypeId} (h : types.declaration? t = some d) : Known types d :=
  ⟨d, by rw [id_of_declaration? h, h], rfl⟩

theorem known_of_mem {a : TypeDefinition} (h : a ∈ types.entries) :
    Known types a.toDeclaration :=
  ⟨a.toDeclaration, declaration?_of_mem h, rfl⟩

/-- On the way to where no climb goes on there is no loop. -/
theorem Climbs.not_loops {p q : Option TypeId} {as bs : List Declaration} {t : TypeId}
    (h : Climbs types p as q) (hq : Ends types q) (h' : Climbs types p bs (some t)) :
    ¬ Loops types t := by
  rintro ⟨loop, hne, hl⟩
  obtain ⟨cs, -, hcs⟩ := h.split hq h'
  exact hcs.no_loop hq hne hl

/-- The climb from a stored type begins with the type itself. -/
theorem Known.climbs_self (hd : Known types d) :
    ∃ a, a.id = d.id ∧
      ∀ {as q}, Climbs types d.parent as q → Climbs types (some d.id) (a :: as) q := by
  obtain ⟨a, ha, hpar⟩ := hd
  have hid := id_of_declaration? ha
  refine ⟨a, hid, fun {as q} h => ⟨by rw [hid], by rwa [hid], ?_⟩⟩
  rwa [hpar]

/-- The part of a climb from the first time that it stands before an id. -/
theorem Climbs.dropWhile {p q : Option TypeId} {as : List Declaration} {t : TypeId}
    (h : Climbs types p as q) (ht : t ∈ as.map (·.id)) :
    as.dropWhile (·.id != t) ≠ [] ∧ Climbs types (some t) (as.dropWhile (·.id != t)) q := by
  induction as generalizing p with
  | nil => simp at ht
  | cons a as ih =>
    by_cases ha : a.id = t
    · rw [List.dropWhile_cons_of_neg (by simpa using ha)]
      exact ⟨by simp, by rw [← ha, ← h.1]; exact h⟩
    · rw [List.dropWhile_cons_of_pos (by simpa using ha)]
      exact ih h.2.2 ((List.mem_cons.1 ht).resolve_left (Ne.symm ha))

/-- Every type that is passed on the way round comes back to itself. -/
theorem Climbs.loops_of_mem {t : TypeId} {as : List Declaration}
    (h : Climbs types (some t) as (some t)) {a : Declaration} (ha : a ∈ as) :
    Loops types a.id := by
  obtain ⟨xs, ys, rfl⟩ := List.append_of_mem ha
  obtain ⟨m, hxs, hm, hys⟩ := climbs_append.1 h
  subst hm
  exact ⟨a :: ys ++ xs, by simp, climbs_append.2 ⟨some t, ⟨rfl, hys⟩, hxs⟩⟩

/-- **A walk that ends in a cycle** climbs to a type and round from it, past the members. -/
theorem climbs_of_cycle (hd : Known types d) {members : List TypeId}
    (h : types.ending d = .cycle members) :
    ∃ t loop, Climbs types d.parent (types.chain d) (some t) ∧ loop ≠ [] ∧
      Climbs types (some t) loop (some t) ∧ members = loop.map (·.id) := by
  have hr := walk_reports types d
  rw [h] at hr
  obtain ⟨t, hc, ht, rfl⟩ := hr
  -- the ids before the walk are that of the type itself, so that it counts as the first of the way
  obtain ⟨a, hid, ha⟩ := hd.climbs_self
  have hmap : [d.id] ++ (types.chain d).map (·.id) = (a :: types.chain d).map (·.id) := by
    rw [List.map_cons, hid, List.singleton_append]
  rw [hmap] at ht ⊢
  obtain ⟨hne, hloop⟩ := (ha hc).dropWhile ht
  exact ⟨t, _, hc, hne, hloop, by rw [List.dropWhile_map]; rfl⟩

/-- **The members of a cycle come back to themselves**, and the climb leads to one of them. -/
theorem loops_of_cycle (hd : Known types d) {members : List TypeId}
    (h : types.ending d = .cycle members) :
    (∃ t, Climbs types d.parent (types.chain d) (some t) ∧ Loops types t) ∧
      ∀ m ∈ members, Loops types m := by
  obtain ⟨t, loop, hc, hne, hloop, rfl⟩ := climbs_of_cycle hd h
  refine ⟨⟨t, hc, loop, hne, hloop⟩, fun m hm => ?_⟩
  obtain ⟨b, hb, rfl⟩ := List.mem_map.1 hm
  exact hloop.loops_of_mem hb

/-- **A climb to the top** is the walk. -/
theorem ending_complete_of_climbs (hd : Known types d) {as : List Declaration}
    (h : Climbs types d.parent as none) : types.ending d = .complete ∧ types.chain d = as := by
  have hr := walk_reports types d
  cases he : types.ending d with
  | complete =>
    rw [he] at hr
    obtain ⟨cs, rfl, hcs⟩ := h.split ends_top hr
    cases cs with
    | nil => exact ⟨rfl, by simp⟩
    | cons c cs => cases hcs.1
  | missing t =>
    rw [he] at hr
    obtain ⟨cs, -, hcs⟩ := hr.1.split (ends_unknown hr.2) h
    cases cs with
    | nil => cases hcs
    | cons c cs => cases hcs.1
  | cycle members =>
    obtain ⟨⟨t, hc, hl⟩, -⟩ := loops_of_cycle hd he
    exact absurd hl (h.not_loops ends_top hc)

/-- **A climb to an unknown id** is the walk. -/
theorem ending_missing_of_climbs (hd : Known types d) {as : List Declaration} {t : TypeId}
    (h : Climbs types d.parent as (some t)) (ht : types.declaration? t = none) :
    types.ending d = .missing t := by
  have hr := walk_reports types d
  cases he : types.ending d with
  | complete =>
    rw [he] at hr
    obtain ⟨cs, -, hcs⟩ := h.split (ends_unknown ht) hr
    cases cs with
    | nil => cases hcs
    | cons c cs => cases hcs.1
  | missing s =>
    rw [he] at hr
    obtain ⟨cs, -, hcs⟩ := h.split (ends_unknown ht) hr.1
    cases cs with
    | nil => rw [Option.some.inj hcs]
    | cons c cs =>
      obtain ⟨hs, hc, -⟩ := hcs
      rw [← Option.some.inj hs, hr.2] at hc
      cases hc
  | cycle members =>
    obtain ⟨⟨s, hc, hl⟩, -⟩ := loops_of_cycle hd he
    exact absurd hl (h.not_loops (ends_unknown ht) hc)

/-- **A climb into a loop** makes the walk end in a cycle. -/
theorem ending_cycle_of_climbs {as : List Declaration} {t : TypeId}
    (h : Climbs types d.parent as (some t)) (ht : Loops types t) :
    ∃ members, types.ending d = .cycle members := by
  have hr := walk_reports types d
  cases he : types.ending d with
  | complete =>
    rw [he] at hr
    exact absurd ht (Climbs.not_loops hr ends_top h)
  | missing s =>
    rw [he] at hr
    exact absurd ht (hr.1.not_loops (ends_unknown hr.2) h)
  | cycle members => exact ⟨members, rfl⟩

/-- A type that comes back to itself ends in a cycle. -/
theorem ending_cycle_of_loops (hd : Known types d) (h : Loops types d.id) :
    ∃ members, types.ending d = .cycle members := by
  obtain ⟨b, hb, hpar⟩ := hd
  obtain ⟨loop, hne, hl⟩ := id h
  cases loop with
  | nil => exact absurd rfl hne
  | cons a as =>
    obtain ⟨hid, ha, has⟩ := hl
    rw [← Option.some.inj hid, hb] at ha
    obtain rfl : b = a := Option.some.inj ha
    rw [hpar] at has
    exact ending_cycle_of_climbs has h

/-- **Above a type on a complete chain** the chain goes on to the top. -/
theorem complete_above (h : types.ending d = .complete) {xs ys : List Declaration}
    {a : Declaration} (hs : types.chain d = xs ++ a :: ys) :
    types.declaration? a.id = some a ∧ types.ending a = .complete ∧ types.chain a = ys := by
  have hr := walk_reports types d
  rw [h, hs] at hr
  obtain ⟨m, -, -, ha, hys⟩ := climbs_append.1 hr
  exact ⟨ha, ending_complete_of_climbs (known_of_declaration? ha) hys⟩

/-- The parent of a type on a complete chain, if there is one, is the first of the chain. -/
theorem parent_of_complete (h : types.ending d = .complete) :
    d.parent = (types.chain d).head?.map (·.id) := by
  have hr := walk_reports types d
  rw [h] at hr
  cases hc : types.chain d with
  | nil => rw [hc] at hr; exact hr
  | cons a as => rw [hc] at hr; exact hr.1

theorem ending_of_no_parent (types : TypeCatalog) (h : d.parent = none) :
    types.ending d = .complete ∧ types.chain d = [] := by
  simp [TypeCatalog.ending, TypeCatalog.chain, walk, h]

end Taxonomy

import Taxonomy.Proofs.Inheritance.Circles

/-!
# Walks, round by round

A walk looks up one parent after the other among all stored types and notes which ids it has met.
It ends within one round more than there are types, since it meets none of them twice. What is noted
decides how it ends: at a type without a parent, before an id that is neither noted nor stored, or
back at an id that is noted, and then the members of the cycle are those noted from there on.

* `Ascent`, `Ascent.round`: where a walk stands, and one round of it.
* `Ascent.Valid`, `Ascent.Valid.round`: what a round keeps of what is noted.
* `Walk.EndsAs`, `Walk.Exact`: how a walk ends, and what it reports.
* `Ascent.rounds_eq`: the rounds come to an end, at what `walk` says.
* `walk_is_exact`: every walk ends, and reports exactly what is there.
-/

namespace Taxonomy

open TypeCatalog

variable {types : TypeCatalog} {d : Declaration}

/-! ## The rounds of a walk -/

/-- **Where a walk stands**: the types it has passed, the ids it has met, and the type whose parent
comes next. -/
structure Ascent where
  chain : List TypeDefinition := []
  seen : List TypeId
  current : Declaration

namespace Ascent

/-- Where a walk begins. -/
def start (d : Declaration) : Ascent := { seen := [d.id], current := d }

/-- **One round**: the walk ends, or goes on above the parent, which is looked up among all stored
types. -/
def round (types : TypeCatalog) (s : Ascent) : Walk ⊕ Ascent :=
  match s.current.parent with
  | none => .inl ⟨s.chain, .complete⟩
  | some p =>
    if p ∈ s.seen then .inl ⟨s.chain, .cycle (s.seen.drop (s.seen.idxOf p))⟩
    else match types.find? p with
      | none => .inl ⟨s.chain, .missing p⟩
      | some a => .inr ⟨s.chain ++ [a], s.seen ++ [p], a.toDeclaration⟩

/-- What so many rounds lead to, if the walk ends in them. -/
def rounds (types : TypeCatalog) : Nat → Ascent → Option Walk
  | 0, _ => none
  | n + 1, s => match s.round types with
    | .inl w => some w
    | .inr t => rounds types n t

section Round

variable {s t : Ascent} {p : TypeId} {w : Walk} {n : Nat}

theorem round_top (h : s.current.parent = none) : s.round types = .inl ⟨s.chain, .complete⟩ := by
  rw [round, h]

theorem round_back (h : s.current.parent = some p) (hp : p ∈ s.seen) :
    s.round types = .inl ⟨s.chain, .cycle (s.seen.drop (s.seen.idxOf p))⟩ := by
  rw [round, h]
  exact if_pos hp

theorem round_unknown (h : s.current.parent = some p) (hp : p ∉ s.seen)
    (hf : types.find? p = none) : s.round types = .inl ⟨s.chain, .missing p⟩ := by
  rw [round, h]
  simp only [if_neg hp, hf]

theorem round_known (h : s.current.parent = some p) (hp : p ∉ s.seen) {a : TypeDefinition}
    (hf : types.find? p = some a) :
    s.round types = .inr ⟨s.chain ++ [a], s.seen ++ [p], a.toDeclaration⟩ := by
  rw [round, h]
  simp only [if_neg hp, hf]

theorem rounds_of_end (h : s.round types = .inl w) : rounds types (n + 1) s = some w := by
  rw [rounds, h]

theorem rounds_of_step (h : s.round types = .inr t) :
    rounds types (n + 1) s = rounds types n t := by
  rw [rounds, h]

end Round

/-- What is cut out of ids by the place of one of them. -/
theorem drop_idxOf_eq_dropWhile (seen : List TypeId) (p : TypeId) :
    seen.drop (seen.idxOf p) = seen.dropWhile (· != p) := by
  simp only [List.dropWhile_eq_drop_findIdx_not, List.idxOf, bne, Bool.not_not]

/-- **The rounds come to an end, at what `walk` says.** The types that were not passed yet become
fewer from round to round; those that were are not looked up again. -/
theorem rounds_eq {s : Ascent} {seen : List TypeId} {rest : List TypeDefinition}
    {p : Option TypeId} (hseen : s.seen = seen) (hp : s.current.parent = p)
    (hrest : ∀ q ∉ seen, rest.find? (·.id == q) = types.find? q) {n : Nat} (hn : rest.length < n) :
    rounds types n s =
      some ⟨s.chain ++ (walkFrom seen rest p).chain, (walkFrom seen rest p).ending⟩ := by
  induction seen, rest, p using walkFrom.induct generalizing s n with
  | case1 seen rest =>
    obtain ⟨n, rfl⟩ := Nat.exists_eq_add_of_lt hn
    rw [rounds_of_end (round_top hp), walkFrom_top, List.append_nil]
  | case2 seen rest p hback =>
    obtain ⟨n, rfl⟩ := Nat.exists_eq_add_of_lt hn
    rw [rounds_of_end (round_back hp (hseen ▸ hback)), walkFrom_back hback, List.append_nil,
      drop_idxOf_eq_dropWhile, hseen]
  | case3 seen rest p hnew hf =>
    obtain ⟨n, rfl⟩ := Nat.exists_eq_add_of_lt hn
    have hunknown : types.find? p = none := (hrest p hnew).symm.trans hf
    rw [rounds_of_end (round_unknown hp (hseen ▸ hnew) hunknown), walkFrom_unknown hnew hf,
      List.append_nil]
  | case4 seen rest p hnew a hf ih =>
    obtain ⟨n, rfl⟩ := Nat.exists_eq_add_of_lt hn
    have hknown : types.find? p = some a := (hrest p hnew).symm.trans hf
    have hid : a.id = p := Catalog.find?_key (c := types) hknown
    have hfewer : (rest.eraseP (·.id == p)).length < rest.length + n := by
      have hm : a ∈ rest := List.mem_of_find?_eq_some hf
      have hpos := List.length_pos_of_mem hm
      rw [List.length_eraseP_of_mem hm (by simpa using hid)]
      omega
    have hrest' : ∀ q ∉ seen ++ [p],
        (rest.eraseP (·.id == p)).find? (·.id == q) = types.find? q := by
      intro q hq
      rw [List.mem_append, List.mem_singleton, not_or] at hq
      rw [find?_eraseP_of_ne hq.2, hrest q hq.1]
    rw [rounds_of_step (round_known hp (hseen ▸ hnew) hknown),
      ih (by rw [hseen]) rfl hrest' hfewer, walkFrom_known hnew hf, List.append_assoc,
      List.singleton_append]

/-- **A walk ends within one round more than there are types.** -/
theorem rounds_start (types : TypeCatalog) (d : Declaration) {n : Nat}
    (hn : types.entries.length < n) :
    rounds types n (start d) = some (walk d types.entries) :=
  rounds_eq rfl rfl (fun _ _ => rfl) hn

end Ascent

/-! ## What a walk reports -/

/-- **The way of a walk**: the type that it begins with and those that it has passed. -/
def wayOf (d : Declaration) (chain : List TypeDefinition) : List Declaration :=
  d :: chain.map (·.toDeclaration)

/-- The last type on the way of a walk. -/
def topOf (d : Declaration) (chain : List TypeDefinition) : Declaration :=
  (wayOf d chain).getLast (List.cons_ne_nil _ _)

/-- **The parent of a type as a walk from `d` finds it**: what `d` says of itself comes before what
is stored under its id. -/
def TypeCatalog.parentFrom (types : TypeCatalog) (d : Declaration) (t : TypeId) : Option TypeId :=
  if t = d.id then d.parent else (types.find? t).bind (·.parent)

/-- **A chain of parents**: stored types, each the parent of the one before it, the first one the
parent of `d`; and no id is met twice. -/
structure ParentChain (types : TypeCatalog) (d : Declaration) (chain : List TypeDefinition) :
    Prop where
  stored : ∀ a ∈ chain, types.find? a.id = some a
  linked : (wayOf d chain).IsChain fun a b => a.parent = some b.id
  nodup : ((wayOf d chain).map (·.id)).Nodup

namespace Walk

/-- **How a walk ends**: at a type without a parent, before an id that it has not met and that is
not stored, or at a type whose parent is the first of the last ids that it has met. -/
def EndsAs (types : TypeCatalog) (d : Declaration) (chain : List TypeDefinition) : ChainEnd → Prop
  | .complete => (topOf d chain).parent = none
  | .missing p =>
    (topOf d chain).parent = some p ∧ p ∉ (wayOf d chain).map (·.id) ∧ types.find? p = none
  | .cycle members => members ≠ [] ∧ members <:+ (wayOf d chain).map (·.id) ∧
    (topOf d chain).parent = members.head?

/-- The ending that the parent of the last type decides. -/
def endingOf (d : Declaration) (chain : List TypeDefinition) : ChainEnd :=
  match (topOf d chain).parent with
  | none => .complete
  | some p =>
    if p ∈ (wayOf d chain).map (·.id) then
      .cycle (((wayOf d chain).map (·.id)).drop (((wayOf d chain).map (·.id)).idxOf p))
    else .missing p

/-- **A walk reports exactly what is there**: a chain of parents, and of all endings the one that
holds. The members of a cycle differ, each leads to the next one and the last one to the first. -/
structure Exact (types : TypeCatalog) (d : Declaration) (w : Walk) : Prop
    extends ParentChain types d w.chain where
  ending : ∀ e, EndsAs types d w.chain e ↔ e = w.ending
  circle : ∀ members, w.ending = .cycle members →
    Circle (fun t p => types.parentFrom d t = some p) members

end Walk

theorem wayOf_concat (d : Declaration) (chain : List TypeDefinition) (a : TypeDefinition) :
    wayOf d (chain ++ [a]) = wayOf d chain ++ [a.toDeclaration] := by
  simp [wayOf]

theorem topOf_concat (d : Declaration) (chain : List TypeDefinition) (a : TypeDefinition) :
    topOf d (chain ++ [a]) = a.toDeclaration := by
  simp [topOf, wayOf]

theorem getLast?_wayOf (d : Declaration) (chain : List TypeDefinition) :
    (wayOf d chain).getLast? = some (topOf d chain) :=
  List.getLast?_eq_some_getLast _

theorem topOf_mem (d : Declaration) (chain : List TypeDefinition) :
    topOf d chain ∈ wayOf d chain :=
  List.getLast_mem _

/-- The ids from the place of one of them on, where it was not met before. -/
theorem drop_idxOf_append {before after : List TypeId} {p : TypeId} (h : p ∉ before) :
    (before ++ p :: after).drop ((before ++ p :: after).idxOf p) = p :: after := by
  rw [List.idxOf_append_of_notMem h, List.idxOf_cons_self, Nat.add_zero, List.drop_left]

namespace ParentChain

variable {chain : List TypeDefinition} {p : TypeId} {members : List TypeId} {e e' : ChainEnd}

theorem start (types : TypeCatalog) (d : Declaration) : ParentChain types d [] :=
  ⟨by simp, .singleton d, by simp [wayOf]⟩

variable (h : ParentChain types d chain)

include h

/-- **A chain goes on** with the stored parent of its last type, if that was not met before. -/
theorem concat (hp : (topOf d chain).parent = some p) (hnew : p ∉ (wayOf d chain).map (·.id))
    {a : TypeDefinition} (hf : types.find? p = some a) : ParentChain types d (chain ++ [a]) := by
  have hid : a.id = p := Catalog.find?_key (c := types) hf
  refine ⟨fun b hb => ?_, ?_, ?_⟩
  · rcases List.mem_append.1 hb with hb | hb
    · exact h.stored b hb
    · rw [List.mem_singleton.1 hb, hid, hf]
  · rw [wayOf_concat]
    refine h.linked.append (.singleton _) fun x hx y hy => ?_
    rw [getLast?_wayOf] at hx
    obtain rfl := Option.some.inj hx
    obtain rfl := Option.some.inj hy
    rw [hp, hid]
  · rw [wayOf_concat, List.map_append, List.nodup_append]
    refine ⟨h.nodup, by simp, fun x hx y hy hxy => hnew ?_⟩
    rw [List.map_singleton, List.mem_singleton] at hy
    rwa [← hid, ← hy, ← hxy]

/-- What is on the way says itself what its parent is. -/
theorem parentFrom_of_mem {a : Declaration} (ha : a ∈ wayOf d chain) :
    types.parentFrom d a.id = a.parent := by
  rcases List.mem_cons.1 ha with rfl | hm
  · rw [TypeCatalog.parentFrom, if_pos rfl]
  · obtain ⟨b, hb, rfl⟩ := List.mem_map.1 hm
    have hne : b.id ≠ d.id := by
      intro he
      have hmem : b.id ∈ (chain.map (·.toDeclaration)).map (·.id) := List.mem_map_of_mem hm
      have hfirst : d.id ∉ (chain.map (·.toDeclaration)).map (·.id) :=
        (List.nodup_cons.1 h.nodup).1
      exact hfirst (he ▸ hmem)
    rw [TypeCatalog.parentFrom, if_neg hne, h.stored b hb]
    rfl

/-- **The last ids on the way are a circle** if the last type leads to the first of them. -/
theorem circle (he : Walk.EndsAs types d chain (.cycle members)) :
    Circle (fun t p => types.parentFrom d t = some p) members := by
  obtain ⟨hne, hsuffix, hclose⟩ := he
  have hlinked : ((wayOf d chain).map (·.id)).IsChain fun t p => types.parentFrom d t = some p := by
    rw [List.isChain_map]
    refine h.linked.imp_of_mem_imp fun a b ha _ hab => ?_
    rw [h.parentFrom_of_mem ha, hab]
  refine ⟨hne, h.nodup.sublist hsuffix.sublist, hlinked.suffix hsuffix, fun t ht p hp => ?_⟩
  -- the last of the members is the last id on the way
  have hlast : members.getLast? = some (topOf d chain).id := by
    obtain ⟨before, hbefore⟩ := hsuffix
    rw [← List.getLast?_append_of_ne_nil before hne, hbefore, List.getLast?_map, getLast?_wayOf]
    rfl
  rw [hlast] at ht
  obtain rfl := Option.some.inj ht
  rw [h.parentFrom_of_mem (topOf_mem d chain), hclose]
  exact hp

/-- **The ending is decided by the parent of the last type.** -/
theorem eq_endingOf (he : Walk.EndsAs types d chain e) : e = Walk.endingOf d chain := by
  unfold Walk.endingOf
  cases e with
  | complete =>
    have htop : (topOf d chain).parent = none := he
    rw [htop]
  | missing p =>
    obtain ⟨hp, hnew, -⟩ := he
    rw [hp]
    exact (if_neg hnew).symm
  | cycle members =>
    obtain ⟨hne, ⟨before, hbefore⟩, hclose⟩ := he
    obtain ⟨p, after, rfl⟩ := List.exists_cons_of_ne_nil hne
    have hnew : p ∉ before := by
      have hnodup := h.nodup
      rw [← hbefore, List.nodup_append] at hnodup
      exact fun hp => hnodup.2.2 p hp p List.mem_cons_self rfl
    have hmem : p ∈ (wayOf d chain).map (·.id) := by
      rw [← hbefore]
      exact List.mem_append_right _ List.mem_cons_self
    rw [hclose, List.head?_cons]
    simp only [if_pos hmem]
    rw [← hbefore, drop_idxOf_append hnew]

/-- **A walk that has come to an end is exact**: what it has noted is a chain of parents, and its
ending holds. -/
theorem exact {ending : ChainEnd} (he : Walk.EndsAs types d chain ending) :
    Walk.Exact types d ⟨chain, ending⟩ where
  toParentChain := h
  ending e := by
    constructor
    · intro he'
      exact (h.eq_endingOf he').trans (h.eq_endingOf he).symm
    · rintro rfl
      exact he
  circle members hcycle := by
    obtain rfl : ending = .cycle members := hcycle
    exact h.circle he

end ParentChain

/-! ## What the rounds keep -/

namespace Ascent

/-- **What holds before each round**: the types passed are a chain of parents, the ids are those on
the way, and it is the last type whose parent comes next. -/
structure Valid (types : TypeCatalog) (d : Declaration) (s : Ascent) : Prop where
  chain : ParentChain types d s.chain
  seen : s.seen = (wayOf d s.chain).map (·.id)
  current : s.current = topOf d s.chain

theorem valid_start (types : TypeCatalog) (d : Declaration) : (start d).Valid types d :=
  ⟨.start types d, rfl, rfl⟩

variable {s t : Ascent} {w : Walk}

/-- **A round that goes on** keeps what is noted. -/
theorem Valid.round (h : s.Valid types d) (hround : s.round types = .inr t) : t.Valid types d := by
  cases hp : s.current.parent with
  | none =>
    rw [round_top hp] at hround
    cases hround
  | some p =>
    by_cases hseen : p ∈ s.seen
    · rw [round_back hp hseen] at hround
      cases hround
    cases hf : types.find? p with
    | none =>
      rw [round_unknown hp hseen hf] at hround
      cases hround
    | some a =>
      rw [round_known hp hseen hf] at hround
      obtain rfl := Sum.inr.inj hround
      have hid : a.id = p := Catalog.find?_key (c := types) hf
      rw [h.current] at hp
      rw [h.seen] at hseen
      refine ⟨h.chain.concat hp hseen hf, ?_, (topOf_concat d s.chain a).symm⟩
      rw [h.seen, wayOf_concat, List.map_append, List.map_singleton, hid]

/-- **A round that ends the walk** reports what is there. -/
theorem Valid.exact (h : s.Valid types d) (hround : s.round types = .inl w) :
    w.Exact types d := by
  cases hp : s.current.parent with
  | none =>
    rw [round_top hp] at hround
    obtain rfl := Sum.inl.inj hround
    rw [h.current] at hp
    exact h.chain.exact hp
  | some p =>
    by_cases hseen : p ∈ s.seen
    · rw [round_back hp hseen] at hround
      obtain rfl := Sum.inl.inj hround
      rw [h.current] at hp
      rw [h.seen] at hseen ⊢
      obtain ⟨before, after, hsplit, hnew⟩ := List.eq_append_cons_of_mem hseen
      rw [hsplit, drop_idxOf_append hnew]
      exact h.chain.exact ⟨by simp, ⟨before, hsplit.symm⟩, hp⟩
    cases hf : types.find? p with
    | none =>
      rw [round_unknown hp hseen hf] at hround
      obtain rfl := Sum.inl.inj hround
      rw [h.current] at hp
      rw [h.seen] at hseen
      exact h.chain.exact ⟨hp, hseen, hf⟩
    | some a =>
      rw [round_known hp hseen hf] at hround
      cases hround

/-- **Rounds that end report what is there**, by induction on their number. -/
theorem Valid.rounds (h : s.Valid types d) {n : Nat} (hrounds : rounds types n s = some w) :
    w.Exact types d := by
  induction n generalizing s with
  | zero => cases hrounds
  | succ n ih =>
    cases hround : s.round types with
    | inl v =>
      rw [rounds_of_end hround] at hrounds
      obtain rfl := Option.some.inj hrounds
      exact h.exact hround
    | inr t =>
      rw [rounds_of_step hround] at hrounds
      exact ih (h.round hround) hrounds

end Ascent

/-- **Every walk ends, and reports exactly what is there.** Whatever parents the stored types have,
and whether or not the type itself is stored, the rounds of a walk come to an end as soon as there
are more of them than types. The walk then reports a chain of parents and the one ending that holds:
a type without a parent, an id that is not stored, or a cycle. -/
theorem walk_is_exact (types : TypeCatalog) (d : Declaration) :
    (∀ n, types.entries.length < n →
      Ascent.rounds types n (.start d) = some (walk d types.entries)) ∧
    (walk d types.entries).Exact types d := by
  have hends : ∀ n, types.entries.length < n →
      Ascent.rounds types n (.start d) = some (walk d types.entries) :=
    fun n hn => Ascent.rounds_start types d hn
  exact ⟨hends, (Ascent.valid_start types d).rounds (hends _ (Nat.lt_succ_self _))⟩

/-- A type below one that is not stored. -/
def belowUnstored : TypeDefinition :=
  { id := ⟨"loop", "left"⟩, parent := some ⟨"loop", "right"⟩, standing := .deferred }

/-- The walk from a type that is not stored may come back to it. -/
example :
    Ascent.rounds (Catalog.empty.insert belowUnstored) 2
        (.start { id := ⟨"loop", "right"⟩, parent := some ⟨"loop", "left"⟩ }) =
      some ⟨[belowUnstored], .cycle [⟨"loop", "right"⟩, ⟨"loop", "left"⟩]⟩ := by
  decide +kernel

end Taxonomy

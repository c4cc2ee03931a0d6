import Taxonomy.Proofs.Inheritance.Coherence

/-!
# What settling leads to

Settling passes over its candidates until a pass resolves none. What it leads to does not depend on
the order: a candidate is resolved exactly if its chain is complete and every type on the chain is
resolved already or a candidate too.

* `foldl_restandAt`: types that are looked up anew, one after the other.
* `settlePass_spec`, `settlePasses_spec`: what one pass and all passes preserve.
* `mem_of_ready`: after the last pass no candidate is left that could be resolved.
* `settle_types`, `mem_settle_resolved`, `mem_settle_cyclic`: the outcome of settling.
-/

namespace Taxonomy

open TypeCatalog

variable {types : TypeCatalog} {ok ok' : TypeId → Bool} {d : Declaration}

/-! ## Looking types up anew -/

/-- A standing that is looked up depends on who is resolved, not on where exactly they stand. -/
theorem standing_restand {f : TypeDefinition → Standing}
    (h : ∀ a ∈ types.entries, (f a).isResolved = a.isResolved) (d : Declaration) :
    standing d (types.restand f).entries = standing d types.entries := by
  rw [standing_eq, standing_eq, standingWhere_restand]
  refine standingWhere_congr fun b _ => ?_
  rw [isResolvedAt_restand, isResolvedAt]
  cases hb : types.find? b.id with
  | none => rfl
  | some a => exact h a (Catalog.mem_of_find? hb)

/-- The definitions with the standing of one type looked up anew in some way. -/
def restandAt (g : TypeCatalog → Declaration → Standing) (types : TypeCatalog) (t : TypeId) :
    TypeCatalog :=
  match types.find? t with
  | some a => types.insert { a with standing := g types a.toDeclaration }
  | none => types

theorem restandAt_restand (g : TypeCatalog → Declaration → Standing)
    (f : TypeDefinition → Standing) (hg : ∀ d, g (types.restand f) d = g types d) (t : TypeId) :
    restandAt g (types.restand f) t =
      types.restand fun a => if a.id = t then g types a.toDeclaration else f a := by
  cases ht : types.find? t with
  | none =>
    rw [restandAt, find?_restand, ht, Option.map_none]
    refine restand_congr fun a ha => (if_neg fun e : a.id = t => ?_).symm
    rw [← e, Catalog.find?_of_mem ha] at ht
    cases ht
  | some a =>
    obtain ⟨ha, rfl⟩ := Catalog.find?_eq_some_iff.1 ht
    have ha' : { a with standing := f a } ∈ (types.restand f).entries :=
      mem_restand.2 ⟨a, ha, rfl⟩
    rw [restandAt, find?_restand, ht, Option.map_some]
    simp only [hg]
    rw [insert_eq_restand (s := g types a.toDeclaration) ha', restand_restand]
    refine restand_congr fun b hb => ?_
    by_cases h : b.id = a.id
    · obtain rfl := eq_of_mem hb ha h
      rfl
    · exact (if_neg h).trans (if_neg h).symm

/-- **Looking types up anew, one after the other**, amounts to looking them up at once, provided
that each of them stays resolved or unresolved. -/
theorem foldl_restandAt {g : TypeCatalog → Declaration → Standing}
    (hg : ∀ f : TypeDefinition → Standing,
      (∀ a ∈ types.entries, (f a).isResolved = a.isResolved) →
        ∀ d, g (types.restand f) d = g types d)
    {ts : List TypeId}
    (hts : ∀ a ∈ types.entries, a.id ∈ ts → (g types a.toDeclaration).isResolved = a.isResolved)
    {f : TypeDefinition → Standing} (hf : ∀ a ∈ types.entries, (f a).isResolved = a.isResolved) :
    ts.foldl (restandAt g) (types.restand f) =
      types.restand fun a => if a.id ∈ ts then g types a.toDeclaration else f a := by
  induction ts generalizing f with
  | nil => exact restand_congr fun a _ => (if_neg (List.not_mem_nil)).symm
  | cons t ts ih =>
    rw [List.foldl_cons, restandAt_restand g f (hg f hf)]
    have hf' : ∀ a ∈ types.entries,
        (if a.id = t then g types a.toDeclaration else f a).isResolved = a.isResolved := by
      intro a ha
      split
      · next h => exact hts a ha (h ▸ List.mem_cons_self)
      · exact hf a ha
    rw [ih (fun a ha h => hts a ha (List.mem_cons_of_mem _ h)) hf']
    refine restand_congr fun a _ => ?_
    by_cases h : a.id ∈ ts
    · rw [if_pos h, if_pos (List.mem_cons_of_mem _ h)]
    · simp only [h, if_false, List.mem_cons, or_false]

/-- Types that are looked up anew and stay unresolved, or resolved. -/
theorem markRemaining_restand {ts : List TypeId}
    (hts : ∀ a ∈ types.entries, a.id ∈ ts →
      (standing a.toDeclaration types.entries).isResolved = a.isResolved) :
    markRemaining types ts =
      types.restand fun a =>
        if a.id ∈ ts then standing a.toDeclaration types.entries else a.standing := by
  have h := foldl_restandAt (g := fun T d => standing d T.entries) (f := (·.standing))
    (fun f hf d => standing_restand hf d) hts fun _ _ => rfl
  rw [restand_self] at h
  exact h

/-! ## Passes over the candidates -/

/-- **The standing of a type once candidates are settled**: as resolved count those that are, and
the candidates. -/
def standingAfter (types : TypeCatalog) (candidates : List TypeId) (d : Declaration) : Standing :=
  standingWhere (fun t => types.isResolvedAt t || candidates.contains t) types d

/-- The definitions when some of the candidates have been resolved. -/
def resolvedSoFar (types : TypeCatalog) (done : List TypeId) : TypeCatalog :=
  types.restand fun a =>
    if a.id ∈ done then settledStanding types a.toDeclaration else a.standing

/-- **A candidate can be resolved** once all others that can are. -/
def Ready (types : TypeCatalog) (candidates : List TypeId) (t : TypeId) : Prop :=
  ∃ a ∈ types.entries, a.id = t ∧
    (standingAfter types candidates a.toDeclaration).isResolved = true

variable {K done ts : List TypeId}

theorem resolvedSoFar_nil : resolvedSoFar types [] = types :=
  (restand_congr fun _ _ => if_neg List.not_mem_nil).trans restand_self

theorem mem_resolvedSoFar {a : TypeDefinition} :
    a ∈ (resolvedSoFar types done).entries ↔ ∃ b ∈ types.entries,
      { b with standing := if b.id ∈ done then settledStanding types b.toDeclaration
        else b.standing } = a :=
  mem_restand

/-- Who is resolved during the passes was resolved before them, or is done. -/
theorem isResolvedAt_resolvedSoFar {t : TypeId}
    (h : (resolvedSoFar types done).isResolvedAt t = true) :
    types.isResolvedAt t = true ∨ t ∈ done := by
  rw [resolvedSoFar, isResolvedAt_restand] at h
  by_cases ht : t ∈ done
  · exact .inr ht
  · refine .inl ?_
    rw [isResolvedAt]
    cases hf : types.find? t with
    | none => rw [hf] at h; cases h
    | some a =>
      have hid : a.id = t := Catalog.find?_key (c := types) hf
      rw [hf, Option.any_some, hid, if_neg ht] at h
      exact h

theorem resolve_resolvedSoFar {a : TypeDefinition}
    (h : (standing a.toDeclaration (resolvedSoFar types done).entries).isResolved = true) :
    standing a.toDeclaration (resolvedSoFar types done).entries =
      settledStanding types a.toDeclaration := by
  rw [standing_eq] at h ⊢
  rw [standingWhere_eq_settled h, resolvedSoFar, settledStanding_restand]

/-- A type that is resolved during the passes could be resolved from the beginning. -/
theorem ready_of_resolved (hK : done ⊆ K) {a : TypeDefinition} (ha : a ∈ types.entries)
    (h : (standing a.toDeclaration (resolvedSoFar types done).entries).isResolved = true) :
    Ready types K a.id := by
  rw [standing_eq, isResolved_standingWhere_iff, resolvedSoFar, ending_restand, chain_restand] at h
  refine ⟨a, ha, rfl, isResolved_standingWhere_iff.2 ⟨h.1, fun b hb => ?_⟩⟩
  rcases isResolvedAt_resolvedSoFar (h.2 b hb) with hr | hd
  · rw [hr, Bool.true_or]
  · rw [List.contains_iff_mem.2 (hK hd), Bool.or_true]

theorem insert_resolvedSoFar {a : TypeDefinition} (ha : a ∈ types.entries) :
    (resolvedSoFar types done).insert
        { a with standing := settledStanding types a.toDeclaration } =
      resolvedSoFar types (done ++ [a.id]) := by
  have ha' : { a with standing := if a.id ∈ done then settledStanding types a.toDeclaration
      else a.standing } ∈ (resolvedSoFar types done).entries :=
    mem_resolvedSoFar.2 ⟨a, ha, rfl⟩
  rw [insert_eq_restand (s := settledStanding types a.toDeclaration) ha', resolvedSoFar,
    restand_restand]
  refine restand_congr fun b hb => ?_
  by_cases h : b.id = a.id
  · obtain rfl := eq_of_mem hb ha h
    simp
  · simp [h]

/-- One step of a pass. -/
theorem settlePass_cons {a : TypeDefinition} (ha : a ∈ types.entries) :
    settlePass (resolvedSoFar types done) (a.id :: ts) =
      if (standing a.toDeclaration (resolvedSoFar types done).entries).isResolved then
        { settlePass (resolvedSoFar types (done ++ [a.id])) ts with
          resolved := a.id :: (settlePass (resolvedSoFar types (done ++ [a.id])) ts).resolved }
      else
        { settlePass (resolvedSoFar types done) ts with
          remaining := a.id :: (settlePass (resolvedSoFar types done) ts).remaining } := by
  have hf : ((resolvedSoFar types done).find? a.id).map (resolve · (resolvedSoFar types done)) =
      some { a with
        standing := standing a.toDeclaration (resolvedSoFar types done).entries } := by
    rw [resolvedSoFar, find?_restand, Catalog.find?_of_mem ha]
    rfl
  rw [settlePass, hf]
  by_cases h : (standing a.toDeclaration (resolvedSoFar types done).entries).isResolved = true
  · simp only [TypeDefinition.isResolved, h, if_true]
    rw [resolve_resolvedSoFar h, insert_resolvedSoFar ha]
  · simp only [TypeDefinition.isResolved, h, if_false, Bool.false_eq_true]

/-- **What a pass preserves**: the types that it resolved stand as their parents decide, the others
as before, and no candidate is lost. -/
structure Passes (types : TypeCatalog) (K done ts : List TypeId) (p : Passed) : Prop where
  types_eq : p.types = resolvedSoFar types (done ++ p.resolved)
  perm : (p.resolved ++ p.remaining).Perm ts
  ready : ∀ t ∈ p.resolved, Ready types K t

theorem settlePass_spec (hts : ∀ t ∈ ts, ∃ a ∈ types.entries, a.id = t) (hd : done ⊆ K)
    (hk : ts ⊆ K) : Passes types K done ts (settlePass (resolvedSoFar types done) ts) := by
  induction ts generalizing done with
  | nil => exact ⟨by simp [settlePass], by simp [settlePass], by simp [settlePass]⟩
  | cons t ts ih =>
    obtain ⟨a, ha, rfl⟩ := hts t List.mem_cons_self
    have hts' : ∀ t ∈ ts, ∃ a ∈ types.entries, a.id = t :=
      fun t ht => hts t (List.mem_cons_of_mem _ ht)
    obtain ⟨hak, hk⟩ := List.cons_subset.1 hk
    rw [settlePass_cons ha]
    split
    · next h =>
      have hd' : done ++ [a.id] ⊆ K := List.append_subset.2 ⟨hd, by simpa using hak⟩
      obtain ⟨h₁, h₂, h₃⟩ := ih hts' hd' hk
      refine ⟨?_, h₂.cons a.id, List.forall_mem_cons.2 ⟨ready_of_resolved hd ha h, h₃⟩⟩
      rw [h₁, List.append_assoc, List.singleton_append]
    · obtain ⟨h₁, h₂, h₃⟩ := ih hts' hd hk
      exact ⟨h₁, List.perm_middle.trans (h₂.cons a.id), h₃⟩

/-- A pass that resolves none leaves none that could be resolved as things stand. -/
theorem unresolved_of_settlePass (hts : ∀ t ∈ ts, ∃ a ∈ types.entries, a.id = t)
    (h : (settlePass (resolvedSoFar types done) ts).resolved = []) {a : TypeDefinition}
    (ha : a ∈ types.entries) (hm : a.id ∈ ts) :
    (standing a.toDeclaration (resolvedSoFar types done).entries).isResolved = false := by
  induction ts with
  | nil => simp at hm
  | cons t ts ih =>
    obtain ⟨b, hb, rfl⟩ := hts t List.mem_cons_self
    rw [settlePass_cons hb] at h
    split at h
    · cases h
    · next hu =>
      rcases List.mem_cons.1 hm with he | hm
      · obtain rfl := eq_of_mem ha hb he
        simpa using hu
      · exact ih (fun t ht => hts t (List.mem_cons_of_mem _ ht)) h hm

theorem settlePasses_spec (hts : ∀ t ∈ ts, ∃ a ∈ types.entries, a.id = t) (hd : done ⊆ K)
    (hk : ts ⊆ K) :
    Passes types K done ts (settlePasses (resolvedSoFar types done) ts) ∧
      ∀ a ∈ types.entries,
        a.id ∈ (settlePasses (resolvedSoFar types done) ts).remaining →
          (standing a.toDeclaration
            (settlePasses (resolvedSoFar types done) ts).types.entries).isResolved = false := by
  obtain ⟨T, hT⟩ : ∃ T, resolvedSoFar types done = T := ⟨_, rfl⟩
  rw [hT]
  induction T, ts using settlePasses.induct generalizing done with
  | case1 T ts h =>
    have hp := settlePass_spec hts hd hk
    subst hT
    rw [settlePasses, dif_pos h]
    refine ⟨hp, fun a ha hm => ?_⟩
    rw [hp.types_eq, h, List.append_nil]
    exact unresolved_of_settlePass hts h ha (hp.perm.subset (List.mem_append_right _ hm))
  | case2 T ts h p =>
    rename_i ih
    -- what the pass resolved is done, and what remains are the candidates of the next passes
    have hp := settlePass_spec hts hd hk
    subst hT
    rw [settlePasses, dif_neg h]
    have hsub : p.resolved ⊆ ts ∧ p.remaining ⊆ ts :=
      List.append_subset.1 hp.perm.subset
    have hd' : done ++ p.resolved ⊆ K := List.append_subset.2 ⟨hd, List.Subset.trans hsub.1 hk⟩
    obtain ⟨⟨h₁, h₂, h₃⟩, h₄⟩ :=
      ih (fun t ht => hts t (hsub.2 ht)) hd' (List.Subset.trans hsub.2 hk) hp.types_eq.symm
    refine ⟨⟨?_, ?_, ?_⟩, h₄⟩
    · rw [List.append_assoc] at h₁; exact h₁
    · simp only [List.append_assoc]
      exact (h₂.append_left p.resolved).trans hp.perm
    · intro t ht
      rcases List.mem_append.1 ht with ht | ht
      · exact hp.ready t ht
      · exact h₃ t ht

/-! ## The outcome -/

/-- The candidates are stored. -/
def Stored (types : TypeCatalog) (K : List TypeId) : Prop := ∀ t ∈ K, ∃ a ∈ types.entries, a.id = t

theorem settlePasses_all (hs : Stored types K) :
    Passes types K [] K (settlePasses types K) ∧
      ∀ a ∈ types.entries, a.id ∈ (settlePasses types K).remaining →
        (standing a.toDeclaration (settlePasses types K).types.entries).isResolved = false := by
  have h : Passes types K [] K (settlePasses (resolvedSoFar types []) K) ∧ _ :=
    settlePasses_spec hs (List.nil_subset K) (List.Subset.refl K)
  rwa [resolvedSoFar_nil] at h

/-- **No candidate is left that could be resolved.** By induction on the length of the chain: the
types above such a candidate were resolved from the beginning, or are candidates of the same kind
with shorter chains. -/
theorem mem_of_ready (hs : Stored types K) {a : TypeDefinition} (ha : a ∈ types.entries)
    (hk : a.id ∈ K) (h : (standingAfter types K a.toDeclaration).isResolved = true) :
    a.id ∈ (settlePasses types K).resolved ∧
      (standing a.toDeclaration (settlePasses types K).types.entries).isResolved = true := by
  obtain ⟨hp, hrem⟩ := settlePasses_all hs
  obtain ⟨n, hn⟩ : ∃ n, (types.chain a.toDeclaration).length = n := ⟨_, rfl⟩
  induction n using Nat.strongRecOn generalizing a with
  | ind n ih =>
    obtain ⟨he, hok⟩ := isResolved_standingWhere_iff.1 h
    -- who is above was resolved before, or is a candidate with a shorter chain
    have habove : ∀ b ∈ types.chain a.toDeclaration,
        (settlePasses types K).types.isResolvedAt b.id = true := by
      intro b hb
      obtain ⟨c, hc, rfl, hce, hsub⟩ := exists_above he hb
      rw [hp.types_eq, List.nil_append, resolvedSoFar, isResolvedAt_restand,
        Catalog.find?_of_mem hc, Option.any_some]
      by_cases hd : c.id ∈ (settlePasses types K).resolved
      · rw [if_pos hd]
        exact isResolved_settledStanding_iff.2 hce
      · rw [if_neg hd]
        have hb' := hok c.toDeclaration hb
        rw [isResolvedAt_of_mem hc, Bool.or_eq_true, List.contains_iff_mem] at hb'
        refine hb'.resolve_right fun hck => hd ?_
        have hlt : (types.chain c.toDeclaration).length < n := by
          obtain ⟨xs, ys, hsplit⟩ := List.append_of_mem hb
          rw [← hn, hsplit, (complete_above he hsplit).2.2, List.length_append, List.length_cons]
          omega
        exact (ih _ hlt hc hck
          (isResolved_standingWhere_iff.2 ⟨hce, fun x hx => hok x (hsub hx)⟩) rfl).1
    have hst : (standing a.toDeclaration (settlePasses types K).types.entries).isResolved =
        true := by
      rw [standing_eq, isResolved_standingWhere_iff]
      refine ⟨?_, fun b hb => habove b ?_⟩
      · rw [hp.types_eq, resolvedSoFar, ending_restand]; exact he
      · rw [hp.types_eq, resolvedSoFar, chain_restand] at hb; exact hb
    refine ⟨?_, hst⟩
    rcases List.mem_append.1 (hp.perm.symm.subset hk) with hd | hr
    · exact hd
    · rw [hrem a ha hr] at hst; cases hst

/-- Only candidates that could be resolved from the beginning are. -/
theorem ready_of_mem (hs : Stored types K) {a : TypeDefinition} (ha : a ∈ types.entries)
    (h : a.id ∈ (settlePasses types K).resolved) :
    (standingAfter types K a.toDeclaration).isResolved = true := by
  obtain ⟨b, hb, hid, hr⟩ := (settlePasses_all hs).1.ready a.id h
  rwa [eq_of_mem ha hb hid.symm]

/-- What remains after the passes are the candidates that cannot be resolved. -/
theorem mem_remaining_iff (hs : Stored types K) {a : TypeDefinition} (ha : a ∈ types.entries) :
    a.id ∈ (settlePasses types K).remaining ↔
      a.id ∈ K ∧ (standingAfter types K a.toDeclaration).isResolved = false := by
  obtain ⟨hp, hrem⟩ := settlePasses_all hs
  refine ⟨fun h => ?_, fun ⟨hk, hu⟩ => ?_⟩
  · have hk : a.id ∈ K := hp.perm.subset (List.mem_append_right _ h)
    refine ⟨hk, ?_⟩
    by_contra hr
    have := (mem_of_ready hs ha hk (by simpa using hr)).2
    rw [hrem a ha h] at this
    cases this
  · refine (List.mem_append.1 (hp.perm.symm.subset hk)).resolve_left fun hd => ?_
    rw [ready_of_mem hs ha hd] at hu
    cases hu

/-- Two tests under which a type is unresolved give it the same standing. -/
theorem standingWhere_eq_of_unresolved (h : (standingWhere ok types d).isResolved = false)
    (h' : (standingWhere ok' types d).isResolved = false) :
    standingWhere ok types d = standingWhere ok' types d := by
  cases he : types.ending d with
  | cycle members => rw [standingWhere_of_cycle he, standingWhere_of_cycle he]
  | missing t => rw [standingWhere_of_missing he, standingWhere_of_missing he]
  | complete =>
    have hn : ∀ {o : TypeId → Bool}, (standingWhere o types d).isResolved = false →
        ¬ ∀ a ∈ types.chain d, o a.id = true := by
      intro o ho hall
      rw [isResolved_standingWhere_iff.2 ⟨he, hall⟩] at ho
      cases ho
    rw [standingWhere_of_not_all he (hn h), standingWhere_of_not_all he (hn h')]

theorem filter_contains (hs : Stored types K) : K.filter types.contains = K := by
  refine List.filter_eq_self.2 fun t ht => ?_
  obtain ⟨a, ha, rfl⟩ := hs t ht
  exact Catalog.contains_iff.2 ⟨a, Catalog.find?_of_mem ha⟩

/-- **The outcome of settling**: every candidate stands as its chain and the other candidates
decide, and the other types are as before. -/
theorem settle_types (hs : Stored types K)
    (hu : ∀ a ∈ types.entries, a.id ∈ K → a.isResolved = false) :
    (settle types K).types = types.restand fun a =>
      if a.id ∈ K then standingAfter types K a.toDeclaration else a.standing := by
  obtain ⟨hp, hrem⟩ := settlePasses_all hs
  have htypes := hp.types_eq
  rw [List.nil_append] at htypes
  -- candidates that remain were unresolved and stay so
  have hkeep : ∀ a ∈ (settlePasses types K).types.entries,
      a.id ∈ (settlePasses types K).remaining →
        (standing a.toDeclaration (settlePasses types K).types.entries).isResolved =
          a.isResolved := by
    intro a ha hr
    rw [htypes] at ha
    obtain ⟨b, hb, rfl⟩ := mem_resolvedSoFar.1 ha
    rw [hrem b hb hr]
    obtain ⟨hk, hb'⟩ := (mem_remaining_iff hs hb).1 hr
    have hd : b.id ∉ (settlePasses types K).resolved := by
      intro hd
      rw [ready_of_mem hs hb hd] at hb'
      cases hb'
    simp only [TypeDefinition.isResolved, if_neg hd]
    exact (hu b hb hk).symm
  simp only [settle, filter_contains hs]
  rw [markRemaining_restand hkeep]
  simp only [htypes, resolvedSoFar, restand_restand]
  refine restand_congr fun a ha => ?_
  by_cases hk : a.id ∈ K
  · rw [if_pos hk]
    cases hr : (standingAfter types K a.toDeclaration).isResolved with
    | true =>
      have hn : a.id ∉ (settlePasses types K).remaining := by
        rw [mem_remaining_iff hs ha, hr]; simp
      rw [if_neg hn, if_pos (mem_of_ready hs ha hk hr).1]
      exact (standingWhere_eq_settled hr).symm
    | false =>
      have hm := (mem_remaining_iff hs ha).2 ⟨hk, hr⟩
      have hst := hrem a ha hm
      rw [htypes, resolvedSoFar] at hst
      rw [if_pos hm]
      rw [standing_eq, standingWhere_restand] at hst ⊢
      exact standingWhere_eq_of_unresolved hst hr
  · have hn : a.id ∉ (settlePasses types K).resolved ∧
        a.id ∉ (settlePasses types K).remaining :=
      ⟨fun h => hk (hp.perm.subset (List.mem_append_left _ h)),
        fun h => hk (hp.perm.subset (List.mem_append_right _ h))⟩
    rw [if_neg hk, if_neg hn.2, if_neg hn.1]

/-- **What settling resolves**: the candidates that can be resolved, each once. -/
theorem mem_settle_resolved (hs : Stored types K) {t : TypeId} :
    t ∈ (settle types K).resolved ↔ t ∈ K ∧ Ready types K t := by
  simp only [settle, filter_contains hs]
  obtain ⟨hp, -⟩ := settlePasses_all hs
  constructor
  · intro h
    exact ⟨hp.perm.subset (List.mem_append_left _ h), hp.ready t h⟩
  · rintro ⟨hk, a, ha, rfl, hr⟩
    exact (mem_of_ready hs ha hk hr).1

theorem nodup_settle_resolved (hs : Stored types K) (hn : K.Nodup) :
    (settle types K).resolved.Nodup := by
  simp only [settle, filter_contains hs]
  exact (List.nodup_append.1 ((settlePasses_all hs).1.perm.nodup_iff.2 hn)).1

/-- **What settling finds cyclic**: the candidates whose chain comes back. -/
theorem mem_settle_cyclic (hs : Stored types K)
    (hu : ∀ a ∈ types.entries, a.id ∈ K → a.isResolved = false) {t : TypeId} :
    t ∈ (settle types K).cyclic ↔ ∃ a ∈ types.entries, a.id = t ∧ t ∈ K ∧
      standingAfter types K a.toDeclaration = .cyclic := by
  have htypes := settle_types hs hu
  obtain ⟨hp, -⟩ := settlePasses_all hs
  simp only [settle, filter_contains hs] at htypes ⊢
  rw [List.mem_filter, htypes, find?_restand]
  constructor
  · rintro ⟨hr, hc⟩
    have hk : t ∈ K := hp.perm.subset (List.mem_append_right _ hr)
    obtain ⟨a, ha, rfl⟩ := hs t hk
    rw [Catalog.find?_of_mem ha, Option.map_some, Option.any_some, if_pos hk, beq_iff_eq] at hc
    exact ⟨a, ha, rfl, hk, hc⟩
  · rintro ⟨a, ha, rfl, hk, hc⟩
    refine ⟨(mem_remaining_iff hs ha).2 ⟨hk, by rw [hc]; rfl⟩, ?_⟩
    rw [Catalog.find?_of_mem ha, Option.map_some, Option.any_some, if_pos hk, hc]
    rfl

end Taxonomy

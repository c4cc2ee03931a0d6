import Taxonomy.Proofs.Placement.Governing
import Taxonomy.Proofs.Registry.Extensions

/-!
# Attributes can be placed

The attributes of an entry are stored under it as children of the family `attr`, so that a type
needs a rule for each of its attributes. Attributes and child rules are kept in lists of their own
and told apart by keys of their own, names here and families, subtypes and names there. Only the
clause that declares an attribute connects them; all that happens to the two lists afterwards has to
lose no key of the second that an attribute of the first stands for.

* `Rules.Placeable`: every attribute has a rule under the key of the rule that it stands for.
* `Rules.stable_placeable`: clauses keep that.
* `Rules.Placeable.overlay`, `Rules.Placeable.nearest`: the two merges keep it.
* `placeable_registration`, `placeable_effective`: what is registered, and what is stored.
* `attributes_are_placeable`: every attribute of a stored type has a governing rule.
-/

namespace Taxonomy

open Registry

/-! ## Attributes and the rules that they stand for -/

namespace Rules

/-- **Every attribute has a rule under the key of the child rule that it stands for.** The rule need
not be that one: another one with its key may have taken its place. -/
def Placeable (r : Rules) : Prop :=
  ∀ a ∈ r.attributes, a.childRule.key ∈ r.children.map ChildRule.key

theorem placeable_empty : ({} : Rules).Placeable := by
  intro a ha
  cases ha

theorem Placeable.addChild {r : Rules} (h : r.Placeable) (rule : ChildRule) :
    (r.addChild rule).Placeable := by
  intro a ha
  exact mem_map_put.2 (.inr (h a ha))

theorem Placeable.addAttribute {r : Rules} (h : r.Placeable) (spec : AttributeSpec) :
    (r.addAttribute spec).Placeable := by
  intro a ha
  rcases mem_of_mem_put ha with rfl | ha
  · exact mem_map_put.2 (.inl rfl)
  · exact mem_map_put.2 (.inr (h a ha))

/-- **Clauses keep attributes placeable**: a declared attribute brings its rule, and no clause takes
a key away. -/
theorem stable_placeable : Stable Placeable :=
  ⟨Placeable.addChild, fun h _ => h, Placeable.addAttribute⟩

/-- **Laying rules over others** keeps attributes placeable: an attribute of either side has its
rule on that side, and no key is lost. -/
theorem Placeable.overlay {base additions : Rules} (hb : base.Placeable)
    (ha : additions.Placeable) : (base.overlay additions).Placeable := by
  intro a hmem
  have hside := mem_of_mem_overlay hmem
  exact mem_map_overlay.2 (hside.imp (hb a) (ha a))

/-- **Rules before inherited ones** keep attributes placeable. -/
theorem Placeable.nearest {direct inherited : Rules} (hd : direct.Placeable)
    (hi : inherited.Placeable) : (direct.nearest inherited).Placeable := by
  intro a hmem
  have hside : a ∈ direct.attributes ∨ a ∈ inherited.attributes :=
    List.mem_append.1 (mem_distinctFrom hmem).1
  have hkey : a.childRule.key ∈ (direct.children ++ inherited.children).map ChildRule.key := by
    rw [List.map_append, List.mem_append]
    exact hside.imp (hd a) (hi a)
  exact mem_map_distinctFrom.2 ⟨hkey, List.not_mem_nil⟩

theorem Placeable.concat {rs : List Rules} (h : ∀ r ∈ rs, r.Placeable) :
    (Rules.concat rs).Placeable := by
  intro a ha
  obtain ⟨r, hr, ha⟩ := List.mem_flatMap.1 ha
  obtain ⟨rule, hrule, hkey⟩ := List.mem_map.1 (h r hr a ha)
  exact List.mem_map.2 ⟨rule, List.mem_flatMap.2 ⟨r, hr, hrule⟩, hkey⟩

end Rules

/-- Extensions that are laid over a type keep its attributes placeable. -/
theorem placeable_extendAll {d : TypeDefinition} {es : List Extension}
    (hd : d.toRules.Placeable) (hes : ∀ e ∈ es, e.toRules.Placeable) :
    (d.extendAll es).toRules.Placeable := by
  induction es generalizing d with
  | nil => exact hd
  | cons e es ih =>
    have hstep : (d.extend e).toRules.Placeable := hd.overlay (hes e List.mem_cons_self)
    exact ih hstep fun x hx => hes x (List.mem_cons_of_mem _ hx)

/-! ## What is registered -/

/-- An operation as callers make it: what it commits was opened on a type and given clauses. -/
def Operation.Made : Operation → Prop
  | .commit draft _ => draft.Made
  | _ => True

/-- What is kept of extensions was committed. -/
theorem extended_of_mem_kept {t : TypeId} {es : List Event} {e : Extension} (h : e ∈ kept t es) :
    ∃ u, .extended u e ∈ es := by
  induction es with
  | nil => cases h
  | cons ev es ih =>
    have hlater : e ∈ kept t es → ∃ u, .extended u e ∈ ev :: es := fun h =>
      (ih h).imp fun _ hu => List.mem_cons_of_mem _ hu
    cases ev with
    | extended u x =>
      rw [kept] at h
      split at h
      · rcases List.mem_cons.1 h with rfl | h
        · exact ⟨u, List.mem_cons_self⟩
        · exact hlater h
      · exact hlater h
    | registered d => exact hlater h
    | settled => exact hlater h
    | constrained k s => exact hlater h
    | released s => exact hlater h
    | cleared => exact hlater h

section History

variable {r : Registry} {ops : List Operation} (hmade : ∀ op ∈ ops, op.Made)

theorem placeable_registered {d : Declaration} (h : .registered d ∈ r.history ops) :
    d.toRules.Placeable := by
  obtain ⟨op, -, r', hcause⟩ := causes_of_mem_history h
  cases hcause with
  | register hd =>
    obtain ⟨i, -, hd⟩ := ok_of_bind hd
    obtain ⟨draft, hdraft, hd⟩ := ok_of_bind hd
    obtain rfl := Except.ok.inj hd
    exact Rules.stable_placeable.applyAll Rules.placeable_empty hdraft

include hmade in
theorem placeable_extension {t : TypeId} {e : Extension} (h : .extended t e ∈ r.history ops) :
    e.toRules.Placeable := by
  obtain ⟨op, hop, r', hcause⟩ := causes_of_mem_history h
  cases hcause with
  | commit draft scope =>
    have hdraft : draft.Made := hmade _ hop
    exact Rules.stable_placeable.made Rules.placeable_empty hdraft

end History

section Run

variable {name : String} {ops : List Operation} (hmade : ∀ op ∈ ops, op.Made)

include hmade

/-- **What is registered after a run has placeable attributes**, and so have its extensions. -/
theorem placeable_registration {t : TypeId} {reg : Registration}
    (h : (({ name } : Registry).run ops).snapshot.contents.registrations.find? t = some reg) :
    reg.declaration.toRules.Placeable ∧ ∀ e ∈ reg.extensions, e.toRules.Placeable := by
  obtain ⟨before, after, hh, -, -, -, hext⟩ :=
    registration_of_reached (reached_run name ops) h
  have hin : ∀ ev ∈ Event.registered reg.declaration :: after,
      ev ∈ ({ name } : Registry).history ops := by
    intro ev hev
    rw [hh]
    exact List.mem_append_right _ hev
  refine ⟨placeable_registered (hin _ List.mem_cons_self), fun e he => ?_⟩
  rw [hext] at he
  obtain ⟨u, hu⟩ := extended_of_mem_kept he
  exact placeable_extension hmade (hin _ (List.mem_cons_of_mem _ hu))

/-- What a stored type has itself. -/
theorem placeable_direct {d : TypeDefinition}
    (hd : d ∈ (({ name } : Registry).run ops).snapshot.contents.types.entries) :
    d.toRules.Placeable := by
  have hs : Contents.Sound _ := Reachable.sound ⟨name, ops, rfl⟩
  obtain ⟨reg, hreg, hdef⟩ := hs.exists_registration (Catalog.find?_of_mem hd)
  obtain ⟨hdecl, hexts⟩ := placeable_registration hmade hreg
  rw [hdef]
  exact placeable_extendAll hdecl hexts

/-- **What a stored type has itself and from its ancestors.** The ancestors of a resolved type are
stored; one that is not resolved inherits nothing. -/
theorem placeable_effective {d : TypeDefinition}
    (hd : d ∈ (({ name } : Registry).run ops).snapshot.contents.types.entries) :
    d.effective.Placeable := by
  have hs : Contents.Sound _ := Reachable.sound ⟨name, ops, rfl⟩
  refine (placeable_direct hmade hd).nearest ?_
  cases hr : d.isResolved with
  | true =>
    rw [(hs.coherent.heritage_of_resolved hd hr).2]
    refine Rules.placeable_empty.nearest (Rules.Placeable.concat fun rules hrules => ?_)
    obtain ⟨b, hb, rfl⟩ := List.mem_map.1 hrules
    obtain ⟨a, ha, rfl, -⟩ := exists_above (hs.coherent.complete_of_resolved hd hr) hb
    exact placeable_direct hmade ha
  | false =>
    have hnone : d.inherited = {} := by
      unfold TypeDefinition.inherited
      cases hst : d.standing with
      | resolved g => rw [TypeDefinition.isResolved, hst] at hr; cases hr
      | root => rfl
      | deferred => rfl
      | cyclic => rfl
    rw [hnone]
    exact Rules.placeable_empty

end Run

/-! ## The rule that governs an attribute -/

/-- The rule that an attribute stands for accepts the attribute, whatever the subtype where the
attribute may have any value. -/
theorem accepts_childRule (a : AttributeSpec) {subtype : Value}
    (h : subtype = a.valueType.subtype ∨ a.valueType = .any) :
    a.childRule.accepts "attr" subtype a.name = true := by
  have hsubtype : covers a.valueType.subtype subtype = true := by
    rcases h with rfl | hany
    · simp
    · rw [hany]
      rfl
  simp [ChildRule.accepts, AttributeSpec.childRule, hsubtype]

/-- **Every attribute can be placed.** After any run of a new registry, whatever is registered,
declared again, extended, released or resolved in it, a stored type has for each of its attributes,
its own or inherited ones, a rule that governs the attribute as a child under the subtype it is
stored as; and under every subtype where the attribute may have any value. -/
theorem attributes_are_placeable (name : String) (ops : List Operation)
    (hmade : ∀ op ∈ ops, op.Made) {t : TypeId} {d : TypeDefinition} {a : AttributeSpec}
    (hd : (({ name } : Registry).run ops).snapshot.type? t = some d)
    (ha : a ∈ d.effective.attributes) :
    (∃ rule, d.childRule? ⟨"attr", a.valueType.subtype, a.name⟩ = some rule) ∧
      (a.valueType = .any →
        ∀ subtype, ∃ rule, d.childRule? ⟨"attr", subtype, a.name⟩ = some rule) := by
  have hmem : d ∈ (({ name } : Registry).run ops).snapshot.contents.types.entries :=
    Catalog.mem_of_find? hd
  obtain ⟨rule, hrule, hkey⟩ := List.mem_map.1 (placeable_effective hmade hmem a ha)
  -- the rule has the key of the one that the attribute stands for, so it accepts what that does
  have hgoverned : ∀ subtype : Value, subtype = a.valueType.subtype ∨ a.valueType = .any →
      ∃ q, d.childRule? ⟨"attr", subtype, a.name⟩ = some q := by
    intro subtype hsub
    exact exists_governing? hrule (accepts_of_key hkey (accepts_childRule a hsub))
  exact ⟨hgoverned _ (.inl rfl), fun hany subtype => hgoverned subtype (.inr hany)⟩

/-- A run that declares an attribute twice, extends the type by an attribute of any value, and
releases another extension. A descendant declares an attribute of the same name. -/
def ratingRun : List Operation :=
  [.register (.id ⟨"file", "picture"⟩)
      [.inherit (.id ⟨"file", "base"⟩), .attribute "rating" "int"] (.value "core"),
    .register (.id ⟨"file", "base"⟩)
      [.attribute "rating" "string", .attribute "rating" "double", .acceptChildren "attr"]
      (.value "core"),
    .resolveDeferred,
    .commit (ExtensionDraft.applyAll { existing := { id := ⟨"file", "base"⟩ } }
      [.attribute "tag" "any"]).1 (.value "theme"),
    .commit (ExtensionDraft.applyAll { existing := { id := ⟨"file", "base"⟩ } }
      [.attribute "tag" "long"]).1 (.value "plugin"),
    .releaseScope (.value "plugin")]

theorem made_ratingRun : ∀ op ∈ ratingRun, op.Made := by
  intro op hop
  simp only [ratingRun, List.mem_cons, List.not_mem_nil, or_false] at hop
  rcases hop with rfl | rfl | rfl | rfl | rfl | rfl
  · trivial
  · trivial
  · trivial
  · exact .extended (.opened _) _
  · exact .extended (.opened _) _
  · trivial

/-- What the run leaves of the descendant. -/
def ratedPicture : TypeDefinition :=
  { id := ⟨"file", "picture"⟩
    parent := some ⟨"file", "base"⟩
    scope := some "core"
    children := [{ family := "attr", subtype := "int", name := "rating" }]
    attributes := [{ name := "rating", valueType := .int }]
    standing := .resolved
      { children :=
          [{ family := "attr", subtype := "string", name := "rating" },
            { family := "attr", subtype := "double", name := "rating" }, { family := "attr" },
            { family := "attr", name := "tag" }]
        attributes :=
          [{ name := "rating", valueType := .double }, { name := "tag", valueType := .any }]
        ancestors := [⟨"file", "base"⟩] } }

/-- The inherited attribute of any value is governed under every subtype. -/
theorem attributes_are_placeable_rating :
    (∀ op ∈ ratingRun, op.Made) ∧
      (({ name := "files" } : Registry).run ratingRun).snapshot.type? ⟨"file", "picture"⟩ =
        some ratedPicture ∧
      { name := "tag", valueType := .any } ∈ ratedPicture.effective.attributes ∧
      ∀ subtype, ∃ rule, ratedPicture.childRule? ⟨"attr", subtype, "tag"⟩ = some rule := by
  have hd : (({ name := "files" } : Registry).run ratingRun).snapshot.type?
      ⟨"file", "picture"⟩ = some ratedPicture := by decide +kernel
  have ha : { name := "tag", valueType := .any } ∈ ratedPicture.effective.attributes := by
    decide +kernel
  exact ⟨made_ratingRun, hd, ha,
    (attributes_are_placeable "files" ratingRun made_ratingRun hd ha).2 rfl⟩

end Taxonomy

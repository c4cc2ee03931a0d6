import Taxonomy.Proofs.Draft
import Taxonomy.Proofs.Registry.History

/-!
# What extensions amount to

A commit merges an extension into the stored definition; a release builds the
definition up again from the declaration and the extensions that are left. Both
agree with the history of the run.

* `kept`: the extensions of a type that a history leaves.
* `Event.effect`: what an event does to the registrations.
* `registration_of_reached`: a registration is the most recent one of its type,
  with the extensions that came after it and were kept.
* `declared_of_reached`: a declaration stays until it is taken out.
* `extendAll_cons`: what extensions amount to that are laid over a type one after the other.
* `type_extensions`: the stored types after a run.
-/

namespace Taxonomy

open Registry

/-- Does an event take out what was registered? -/
def Event.takesOut : Event → Bool
  | .released _ | .cleared => true
  | .registered _ | .extended .. | .settled | .constrained .. => false

/-- Does an event take out a declaration? -/
def Event.drops (d : Declaration) : Event → Bool
  | .released scope => d.scope == some scope
  | .cleared => true
  | .registered _ | .extended .. | .settled | .constrained .. => false

/-- Has the scope of an extension been released? -/
def withdrawn (es : List Event) (e : Extension) : Bool :=
  es.any fun
    | .released scope => e.scope == some scope
    | _ => false

/-- **The extensions of a type that a history leaves**: those that are not empty
and whose scope was not released after their commit, in the order of commits. -/
def kept (t : TypeId) : List Event → List Extension
  | [] => []
  | .extended u e :: es =>
    if u = t ∧ e.isEmpty = false ∧ withdrawn es e = false then e :: kept t es else kept t es
  | .registered _ :: es | .settled :: es | .constrained .. :: es => kept t es
  | .released _ :: es | .cleared :: es => kept t es

variable {es fs : List Event} {ev : Event} {t : TypeId} {e : Extension} {c c' : Contents}

theorem withdrawn_append : withdrawn (es ++ fs) e = (withdrawn es e || withdrawn fs e) :=
  List.any_append

/-- **What comes later** withdraws some of the extensions and adds others. -/
theorem kept_append :
    kept t (es ++ fs) = (kept t es).filter (!withdrawn fs ·) ++ kept t fs := by
  induction es with
  | nil => rfl
  | cons ev es ih =>
    cases ev with
    | extended u e =>
      rw [List.cons_append, kept, kept, ih, withdrawn_append]
      by_cases h : u = t ∧ e.isEmpty = false ∧ withdrawn es e = false
      · cases hw : withdrawn fs e with
        | false => simp [h, hw]
        | true => simp [h, hw]
      · have h' : ¬ (u = t ∧ e.isEmpty = false ∧ (withdrawn es e || withdrawn fs e) = false) := by
          rintro ⟨h₁, h₂, h₃⟩
          exact h ⟨h₁, h₂, (Bool.or_eq_false_iff.1 h₃).1⟩
        rw [if_neg h, if_neg h']
    | registered d => exact ih
    | settled => exact ih
    | constrained k s => exact ih
    | released s => exact ih
    | cleared => exact ih

/-! ## Registrations -/

/-- **What an event does to the registrations.** -/
def Event.effect (regs : Catalog Registration.id) : Event → Catalog Registration.id
  | .registered d => regs.insert ⟨d, []⟩
  | .extended t e => if e.isEmpty then regs else addExtension regs t e
  | .released scope => Contents.registrationsWithout { registrations := regs } scope
  | .cleared => .empty
  | .settled | .constrained .. => regs

theorem step_registrations (h : c.Sound) (hs : Step c ev c') :
    c'.registrations = ev.effect c.registrations := by
  cases hs with
  | registered hok => rw [(register_ok hok).2, Event.effect]
  | extended hok =>
    rw [(commit_ok h.coherent hok).2, Event.effect]
    split <;> rfl
  | settled => rw [after_resolveDeferred h.coherent, Event.effect]
  | constrained hok => rw [(addConstraint_ok hok).2, Event.effect]
  | released scope =>
    have hsame : Event.effect c.registrations (.released scope) = c.registrationsWithout scope :=
      rfl
    rw [hsame]
    rcases release_cases c scope with ⟨hr, ha⟩ | ⟨hr, -⟩
    · rw [ha, hr]
    · exact hr
  | cleared => rfl

theorem find?_addExtension (regs : Catalog Registration.id) (t u : TypeId) (e : Extension) :
    (addExtension regs t e).find? u =
      if t = u then (regs.find? u).map (·.extend e)
      else regs.find? u :=
  Catalog.find?_modify _ _ _ _ _

theorem find?_registrationsWithout (c : Contents) (scope : Value) (t : TypeId) :
    (c.registrationsWithout scope).find? t =
      ((c.registrations.find? t).filter (·.declaration.scope != some scope)).map fun r =>
        { r with extensions := r.extensions.filter (·.scope != some scope) } :=
  (Catalog.find?_map _ _ _ _).trans (congrArg _ (Catalog.find?_filter _ _ _))

/-- A registration is the most recent one of its type in a history and was not taken out, and it
has the extensions that the history leaves. -/
def RegisteredIn (es : List Event) (t : TypeId) (reg : Registration) : Prop :=
  ∃ before after, es = before ++ .registered reg.declaration :: after ∧
    reg.declaration.id = t ∧ (∀ ev ∈ after, ev.drops reg.declaration = false) ∧
    (∀ d, .registered d ∈ after → d.id ≠ t) ∧ reg.extensions = kept t after

/-- An event that neither registers the type nor takes it out. -/
theorem RegisteredIn.append {reg reg' : Registration} (h : RegisteredIn es t reg)
    (hev : ∀ d, ev = .registered d → d.id ≠ t) (hdrop : ev.drops reg.declaration = false)
    (hd : reg'.declaration = reg.declaration)
    (he : reg'.extensions = reg.extensions.filter (!withdrawn [ev] ·) ++ kept t [ev]) :
    RegisteredIn (es ++ [ev]) t reg' := by
  obtain ⟨before, after, rfl, hid, hkeep, hlast, hext⟩ := h
  refine ⟨before, after ++ [ev], ?_, ?_, fun ev' hm => ?_, fun d hm => ?_, ?_⟩
  · rw [hd, List.append_assoc, List.cons_append]
  · rw [hd, hid]
  · rw [hd]
    rcases List.mem_append.1 hm with hm | hm
    · exact hkeep ev' hm
    · rw [List.mem_singleton.1 hm, hdrop]
  · rcases List.mem_append.1 hm with hm | hm
    · exact hlast d hm
    · exact hev d (List.mem_singleton.1 hm).symm
  · rw [he, hext, kept_append]

/-- An event that takes nothing out drops no declaration. -/
theorem Event.drops_of_takesOut (h : ev.takesOut = false) (d : Declaration) :
    ev.drops d = false := by
  cases ev with
  | released s => cases h
  | cleared => cases h
  | registered d' => rfl
  | extended t e => rfl
  | settled => rfl
  | constrained k s => rfl

theorem filter_withdrawn_of_takesOut {xs : List Extension} (h : ev.takesOut = false) :
    xs.filter (!withdrawn [ev] ·) = xs := by
  refine List.filter_eq_self.2 fun x _ => ?_
  cases ev with
  | released s => cases h
  | cleared => cases h
  | registered d => rfl
  | extended t e => rfl
  | settled => rfl
  | constrained k s => rfl

/-- An event that does nothing to the registration of the type. -/
theorem RegisteredIn.append_quiet {reg : Registration} (h : RegisteredIn es t reg)
    (hev : ∀ d, ev = .registered d → d.id ≠ t) (hout : ev.takesOut = false)
    (hk : kept t [ev] = []) : RegisteredIn (es ++ [ev]) t reg :=
  h.append hev (Event.drops_of_takesOut hout _) rfl
    (by rw [filter_withdrawn_of_takesOut hout, hk, List.append_nil])

/-- **Registrations follow the history**, by induction on the history. -/
theorem registration_of_reached (h : Reached es c) {reg : Registration}
    (hreg : c.registrations.find? t = some reg) : RegisteredIn es t reg := by
  induction h generalizing reg with
  | start => cases hreg
  | @next es ev c c' hr hs ih =>
    rw [step_registrations (reached_sound hr) hs] at hreg
    cases ev with
    | registered d =>
      rw [Event.effect, Catalog.find?_insert] at hreg
      split at hreg
      · next hid =>
        obtain rfl := Option.some.inj hreg
        exact ⟨es, [], rfl, hid, fun _ hm => absurd hm List.not_mem_nil,
          fun _ hm => absurd hm List.not_mem_nil, rfl⟩
      · next hid =>
        refine (ih hreg).append_quiet (fun d' hd' => ?_) rfl rfl
        obtain rfl := Event.registered.inj hd'
        exact hid
    | extended u e =>
      have hkept : kept t [.extended u e] = if u = t ∧ e.isEmpty = false then [e] else [] := by
        simp [kept, withdrawn]
      rw [Event.effect] at hreg
      by_cases he : e.isEmpty = true
      · rw [if_pos he] at hreg
        exact (ih hreg).append_quiet (by simp) rfl (by rw [hkept, he]; simp)
      · rw [if_neg he, find?_addExtension] at hreg
        by_cases hu : u = t
        · rw [if_pos hu] at hreg
          obtain ⟨r, hr, rfl⟩ := Option.map_eq_some_iff.1 hreg
          refine (ih hr).append (by simp) rfl rfl ?_
          rw [filter_withdrawn_of_takesOut rfl, hkept, if_pos ⟨hu, by simpa using he⟩]
          rfl
        · rw [if_neg hu] at hreg
          exact (ih hreg).append_quiet (by simp) rfl (by rw [hkept, if_neg fun h => hu h.1])
    | released s =>
      rw [Event.effect, find?_registrationsWithout] at hreg
      obtain ⟨r, hr, rfl⟩ := Option.map_eq_some_iff.1 hreg
      obtain ⟨hr, hscope⟩ := Option.filter_eq_some_iff.1 hr
      refine (ih hr).append (by simp) (by simpa [Event.drops] using hscope) rfl ?_
      rw [kept, kept, List.append_nil]
      refine List.filter_congr fun x _ => ?_
      simp [withdrawn, bne]
    | cleared => cases hreg
    | settled => exact (ih hreg).append_quiet (by simp) rfl rfl
    | constrained k s => exact (ih hreg).append_quiet (by simp) rfl rfl

/-- A step that does not take a declaration out. -/
theorem step_declared (h : c.Sound) (hs : Step c ev c') {reg : Registration}
    (hreg : c.registrations.find? t = some reg) (hdrop : ev.drops reg.declaration = false) :
    ∃ reg', c'.registrations.find? t = some reg' ∧ reg'.declaration = reg.declaration := by
  have hregs := step_registrations h hs
  rw [hregs]
  cases hs with
  | registered hok =>
    refine ⟨reg, ?_, rfl⟩
    rw [Event.effect, Catalog.find?_insert, if_neg, hreg]
    rintro rfl
    rw [Registration.id, (register_ok hok).1] at hreg
    cases hreg
  | @extended u e ch hok =>
    rw [Event.effect]
    split
    · exact ⟨reg, hreg, rfl⟩
    · rw [find?_addExtension]
      split
      · exact ⟨reg.extend e, by rw [hreg, Option.map_some], rfl⟩
      · exact ⟨reg, hreg, rfl⟩
  | settled => exact ⟨reg, hreg, rfl⟩
  | constrained hok => exact ⟨reg, hreg, rfl⟩
  | released scope =>
    have hkeep : (reg.declaration.scope != some scope) = true := by
      simpa [Event.drops] using hdrop
    rw [Event.effect, find?_registrationsWithout, hreg, Option.filter_some, if_pos hkeep]
    exact ⟨_, rfl, rfl⟩
  | cleared => cases hdrop

/-- **A declaration stays until it is taken out**, by induction on the history. -/
theorem declared_of_reached (h : Reached es c) {before after : List Event} {decl : Declaration}
    (hes : es = before ++ .registered decl :: after)
    (hkeep : ∀ ev ∈ after, ev.drops decl = false) :
    ∃ reg, c.registrations.find? decl.id = some reg ∧ reg.declaration = decl := by
  induction h generalizing after with
  | start => simp at hes
  | @next es ev c c' hr hs ih =>
    have hsound := reached_sound hr
    rcases List.eq_nil_or_concat after with rfl | ⟨rest, ev', rfl⟩
    · -- the registration was the last event
      obtain ⟨-, hev⟩ := List.append_inj' hes rfl
      obtain rfl := (List.cons.inj hev).1
      refine ⟨⟨decl, []⟩, ?_, rfl⟩
      rw [step_registrations hsound hs, Event.effect, Catalog.find?_insert]
      exact if_pos rfl
    · rw [List.concat_eq_append, ← List.cons_append, ← List.append_assoc] at hes
      obtain ⟨hbefore, hev⟩ := List.append_inj' hes rfl
      obtain rfl := (List.cons.inj hev).1
      rw [List.concat_eq_append] at hkeep
      obtain ⟨reg, hreg, hdecl⟩ := ih hbefore fun x hx => hkeep x (List.mem_append_left _ hx)
      have hlast := hkeep ev (List.mem_append_right _ List.mem_cons_self)
      obtain ⟨reg', hreg', hdecl'⟩ := step_declared hsound hs hreg (hdecl ▸ hlast)
      exact ⟨reg', hreg', hdecl'.trans hdecl⟩

/-! ## Definitions -/

/-- The scopes that extensions are noted under. -/
def scopesOf (es : List Extension) : List Value :=
  es.filterMap fun e => e.scope.filter (·.isTruthy)

/-- **The rules of extensions that are laid over a type one after the other** are laid over it at
once. -/
theorem extendAll_cons_toDeclaration (a : TypeDefinition) (e : Extension) (es : List Extension) :
    (a.extendAll (e :: es)).toDeclaration = { a.toDeclaration with
      toRules := a.toRules.overlay (Rules.concat ((e :: es).map (·.toRules))) } := by
  induction es generalizing a e with
  | nil =>
    rw [List.map_singleton, Rules.concat_singleton]
    rfl
  | cons f es ih =>
    have hrest := ih (a.extend e) f
    rw [List.map_cons, ← Rules.overlay_overlay_concat]
    exact hrest

theorem extendAll_toDeclaration {a : TypeDefinition} (h : a.toRules.Distinct)
    (es : List Extension) :
    (a.extendAll es).toDeclaration = { a.toDeclaration with
      toRules := a.toRules.overlay (Rules.concat (es.map (·.toRules))) } := by
  cases es with
  | nil =>
    have hn : a.toRules.overlay (Rules.concat []) = a.toRules := Rules.overlay_empty h
    rw [List.map_nil, hn]
    rfl
  | cons e es => exact extendAll_cons_toDeclaration a e es

theorem scopesOf_cons (e : Extension) (es : List Extension) :
    scopesOf (e :: es) = (e.scope.filter (·.isTruthy)).toList ++ scopesOf es := by
  rw [scopesOf, List.filterMap_cons]
  cases e.scope.filter (·.isTruthy) <;> rfl

/-- The scope of an extension is noted unless it is there already. -/
theorem extendedBy_extend (a : TypeDefinition) (e : Extension) :
    (a.extend e).extendedBy = (e.scope.filter (·.isTruthy)).toList.foldl
      (fun acc x => if x ∈ acc then acc else acc ++ [x]) a.extendedBy := by
  unfold TypeDefinition.extend
  cases e.scope with
  | none => rfl
  | some s => cases ht : s.isTruthy <;> simp [ht, Option.filter_some]

theorem extendedBy_extendAll (a : TypeDefinition) (es : List Extension) :
    (a.extendAll es).extendedBy =
      a.extendedBy ++ distinctFrom id a.extendedBy (scopesOf es) := by
  rw [← foldl_note]
  induction es generalizing a with
  | nil => rfl
  | cons e es ih =>
    have hr := ih (a.extend e)
    rw [extendedBy_extend, ← List.foldl_append, ← scopesOf_cons] at hr
    exact hr

theorem extendAll_standing (a : TypeDefinition) (es : List Extension) :
    (a.extendAll es).standing = a.standing := by
  induction es generalizing a with
  | nil => rfl
  | cons e es ih => exact ih (a.extend e)

/-- **Extensions one after the other** are all of them laid over a type at once. -/
theorem extendAll_cons (a : TypeDefinition) (e : Extension) (es : List Extension) :
    a.extendAll (e :: es) = { a with
      toRules := a.toRules.overlay (Rules.concat ((e :: es).map (·.toRules)))
      extendedBy := a.extendedBy ++ distinctFrom id a.extendedBy (scopesOf (e :: es)) } :=
  calc a.extendAll (e :: es)
    _ = ⟨(a.extendAll (e :: es)).toDeclaration, (a.extendAll (e :: es)).extendedBy,
          (a.extendAll (e :: es)).standing⟩ := rfl
    _ = _ := by rw [extendAll_cons_toDeclaration, extendedBy_extendAll, extendAll_standing]

/-! ## Declarations in histories -/

theorem distinct_declared {r : Registry} {id : TypeRef} {clauses : List Clause}
    {scope : ScopeRef} {d : Declaration} (h : r.declared id clauses scope = .ok d) :
    d.toRules.Distinct := by
  obtain ⟨i, -, h⟩ := ok_of_bind h
  obtain ⟨draft, hdraft, h⟩ := ok_of_bind h
  obtain rfl := Except.ok.inj h
  exact TypeDraft.distinct_applyAll Rules.distinct_empty hdraft

/-- **Declared rules have distinct keys**: they are made by clauses. -/
theorem distinct_of_mem_history {r : Registry} {ops : List Operation} {d : Declaration}
    (h : .registered d ∈ r.history ops) : d.toRules.Distinct := by
  obtain ⟨op, -, r', hcause⟩ := causes_of_mem_history h
  cases hcause with
  | register hd => exact distinct_declared hd

/-! ## Stored types -/

/-- **No extension is lost, duplicated or resurrected.** After any run a stored type is what its
most recent registration declared, with the extensions laid over it that were committed since then
and not released. A type is stored as long as its declaration is not taken out; and the stored types
are the registered ones, in the same order. -/
theorem type_extensions (name : String) (ops : List Operation) :
    (∀ t d, (({ name } : Registry).run ops).snapshot.type? t = some d →
      ∃ before decl after,
        ({ name } : Registry).history ops = before ++ .registered decl :: after ∧
        decl.id = t ∧ (∀ ev ∈ after, ev.drops decl = false) ∧
        (∀ d', .registered d' ∈ after → d'.id ≠ t) ∧
        d.toDeclaration = { decl with
          toRules := decl.toRules.overlay (Rules.concat ((kept t after).map (·.toRules))) } ∧
        d.extendedBy = distinctBy id (scopesOf (kept t after))) ∧
    (∀ before decl after,
      ({ name } : Registry).history ops = before ++ .registered decl :: after →
      (∀ ev ∈ after, ev.drops decl = false) →
      ∃ d, (({ name } : Registry).run ops).snapshot.type? decl.id = some d) ∧
    (({ name } : Registry).run ops).snapshot.contents.types.keys =
      (({ name } : Registry).run ops).snapshot.contents.registrations.keys := by
  have hs : Contents.Sound _ := Reachable.sound ⟨name, ops, rfl⟩
  refine ⟨fun t d hd => ?_, fun before decl after hh hkeep => ?_, hs.keys_eq⟩
  · obtain ⟨reg, hreg, hdef⟩ := hs.exists_registration hd
    obtain ⟨before, after, hh, hid, hkeep, hlast, hext⟩ :=
      registration_of_reached (reached_run name ops) hreg
    have hdist : reg.declaration.toRules.Distinct := by
      refine distinct_of_mem_history (?_ : _ ∈ ({ name } : Registry).history ops)
      rw [hh]
      exact List.mem_append_right _ List.mem_cons_self
    refine ⟨before, reg.declaration, after, hh, hid, hkeep, hlast, ?_, ?_⟩
    · rw [hdef, ← hext]
      exact extendAll_toDeclaration hdist _
    · rw [hdef, ← hext]
      exact extendedBy_extendAll reg.declaration.define reg.extensions
  · obtain ⟨reg, hreg, -⟩ := declared_of_reached (reached_run name ops) hh hkeep
    obtain ⟨s, hd⟩ := hs.exists_definition hreg
    exact ⟨_, hd⟩

/-- A run in which two scopes extend a type under the same key, and the first of
them is released. -/
def themeRun : List Operation :=
  [.register (.id ⟨"file", "base"⟩) [] (.value "core"),
    .commit
      { existing := { id := ⟨"file", "base"⟩ }, rules := { children := [{ family := "file" }] } }
      (.value "plugin"),
    .commit
      { existing := { id := ⟨"file", "base"⟩ },
        rules := { children := [{ family := "note" }, { family := "file", required := true }] } }
      (.value "theme"),
    .releaseScope (.value "plugin")]

/-- What the run leaves of the type. -/
def themedBase : TypeDefinition :=
  { id := ⟨"file", "base"⟩
    children := [{ family := "note" }, { family := "file", required := true }]
    scope := some "core"
    extendedBy := ["theme"] }

theorem type_extensions_theme :
    (({ name := "files" } : Registry).run themeRun).snapshot.type? ⟨"file", "base"⟩ =
        some themedBase ∧
      ∃ before decl after,
        ({ name := "files" } : Registry).history themeRun =
          before ++ .registered decl :: after ∧
        themedBase.toDeclaration = { decl with
          toRules := decl.toRules.overlay (Rules.concat
            ((kept ⟨"file", "base"⟩ after).map (·.toRules))) } := by
  have hd : (({ name := "files" } : Registry).run themeRun).snapshot.type? ⟨"file", "base"⟩ =
      some themedBase := by decide +kernel
  obtain ⟨before, decl, after, hh, -, -, -, hrules, -⟩ :=
    (type_extensions "files" themeRun).1 _ _ hd
  exact ⟨hd, before, decl, after, hh, hrules⟩

end Taxonomy

import Taxonomy.Draft
import Taxonomy.Proofs.Keyed

/-!
# What clauses keep of rules

Rules are made by clauses, each of which adds one entry or none. What each addition keeps, the
clauses of a registration keep, and those of an extension.

* `applyUntilFault_keeps`: what holds after steps of which one may fail.
* `Rules.Stable`: a property of rules that each addition keeps.
* `Rules.Stable.applyAll`: the clauses of a registration.
* `ExtensionDraft.Made`, `Rules.Stable.made`: the drafts of extensions that callers can make.
* `TypeDraft.distinct_applyAll`: what a draft amounts to holds one entry per key.
-/

namespace Taxonomy

/-- What two steps lead to, the first leads to on the way. -/
theorem ok_of_bind {α β : Type} {x : Result α} {f : α → Result β} {b : β}
    (h : (x >>= f) = .ok b) : ∃ a, x = .ok a ∧ f a = .ok b := by
  cases x with
  | error e => cases h
  | ok a => exact ⟨a, rfl, h⟩

theorem ok_of_toOption {ε α : Type} {x : Except ε α} {a : α} (h : x.toOption = some a) :
    x = .ok a := by
  cases x with
  | error e => cases h
  | ok b => exact congrArg _ (Option.some.inj h)

/-- What a step keeps, the steps up to the first that fails keep. -/
theorem applyUntilFault_keeps {σ ι : Type _} {step : σ → ι → Result σ} {P : σ → Prop}
    (hstep : ∀ {s t i}, P s → step s i = .ok t → P t) {s : σ} (h : P s) (is : List ι) :
    P (applyUntilFault step s is).1 := by
  induction is generalizing s with
  | nil => exact h
  | cons i is ih =>
    rw [applyUntilFault]
    cases hs : step s i with
    | ok t => exact ih (hstep h hs)
    | error f => exact h

/-- **A property of rules that each addition keeps.** -/
structure Rules.Stable (P : Rules → Prop) : Prop where
  child : ∀ {r : Rules}, P r → ∀ rule, P (r.addChild rule)
  parent : ∀ {r : Rules}, P r → ∀ rule, P (r.addParent rule)
  «attribute» : ∀ {r : Rules}, P r → ∀ a, P (r.addAttribute a)

/-- **A draft of an extension as callers make it**: opened on a definition, with clauses added to it
as far as they are understood, and committed or not. -/
inductive ExtensionDraft.Made : ExtensionDraft → Prop where
  | opened (existing : TypeDefinition) : Made { existing }
  | extended {draft : ExtensionDraft} (h : Made draft) (cls : List Clause) :
    Made (draft.applyAll cls).1
  | spent {draft : ExtensionDraft} (h : Made draft) : Made { draft with committed := true }

namespace Rules.Stable

variable {P : Rules → Prop} (hP : Stable P)

include hP

/-- One clause. -/
theorem apply {r s : Rules} (h : P r) {cl : Clause} (hok : r.apply cl = .ok s) : P s := by
  cases cl with
  | acceptChildren family subtype name required =>
    obtain ⟨rule, -, hs⟩ := ok_of_bind hok
    obtain rfl := Except.ok.inj hs
    exact hP.child h rule
  | acceptParents family subtype name =>
    obtain ⟨rule, -, hs⟩ := ok_of_bind hok
    obtain rfl := Except.ok.inj hs
    exact hP.parent h rule
  | «attribute» name valueType required allowed arrayAllowed =>
    obtain ⟨a, -, hs⟩ := ok_of_bind hok
    obtain rfl := Except.ok.inj hs
    exact hP.«attribute» h a
  | refused f => cases hok
  | describe v => obtain rfl := Except.ok.inj hok; exact h
  | inherit p => obtain rfl := Except.ok.inj hok; exact h
  | inheritParts f s => obtain rfl := Except.ok.inj hok; exact h

/-- A clause of a registration that is neither about the description nor about the parent. -/
theorem type_of_rules {d d' : TypeDraft} (h : P d.rules) {cl : Clause}
    (hok : (do return { d with rules := ← d.rules.apply cl } : Result TypeDraft) = .ok d') :
    P d'.rules := by
  obtain ⟨s, hs, hd⟩ := ok_of_bind hok
  obtain rfl := Except.ok.inj hd
  exact hP.apply h hs

/-- One clause of a registration. -/
theorem type_apply {d d' : TypeDraft} (h : P d.rules) {cl : Clause} (hok : d.apply cl = .ok d') :
    P d'.rules := by
  cases cl with
  | describe v => obtain rfl := Except.ok.inj hok; exact h
  | inherit p =>
    obtain ⟨t, -, hd⟩ := ok_of_bind hok
    obtain rfl := Except.ok.inj hd
    exact h
  | inheritParts f s =>
    obtain ⟨t, -, hd⟩ := ok_of_bind hok
    obtain rfl := Except.ok.inj hd
    exact h
  | acceptChildren family subtype name required => exact hP.type_of_rules h hok
  | acceptParents family subtype name => exact hP.type_of_rules h hok
  | «attribute» name valueType required allowed arrayAllowed => exact hP.type_of_rules h hok
  | refused f => exact hP.type_of_rules h hok

/-- **The clauses of a registration**, by induction on them. -/
theorem applyAll {d d' : TypeDraft} (h : P d.rules) {cls : List Clause}
    (hok : d.applyAll cls = .ok d') : P d'.rules := by
  induction cls generalizing d with
  | nil => obtain rfl := Except.ok.inj hok; exact h
  | cons cl cls ih =>
    rw [TypeDraft.applyAll, List.foldlM_cons] at hok
    obtain ⟨d₁, hd, hok⟩ := ok_of_bind hok
    exact ih (hP.type_apply h hd) hok

/-- A clause of an extension that is about rules. -/
theorem extension_of_rules {d d' : ExtensionDraft} (h : P d.rules) {cl : Clause}
    (hok : (do return { d with rules := ← d.rules.apply cl } : Result ExtensionDraft) = .ok d') :
    P d'.rules := by
  obtain ⟨s, hs, hd⟩ := ok_of_bind hok
  obtain rfl := Except.ok.inj hd
  exact hP.apply h hs

/-- One clause of an extension. -/
theorem extension_apply {d d' : ExtensionDraft} (h : P d.rules) {cl : Clause}
    (hok : d.apply cl = .ok d') : P d'.rules := by
  cases cl with
  | describe v => cases hok
  | inherit p => cases hok
  | inheritParts f s => cases hok
  | acceptChildren family subtype name required => exact hP.extension_of_rules h hok
  | acceptParents family subtype name => exact hP.extension_of_rules h hok
  | «attribute» name valueType required allowed arrayAllowed => exact hP.extension_of_rules h hok
  | refused f => exact hP.extension_of_rules h hok

/-- The clauses of an extension, up to the first that is refused. -/
theorem extension_applyAll {d : ExtensionDraft} (h : P d.rules) (cls : List Clause) :
    P (d.applyAll cls).1.rules :=
  applyUntilFault_keeps (P := fun d : ExtensionDraft => P d.rules)
    (fun h hok => hP.extension_apply h hok) h cls

/-- **The drafts of extensions that callers can make.** -/
theorem made (hempty : P {}) {draft : ExtensionDraft} (h : draft.Made) : P draft.rules := by
  induction h with
  | opened existing => exact hempty
  | extended _ cls ih => exact hP.extension_applyAll ih cls
  | spent _ ih => exact ih

end Rules.Stable

theorem Rules.stable_distinct : Rules.Stable Rules.Distinct :=
  ⟨Distinct.addChild, Distinct.addParent, Distinct.addAttribute⟩

/-- **What a draft amounts to holds one entry per key.** -/
theorem TypeDraft.distinct_applyAll {d d' : TypeDraft} {cls : List Clause} (h : d.rules.Distinct)
    (hok : d.applyAll cls = .ok d') : d'.rules.Distinct :=
  Rules.stable_distinct.applyAll h hok

end Taxonomy

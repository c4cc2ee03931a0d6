import Taxonomy.Proofs.Number.Numerals
import Taxonomy.Proofs.Provider.Confined
import Taxonomy.Proofs.Registry.Queueing

/-!
# The names of scopes

A scope is named by a handle or by a text. The name of a handle is taken as it is, and a text is
trimmed. Both name one scope where the name of the handle is a trimmed text. Where it is not, they
name two, and a release by one of them does not find what was registered under the other.

* `Registry.Under`: an operation that registers everything under one of some scopes.
* `Registry.Purges`, `Registry.Misses`: what the release of a scope comes to after a run.
* `grows_run`: a run under scopes of one name adds to that name only.
* `released_under_handle_or_text`: releases by handle and by text.
* `padded_handle_is_missed`: a release that does not find a type.
-/

namespace Taxonomy

open Registry

/-! ## What is registered under a scope -/

/-- The scope that an operation names for what it registers, if it registers anything. -/
def Operation.scope? : Operation → Option ScopeRef
  | .register _ _ scope | .commit _ scope | .addConstraint _ scope => some scope
  | .resolveDeferred | .enterScope _ | .leaveScope => none
  | .releaseScope _ | .scheduleRelease _ | .releasePending | .clear => none
  | .evaluate .. | .validChildren _ | .validParents _ | .invalidateTable => none

namespace Registry

/-- **An operation registers everything under one of some scopes**: the operation names it, or it is
entered. To settle what is deferred, and to enter and leave scopes, registers nothing. -/
def Under (as : List ScopeRef) (r : Registry) (op : Operation) : Prop :=
  op.loads = true ∧ ∀ scope ∈ op.scope?, ∃ a ∈ as, r.effectiveScope scope = a.name?

instance (as : List ScopeRef) (r : Registry) (op : Operation) : Decidable (r.Under as op) :=
  inferInstanceAs (Decidable (_ ∧ _))

/-- **A release purges what a run has registered**: what is left is what was there before the run,
once the releases that were due are made; and the result is zero only where the run has registered
nothing. -/
structure Purges (r : Registry) (ops : List Operation) (b : ScopeRef) (count : Nat) : Prop where
  outcome : Action.outcome (releaseScope b) (r.run ops) = .ok count
  left : (Action.after (releaseScope b) (r.run ops)).holdings = r.drain.2.holdings
  count_eq_zero_iff : count = 0 ↔ (r.run ops).drain.2.holdings = r.drain.2.holdings

/-- **A release misses what a run has registered**: all of it is left. -/
structure Misses (r : Registry) (ops : List Operation) (b : ScopeRef) : Prop where
  outcome : Action.outcome (releaseScope b) (r.run ops) = .ok 0
  left : (Action.after (releaseScope b) (r.run ops)).holdings = (r.run ops).drain.2.holdings

end Registry

variable {r : Registry} {s t n : Value} {as : List ScopeRef} {b : ScopeRef} {op : Operation}
  {ops : List Operation} {ev : Event}

theorem tagOf_eq (r : Registry) (op : Operation) :
    r.tagOf op = op.scope?.bind r.effectiveScope := by
  cases op <;> rfl

theorem under_drain (r : Registry) (as : List ScopeRef) (op : Operation) :
    r.drain.2.Under as op ↔ r.Under as op := by
  simp only [Under, effectiveScope_drain]

/-- What an operation under scopes of one name asks for belongs to that name. -/
theorem belongs_of_under (has : ∀ a ∈ as, a.name? = some s) (hop : r.Under as op)
    (ha : r.asked op = .ok (some ev)) : ev = .settled ∨ ev.belongs s = true := by
  have hbelongs : ∀ scope ∈ op.scope?, ev.belongs s = true := by
    intro scope hscope
    obtain ⟨a, hmem, hname⟩ := hop.2 scope hscope
    have htag : r.tagOf op = some s := by
      rw [tagOf_eq, hscope, Option.bind_some, hname, has a hmem]
    rw [belongs_of_asked ha, htag]
    exact beq_self_eq_true _
  rcases asked_cases ha with ⟨_, _, scope, _, rfl, -, -⟩ | ⟨_, scope, _, rfl, -, -⟩ | ⟨-, rfl⟩ |
    ⟨_, _, scope, rfl, -⟩
  · exact .inr (hbelongs scope rfl)
  · exact .inr (hbelongs scope rfl)
  · exact .inl rfl
  · exact .inr (hbelongs scope rfl)

/-- **One operation under scopes of one name**, behind the releases that are due. -/
theorem grows_perform (has : ∀ a ∈ as, a.name? = some s) (h : r.drain.2.Steady)
    (hop : r.Under as op) : (r.perform op).drain.2.Steady ∧
      Grows s r.drain.2.holdings (r.perform op).drain.2.holdings := by
  rw [drain_perform h hop.1]
  rcases perform_loads h hop.1 with ⟨e, -, -, hsame⟩ | ⟨ev, hev, ht⟩ | rfl | ⟨scope, rfl⟩
  · rw [hsame]
    exact ⟨h, .refl⟩
  · refine ⟨ht.steady, ?_⟩
    rw [ht.holdings, Holdings.next]
    split
    · -- what is settled adds nothing; all else that is asked for belongs to the name
      next hallowed =>
      rcases belongs_of_under has ((under_drain r as op).2 hop) hev with rfl | hb
      · exact .refl
      · exact .step .refl hallowed hb
    · exact .refl
  · exact ⟨h.leaveScope, .refl⟩
  · exact ⟨h.enterScope scope, .refl⟩

/-- **A whole run under scopes of one name**, by induction on its operations. -/
theorem grows_run (has : ∀ a ∈ as, a.name? = some s) (h : r.drain.2.Steady)
    (hops : r.Throughout (Under as) ops) : (r.run ops).drain.2.Steady ∧
      Grows s r.drain.2.holdings (r.run ops).drain.2.holdings := by
  induction ops generalizing r with
  | nil => exact ⟨h, .refl⟩
  | cons op ops ih =>
    obtain ⟨hop, hops⟩ := hops
    obtain ⟨hsteady, hgrows⟩ := grows_perform has h hop
    obtain ⟨hlast, hrest⟩ := ih hsteady hops
    exact ⟨hlast, hgrows.trans hrest⟩

/-! ## Releases after a run -/

/-- Releases that are due put nothing there. -/
theorem untagged_drain (h : r.snapshot.contents.tagged s = 0) :
    r.drain.2.snapshot.contents.tagged s = 0 := by
  rw [contents_drain]
  generalize r.snapshot.contents = c at h
  induction r.released generalizing c with
  | nil => exact h
  | cons t ts ih => exact ih _ (untagged_release h t)

/-- **What a release comes to**, behind the releases that are due. -/
theorem release_drained (hb : b.name? = some t) :
    Action.outcome (releaseScope b) r = .ok (r.drain.2.snapshot.contents.tagged t) ∧
      (Action.after (releaseScope b) r).holdings = r.drain.2.holdings.without t := by
  have hrun : (releaseScope b).run.run r =
      (.ok (r.drain.2.releaseNow t).1, (r.drain.2.releaseNow t).2) :=
    (releaseScope_drained hb).symm.trans (run_releaseScope_of_idle (released_drain r) hb)
  rw [Action.outcome, Action.after, hrun]
  refine ⟨congrArg Except.ok (result_release _ t), ?_⟩
  rw [releaseNow, holdings, contents_publish]
  exact holdings_release _ t

/-- **The name under which a run has registered everything** is purged by its release. -/
theorem purges_of_under (hr : r.Reachable) (has : ∀ a ∈ as, a.name? = some s)
    (hnone : r.snapshot.contents.tagged s = 0) (hops : r.Throughout (Under as) ops)
    (hb : b.name? = some s) :
    r.Purges ops b ((r.run ops).drain.2.snapshot.contents.tagged s) := by
  have hsteady := steady_drain hr
  obtain ⟨-, hgrows⟩ := grows_run has hsteady hops
  obtain ⟨houtcome, hleft⟩ := release_drained (r := r.run ops) hb
  have hback : (r.run ops).drain.2.holdings.without s = r.drain.2.holdings :=
    (hgrows.without_self hsteady.listed).trans (without_of_untagged (untagged_drain hnone))
  refine ⟨houtcome, hleft.trans hback, fun hzero => ?_, fun hsame => ?_⟩
  · exact (without_of_untagged hzero).symm.trans hback
  · exact untagged_of_holdings (hsame.trans hback.symm)

/-- **Any other name** is missed. -/
theorem misses_of_under (hr : r.Reachable) (has : ∀ a ∈ as, a.name? = some s)
    (hnone : r.snapshot.contents.tagged t = 0) (hops : r.Throughout (Under as) ops)
    (hb : b.name? = some t) (hst : s ≠ t) : r.Misses ops b := by
  have hsteady := steady_drain hr
  obtain ⟨-, hgrows⟩ := grows_run has hsteady hops
  obtain ⟨houtcome, hleft⟩ := release_drained (r := r.run ops) hb
  have hsame : (r.run ops).drain.2.holdings.without t = (r.run ops).drain.2.holdings :=
    hgrows.without_other hsteady.listed hst (without_of_untagged (untagged_drain hnone))
  have hzero : (r.run ops).drain.2.snapshot.contents.tagged t = 0 :=
    untagged_of_holdings hsame.symm
  exact ⟨houtcome.trans (congrArg Except.ok hzero), hleft.trans hsame⟩

/-! ## Handles and texts -/

/-- The name of a scope that a value gives which is not null. -/
theorem name?_value (hn : n ≠ .null) : (ScopeRef.value n).name? =
    if Text.trim n.text == "" then none else some (.str (Text.trim n.text)) := by
  cases n with
  | null => exact absurd rfl hn
  | _ => rfl

/-- **The two names of a scope**: that of its handle, and that of the text of this name. -/
theorem name?_of_makeHandle (hn : ScopeRef.makeHandle n = .ok (.handle n)) :
    (ScopeRef.handle n).name? = some n ∧
      (ScopeRef.value n).name? = some (.str (Text.trim n.text)) := by
  refine ⟨rfl, ?_⟩
  rw [ScopeRef.makeHandle] at hn
  split at hn
  · next haccepted =>
    rw [Bool.and_eq_true, Bool.not_eq_true'] at haccepted
    obtain ⟨htrue, hblank⟩ := haccepted
    -- a text of which nothing is left would be blank, and handles do not accept that
    have hleft : Text.trim n.text ≠ "" := by
      intro hnothing
      rw [trim_eq_empty_iff.1 hnothing] at hblank
      cases hblank
    have hnull : n ≠ .null := by
      rintro rfl
      cases htrue
    rw [name?_value hnull, if_neg (by simpa using hleft)]
  · cases hn

/-- **Releases by handle and by text.** Take a name that handles accept, and a reachable state in
which nothing belongs to a scope of this name, be it a handle or a text. Whatever is queued there:

* If the name is a trimmed text, it is one scope. The releases of the handle and of the text do the
  same in every registry; and what a run registers under the handle or under the text is purged by
  either, with the same result.
* If it is not, it is two scopes. What a run registers under one of them is purged by its release,
  and the release of the other misses it. -/
theorem released_under_handle_or_text (hr : r.Reachable)
    (hn : ScopeRef.makeHandle n = .ok (.handle n))
    (hnone : ∀ a ∈ [ScopeRef.handle n, .value n], ∀ s ∈ a.name?,
      r.snapshot.contents.tagged s = 0) (ops : List Operation) :
    (n = .str (Text.trim n.text) →
      (∀ q, (releaseScope (.handle n)).run.run q = (releaseScope (.value n)).run.run q) ∧
      (r.Throughout (Under [.handle n, .value n]) ops →
        ∃ count, r.Purges ops (.handle n) count ∧ r.Purges ops (.value n) count)) ∧
    (n ≠ .str (Text.trim n.text) →
      ∀ a ∈ [ScopeRef.handle n, .value n], ∀ b ∈ [ScopeRef.handle n, .value n], b ≠ a →
        r.Throughout (Under [a]) ops → (∃ count, r.Purges ops a count) ∧ r.Misses ops b) := by
  obtain ⟨hhandle, htext⟩ := name?_of_makeHandle hn
  have hfree : r.snapshot.contents.tagged n = 0 :=
    hnone (.handle n) List.mem_cons_self n hhandle
  have hfree' : r.snapshot.contents.tagged (.str (Text.trim n.text)) = 0 :=
    hnone (.value n) (by simp) _ htext
  constructor
  · -- both names are the same, so that it does not matter which of them an operation gives
    intro hone
    rw [← hone] at htext
    have hnames : ∀ a ∈ [ScopeRef.handle n, .value n], a.name? = some n := by
      simp [hhandle, htext]
    refine ⟨fun q => ?_, fun hops => ?_⟩
    · rw [run_releaseScope, run_releaseScope, hhandle, htext]
    · exact ⟨_, purges_of_under hr hnames hfree hops hhandle,
        purges_of_under hr hnames hfree hops htext⟩
  · intro htwo a ha b hb hne hops
    simp only [List.mem_cons, List.not_mem_nil, or_false] at ha hb
    rcases ha with rfl | rfl <;> rcases hb with rfl | rfl
    · exact absurd rfl hne
    · have hnames : ∀ a ∈ [ScopeRef.handle n], a.name? = some n := by simp [hhandle]
      exact ⟨⟨_, purges_of_under hr hnames hfree hops hhandle⟩,
        misses_of_under hr hnames hfree' hops htext htwo⟩
    · have hnames : ∀ a ∈ [ScopeRef.value n], a.name? = some (.str (Text.trim n.text)) := by
        simp [htext]
      exact ⟨⟨_, purges_of_under hr hnames hfree' hops htext⟩,
        misses_of_under hr hnames hfree hops hhandle htwo.symm⟩
    · exact absurd rfl hne

/-- A new registry with a type, in which a scope is queued that it is extended for. -/
def themed : Registry :=
  ({ name := "files" } : Registry).run
    [.register (.id ⟨"file", "folder"⟩) [] .none,
      .commit { existing := { id := ⟨"file", "folder"⟩ }
                rules := { children := [{ family := "note" }] } } (.value "theme"),
      .scheduleRelease (.value "theme")]

/-- A type, an extension and a constraint, by handle, by text, and in a scope that is entered. -/
def pluginOps : List Operation :=
  [.register (.id ⟨"file", "note"⟩) [] (.handle "plugin"),
    .commit { existing := { id := ⟨"file", "folder"⟩ }
              rules := { children := [{ family := "file" }] } } (.value " plugin "),
    .enterScope (.value "plugin"),
    .addConstraint
      (.constraint (.placement { id := "no-notes", check := fun _ => pure false })) .none,
    .leaveScope]

theorem released_under_handle_or_text_plugin :
    (∃ count, themed.Purges pluginOps (.handle "plugin") count ∧
      themed.Purges pluginOps (.value "plugin") count) ∧
    (∃ count, themed.Purges
      [.register (.id ⟨"file", "note"⟩) [] (.handle " plugin ")] (.handle " plugin ") count) ∧
    themed.Misses
      [.register (.id ⟨"file", "note"⟩) [] (.handle " plugin ")] (.value " plugin ") := by
  have hr : themed.Reachable := ⟨"files", _, rfl⟩
  have hnone : ∀ n ∈ [(" plugin " : Value), "plugin"], ∀ a ∈ [ScopeRef.handle n, .value n],
      ∀ s ∈ a.name?, themed.snapshot.contents.tagged s = 0 := by decide +kernel
  have hnamed : ("plugin" : Value) = .str (Text.trim ("plugin" : Value).text) := by
    decide +kernel
  have hpadded : (" plugin " : Value) ≠ .str (Text.trim (" plugin " : Value).text) := by
    decide +kernel
  have hops : themed.Throughout (Under [.handle "plugin", .value "plugin"]) pluginOps := by
    decide +kernel
  have hop : themed.Throughout (Under [.handle " plugin "])
      [.register (.id ⟨"file", "note"⟩) [] (.handle " plugin ")] := by
    decide +kernel
  obtain ⟨hone, -⟩ := released_under_handle_or_text hr (n := "plugin") rfl
    (hnone _ (by simp)) pluginOps
  obtain ⟨-, htwo⟩ := released_under_handle_or_text hr (n := " plugin ") rfl
    (hnone _ (by simp)) [.register (.id ⟨"file", "note"⟩) [] (.handle " plugin ")]
  obtain ⟨hpurges, hmisses⟩ := htwo hpadded (.handle " plugin ") List.mem_cons_self
    (.value " plugin ") (by simp) (by simp) hop
  exact ⟨(hone hnamed).2 hops, hpurges, hmisses⟩

/-- **A release does not find every type that was registered under its name.** A handle accepts a
name with blanks around it; a type is registered under the handle; the release of this name, as a
text, takes out nothing, and that of the handle takes out the type. -/
theorem padded_handle_is_missed :
    let new : Registry := { name := "files" }
    let r := new.run [.register (.id ⟨"file", "note"⟩) [] (.handle " plugin ")]
    ScopeRef.makeHandle " plugin " = .ok (.handle " plugin ") ∧
      new.snapshot.contents.tagged " plugin " = 0 ∧ new.snapshot.contents.tagged "plugin" = 0 ∧
      (Action.outcome (releaseScope (.value " plugin ")) r).toOption = some 0 ∧
      (Action.after (releaseScope (.value " plugin ")) r).holdings.registrations.keys =
        [⟨"file", "note"⟩] ∧
      (Action.outcome (releaseScope (.handle " plugin ")) r).toOption = some 1 ∧
      (Action.after (releaseScope (.handle " plugin ")) r).holdings.registrations.keys = [] := by
  refine ⟨rfl, ?_⟩
  decide +kernel

end Taxonomy

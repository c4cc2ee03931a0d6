import Taxonomy.Proofs.Constraint.Judging

/-!
# Malformed rulesets and how they are reported

A document that describes no ruleset is blamed for it: the fault is one of bad input, which a
command turns into a message. Some values get past the checks to a step that wants another kind of
value, and then the fault is that of the step. These values are named here, one constructor for each
way past the checks.

* `PredicateName.Escapes`, `RuleEntry.Escapes`, `Ruleset.Escapes`: the ways past the checks, through
  the parameters of a predicate, through an entry and through a document.
* `failsOnly_demand`, `failsOnly_build`, `failsOnly_rules`: there are no other ones.
* `Ruleset.Escapes.not_badInput`: they are none of bad input.
* `describedBy_of_build`: what comes of an entry that is in order.
* `rulesets_are_reported`: a document is read as it stands, or the fault is one of bad input, or a
  value in the document got past the checks.
-/

namespace Taxonomy

variable {f : Fault}

/-! ## Values that are written out or converted -/

theorem failsOnly_written (v : Value) : FailsOnly (fun f => f.isBadInput = true) v.written :=
  failsOnly_ite (failsOnly_throw rfl) (failsOnly_pure _)

theorem failsOnly_quoted (v : Value) : FailsOnly (fun f => f.isBadInput = true) v.quoted :=
  failsOnly_ite (failsOnly_throw rfl) (failsOnly_pure _)

theorem failsOnly_textEntry (es : Params) (key default : String) :
    FailsOnly (fun f => f.isBadInput = true) (textEntry es key default) :=
  failsOnly_bind (failsOnly_written _) fun _ _ => failsOnly_pure _

/-- **Values that stand for no integer**, apart from texts and numbers that are faulty themselves:
infinity, and what is neither a number nor a text. -/
inductive Value.NoInteger : Value → Fault → Prop where
  | infinite (s : Bool) : NoInteger (.float (.infinite s)) .infiniteInteger
  | otherKind {v : Value} (hnumber : v.number? = none) (htext : ∀ s, v ≠ .str s) :
    NoInteger v (.misfit v (.notConvertible "int" "a string, a bytes-like object or a real number"))

theorem failsOnly_toInteger (v : Value) :
    FailsOnly (fun f => f.isBadInput = true ∨ v.NoInteger f) v.toInteger := by
  cases v with
  | bool b => exact failsOnly_pure _
  | int n => exact failsOnly_pure _
  | float x =>
    cases x with
    | finite s m e => exact failsOnly_pure _
    | infinite s => exact failsOnly_throw (.inr (.infinite s))
    | nan => exact failsOnly_throw (.inl rfl)
  | str s =>
    change FailsOnly _ (integerOfText s)
    unfold integerOfText
    split
    · exact failsOnly_pure _
    · exact failsOnly_throw (.inl rfl)
    · exact failsOnly_throw (.inl rfl)
  | null => exact failsOnly_throw (.inr (.otherKind rfl nofun))
  | list vs => exact failsOnly_throw (.inr (.otherKind rfl nofun))
  | tuple vs => exact failsOnly_throw (.inr (.otherKind rfl nofun))
  | table es => exact failsOnly_throw (.inr (.otherKind rfl nofun))
  | moment m => exact failsOnly_throw (.inr (.otherKind rfl nofun))

theorem failsOnly_elementsOf (v : Value) :
    FailsOnly (fun f => v.iterate? = none ∧ f = .misfit v .notIterable) (elementsOf v) := by
  unfold elementsOf
  cases v.iterate? with
  | some vs => exact failsOnly_pure _
  | none => exact failsOnly_throw ⟨rfl, rfl⟩

theorem failsOnly_cleanPart (part : Part) (v : Value) :
    FailsOnly (fun f => f.isBadInput = true) (cleanPart part v) :=
  failsOnly_ite (failsOnly_throw rfl) (failsOnly_pure _)

/-- The parts of a pattern are read from a text, or from a value that counts as none. -/
theorem failsOnly_readPattern (v : Value) :
    FailsOnly (fun f => f.isBadInput = true ∨ (v.isTruthy = true ∧ ∀ s, v ≠ .str s) ∧
      f = .misfit v (.noMethod "strip")) (TypePattern.read v) := by
  have hmake : ∀ family subtype : Value, FailsOnly (fun f => f.isBadInput = true)
      (TypePattern.make family subtype) := fun family subtype =>
    failsOnly_bind (failsOnly_cleanPart _ _) fun _ _ =>
      failsOnly_bind (failsOnly_cleanPart _ _) fun _ _ => failsOnly_pure _
  unfold TypePattern.read
  refine failsOnly_bind ?_ fun s _ => ?_
  · unfold refText
    cases htruthy : v.isTruthy with
    | false => exact failsOnly_pure _
    | true =>
      split
      · exact failsOnly_pure _
      · split
        · exact failsOnly_pure _
        · next hs => exact failsOnly_throw (.inr ⟨⟨rfl, hs⟩, rfl⟩)
  · refine failsOnly_ite (failsOnly_pure _) ?_
    split
    · exact (hmake _ _).mono fun _ => .inl
    · exact failsOnly_throw (.inl rfl)

theorem failsOnly_readPattern_str (s : String) :
    FailsOnly (fun f => f.isBadInput = true) (TypePattern.read (.str s)) :=
  (failsOnly_readPattern (.str s)).mono fun _ h => h.resolve_right fun ⟨⟨_, hs⟩, _⟩ => hs s rfl

/-! ## Parameters of predicates -/

/-- **Parameters that get past the checks of a predicate**: what should be a list has no elements,
an element of a list of types is no text, or an expression is given up for a reason of its own. -/
inductive PredicateName.Escapes (p : PredicateName) (params : Params) : Fault → Prop where
  | noList {key : String} {v : Value}
    (hkey : (p, key) ∈ [(denyChildType, "types"), (enum, "values")])
    (h : params.lookup key = some v) (hv : v.iterate? = none) : Escapes p params
      (.misfit v .notIterable)
  | noText {v e : Value} {vs : List Value} (hp : p = denyChildType)
    (h : params.lookup "types" = some v) (hv : v.iterate? = some vs) (he : e ∈ vs)
    (htruthy : e.isTruthy = true) (htext : ∀ s, e ≠ .str s) : Escapes p params
      (.misfit e (.noMethod "strip"))
  | expression {v : Value} {cause : RegexFault} {label : String}
    (hp : p ∈ [denyChildName, regex, requireChildName]) (h : params.lookup "pattern" = some v)
    (hcause : Regex.parse v.text = .error cause) (hlabel : cause.label? = some label)
    (hother : label ≠ "ValueError") : Escapes p params (.raised label (cause.message v.text))

theorem failsOnly_requiredParam (params : Params) (name : String) (p : PredicateName) :
    FailsOnly (fun f => f.isBadInput = true) (requiredParam params name p) := by
  unfold requiredParam
  cases params.lookup name with
  | some v => exact failsOnly_pure _
  | none => exact failsOnly_throw rfl

theorem lookup_of_requiredParam {params : Params} {name : String} {p : PredicateName} {v : Value}
    (h : requiredParam params name p = .ok v) : params.lookup name = some v := by
  unfold requiredParam at h
  cases hv : params.lookup name with
  | some w =>
    rw [hv] at h
    rw [Except.ok.inj h]
  | none =>
    rw [hv] at h
    cases h

theorem failsOnly_patternParam {params : Params} {p : PredicateName}
    (hp : p ∈ [PredicateName.denyChildName, .regex, .requireChildName]) :
    FailsOnly (fun f => f.isBadInput = true ∨ p.Escapes params f) (patternParam params p) := by
  refine failsOnly_bind ((failsOnly_requiredParam params _ p).mono fun _ => .inl) fun v hv => ?_
  refine failsOnly_bind ((failsOnly_written v).mono fun _ => .inl) fun s hs => ?_
  have hlookup := lookup_of_requiredParam hv
  have htext : s = v.text := by
    unfold Value.written at hs
    split at hs
    · cases hs
    · exact (Except.ok.inj hs).symm
  subst htext
  unfold compile
  cases hparse : Regex.parse v.text with
  | ok regex => exact failsOnly_pure _
  | error cause =>
    cases hlabel : cause.label? with
    | none =>
      simp only [hlabel]
      exact failsOnly_throw (.inl rfl)
    | some label =>
      simp only [hlabel]
      refine failsOnly_throw ?_
      by_cases hvalue : label = "ValueError"
      · subst hvalue
        exact .inl rfl
      · exact .inr (.expression hp hlookup hparse hlabel hvalue)

theorem failsOnly_elementsParam {params : Params} {key : String} {p : PredicateName}
    (hkey : (p, key) ∈ [(PredicateName.denyChildType, "types"), (.enum, "values")]) :
    FailsOnly (fun f => f.isBadInput = true ∨ p.Escapes params f) (elementsParam params key p) := by
  refine failsOnly_bind ((failsOnly_requiredParam params key p).mono fun _ => .inl) fun v hv => ?_
  split
  · exact failsOnly_pure _
  · refine (failsOnly_elementsOf v).mono fun f hf => ?_
    obtain ⟨hnone, rfl⟩ := hf
    exact .inr (.noList hkey (lookup_of_requiredParam hv) hnone)

/-- An element of a parameter is its only text, or one of the elements that it has. -/
theorem of_mem_elementsParam {params : Params} {key : String} {p : PredicateName} {e : Value}
    {vs : List Value} (h : elementsParam params key p = .ok vs) (he : e ∈ vs) :
    (∃ s, e = .str s) ∨ ∃ v, params.lookup key = some v ∧ v.iterate? = some vs := by
  obtain ⟨v, hv, h⟩ := ok_of_bind h
  have hlookup := lookup_of_requiredParam hv
  split at h
  · next s =>
    obtain rfl := Except.ok.inj h
    exact .inl ⟨s, List.mem_singleton.1 he⟩
  · unfold elementsOf at h
    split at h
    · next ws hws =>
      obtain rfl := Except.ok.inj h
      exact .inr ⟨v, hlookup, hws⟩
    · cases h

/-- **What a predicate demands** cannot be made of parameters that are bad input, or get past the
checks. -/
theorem failsOnly_demand (p : PredicateName) (params : Params) :
    FailsOnly (fun f => f.isBadInput = true ∨ p.Escapes params f) (p.demand params) := by
  have hbounds : FailsOnly (fun f => f.isBadInput = true ∨ p.Escapes params f)
      (boundsParam params p) := by
    unfold boundsParam
    split
    · exact failsOnly_throw (.inl rfl)
    · exact failsOnly_pure _
  cases p with
  | denyChildName =>
    exact failsOnly_bind (failsOnly_patternParam (by decide)) fun _ _ => failsOnly_pure _
  | requireChildName =>
    exact failsOnly_bind (failsOnly_patternParam (by decide)) fun _ _ => failsOnly_pure _
  | regex => exact failsOnly_bind (failsOnly_patternParam (by decide)) fun _ _ => failsOnly_pure _
  | denyChildType =>
    refine failsOnly_bind (failsOnly_elementsParam (by decide)) fun vs hvs => ?_
    refine failsOnly_bind (failsOnly_mapM vs fun e he => ?_) fun _ _ => failsOnly_pure _
    refine (failsOnly_readPattern e).mono fun f hf => hf.imp id ?_
    rintro ⟨⟨htruthy, htext⟩, rfl⟩
    rcases of_mem_elementsParam hvs he with ⟨s, hs⟩ | ⟨v, hv, hiter⟩
    · exact absurd hs (htext s)
    · exact .noText rfl hv hiter he htruthy htext
  | enum =>
    refine failsOnly_bind (failsOnly_elementsParam (by decide)) fun vs _ => ?_
    refine failsOnly_bind (failsOnly_mapM vs fun e _ => ?_) fun _ _ => failsOnly_pure _
    exact (failsOnly_written e).mono fun _ => .inl
  | length => exact failsOnly_bind hbounds fun _ _ => failsOnly_pure _
  | range => exact failsOnly_bind hbounds fun _ _ => failsOnly_pure _
  | required => exact failsOnly_pure _
  | positiveInt => exact failsOnly_pure _

/-! ## Entries -/

/-- **Entries that get past the checks**: a parameter bears the name of an argument, or the
parameters get past the checks of the predicate. -/
inductive RuleEntry.Escapes (e : RuleEntry) : Fault → Prop where
  | argument {key : String} {v : Value} (h : (key, v) ∈ e.params)
    (hkey : key ∈ namedArguments e.kind) : Escapes e
      (.call s!"metatypes.constraints.predicates.{e.kind.builder}" (.repeatedName key))
  | leading {key : String} {v : Value} (h : (key, v) ∈ e.params) (hkey : key ∈ leadingArguments) :
    Escapes e (.call e.kind.builder (.repeated key))
  | demand {f : Fault} (h : e.predicate.Escapes e.params f) : Escapes e f

/-- A checked loop that comes to its end has one result per element, in order. -/
theorem forall₂_of_mapM {α β : Type} {g : α → Result β} {xs : List α} {ys : List β}
    (h : xs.mapM g = .ok ys) : List.Forall₂ (fun x y => g x = .ok y) xs ys := by
  induction xs generalizing ys with
  | nil =>
    obtain rfl := Except.ok.inj h
    exact .nil
  | cons x xs ih =>
    rw [List.mapM_cons] at h
    obtain ⟨y, hy, h⟩ := ok_of_bind h
    obtain ⟨rest, hrest, h⟩ := ok_of_bind h
    obtain rfl := Except.ok.inj h
    exact .cons hy (ih hrest)

/-- What stands in the second of two lists has something in the first. -/
theorem exists_left_of_forall₂ {α β : Type} {R : α → β → Prop} {xs : List α} {ys : List β}
    (h : List.Forall₂ R xs ys) {y : β} (hy : y ∈ ys) : ∃ x ∈ xs, R x y := by
  induction h with
  | nil => cases hy
  | @cons x y' xs ys hxy hrest ih =>
    rcases List.mem_cons.1 hy with rfl | hy
    · exact ⟨x, List.mem_cons_self, hxy⟩
    · obtain ⟨x', hx', hR⟩ := ih hy
      exact ⟨x', List.mem_cons_of_mem _ hx', hR⟩

/-- Two steps from list to list, element by element, are one. -/
theorem forall₂_comp {α β γ : Type} {R : α → β → Prop} {S : β → γ → Prop} {T : α → γ → Prop}
    {xs : List α} {ys : List β} {zs : List γ} (hxy : List.Forall₂ R xs ys)
    (hyz : List.Forall₂ S ys zs) (h : ∀ x y z, R x y → S y z → T x z) :
    List.Forall₂ T xs zs := by
  induction hxy generalizing zs with
  | nil =>
    cases hyz
    exact .nil
  | cons hx hrest ih =>
    rcases hyz with - | ⟨hz, hzs⟩
    exact .cons (h _ _ _ hx hz) (ih hzs)

/-- **The arguments of an entry's constraint** are those that its kind takes by name; the patterns
among them are texts. -/
theorem exists_arguments {e : RuleEntry} {args : Params} (h : e.arguments = .ok args) :
    ∃ a b flag, args =
      (namedArguments e.kind).zip [.str e.description, .str a, .str b, .bool flag] := by
  obtain ⟨parts, hparts, h⟩ := ok_of_bind h
  obtain rfl := Except.ok.inj h
  have htwo : ∀ {first second : String}, List.Forall₂ (fun (key : String) part =>
      (do return (key, Value.str (← ((e.selector.lookup key).getD wildcard).written)) :
        Result (String × Value)) = .ok part) [first, second] parts →
      ∃ a b, parts = [(first, .str a), (second, .str b)] := by
    intro first second hall
    rcases hall with - | ⟨hp, - | ⟨hq, - | -⟩⟩
    obtain ⟨a, -, hp⟩ := ok_of_bind hp
    obtain ⟨b, -, hq⟩ := ok_of_bind hq
    obtain rfl := Except.ok.inj hp
    obtain rfl := Except.ok.inj hq
    exact ⟨a, b, rfl⟩
  have hall := forall₂_of_mapM hparts
  cases hkind : e.kind with
  | placement =>
    rw [hkind] at hall
    obtain ⟨a, b, rfl⟩ := htwo hall
    exact ⟨a, b, _, rfl⟩
  | validation =>
    rw [hkind] at hall
    obtain ⟨a, b, rfl⟩ := htwo hall
    exact ⟨a, b, _, rfl⟩

theorem failsOnly_arguments (e : RuleEntry) :
    FailsOnly (fun f => f.isBadInput = true) e.arguments := by
  refine failsOnly_bind (failsOnly_mapM _ fun key _ => ?_) fun _ _ => failsOnly_pure _
  exact failsOnly_bind (failsOnly_written _) fun _ _ => failsOnly_pure _

theorem failsOnly_describeParams (params : Params) :
    FailsOnly (fun f => f.isBadInput = true) (describeParams params) := by
  refine failsOnly_bind (failsOnly_mapM _ fun p _ => ?_) fun _ _ => failsOnly_pure _
  exact failsOnly_bind (failsOnly_quoted _) fun _ _ => failsOnly_pure _

/-- A constraint is described by words of its own, or by its predicate and the parameters. -/
theorem failsOnly_described {words : Value} {params : Params} {describe : String → Value}
    {finish : Value → Result Constraint}
    (h : ∀ description, FailsOnly (fun f => f.isBadInput = true) (finish description)) :
    FailsOnly (fun f => f.isBadInput = true)
      (if words.isTruthy = true then pure words >>= finish
      else describeParams params >>= fun parts => pure (describe parts) >>= finish) := by
  split
  · exact failsOnly_bind (failsOnly_pure _) fun _ _ => h _
  · refine failsOnly_bind (failsOnly_describeParams _) fun _ _ => ?_
    exact failsOnly_bind (failsOnly_pure _) fun _ _ => h _

theorem failsOnly_readConstraintId (id : Value) :
    FailsOnly (fun f => f.isBadInput = true) (readConstraintId id) :=
  failsOnly_ite (failsOnly_throw rfl) (failsOnly_pure _)

theorem ofText?_text (p : PredicateName) : PredicateName.ofText? (.str p.text) = some p := by
  cases p <;> decide

/-- Something is found under the keys of a list of entries, and under no others. -/
theorem isSome_lookup_iff {α : Type} {es : List (String × α)} {key : String} :
    (es.lookup key).isSome = true ↔ key ∈ es.map Prod.fst := by
  induction es with
  | nil => simp
  | cons e es ih =>
    rw [List.lookup_cons, List.map_cons, List.mem_cons, ← ih]
    cases h : key == e.1 with
    | true => simp [beq_iff_eq.1 h]
    | false => simp [beq_eq_false_iff_ne.1 h]

/-- Parameters that bear no name of an argument are those that are left without the arguments. -/
theorem filter_arguments {kind : ConstraintKind} {args params : Params}
    (hargs : args.map Prod.fst = namedArguments kind)
    (hparams : ∀ p ∈ params, p.1 ∉ namedArguments kind) :
    (args ++ params).filter (fun p => !(namedArguments kind).contains p.1) = params := by
  have hnone : args.filter (fun p => !(namedArguments kind).contains p.1) = [] := by
    refine List.filter_eq_nil_iff.2 fun p hp => ?_
    have hmem : p.1 ∈ namedArguments kind := hargs ▸ List.mem_map_of_mem hp
    simp [hmem]
  have hall : params.filter (fun p => !(namedArguments kind).contains p.1) = params :=
    List.filter_eq_self.2 fun p hp => by simp [hparams p hp]
  rw [List.filter_append, hnone, hall, List.nil_append]

/-- No argument of an entry's constraint stands first. -/
theorem not_leading_of_mem {kind : ConstraintKind} {args : Params}
    (hargs : args.map Prod.fst = namedArguments kind) {p : String × Value} (hp : p ∈ args) :
    p.1 ∉ leadingArguments := by
  have hmem : p.1 ∈ namedArguments kind := hargs ▸ List.mem_map_of_mem hp
  have hapart : ∀ key ∈ namedArguments kind, key ∉ leadingArguments := by
    cases kind <;> decide
  exact hapart _ hmem

/-- **An entry that makes no constraint** is bad input, or gets past the checks. -/
theorem failsOnly_build (e : RuleEntry) :
    FailsOnly (fun f => f.isBadInput = true ∨ e.Escapes f) e.build := by
  refine failsOnly_bind ((failsOnly_arguments e).mono fun _ => .inl) fun args hargs => ?_
  obtain ⟨a, b, flag, hzip⟩ := exists_arguments hargs
  have hkeys : args.map Prod.fst = namedArguments e.kind := by
    rw [hzip]
    cases e.kind <;> rfl
  unfold makeConstraint
  split
  · next key v hfind =>
    have hkey : (args.lookup key).isSome = true :=
      List.find?_some (p := fun q : String × Value => (args.lookup q.1).isSome) hfind
    rw [isSome_lookup_iff, hkeys] at hkey
    refine failsOnly_bind (failsOnly_throw ?_) fun _ h => nomatch h
    exact .inr (.argument (List.mem_of_find?_eq_some hfind) hkey)
  next hnone =>
  have hfree : ∀ p ∈ e.params, p.1 ∉ namedArguments e.kind := by
    intro p hp hkey
    have hfound : (e.params.find? fun p => (args.lookup p.1).isSome).isSome := by
      rw [List.find?_isSome]
      exact ⟨p, hp, isSome_lookup_iff.2 (hkeys ▸ hkey)⟩
    obtain ⟨q, hq⟩ := Option.isSome_iff_exists.1 hfound
    exact hnone q.1 q.2 hq
  extract_lets given params argument descendants words named checked
  have hparams : params = e.params := filter_arguments hkeys hfree
  simp only [checked]
  split
  · next key v hfind =>
    have hkey : key ∈ leadingArguments := by simpa using List.find?_some hfind
    refine failsOnly_bind (failsOnly_throw ?_) fun _ h => nomatch h
    rcases List.mem_append.1 (List.mem_of_find?_eq_some hfind) with hmem | hmem
    · exact absurd hkey (not_leading_of_mem hkeys hmem)
    · exact .inr (.leading hmem hkey)
  simp only [named]
  refine failsOnly_bind (failsOnly_pure _) fun key hkey => ?_
  obtain rfl : Value.str e.predicate.text = key := Except.ok.inj hkey
  rw [ofText?_text]
  simp only
  refine failsOnly_unless (.inl rfl) fun _ => ?_
  -- behind the demand nothing gets past the checks any more
  have hdemand := failsOnly_demand e.predicate params
  rw [hparams] at hdemand ⊢
  refine failsOnly_bind (hdemand.mono fun _ => .imp id .demand) fun demand hd => ?_
  have hof : demand.kind = e.kind := ensures_demand _ _ demand hd
  refine (failsOnly_described fun description => ?_).mono fun _ => .inl
  cases demand with
  | placement p =>
    have hkind : e.kind = .placement := hof.symm
    rw [hkind] at hzip
    subst hzip
    refine failsOnly_bind (failsOnly_readPattern_str a) fun _ _ => ?_
    refine failsOnly_bind (failsOnly_readPattern_str b) fun _ _ => ?_
    exact failsOnly_bind (failsOnly_readConstraintId _) fun _ _ => failsOnly_pure _
  | validation p =>
    have hkind : e.kind = .validation := hof.symm
    rw [hkind] at hzip
    subst hzip
    refine failsOnly_bind (failsOnly_readPattern_str a) fun _ _ => ?_
    refine failsOnly_bind ?_ fun _ _ => failsOnly_pure _
    refine failsOnly_bind (failsOnly_readConstraintId _) fun _ _ => ?_
    exact failsOnly_bind (failsOnly_readPattern_str _) fun _ _ => failsOnly_pure _

/-- A text that an entry of a table gives is trimmed. -/
theorem trim_textEntry {es : Params} {key default s : String}
    (h : textEntry es key default = .ok s) : Text.trim s = s := by
  obtain ⟨t, -, h⟩ := ok_of_bind h
  obtain rfl := Except.ok.inj h
  exact Text.trim_trim t

/-- The id of a constraint is the trimmed text that it is read from. -/
theorem readConstraintId_str {s id : String} (h : readConstraintId (.str s) = .ok id) :
    id = Text.trim s := by
  unfold readConstraintId at h
  by_cases hs : s = ""
  · subst hs
    cases h
  · have htruthy : (Value.str s).isTruthy = true := by simpa [Value.isTruthy] using hs
    rw [if_pos htruthy] at h
    simp only at h
    split at h
    · cases h
    · exact (Except.ok.inj h).symm

/-- An entry whose table is not in order is bad input. -/
theorem failsOnly_entry (ruleset : String) (t : Params) :
    FailsOnly (fun f => f.isBadInput = true) (RuleEntry.ofTable ruleset t) := by
  unfold RuleEntry.ofTable
  refine failsOnly_bind (failsOnly_textEntry _ _ _) fun id _ => ?_
  refine failsOnly_unless rfl fun _ => ?_
  refine failsOnly_bind (failsOnly_textEntry _ _ _) fun name _ => ?_
  split
  · refine failsOnly_bind (failsOnly_textEntry _ _ _) fun kind _ => ?_
    exact failsOnly_unless rfl fun _ => failsOnly_pure _
  · exact failsOnly_throw rfl

/-- **The constraint is what the table of an entry describes**: it has the id that the entry gives,
and the kind of the predicate that the entry names. -/
structure Constraint.DescribedBy (k : Constraint) (t : Params) : Prop where
  id : textEntry t "id" = .ok k.id
  kind : ∃ p : PredicateName,
    textEntry (tableOf (t.lookup "predicate")) "name" = .ok p.text ∧ k.kind = p.kind

/-- The entry of a table has the id and the predicate that the table gives. -/
theorem ensures_entry (ruleset : String) (t : Params) :
    Ensures (fun e => textEntry t "id" = .ok e.id ∧
      textEntry (tableOf (t.lookup "predicate")) "name" = .ok e.predicate.text)
      (RuleEntry.ofTable ruleset t) := by
  unfold RuleEntry.ofTable
  refine ensures_bind fun id hid => ?_
  refine ensures_unless fun _ => ?_
  refine ensures_bind fun name hname => ?_
  split
  · next p hp =>
    have htext : name = p.text := by
      have := List.find?_some hp
      simpa using this
    refine ensures_bind fun kind _ => ?_
    exact ensures_unless fun _ => ensures_pure ⟨hid, htext ▸ hname⟩
  · exact ensures_throw _

/-- **What comes of an entry that is in order** is what its table describes. -/
theorem describedBy_of_build {ruleset : String} {t : Params} {e : RuleEntry} {k : Constraint}
    (he : RuleEntry.ofTable ruleset t = .ok e) (hk : e.build = .ok k) : k.DescribedBy t := by
  obtain ⟨hid, hname⟩ := ensures_entry ruleset t e he
  obtain ⟨args, -, hk⟩ := ok_of_bind hk
  have hmade := ensures_madeFrom _ _ _ _ _ k hk
  have hsame : k.id = e.id := (readConstraintId_str hmade.id).trans (trim_textEntry hid)
  exact ⟨hsame ▸ hid, e.predicate, hname, hmade.kind⟩

/-! ## Documents -/

/-- The value, if it is a table. -/
def Value.table? : Value → Option Params
  | .table es => some es
  | _ => none

namespace Ruleset

/-- **The entries of a document** that are tables, in order. -/
def tables (es : Params) : List Params :=
  (((es.lookup "constraints").getD (.list [])).iterate?.getD []).filterMap Value.table?

/-- **Documents that get past the checks**: the version stands for no integer, the constraints have
no elements, or one of the entries gets past the checks. -/
inductive Escapes (es : Params) : Fault → Prop where
  | version {v : Value} {f : Fault} (h : es.lookup "version" = some v) (hv : v.NoInteger f) :
    Escapes es f
  | constraints {v : Value} (h : es.lookup "constraints" = some v) (hv : v.iterate? = none) :
    Escapes es (.misfit v .notIterable)
  | entry {ruleset : String} {t : Params} {e : RuleEntry} {f : Fault} (ht : t ∈ tables es)
    (he : RuleEntry.ofTable ruleset t = .ok e) (h : e.Escapes f) : Escapes es f

/-- **What gets past the checks is not blamed on the input.** -/
theorem Escapes.not_badInput {es : Params} (h : Escapes es f) : f.isBadInput = false := by
  cases h with
  | version _ hv => cases hv <;> rfl
  | constraints => rfl
  | entry _ _ h =>
    cases h with
    | argument => rfl
    | leading => rfl
    | demand h =>
      cases h with
      | noList => rfl
      | noText => rfl
      | @expression v cause label _ _ _ hlabel hother =>
        cases cause with
        | repeatTooLarge => obtain rfl := Option.some.inj hlabel; rfl
        | mixedClasses => obtain rfl := Option.some.inj hlabel; exact absurd rfl hother
        | lookBehindTooWide => obtain rfl := Option.some.inj hlabel; rfl
        | brokenSpan => obtain rfl := Option.some.inj hlabel; rfl
        | «at» => cases hlabel
        | lookBehindWidth => cases hlabel
        | templateRepeat => cases hlabel

/-- The entries of a ruleset are those of the document that are tables, in order. -/
theorem ensures_ofTable (es : Params) :
    Ensures (fun r => ∃ ruleset, List.Forall₂ (fun t e => RuleEntry.ofTable ruleset t = .ok e)
      (tables es) r.entries) (ofTable es) := by
  unfold ofTable
  refine ensures_bind fun ruleset _ => ?_
  refine ensures_unless fun _ => ?_
  refine ensures_bind fun version _ => ?_
  refine ensures_unless fun _ => ?_
  refine ensures_bind fun raw hraw => ?_
  refine ensures_bind fun entries hentries => ensures_pure ⟨ruleset, ?_⟩
  have hall := forall₂_of_mapM hentries
  have hiter : ((es.lookup "constraints").getD (.list [])).iterate? = some raw := by
    unfold elementsOf at hraw
    split at hraw
    · next vs hvs => rw [hvs, Except.ok.inj hraw]
    · cases hraw
  rw [tables, hiter]
  exact hall

/-- **A document that describes no ruleset** is bad input, or gets past the checks. -/
theorem failsOnly_ofTable (es : Params) :
    FailsOnly (fun f => f.isBadInput = true ∨ Escapes es f) (ofTable es) := by
  unfold ofTable
  refine failsOnly_bind ((failsOnly_textEntry _ _ _).mono fun _ => .inl) fun ruleset _ => ?_
  refine failsOnly_unless (.inl rfl) fun _ => ?_
  refine failsOnly_bind ?_ fun version _ => ?_
  · cases hv : es.lookup "version" with
    | none => exact failsOnly_pure _
    | some v => exact (failsOnly_toInteger v).mono fun _ => Or.imp_right (.version hv)
  refine failsOnly_unless (.inl rfl) fun _ => ?_
  refine failsOnly_bind ?_ fun raw _ => ?_
  · cases hv : es.lookup "constraints" with
    | none => exact failsOnly_pure _
    | some v =>
      refine (failsOnly_elementsOf v).mono fun f hf => .inr ?_
      obtain ⟨hnone, rfl⟩ := hf
      exact .constraints hv hnone
  refine failsOnly_bind (failsOnly_mapM _ fun t _ => ?_) fun _ _ => failsOnly_pure _
  exact (failsOnly_entry ruleset t).mono fun _ => .inl

/-- **A document that makes no constraints** is bad input, or gets past the checks. -/
theorem failsOnly_rules (es : Params) :
    FailsOnly (fun f => f.isBadInput = true ∨ Escapes es f) (ofTable es >>= build) := by
  refine failsOnly_bind (failsOnly_ofTable es) fun r hr => ?_
  obtain ⟨ruleset, hall⟩ := ensures_ofTable es r hr
  refine failsOnly_mapM _ fun e he => ?_
  obtain ⟨t, ht, hte⟩ := exists_left_of_forall₂ hall he
  exact (failsOnly_build e).mono fun _ => Or.imp_right (.entry ht hte)

/-- **A document that makes constraints** makes one of each of its entries, in order. -/
theorem ensures_rules (es : Params) :
    Ensures (List.Forall₂ (fun t k => k.DescribedBy t) (tables es)) (ofTable es >>= build) := by
  intro ks hks
  obtain ⟨r, hr, hks⟩ := ok_of_bind hks
  obtain ⟨ruleset, hentries⟩ := ensures_ofTable es r hr
  exact forall₂_comp hentries (forall₂_of_mapM hks) fun _ _ _ => describedBy_of_build

end Ruleset

/-- The document of a file, with line ends of one kind. -/
def FileTree.document (files : FileTree) (path : Path) : Result String := do
  let s ← (← files.read path).read
  return String.ofList (Text.unifyLineEnds s.toList)

/-- The ruleset of a file that can be read and whose document is a table. -/
theorem load_of_parse {files : FileTree} {path : Path} {document : String} {es : Params}
    (hread : files.document path = .ok document) (hparse : Toml.parse document = .ok es) :
    Ruleset.load files path = Ruleset.ofTable es := by
  obtain ⟨content, hcontent, hread⟩ := ok_of_bind hread
  obtain ⟨s, hs, hread⟩ := ok_of_bind hread
  obtain rfl := Except.ok.inj hread
  have htable : ∀ malformed, readToml (String.ofList (Text.unifyLineEnds s.toList)) malformed =
      .ok es := by
    intro malformed
    unfold readToml
    rw [hparse]
    rfl
  unfold Ruleset.load
  rw [hcontent]
  simp only [bind, Except.bind, hs, htable]

/-- **Malformed rulesets are reported**, with few exceptions. Take a file whose document is a table.
Either the document makes constraints, one of each table among the entries of `constraints`, in
order, with the id of the entry and the kind of the predicate that the entry names. Or it makes none
for a reason that is blamed on the input, except exactly where a value in the document gets past the
checks. -/
theorem rulesets_are_reported {files : FileTree} {path : Path} {document : String} {es : Params}
    (hread : files.document path = .ok document) (hparse : Toml.parse document = .ok es) :
    (∃ ks, (Ruleset.load files path >>= Ruleset.build) = .ok ks ∧
      List.Forall₂ (fun t k => k.DescribedBy t) (Ruleset.tables es) ks) ∨
    ∃ f, (Ruleset.load files path >>= Ruleset.build) = .error f ∧
      (f.isBadInput = false ↔ Ruleset.Escapes es f) := by
  rw [load_of_parse hread hparse]
  cases hresult : Ruleset.ofTable es >>= Ruleset.build with
  | ok ks => exact .inl ⟨ks, rfl, Ruleset.ensures_rules es ks hresult⟩
  | error f =>
    refine .inr ⟨f, rfl, fun hbad => ?_, Ruleset.Escapes.not_badInput⟩
    refine (Ruleset.failsOnly_rules es f hresult).resolve_left fun hinput => ?_
    rw [hbad] at hinput
    cases hinput

/-- A file with a document, and nothing else. -/
def FileTree.single (document : String) : FileTree :=
  { anchor := "/", files := [(["rules.toml"], .text document)] }

/-- Where the document of such a tree is. -/
def rulesPath : Path := { parts := ["rules.toml"] }

theorem document_single {document : String}
    (h : Text.unifyLineEnds document.toList = document.toList) :
    (FileTree.single document).document rulesPath = .ok document := by
  have hfind : (FileTree.single document).find rulesPath = .file (.text document) := by
    have hnul : ¬ rulesPath.text.contains '\x00' = true := by
      rw [String.contains_char_eq]
      decide +kernel
    have hshort : ¬ FileTree.pathLimit < rulesPath.text.utf8ByteSize := by decide +kernel
    rw [FileTree.find, if_neg hnul, if_neg hshort]
    rfl
  rw [FileTree.document, FileTree.read, hfind]
  change Except.ok (String.ofList (Text.unifyLineEnds document.toList)) = .ok document
  rw [h, String.ofList_toList]

/-- A ruleset with one constraint, and with a number among its entries. -/
def mediaRules : String :=
  "ruleset_id = \"media\"\nversion = 2\nconstraints = [\x7bid = \" sizes \", " ++
    "description = \"d\", predicate = \x7bname = \"required\"\x7d\x7d, 7]\n"

/-- Its entry. -/
def sizesEntry : Params :=
  [("id", " sizes "), ("description", "d"), ("predicate", .table [("name", "required")])]

/-- The table of this document. -/
def mediaTable : Params :=
  [("ruleset_id", "media"), ("version", .int 2),
    ("constraints", .list [.table sizesEntry, .int 7])]

theorem parse_mediaRules : Toml.parse mediaRules = .ok mediaTable :=
  ok_of_toOption (by decide +kernel)

/-- The constraint of the one entry is made, under its trimmed id; the number makes none. -/
theorem rulesets_are_reported_media :
    (FileTree.single mediaRules).document rulesPath = .ok mediaRules ∧
      Toml.parse mediaRules = .ok mediaTable ∧
      ∃ k, (Ruleset.load (FileTree.single mediaRules) rulesPath >>= Ruleset.build) = .ok [k] ∧
        k.DescribedBy sizesEntry ∧ k.id = "sizes" := by
  have hread : (FileTree.single mediaRules).document rulesPath = .ok mediaRules :=
    document_single (by decide +kernel)
  have hok : (Ruleset.load (FileTree.single mediaRules) rulesPath >>=
      Ruleset.build).isOk = true := by
    rw [load_of_parse hread parse_mediaRules]
    decide +kernel
  refine ⟨hread, parse_mediaRules, ?_⟩
  rcases rulesets_are_reported hread parse_mediaRules with ⟨ks, hks, hall⟩ | ⟨f, hf, -⟩
  · have htables : Ruleset.tables mediaTable = [sizesEntry] := rfl
    rw [htables] at hall
    rcases hall with - | ⟨hk, - | -⟩
    have hid : textEntry sizesEntry "id" = .ok "sizes" := ok_of_toOption (by decide +kernel)
    exact ⟨_, hks, hk, Except.ok.inj (hk.id.symm.trans hid)⟩
  · rw [hf] at hok
    cases hok

/-- A ruleset whose version is a list. -/
def listedVersion : String := "ruleset_id = \"r\"\nversion = [1]\n"

theorem parse_listedVersion :
    Toml.parse listedVersion = .ok [("ruleset_id", "r"), ("version", .list [.int 1])] :=
  ok_of_toOption (by decide +kernel)

/-- **A malformed ruleset is not always reported.** The document can be read and is a table, and its
version is a list, which no integer can be asked of. The fault of the conversion is no fault of
input and none of a file, so that it is not turned into a message. -/
theorem ruleset_is_not_reported :
    (FileTree.single listedVersion).document rulesPath = .ok listedVersion ∧
      Toml.parse listedVersion = .ok [("ruleset_id", "r"), ("version", .list [.int 1])] ∧
      (Ruleset.load (FileTree.single listedVersion) rulesPath >>= Ruleset.build) =
        .error (.misfit (.list [.int 1])
          (.notConvertible "int" "a string, a bytes-like object or a real number")) ∧
      (Fault.misfit (.list [.int 1])
          (.notConvertible "int" "a string, a bytes-like object or a real number")).label =
        "TypeError" := by
  have hread : (FileTree.single listedVersion).document rulesPath = .ok listedVersion :=
    document_single (by decide +kernel)
  refine ⟨hread, parse_listedVersion, ?_, rfl⟩
  rw [load_of_parse hread parse_listedVersion]
  rfl

end Taxonomy

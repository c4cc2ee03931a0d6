import Taxonomy.Proofs.Constraint.Judging
import Taxonomy.Proofs.Number.Decimals

/-!
# Ranges and intervals

A range is meant to take the numbers between its bounds. It compares binary64 numbers, and so it
takes those that are between the bounds once all of them are rounded, and, as a NaN is not below and
not above anything, NaNs as well.

* `Value.denoted?`, `Value.bound?`: the numbers that elements and bounds denote, exactly.
* `Decides`: a check that gives an answer, and passes under a condition.
* `decides_range`: what a range decides about one element.
* `range_decides`: ranges and intervals, for all values.
* `range_is_no_interval`: where the two differ.
-/

namespace Taxonomy

open Text Extended

/-! ## Numbers that values denote -/

/-- The number that a text denotes: an integer exactly, and any other decimal as it is read. -/
def textNumber? (s : String) : Option Extended :=
  match wholeNumber? s with
  | some n => some (ofInt n)
  | none => (readDecimal? s).bind Binary64.extended?

namespace Value

/-- **The number that an element denotes.** Truth values and NaNs denote none. -/
def denoted? : Value → Option Extended
  | .bool _ => none
  | .int n => some (ofInt n)
  | .float x => x.extended?
  | v => textNumber? (trim v.text)

/-- **The number that a bound denotes.** -/
def bound? : Value → Option Extended
  | .bool b => some (ofInt (if b then 1 else 0))
  | .int n => some (ofInt n)
  | .float x => x.extended?
  | .str s => textNumber? s
  | _ => none

/-- **The value fits the format**: an integer is not too large, and a float is a number of the
format. -/
def Fits : Value → Prop
  | .int n => Binary64.ofInt? n ≠ none
  | .float x => x.WellFormed
  | _ => True

/-- The element is read as a NaN. -/
def ReadsNaN (e : Value) : Prop := numberOf e = .ok (some .nan)

end Value

/-- What is read where some number is denoted, or none: the number, rounded. -/
inductive ReadAs : Option Binary64 → Option Extended → Prop
  | none : ReadAs none none
  | nan : ReadAs (some .nan) none
  | number {x q} : x.extended? = some q.round → ReadAs (some x) (some q)

theorem readAs_of_wellFormed {x : Binary64} (hx : x.WellFormed) :
    ReadAs (some x) x.extended? := by
  cases hplace : x.extended? with
  | none =>
    obtain rfl := Binary64.extended?_eq_none_iff.1 hplace
    exact .nan
  | some q => exact .number (by rw [hplace, Binary64.round_of_extended? hx hplace])

theorem readAs_text (s : String) : ReadAs (readDecimal? s) (textNumber? s) := by
  rw [textNumber?]
  cases hwhole : wholeNumber? s with
  | some n =>
    obtain ⟨x, hread, hplace⟩ := readDecimal?_of_wholeNumber? hwhole
    rw [hread]
    exact .number hplace
  | none =>
    cases hread : readDecimal? s with
    | none => exact .none
    | some x => exact readAs_of_wellFormed (wellFormed_readDecimal? hread)

/-- An integer that is not too large is read as what it is rounded to. -/
theorem readAs_int {n : Int} (h : Binary64.ofInt? n ≠ none) :
    ∃ x, realOfInteger n = .ok x ∧ ReadAs (some x) (some (ofInt n)) := by
  obtain ⟨x, hx⟩ := Option.ne_none_iff_exists'.1 h
  exact ⟨x, by rw [realOfInteger, hx]; rfl, .number (Binary64.extended?_ofInt? hx)⟩

/-- **An element is read as the number that it denotes**, rounded. -/
theorem readAs_numberOf {e : Value} (he : e.Fits) :
    ∃ x?, numberOf e = .ok x? ∧ ReadAs x? e.denoted? := by
  cases e with
  | bool b => exact ⟨_, rfl, .none⟩
  | int n =>
    obtain ⟨x, hx, hread⟩ := readAs_int he
    exact ⟨_, by rw [numberOf, hx]; rfl, hread⟩
  | float x => exact ⟨_, rfl, readAs_of_wellFormed he⟩
  | _ => exact ⟨_, rfl, readAs_text _⟩

/-- **A bound is read as the number that it denotes**, rounded. -/
theorem toReal_of_bound? {b : Value} {q : Extended} (hb : b.Fits) (h : b.bound? = some q) :
    ∃ y, b.toReal = .ok y ∧ y.extended? = some q.round := by
  cases b with
  | bool b =>
    have hsmall : Binary64.ofInt? (if b then 1 else 0) ≠ none := by cases b <;> decide
    obtain ⟨y, hy, hread⟩ := readAs_int hsmall
    obtain rfl := Option.some.inj h
    cases hread with
    | number hplace => exact ⟨y, hy, hplace⟩
  | int n =>
    obtain ⟨y, hy, hread⟩ := readAs_int hb
    obtain rfl := Option.some.inj h
    cases hread with
    | number hplace => exact ⟨y, hy, hplace⟩
  | float x => exact ⟨x, rfl, by rw [Binary64.round_of_extended? hb h]; exact h⟩
  | str s =>
    have hread := readAs_text s
    rw [show textNumber? s = some q from h] at hread
    cases hs : readDecimal? s with
    | none =>
      rw [hs] at hread
      cases hread
    | some y =>
      rw [hs] at hread
      cases hread with
      | number hplace => exact ⟨y, by rw [Value.toReal, hs]; rfl, hplace⟩
  | _ => cases h

/-! ## Checks that decide -/

/-- **The check gives an answer**, and passes exactly under the condition. -/
def Decides (x : Result (Option String)) (P : Prop) : Prop :=
  ∃ reason?, x = .ok reason? ∧ (reason? = none ↔ P)

section Decides

variable {x : Result (Option String)} {P Q : Prop}

theorem decides_pass (h : P) : Decides (pure none) P := ⟨none, rfl, iff_of_true rfl h⟩

theorem decides_reject {reason : String} (h : ¬P) : Decides (pure (some reason)) P :=
  ⟨some reason, rfl, iff_of_false (Option.some_ne_none _) h⟩

theorem Decides.congr (h : Decides x P) (hiff : P ↔ Q) : Decides x Q := by
  obtain ⟨reason?, hx, hpass⟩ := h
  exact ⟨reason?, hx, hpass.trans hiff⟩

/-- What follows a conversion that does not fail. -/
theorem decides_bind {α : Type} {y : Result α} {a : α} {k : α → Result (Option String)}
    (hy : y = .ok a) (h : Decides (k a) P) : Decides (y >>= k) P := by
  subst hy
  exact h

/-- **Elements are decided one by one.** -/
theorem decides_firstReason {check : Value → Result (Option String)} {P : Value → Prop}
    {es : List Value} (h : ∀ e ∈ es, Decides (check e) (P e)) :
    Decides (firstReason check es) (∀ e ∈ es, P e) := by
  induction es with
  | nil => exact decides_pass (by simp)
  | cons e es ih =>
    obtain ⟨reason?, hcheck, hpass⟩ := h e List.mem_cons_self
    refine decides_bind hcheck ?_
    cases reason? with
    | none =>
      refine (ih fun e' he' => h e' (List.mem_cons_of_mem _ he')).congr ?_
      rw [List.forall_mem_cons, and_iff_right (hpass.1 rfl)]
    | some reason =>
      refine decides_reject fun hall => ?_
      cases hpass.2 (hall e List.mem_cons_self)

/-- Later elements are looked at if there is no reason before. -/
theorem firstReason_append (check : Value → Result (Option String)) (es rest : List Value) :
    firstReason check (es ++ rest) = (firstReason check es >>= fun
      | some reason => pure (some reason)
      | none => firstReason check rest) := by
  induction es with
  | nil => rfl
  | cons e es ih =>
    rw [List.cons_append, firstReason, firstReason]
    cases check e with
    | error f => rfl
    | ok reason? =>
      cases reason? with
      | some reason => rfl
      | none => exact ih

end Decides

/-! ## One element -/

/-- **A bound can be asked**: it fits the format and denotes a number. -/
def Value.Bounds (b : Value) : Prop := b.Fits ∧ b.bound? ≠ none

/-- A number is on the right side of both bounds. -/
def Within (low high : Option Value) (q : Extended) : Prop :=
  (∀ b ∈ low, ∀ l ∈ b.bound?, l ≤ q) ∧ ∀ b ∈ high, ∀ h ∈ b.bound?, q ≤ h

/-- A number is on the right side of both bounds, once all three are rounded. -/
def WithinRounded (low high : Option Value) (q : Extended) : Prop :=
  (∀ b ∈ low, ∀ l ∈ b.bound?, l.round ≤ q.round) ∧ ∀ b ∈ high, ∀ h ∈ b.bound?, q.round ≤ h.round

section Element

variable {low high : Option Value} {attrName : String} {e : Value}

/-- **A test against a bound**, and what follows where it is passed. -/
theorem decides_test {b : Value} {test : Binary64 → Bool} {reason : String}
    {rest : Result (Option String)} {C : Extended → Prop} {P : Prop} (hb : b.Bounds)
    (htest : ∀ l y, y.extended? = some (Extended.round l) → (test y = true ↔ ¬C l))
    (hrest : Decides rest P) :
    Decides (b.toReal >>= fun y => if test y = true then pure (some reason) else rest)
      ((∀ l ∈ b.bound?, C l) ∧ P) := by
  obtain ⟨l, hl⟩ := Option.ne_none_iff_exists'.1 hb.2
  obtain ⟨y, hy, hplace⟩ := toReal_of_bound? hb.1 hl
  have hiff := htest l y hplace
  refine decides_bind hy ?_
  by_cases hfails : test y = true
  · rw [if_pos hfails]
    exact decides_reject fun h => hiff.1 hfails (h.1 l hl)
  · rw [if_neg hfails]
    refine hrest.congr ?_
    have hpasses : ∀ l' ∈ b.bound?, C l' := by
      rintro l' hl'
      obtain rfl := Option.some.inj (hl.symm.trans hl')
      exact Classical.not_not.1 (hiff.not.1 hfails)
    rw [and_iff_right hpasses]

/-- **The tests against both bounds** are passed by a NaN, and by numbers between the bounds. -/
theorem decides_bounds (hlow : ∀ b ∈ low, b.Bounds) (hhigh : ∀ b ∈ high, b.Bounds)
    {x : Binary64} (hx : numberOf e = .ok (some x)) (hblank : e.isBlank = false) :
    Decides ((ValidationPredicate.range low high).checkElement attrName e)
      ((∀ b ∈ low, ∀ l ∈ b.bound?, ∀ p ∈ x.extended?, Extended.round l ≤ p) ∧
        ∀ b ∈ high, ∀ h ∈ b.bound?, ∀ p ∈ x.extended?, p ≤ Extended.round h) := by
  have hbelow : ∀ (l : Extended) (y : Binary64), y.extended? = some l.round →
      (x.lt y = true ↔ ¬∀ p ∈ x.extended?, l.round ≤ p) := fun l y => Binary64.lt_iff_not_le
  have habove : ∀ (h : Extended) (y : Binary64), y.extended? = some h.round →
      (y.lt x = true ↔ ¬∀ p ∈ x.extended?, p ≤ h.round) := fun h y => Binary64.lt_iff_not_ge
  rw [ValidationPredicate.checkElement, hblank]
  refine decides_bind hx ?_
  cases low with
  | none =>
    cases high with
    | none => exact decides_pass (by simp)
    | some h =>
      refine (decides_test (hhigh h rfl) habove (decides_pass trivial)).congr ?_
      simp
  | some l =>
    cases high with
    | none =>
      refine (decides_test (hlow l rfl) hbelow (decides_pass trivial)).congr ?_
      simp
    | some h =>
      refine (decides_test (hlow l rfl) hbelow
        (decides_test (hhigh h rfl) habove (decides_pass trivial))).congr ?_
      simp

/-- **What a range takes**: blanks, NaNs, and numbers that are between the bounds once all of them
are rounded. -/
def Taken (low high : Option Value) (e : Value) : Prop :=
  e.isBlank = false → e.ReadsNaN ∨ ∃ q, e.denoted? = some q ∧ WithinRounded low high q

/-- What denotes a number is not read as a NaN. -/
theorem not_readsNaN {q : Extended} (he : e.Fits) (hq : e.denoted? = some q) : ¬e.ReadsNaN := by
  intro hnan
  obtain ⟨x?, hx, hread⟩ := readAs_numberOf he
  obtain rfl := Except.ok.inj (hx.symm.trans hnan)
  rw [hq] at hread
  cases hread with
  | number hplace => cases hplace

/-- A number is taken exactly if it is between the bounds once all of them are rounded. -/
theorem taken_iff_withinRounded {q : Extended} (he : e.Fits) (hblank : e.isBlank = false)
    (hq : e.denoted? = some q) : Taken low high e ↔ WithinRounded low high q := by
  constructor
  · intro htaken
    rcases htaken hblank with hnan | ⟨q', hq', hwithin⟩
    · exact absurd hnan (not_readsNaN he hq)
    · obtain rfl := Option.some.inj (hq.symm.trans hq')
      exact hwithin
  · exact fun hwithin _ => .inr ⟨q, hq, hwithin⟩

/-- **A range decides about one element.** -/
theorem decides_range (hlow : ∀ b ∈ low, b.Bounds) (hhigh : ∀ b ∈ high, b.Bounds) (he : e.Fits) :
    Decides ((ValidationPredicate.range low high).checkElement attrName e) (Taken low high e) := by
  cases hblank : e.isBlank with
  | true =>
    rw [ValidationPredicate.checkElement, hblank]
    exact decides_pass fun h => absurd (hblank.symm.trans h) (by decide)
  | false =>
    obtain ⟨x?, hx, hread⟩ := readAs_numberOf he
    generalize hdenoted : e.denoted? = q? at hread
    cases hread with
    | none =>
      rw [ValidationPredicate.checkElement, hblank]
      refine decides_bind hx (decides_reject fun htaken => ?_)
      rcases htaken hblank with hnan | ⟨q, hq, -⟩
      · cases hx.symm.trans hnan
      · cases hdenoted.symm.trans hq
    | nan =>
      refine (decides_bounds hlow hhigh hx hblank).congr (iff_of_true ?_ fun _ => .inl hx)
      simp [Binary64.extended?]
    | number hplace =>
      refine (decides_bounds hlow hhigh hx hblank).congr ?_
      rw [taken_iff_withinRounded he hblank hdenoted, hplace]
      simp [WithinRounded]

/-! ## Ranges -/

/-- **Rounding leaves an element clear of the bounds**: the element is not read as a NaN, and it is
not rounded to a bound, as rounded, that it differs from. -/
def Clear (low high : Option Value) (e : Value) : Prop :=
  ¬e.ReadsNaN ∧ ∀ q ∈ e.denoted?, ∀ b, low = some b ∨ high = some b → ∀ l ∈ b.bound?, Apart l q

/-- Where elements are clear of the bounds, rounding does not matter. -/
theorem taken_iff_within (h : Clear low high e) : Taken low high e ↔
    (e.isBlank = false → ∃ q, e.denoted? = some q ∧ Within low high q) := by
  refine forall_congr' fun _ => ?_
  rw [or_iff_right h.1]
  refine exists_congr fun q => and_congr_right fun hq => and_congr ?_ ?_
  · exact forall₂_congr fun b hb => forall₂_congr fun l hl =>
      round_le_round_iff (h.2 q hq b (.inl hb) l hl)
  · exact forall₂_congr fun b hb => forall₂_congr fun l hl =>
      round_le_round_iff (h.2 q hq b (.inr hb) l hl).symm

end Element

/-- **The bounds of a range** are its parameters, of which one at least is given. -/
theorem demand_range {params : Params} {low high : Option Value}
    (hmin : optionalParam params "min" = low) (hmax : optionalParam params "max" = high)
    (hgiven : low ≠ none ∨ high ≠ none) :
    PredicateName.range.demand params = .ok (.validation (.range low high)) := by
  have hbounds : boundsParam params .range = .ok (low, high) := by
    rw [boundsParam, hmin, hmax]
    split
    · exact absurd hgiven (by simp)
    · rfl
  change (boundsParam params .range >>= _) = _
  rw [hbounds]
  rfl

/-- **What a range decides.** Take a range with one bound or two.

* If no integer in a value is too large for binary64, the range takes the value exactly if it takes
  each of its elements: blanks, NaNs, and numbers between the bounds once all are rounded. Otherwise
  it gives a reason.
* If, moreover, rounding leaves the elements clear of the bounds, these are the values whose
  elements are blank or denote numbers between the bounds.
* The first integer that is too large is as far as the check gets: it fails there, or has given a
  reason before. -/
theorem range_decides {params : Params} {low high : Option Value}
    (hmin : optionalParam params "min" = low) (hmax : optionalParam params "max" = high)
    (hgiven : low ≠ none ∨ high ≠ none)
    (hbounds : ∀ b, low = some b ∨ high = some b → b.Bounds) (attrName v : Value) :
    ∃ p, PredicateName.range.demand params = .ok (.validation p) ∧
      ((∀ e ∈ v.elements, e.Fits) →
        Decides (p.check attrName v) (∀ e ∈ v.elements, Taken low high e)) ∧
      ((∀ e ∈ v.elements, e.Fits ∧ Clear low high e) →
        Decides (p.check attrName v) (∀ e ∈ v.elements, e.isBlank = false →
          ∃ q, e.denoted? = some q ∧ Within low high q)) ∧
      ∀ es n rest, v.elements = es ++ .int n :: rest → (∀ e ∈ es, e.Fits) →
        realOfInteger n = .error .integerTooLarge →
        p.check attrName v = .error .integerTooLarge ∧ (∀ e ∈ es, Taken low high e) ∨
          (∃ reason, p.check attrName v = .ok (some reason)) ∧ ¬∀ e ∈ es, Taken low high e := by
  refine ⟨_, demand_range hmin hmax hgiven, ?_⟩
  have helements : ∀ es : List Value, (∀ e ∈ es, e.Fits) → Decides (firstReason
      ((ValidationPredicate.range low high).checkElement attrName.text) es)
      (∀ e ∈ es, Taken low high e) := fun es hes =>
    decides_firstReason fun e he =>
      decides_range (fun b hb => hbounds b (.inl hb)) (fun b hb => hbounds b (.inr hb)) (hes e he)
  refine ⟨helements v.elements, fun hclear => ?_, fun es n rest hv hes hn => ?_⟩
  · refine Decides.congr (helements v.elements fun e he => (hclear e he).1) ?_
    exact forall₂_congr fun e he => taken_iff_within (hclear e he).2
  · obtain ⟨reason?, hcheck, hpass⟩ := helements es hes
    change firstReason _ v.elements = _ ∧ _ ∨ (∃ _, firstReason _ v.elements = _) ∧ _
    rw [hv, firstReason_append, hcheck]
    cases reason? with
    | none =>
      refine .inl ⟨?_, hpass.1 rfl⟩
      change firstReason _ (.int n :: rest) = _
      rw [firstReason, checkElement_range_error hn]
      rfl
    | some reason => exact .inr ⟨⟨reason, rfl⟩, fun h => Option.some_ne_none _ (hpass.2 h)⟩

/-- The bounds from nought to ten. -/
def upToTen : Params := [("min", .int 0), ("max", .int 10)]

/-- The range from nought to ten takes a list of ten and, typed in, seven. -/
theorem range_decides_ten :
    optionalParam upToTen "min" = some (.int 0) ∧ optionalParam upToTen "max" = some (.int 10) ∧
      ∃ p, PredicateName.range.demand upToTen = .ok (.validation p) ∧
        p.check "size" (.list [.int 10, .str " 7 "]) = .ok none := by
  have hmin : optionalParam upToTen "min" = some (.int 0) := rfl
  have hmax : optionalParam upToTen "max" = some (.int 10) := rfl
  have hbound : ∀ b : Value, some (.int 0) = some b ∨ some (.int 10) = some b →
      b.Fits ∧ ∃ n : Int, b.bound? = some (ofInt n) ∧ n.natAbs ≤ 2 ^ 53 := by
    rintro b (hb | hb)
    · obtain rfl := Option.some.inj hb
      exact ⟨show Binary64.ofInt? 0 ≠ none by decide +kernel, 0, rfl, by decide⟩
    · obtain rfl := Option.some.inj hb
      exact ⟨show Binary64.ofInt? 10 ≠ none by decide +kernel, 10, rfl, by decide⟩
  have helement : ∀ e ∈ (Value.list [.int 10, .str " 7 "]).elements,
      e.Fits ∧ ∃ n : Int, e.denoted? = some (ofInt n) ∧ 0 ≤ n ∧ n ≤ 10 := by
    intro e he
    rcases List.mem_pair.1 he with rfl | rfl
    · exact ⟨show Binary64.ofInt? 10 ≠ none by decide +kernel, 10, rfl, by decide, by decide⟩
    · have hseven : wholeNumber? (trim " 7 ") = some 7 := by decide +kernel
      refine ⟨trivial, 7, ?_, by decide, by decide⟩
      change textNumber? (trim " 7 ") = _
      rw [textNumber?, hseven]
  obtain ⟨p, hdemand, -, hexact, -⟩ := range_decides hmin hmax (.inl (Option.some_ne_none _))
    (fun b hb => by
      obtain ⟨hfits, n, hn, -⟩ := hbound b hb
      exact ⟨hfits, by rw [hn]; exact Option.some_ne_none _⟩)
    "size" (.list [.int 10, .str " 7 "])
  obtain ⟨reason?, hcheck, hpass⟩ := hexact fun e he => by
    obtain ⟨hfits, n, hn, hlow, hhigh⟩ := helement e he
    refine ⟨hfits, not_readsNaN hfits hn, fun q hq b hb l hl => ?_⟩
    -- small integers stay where they are when they are rounded
    obtain ⟨-, m, hm, hsmall⟩ := hbound b hb
    obtain rfl := Option.some.inj (hn.symm.trans hq)
    obtain rfl := Option.some.inj (hm.symm.trans hl)
    exact apart_of_round (Binary64.round_ofInt hsmall) (Binary64.round_ofInt (by omega))
  refine ⟨hmin, hmax, p, hdemand, ?_⟩
  rw [hcheck, hpass.2]
  intro e he _
  obtain ⟨-, n, hn, hlow, hhigh⟩ := helement e he
  refine ⟨_, hn, fun b hb l hl => ?_, fun b hb l hl => ?_⟩
  · obtain rfl := Option.some.inj hb
    obtain rfl := Option.some.inj hl
    exact ofInt_le_ofInt.2 hlow
  · obtain rfl := Option.some.inj hb
    obtain rfl := Option.some.inj hl
    exact ofInt_le_ofInt.2 hhigh

/-- **A range is no interval.** From nought on, it takes what is no number; up to `2 ^ 53`, it takes
the next integer, which is rounded to the bound. -/
theorem range_is_no_interval :
    (∃ p, PredicateName.range.demand [("min", .int 0)] = .ok (.validation p) ∧
      p.check "size" (.float .nan) = .ok none ∧ (Value.float .nan).denoted? = none) ∧
    ∃ p, PredicateName.range.demand [("max", .int (2 ^ 53))] = .ok (.validation p) ∧
      p.check "size" (.int (2 ^ 53 + 1)) = .ok none ∧
      ∃ q, (Value.int (2 ^ 53 + 1)).denoted? = some q ∧
        ¬Within none (some (.int (2 ^ 53))) q := by
  refine ⟨⟨_, rfl, rfl, rfl⟩, ⟨_, rfl, ok_of_toOption (by decide +kernel), _, rfl, fun h => ?_⟩⟩
  have hle := ofInt_le_ofInt.1 (h.2 _ rfl _ rfl)
  omega

end Taxonomy

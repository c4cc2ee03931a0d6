import Taxonomy.Proofs.Number.Numerals

/-!
# Integers among the decimals

A numeral of an integer is read as a decimal, too, and then it stands for the binary64 number that
the integer is rounded to, or for an infinity where it is too large.

* `wholeNumber?`: the integer that a text is a numeral of, however long it is.
* `readDecimal?_of_wholeNumber?`: what it is read as.
* `wellFormed_readDecimal?`: whatever is read is a number of the format.
-/

namespace Taxonomy

open Text

/-- **The integer that a text is a numeral of**, with as many digits as there are. -/
def wholeNumber? (s : String) : Option Int :=
  let (negative, cs) := takeSign (numeralBody s)
  if !cs.isEmpty && cs.all (fun c => isDecimal c || c == '_') && underscoresSeparate none cs then
    some (signed negative (ofDigits (digitValues cs)))
  else none

theorem wholeNumber?_eq_some_iff {s : String} {negative : Bool} {cs : List Char} {n : Int}
    (hsign : takeSign (numeralBody s) = (negative, cs)) :
    wholeNumber? s = some n ↔ cs ≠ [] ∧ (∀ c ∈ cs, (isDecimal c || c == '_') = true) ∧
      underscoresSeparate none cs = true ∧ n = signed negative (ofDigits (digitValues cs)) := by
  rw [wholeNumber?, hsign]
  simp only [Option.ite_none_right_eq_some, Option.some.injEq, Bool.and_eq_true,
    Bool.not_eq_true', List.isEmpty_eq_false_iff, List.all_eq_true, and_assoc, eq_comm (b := n)]

/-- What is read as an integer is a numeral of it. -/
theorem wholeNumber?_of_readInteger {s : String} {n : Int} (h : readInteger s = .ok n) :
    wholeNumber? s = some n := by
  rcases hsign : takeSign (numeralBody s) with ⟨negative, cs⟩
  obtain ⟨hne, hall, hunderscores, -, hn⟩ := (readInteger_eq_ok_iff hsign).1 h
  exact (wholeNumber?_eq_some_iff hsign).2 ⟨hne, hall, hunderscores, hn⟩

namespace Binary64

open Extended

/-- From the power of two on that is too large, integers are at the ends of the line. -/
theorem round_ofInt_signed_of_le {n j : Nat} (negative : Bool) (hn : 2 ^ j ≤ n)
    (hj : topExponent ≤ j + unitExponent) :
    round (ofInt (signed negative n)) = if negative then ⊥ else ⊤ := by
  rw [ofInt_signed, round_ofUnits, nearestInt_signed, limit_signed_of_le]
  calc overflow ≤ nearest (1 * 2 ^ (j + unitExponent)) := by
        rw [nearest_eq_self (by decide), Nat.one_mul]
        exact Nat.pow_le_pow_right (by omega) hj
    _ ≤ nearest (n * 2 ^ unitExponent) := by
        rw [Nat.one_mul, Nat.pow_add]
        exact nearest_mono (Nat.mul_le_mul_right _ hn)

/-- **A whole decimal is read as the integer**, rounded. -/
theorem extended?_ofDecimal_zero (negative : Bool) (n : Nat) :
    (ofDecimal negative n 0).extended? = some (round (ofInt (signed negative n))) := by
  rw [ofDecimal]
  split
  · rename_i hzero
    obtain rfl : n = 0 := by simpa using hzero
    exact extended?_ofRatio_one negative 0
  · simp only
    split
    · rename_i hsize
      obtain ⟨k, hk⟩ : ∃ k, k = 5 := ⟨5, rfl⟩
      have hlarge : ¬(Nat.toDigits 10 n).length ≤ 62 * k := by
        rw [decimalSize] at hsize
        omega
      rw [Nat.length_toDigits_le_iff (by omega) (by omega), not_lt] at hlarge
      have hpow : 2 ^ (205 * k) ≤ 10 ^ (62 * k) := by
        rw [Nat.pow_mul, Nat.pow_mul]
        exact Nat.pow_le_pow_left (by decide) k
      rw [round_ofInt_signed_of_le negative (le_trans hpow hlarge)
        (by rw [topExponent_eq, unitExponent_eq]; omega)]
      rfl
    · rw [if_neg (by omega), if_pos le_rfl]
      exact (congrArg (fun m => (ofRatio negative m 1).extended?) (Nat.mul_one n)).trans
        (extended?_ofRatio_one negative n)

theorem wellFormed_ofDecimal (negative : Bool) (n : Nat) (e : Int) :
    (ofDecimal negative n e).WellFormed := by
  have hzero : (zero negative).WellFormed := ⟨by decide, by decide, by decide⟩
  rw [ofDecimal]
  split
  · exact hzero
  · simp only
    split
    · trivial
    · split
      · exact hzero
      · split
        · exact wellFormed_ofRatio _ _ _
        · exact wellFormed_ofRatio _ _ _

end Binary64

/-! ## Reading -/

section Reading

variable {c : Char} {cs body : List Char} {negative : Bool}

theorem takeSign_cases (h : takeSign body = (negative, cs)) :
    body = '-' :: cs ∧ negative = true ∨ body = '+' :: cs ∧ negative = false ∨
      body = cs ∧ negative = false := by
  unfold takeSign at h
  split at h
  · exact .inl ⟨by rw [(Prod.mk.inj h).2], (Prod.mk.inj h).1.symm⟩
  · exact .inr (.inl ⟨by rw [(Prod.mk.inj h).2], (Prod.mk.inj h).1.symm⟩)
  · exact .inr (.inr ⟨(Prod.mk.inj h).2, (Prod.mk.inj h).1.symm⟩)

/-- Behind what is no digit, underscores stand as at the beginning. -/
theorem underscoresSeparate_some (h : isDecimal c = false) :
    underscoresSeparate (some c) cs = underscoresSeparate none cs := by
  cases cs with
  | nil => rfl
  | cons d cs =>
    by_cases hd : d = '_'
    · subst hd
      simp [underscoresSeparate, h]
    · rw [underscoresSeparate.eq_3 _ _ _ hd, underscoresSeparate.eq_3 _ _ _ hd]

/-- A sign in front of the digits does not matter to the underscores. -/
theorem underscoresSeparate_takeSign (h : takeSign body = (negative, cs)) :
    underscoresSeparate none body = underscoresSeparate none cs := by
  rcases takeSign_cases h with ⟨rfl, -⟩ | ⟨rfl, -⟩ | ⟨rfl, -⟩
  · exact underscoresSeparate_some (by decide)
  · exact underscoresSeparate_some (by decide)
  · rfl

/-- The sign in front of the digits stays there when the underscores are left out. -/
theorem takeSign_filter (h : takeSign body = (negative, cs))
    (hall : ∀ c ∈ cs.filter (· != '_'), isDecimal c = true) :
    takeSign (body.filter (· != '_')) = (negative, cs.filter (· != '_')) := by
  rcases takeSign_cases h with ⟨rfl, rfl⟩ | ⟨rfl, rfl⟩ | ⟨rfl, rfl⟩
  · rfl
  · rfl
  · exact takeSign_of_isDecimal hall

theorem digitValues_filter (cs : List Char) :
    digitValues (cs.filter (· != '_')) = digitValues cs := by
  rw [digitValues, digitValues, List.filterMap_filter]
  refine List.filterMap_congr fun c _ => ?_
  by_cases hc : c = '_'
  · subst hc
    rfl
  · rw [if_pos (by simpa using hc)]

/-- Digits are not changed when letters are made small. -/
theorem toLower_of_isDecimal (h : isDecimal c = true) : c.toLower = c := by
  rw [Char.toLower, dif_neg]
  rintro ⟨hlow, hhigh⟩
  have hlow' : 65 ≤ c.toNat := UInt32.le_iff_toNat_le.1 hlow
  have hhigh' : c.toNat ≤ 90 := UInt32.le_iff_toNat_le.1 hhigh
  rw [isDecimal, digitValue?, if_pos (by omega)] at h
  split at h
  · rename_i hdigit
    have hrange := (Char.isDigit_iff_toNat.1 hdigit).2
    exact absurd (le_trans hlow' hrange) (by decide)
  · cases h

/-- A text of digits is none of the words that begin with a letter. -/
theorem ofList_map_toLower_ne (h : ∀ c ∈ cs, isDecimal c = true) {word : String} {d : Char}
    {ds : List Char} (hword : word.toList = d :: ds) (hd : isDecimal d = false) :
    (String.ofList (cs.map Char.toLower) == word) = false := by
  rw [beq_eq_false_iff_ne]
  rintro rfl
  rw [String.toList_ofList] at hword
  cases cs with
  | nil => cases hword
  | cons c cs =>
    rw [List.map_cons, toLower_of_isDecimal (h c List.mem_cons_self)] at hword
    obtain ⟨rfl, -⟩ := List.cons.inj hword
    rw [h c List.mem_cons_self] at hd
    cases hd

/-- **A text of digits** is read as a whole decimal. -/
theorem readDecimal?_of_digits {s : String}
    (hbody : underscoresSeparate none (numeralBody s) = true)
    (hsign : takeSign ((numeralBody s).filter (· != '_')) = (negative, cs)) (hne : cs ≠ [])
    (hall : ∀ c ∈ cs, isDecimal c = true) :
    readDecimal? s = some (Binary64.ofDecimal negative (ofDigits (digitValues cs)) 0) := by
  have hinf := ofList_map_toLower_ne hall (show "inf".toList = _ from rfl) (by decide)
  have hinfinity := ofList_map_toLower_ne hall (show "infinity".toList = _ from rfl) (by decide)
  have hnan := ofList_map_toLower_ne hall (show "nan".toList = _ from rfl) (by decide)
  have htake : cs.takeWhile isDecimal = cs := List.takeWhile_eq_self_iff.2 hall
  have hdrop : cs.dropWhile isDecimal = [] := List.dropWhile_eq_nil_iff.2 hall
  rw [readDecimal?]
  simp only [hbody, hsign, htake, hdrop, hinf, hinfinity, hnan]
  rw [if_neg (by decide), if_neg (by decide), if_neg (by decide),
    if_neg (by simpa using hne), List.append_nil]
  rfl

/-- **A numeral of an integer is read as the integer**, rounded. -/
theorem readDecimal?_of_wholeNumber? {s : String} {n : Int} (h : wholeNumber? s = some n) :
    ∃ x, readDecimal? s = some x ∧ x.extended? = some (Extended.ofInt n).round := by
  rcases hsign : takeSign (numeralBody s) with ⟨negative, cs⟩
  obtain ⟨hne, hall, hunderscores, rfl⟩ := (wholeNumber?_eq_some_iff hsign).1 h
  have hdigits : ∀ c ∈ cs.filter (· != '_'), isDecimal c = true := by
    intro c hc
    rw [List.mem_filter, bne_iff_ne] at hc
    simpa [hc.2] using hall c hc.1
  have hfilter : cs.filter (· != '_') ≠ [] := by
    -- the first character is no underscore
    cases cs with
    | nil => exact absurd rfl hne
    | cons c cs =>
      have hc : c ≠ '_' := by
        rintro rfl
        cases hunderscores
      rw [List.filter_cons_of_pos (by simpa using hc)]
      exact List.cons_ne_nil _ _
  refine ⟨_, readDecimal?_of_digits ?_ (takeSign_filter hsign hdigits) hfilter hdigits, ?_⟩
  · rw [underscoresSeparate_takeSign hsign, hunderscores]
  · rw [digitValues_filter, Binary64.extended?_ofDecimal_zero]

/-- **What is read as a decimal is a number of the format.** -/
theorem wellFormed_readDecimal? {s : String} {x : Binary64} (h : readDecimal? s = some x) :
    x.WellFormed := by
  rw [readDecimal?] at h
  simp only at h
  split at h
  · cases h
  · split at h
    · obtain rfl := Option.some.inj h
      trivial
    · split at h
      · obtain rfl := Option.some.inj h
        trivial
      · -- with a fraction or without one
        split at h <;> split at h
        · cases h
        · obtain ⟨e, -, rfl⟩ := Option.map_eq_some_iff.1 h
          exact Binary64.wellFormed_ofDecimal _ _ _
        · cases h
        · obtain ⟨e, -, rfl⟩ := Option.map_eq_some_iff.1 h
          exact Binary64.wellFormed_ofDecimal _ _ _

end Reading

end Taxonomy

import Taxonomy.Number.Numeral
import Taxonomy.Proofs.Number.Rounding

/-!
# Numerals that are read back

An integer is read back from its numeral, and blanks around a text do not matter.

* `trim_padded`: blanks around a text are trimmed away.
* `readInteger_eq_ok_iff`: what is read as an integer.
* `readInteger_toString`: an integer is read back from its numeral.
-/

namespace Taxonomy

open Text

/-! ## Blanks around a text -/

section Trimming

variable {p : Char → Bool} {before after cs : List Char}

/-- What is dropped from both ends of a list is dropped from around it, too. -/
theorem dropWhile_ends_padded (hbefore : ∀ c ∈ before, p c = true)
    (hafter : ∀ c ∈ after, p c = true) :
    (((before ++ cs ++ after).dropWhile p).reverse.dropWhile p).reverse =
      ((cs.dropWhile p).reverse.dropWhile p).reverse := by
  rw [List.append_assoc, List.dropWhile_append_of_pos hbefore, List.dropWhile_append]
  cases hcs : (cs.dropWhile p).isEmpty with
  | true =>
    -- nothing is left of the list itself, and then nothing of what stands behind it
    rw [if_pos rfl, List.dropWhile_eq_nil_iff.2 hafter, List.isEmpty_iff.1 hcs]
  | false =>
    rw [if_neg Bool.false_ne_true, List.reverse_append, List.dropWhile_append_of_pos]
    simpa using hafter

theorem dropWhile_of_forall_not (h : ∀ c ∈ cs, p c = false) : cs.dropWhile p = cs := by
  rw [List.dropWhile_eq_self_iff]
  intro hlength
  simp [h _ (List.getElem_mem hlength)]

/-- Nothing is dropped from the ends of a list without characters to drop. -/
theorem dropWhile_ends_of_forall_not (h : ∀ c ∈ cs, p c = false) :
    ((cs.dropWhile p).reverse.dropWhile p).reverse = cs := by
  rw [dropWhile_of_forall_not h, dropWhile_of_forall_not (by simpa using h), List.reverse_reverse]

end Trimming

/-- **Blanks around a text** are trimmed away. -/
theorem trim_padded {before after s : String} (hbefore : isBlankText before = true)
    (hafter : isBlankText after = true) : trim (before ++ s ++ after) = trim s := by
  rw [isBlankText, List.all_eq_true] at hbefore hafter
  rw [trim, trim, String.toList_append, String.toList_append, trimChars, trimChars,
    dropWhile_ends_padded hbefore hafter]

/-- Nothing is left of a blank text, and something of any other. -/
theorem trim_eq_empty_iff {s : String} : trim s = "" ↔ isBlankText s = true := by
  rw [trim, String.ofList_eq_empty_iff, trimChars, List.reverse_eq_nil_iff,
    List.dropWhile_eq_nil_iff, isBlankText, List.all_eq_true]
  simp only [List.mem_reverse]
  constructor
  · intro h
    rw [← List.dropWhile_eq_nil_iff, dropWhile_dropWhile, List.dropWhile_eq_nil_iff] at h
    exact h
  · intro h c hc
    exact h c ((List.dropWhile_sublist _).mem hc)

theorem trim_of_forall_not {s : String} (h : ∀ c ∈ s.toList, isBlank c = false) : trim s = s := by
  rw [trim, trimChars, dropWhile_ends_of_forall_not h, String.ofList_toList]

theorem numeralBody_of_forall_not {s : String} (h : ∀ c ∈ s.toList, isBlank c = false) :
    numeralBody s = s.toList :=
  dropWhile_ends_of_forall_not fun c hc => by rw [isNumeralBlank, h c hc, Bool.false_and]

/-! ## Digits -/

section Digits

variable {c : Char} {cs : List Char}

theorem digitValue?_of_isDigit (h : c.isDigit = true) : digitValue? c = some (c.toNat - 0x30) := by
  have hrange := Char.isDigit_iff_toNat.1 h
  rw [digitValue?, if_pos, if_pos h]
  exact Nat.lt_of_le_of_lt hrange.2 (by decide)

theorem isDecimal_of_isDigit (h : c.isDigit = true) : isDecimal c = true := by
  rw [isDecimal, digitValue?_of_isDigit h, Option.isSome_some]

theorem isBlank_of_isDigit (h : c.isDigit = true) : isBlank c = false := by
  have hrange := Char.isDigit_iff_toNat.1 h
  simp only [show '0'.toNat = 48 from rfl, show '9'.toNat = 57 from rfl] at hrange
  simp only [isBlank]
  grind

theorem digitValues_of_isDigit (h : ∀ c ∈ cs, c.isDigit = true) :
    digitValues cs = cs.map fun c => c.toNat - 0x30 := by
  rw [digitValues, List.filterMap_congr fun c hc => digitValue?_of_isDigit (h c hc)]
  exact congrFun List.filterMap_eq_map cs

/-- Between digits there is no underscore that could stand wrong. -/
theorem underscoresSeparate_of_isDigit (before : Option Char) (h : ∀ c ∈ cs, c.isDigit = true) :
    underscoresSeparate before cs = true := by
  induction cs generalizing before with
  | nil => rfl
  | cons c cs ih =>
    have hc := h c List.mem_cons_self
    rw [underscoresSeparate]
    · exact ih _ fun c hc => h c (List.mem_cons_of_mem _ hc)
    · rintro rfl
      cases hc

theorem takeSign_of_isDecimal (h : ∀ c ∈ cs, isDecimal c = true) : takeSign cs = (false, cs) := by
  rw [takeSign.eq_3]
  · rintro cs rfl
    cases h '-' List.mem_cons_self
  · rintro cs rfl
    cases h '+' List.mem_cons_self

end Digits

/-! ## Numerals -/

/-- The numeral of an integer: a minus if it is negative, and its digits. -/
theorem toList_toString (n : Int) : (toString n).toList =
    (if n < 0 then ['-'] else []) ++ Nat.toDigits 10 n.natAbs := by
  rw [Int.toString_eq_repr, Int.repr_eq_if]
  by_cases hn : n < 0
  · rw [if_neg (by omega), if_pos hn, String.toList_append, Nat.toList_repr,
      show (-n).toNat = n.natAbs by omega]
    rfl
  · rw [if_pos (by omega), if_neg hn, Nat.toList_repr, show n.toNat = n.natAbs by omega]
    rfl

theorem takeSign_toString (n : Int) :
    takeSign (toString n).toList = (decide (n < 0), Nat.toDigits 10 n.natAbs) := by
  rw [toList_toString]
  by_cases hn : n < 0
  · rw [if_pos hn, decide_eq_true hn]
    rfl
  · rw [if_neg hn, decide_eq_false hn, List.nil_append, takeSign_of_isDecimal]
    exact fun c hc =>
      isDecimal_of_isDigit (Nat.isDigit_of_mem_toDigits (by omega) (by omega) hc)

theorem isBlank_of_mem_toString {n : Int} {c : Char} (h : c ∈ (toString n).toList) :
    isBlank c = false := by
  rw [toList_toString, List.mem_append] at h
  rcases h with h | h
  · split at h
    · rw [List.mem_singleton.1 h]
      decide
    · cases h
  · exact isBlank_of_isDigit (Nat.isDigit_of_mem_toDigits (by omega) (by omega) h)

theorem ofDigits_toDigits (n : Nat) : ofDigits (digitValues (Nat.toDigits 10 n)) = n := by
  rw [digitValues_of_isDigit fun c => Nat.isDigit_of_mem_toDigits (by omega) (by omega), ofDigits,
    List.foldl_map]
  exact Nat.ofDigitChars_ten_toDigits

/-- **What is read as an integer**: a sign, if any, and then digits, single underscores between
them. -/
theorem readInteger_eq_ok_iff {s : String} {negative : Bool} {cs : List Char} {n : Int}
    (hsign : takeSign (numeralBody s) = (negative, cs)) :
    readInteger s = .ok n ↔ cs ≠ [] ∧ (∀ c ∈ cs, (isDecimal c || c == '_') = true) ∧
      underscoresSeparate none cs = true ∧ (digitValues cs).length ≤ maxDigits ∧
      n = signed negative (ofDigits (digitValues cs)) := by
  rw [readInteger, hsign]
  simp only
  constructor
  · intro h
    split at h
    · cases h
    · rename_i hdigits
      split at h
      · cases h
      · rename_i hlength
        split at h
        · cases h
        · rename_i hall
          rw [Bool.not_eq_true', Bool.not_eq_false, List.isEmpty_iff,
            List.dropWhile_eq_nil_iff] at hall
          rw [List.takeWhile_eq_self_iff.2 hall] at h hdigits hlength
          simp only [Bool.or_eq_true, not_or] at hdigits
          refine ⟨by simpa using hdigits.1, hall, by simpa using hdigits.2, by omega, ?_⟩
          exact (Except.ok.inj h).symm
  · rintro ⟨hne, hall, hunderscores, hlength, rfl⟩
    rw [List.takeWhile_eq_self_iff.2 hall, List.dropWhile_eq_nil_iff.2 hall, hunderscores,
      List.isEmpty_eq_false_iff.2 hne, if_neg (by decide), if_neg (by omega), if_neg (by decide)]
    rfl

/-- **An integer is read back from its numeral**, unless that has too many digits. -/
theorem readInteger_toString {n : Int} (h : Binary64.decimalSize n.natAbs ≤ maxDigits) :
    readInteger (toString n) = .ok n := by
  have hdigits : ∀ c ∈ Nat.toDigits 10 n.natAbs, c.isDigit = true :=
    fun c => Nat.isDigit_of_mem_toDigits (by omega) (by omega)
  have hsign : takeSign (numeralBody (toString n)) =
      (decide (n < 0), Nat.toDigits 10 n.natAbs) := by
    rw [numeralBody_of_forall_not fun c => isBlank_of_mem_toString, takeSign_toString]
  refine (readInteger_eq_ok_iff hsign).2 ⟨Nat.toDigits_ne_nil, fun c hc => ?_,
    underscoresSeparate_of_isDigit none hdigits, ?_, ?_⟩
  · rw [isDecimal_of_isDigit (hdigits c hc), Bool.true_or]
  · rwa [digitValues_of_isDigit hdigits, List.length_map]
  · rw [ofDigits_toDigits, signed_natAbs]

end Taxonomy

import Taxonomy.TypeId.Reading

/-!
# Names that are read back

The name of an id is its two parts with a point between them, and a name is read at its first
point. A subtype may hold points of its own; from a family that holds one the name is taken apart
at another place than it was put together.

* `trim_between`: nothing is trimmed from a text between two trimmed ones.
* `splitAtPoint_append`, `eq_of_splitAtPoint`: a text is split where its first point is.
* `TypeId.wellFormed_of_make`, `TypeId.WellFormed.make`: the ids that can be made are the
  well-formed ones.
* `TypeId.wellFormed_of_parse`, `TypeId.WellFormed.parse_name`: those of them that can be read have
  no point in their family, and are read from their names.
* `names_are_read_back`: names of all ids, of ids that were read, and of two ids.
-/

namespace Taxonomy

open Text

/-! ## Texts with trimmed ends -/

/-- Nothing is trimmed from a list that neither begins nor ends with a blank, and only then. -/
theorem trimChars_eq_self_iff {cs : List Char} :
    trimChars cs = cs ↔
      cs.dropWhile isBlank = cs ∧ cs.reverse.dropWhile isBlank = cs.reverse := by
  constructor
  · intro h
    have hfront : (trimChars cs).dropWhile isBlank = trimChars cs :=
      dropWhile_reverse_dropWhile isBlank (dropWhile_dropWhile isBlank cs)
    have hback : (trimChars cs).reverse.dropWhile isBlank = (trimChars cs).reverse := by
      rw [trimChars, List.reverse_reverse, dropWhile_dropWhile]
    rw [h] at hfront hback
    exact ⟨hfront, hback⟩
  · rintro ⟨hfront, hback⟩
    rw [trimChars, hfront, hback, List.reverse_reverse]

theorem trim_eq_self_iff {s : String} : trim s = s ↔ trimChars s.toList = s.toList := by
  rw [trim, ← String.toList_inj, String.toList_ofList]

/-- What stands before more text keeps its front when blanks are dropped. -/
theorem dropWhile_append_of_trimmed {as bs : List Char} (ha : as.dropWhile isBlank = as)
    (hne : as ≠ []) : (as ++ bs).dropWhile isBlank = as ++ bs := by
  have hsome : (as.dropWhile isBlank).isEmpty = false := by simpa [ha] using hne
  rw [List.dropWhile_append, hsome, ha, if_neg Bool.false_ne_true]

/-- **Nothing is trimmed from a text between two trimmed ones.** -/
theorem trim_between {a b : String} (ha : trim a = a) (hb : trim b = b) (hane : a ≠ "")
    (hbne : b ≠ "") (s : String) : trim (a ++ s ++ b) = a ++ s ++ b := by
  obtain ⟨hfront, -⟩ := trimChars_eq_self_iff.1 (trim_eq_self_iff.1 ha)
  obtain ⟨-, hback⟩ := trimChars_eq_self_iff.1 (trim_eq_self_iff.1 hb)
  rw [trim_eq_self_iff, trimChars_eq_self_iff]
  simp only [String.toList_append, List.append_assoc, List.reverse_append]
  constructor
  · exact dropWhile_append_of_trimmed hfront (mt String.toList_eq_nil_iff.1 hane)
  · refine dropWhile_append_of_trimmed hback ?_
    rw [ne_eq, List.reverse_eq_nil_iff]
    exact mt String.toList_eq_nil_iff.1 hbne

/-- Trimming adds no character. -/
theorem mem_of_mem_trim {s : String} {c : Char} (h : c ∈ (trim s).toList) : c ∈ s.toList := by
  rw [trim, String.toList_ofList, trimChars, List.mem_reverse] at h
  have hback : c ∈ (s.toList.dropWhile isBlank).reverse := (List.dropWhile_sublist _).mem h
  exact (List.dropWhile_sublist _).mem (List.mem_reverse.1 hback)

/-! ## The first point -/

section Point

variable {as bs cs : List Char}

/-- A text is split at a point that none comes before. -/
theorem splitAtPoint_append (h : '.' ∉ as) (bs : List Char) :
    splitAtPoint (as ++ '.' :: bs) = some (as, bs) := by
  induction as with
  | nil => rfl
  | cons a as ih =>
    rw [List.mem_cons, not_or] at h
    have ha : ¬ (a == '.') = true := by simpa using Ne.symm h.1
    rw [List.cons_append, splitAtPoint, if_neg ha, ih h.2, Option.map_some]

/-- **Where a text is split there is its first point.** -/
theorem eq_of_splitAtPoint (h : splitAtPoint cs = some (as, bs)) :
    cs = as ++ '.' :: bs ∧ '.' ∉ as := by
  induction cs generalizing as with
  | nil => cases h
  | cons c cs ih =>
    rw [splitAtPoint] at h
    split at h
    · next hc =>
      cases h
      exact ⟨congrArg (· :: _) (beq_iff_eq.1 hc), List.not_mem_nil⟩
    · next hc =>
      obtain ⟨⟨as', bs'⟩, hsplit, hparts⟩ := Option.map_eq_some_iff.1 h
      cases hparts
      obtain ⟨rfl, hnot⟩ := ih hsplit
      refine ⟨rfl, ?_⟩
      rw [List.mem_cons, not_or]
      exact ⟨fun he => hc (beq_iff_eq.2 he.symm), hnot⟩

end Point

/-! ## Ids that can be made -/

/-- **A text that can be a part of an id**: it is trimmed, not empty and not the wildcard. -/
structure IsIdPart (s : String) : Prop where
  trimmed : trim s = s
  ne_empty : s ≠ ""
  ne_wildcard : s ≠ wildcard

/-- **An id whose parts can be parts of an id.** -/
structure TypeId.WellFormed (t : TypeId) : Prop where
  family : IsIdPart t.family
  subtype : IsIdPart t.subtype

/-- The text that a value gives as a part. -/
def partText : Value → String
  | .null => ""
  | v => trim v.text

theorem trim_partText (v : Value) : trim (partText v) = partText v := by
  cases v with
  | null => rfl
  | _ => exact trim_trim _

theorem cleanPart_eq (part : Part) (v : Value) :
    cleanPart part v =
      if partText v = "" then .error (.emptyPart part) else .ok (partText v) := by
  have hclean : cleanPart part v =
      if (partText v == "") = true then .error (.emptyPart part) else .ok (partText v) := rfl
  simp only [hclean, beq_iff_eq]

namespace TypeId

variable {t u : TypeId} {family subtype : Value}

/-- **What is made of two values**, where the texts that they give can be parts of an id. -/
theorem make_of_parts (hf : IsIdPart (partText family)) (hs : IsIdPart (partText subtype)) :
    make family subtype = .ok ⟨partText family, partText subtype⟩ := by
  have hw : (partText family == wildcard || partText subtype == wildcard) = false := by
    simpa using And.intro hf.ne_wildcard hs.ne_wildcard
  simp only [make, cleanPart_eq, hf.ne_empty, hs.ne_empty, hw, if_false, bind, Except.bind]
  rfl

/-- Otherwise the fault is one of ids. -/
theorem make_of_not_parts (h : ¬ (IsIdPart (partText family) ∧ IsIdPart (partText subtype))) :
    ∃ e, make family subtype = .error e ∧ e.label = "InvalidTypeIdError" := by
  by_cases hf : partText family = ""
  · refine ⟨.emptyPart .family, ?_, rfl⟩
    simp only [make, cleanPart_eq, hf, if_true, bind, Except.bind]
  by_cases hs : partText subtype = ""
  · refine ⟨.emptyPart .subtype, ?_, rfl⟩
    simp only [make, cleanPart_eq, hf, hs, if_true, if_false, bind, Except.bind]
  cases hw : partText family == wildcard || partText subtype == wildcard with
  | true =>
    refine ⟨.wildcardInId (partText family) (partText subtype), ?_, rfl⟩
    simp only [make, cleanPart_eq, hf, hs, hw, if_true, if_false, bind, Except.bind]
    rfl
  | false =>
    have hne : partText family ≠ wildcard ∧ partText subtype ≠ wildcard := by simpa using hw
    exact absurd ⟨⟨trim_partText family, hf, hne.1⟩, ⟨trim_partText subtype, hs, hne.2⟩⟩ h

/-- **The ids that can be made are well-formed**, and their parts are the texts that were given. -/
theorem wellFormed_of_make (h : make family subtype = .ok t) :
    t.WellFormed ∧ t.family = partText family ∧ t.subtype = partText subtype := by
  by_cases hparts : IsIdPart (partText family) ∧ IsIdPart (partText subtype)
  · rw [make_of_parts hparts.1 hparts.2] at h
    obtain rfl := Except.ok.inj h
    exact ⟨⟨hparts.1, hparts.2⟩, rfl, rfl⟩
  · obtain ⟨e, he, -⟩ := make_of_not_parts hparts
    rw [he] at h
    cases h

/-- A well-formed id is made of its own parts. -/
theorem WellFormed.make (h : t.WellFormed) : TypeId.make t.family t.subtype = .ok t := by
  have hf : partText t.family = t.family := h.family.trimmed
  have hs : partText t.subtype = t.subtype := h.subtype.trimmed
  rw [make_of_parts (hf.symm ▸ h.family) (hs.symm ▸ h.subtype), hf, hs]

/-! ## Ids that are read -/

theorem refText_str (s : String) : refText (.str s) = .ok (trim s) := by
  by_cases hs : s = ""
  · subst hs
    rfl
  · have htruthy : (Value.str s).isTruthy = true := by simpa [Value.isTruthy] using hs
    rw [refText, htruthy]
    rfl

variable {s : String} {as bs : List Char}

/-- A text with a point is read as its parts around the first one. -/
theorem parse_of_split (h : splitAtPoint (trim s).toList = some (as, bs)) :
    parse s = make (String.ofList as) (String.ofList bs) := by
  simp only [parse, read, refText_str, splitParts, h, Option.map_some, bind, Except.bind]

theorem parse_of_no_split (h : splitAtPoint (trim s).toList = none) :
    parse s = .error (.malformedId s) := by
  simp only [parse, read, refText_str, splitParts, h, Option.map_none, bind, Except.bind]
  rfl

/-- **What is read is well-formed, and there is no point in its family.** -/
theorem wellFormed_of_parse (h : parse s = .ok t) : t.WellFormed ∧ '.' ∉ t.family.toList := by
  cases hsplit : splitAtPoint (trim s).toList with
  | none =>
    rw [parse_of_no_split hsplit] at h
    cases h
  | some parts =>
    obtain ⟨as, bs⟩ := parts
    rw [parse_of_split hsplit] at h
    obtain ⟨hwf, hfamily, -⟩ := wellFormed_of_make h
    refine ⟨hwf, fun hpoint => (eq_of_splitAtPoint hsplit).2 ?_⟩
    rw [hfamily] at hpoint
    simpa using mem_of_mem_trim hpoint

/-- What cannot be read is refused with a fault of ids. -/
theorem label_of_parse {e : Fault} (h : parse s = .error e) : e.label = "InvalidTypeIdError" := by
  cases hsplit : splitAtPoint (trim s).toList with
  | none =>
    rw [parse_of_no_split hsplit] at h
    obtain rfl := Except.error.inj h
    rfl
  | some parts =>
    rw [parse_of_split hsplit] at h
    by_cases hparts : IsIdPart (partText (String.ofList parts.1)) ∧
        IsIdPart (partText (String.ofList parts.2))
    · rw [make_of_parts hparts.1 hparts.2] at h
      cases h
    · obtain ⟨e', he', hlabel⟩ := make_of_not_parts hparts
      rw [he'] at h
      obtain rfl := Except.error.inj h
      exact hlabel

/-- The name of a well-formed id begins and ends with what is not trimmed. -/
theorem WellFormed.trim_name (h : t.WellFormed) : trim t.name = t.name :=
  trim_between h.family.trimmed h.subtype.trimmed h.family.ne_empty h.subtype.ne_empty "."

/-- **The name of a well-formed id is read back if its family holds no point.** -/
theorem WellFormed.parse_name (h : t.WellFormed) (hpoint : '.' ∉ t.family.toList) :
    parse t.name = .ok t := by
  have hsplit : splitAtPoint (trim t.name).toList = some (t.family.toList, t.subtype.toList) := by
    have hchars : t.name.toList = t.family.toList ++ '.' :: t.subtype.toList := by
      simp [name, String.toList_append]
    rw [h.trim_name, hchars, splitAtPoint_append hpoint]
  rw [parse_of_split hsplit, String.ofList_toList, String.ofList_toList, h.make]

end TypeId

/-- **Names are read back.** The name of an id is read as this id exactly if there is no point in
its family; otherwise it is read as another id, or refused as no id. So whatever is read from a text
is read again from its name, and ids that were read differ if their names do. -/
theorem names_are_read_back :
    (∀ (family subtype : Value) (t : TypeId), TypeId.make family subtype = .ok t →
      (TypeId.parse t.name = .ok t ↔ '.' ∉ t.family.toList) ∧
      ('.' ∈ t.family.toList →
        (∃ u, u ≠ t ∧ TypeId.parse t.name = .ok u) ∨
        ∃ e, TypeId.parse t.name = .error e ∧ e.label = "InvalidTypeIdError")) ∧
    (∀ (x : String) (t : TypeId), TypeId.parse x = .ok t → TypeId.parse t.name = .ok t) ∧
    ∀ (x y : String) (t u : TypeId), TypeId.parse x = .ok t → TypeId.parse y = .ok u →
      t.name = u.name → t = u := by
  have hback : ∀ (x : String) (t : TypeId), TypeId.parse x = .ok t →
      TypeId.parse t.name = .ok t := by
    intro x t h
    obtain ⟨hwf, hpoint⟩ := TypeId.wellFormed_of_parse h
    exact hwf.parse_name hpoint
  refine ⟨fun family subtype t h => ⟨⟨fun hparse => ?_, fun hpoint => ?_⟩, fun hpoint => ?_⟩,
    hback, fun x y t u ht hu hname => ?_⟩
  · exact (TypeId.wellFormed_of_parse hparse).2
  · exact (TypeId.wellFormed_of_make h).1.parse_name hpoint
  · cases hparse : TypeId.parse t.name with
    | ok u =>
      refine .inl ⟨u, ?_, rfl⟩
      rintro rfl
      exact (TypeId.wellFormed_of_parse hparse).2 hpoint
    | error e => exact .inr ⟨e, rfl, TypeId.label_of_parse hparse⟩
  · have hboth := hback x t ht
    rw [hname, hback y u hu] at hboth
    exact (Except.ok.inj hboth).symm

/-- An id with a point in its subtype is read back; one with the same name and a point in its family
is read as that one. -/
theorem names_are_read_back_archive :
    TypeId.make " file" "tar.gz\n" = .ok ⟨"file", "tar.gz"⟩ ∧
      TypeId.parse "file.tar.gz" = .ok ⟨"file", "tar.gz"⟩ ∧
      TypeId.make "file.tar" "gz" = .ok ⟨"file.tar", "gz"⟩ ∧
      TypeId.parse "file.tar.gz" ≠ .ok ⟨"file.tar", "gz"⟩ := by
  have hfile : TypeId.make " file" "tar.gz\n" = .ok ⟨"file", "tar.gz"⟩ := by rfl
  have htar : TypeId.make "file.tar" "gz" = .ok ⟨"file.tar", "gz"⟩ := by rfl
  obtain ⟨hmade, -⟩ := names_are_read_back
  exact ⟨hfile, (hmade _ _ _ hfile).1.2 (by decide), htar,
    fun h => (hmade _ _ _ htar).1.1 h (by decide)⟩

end Taxonomy

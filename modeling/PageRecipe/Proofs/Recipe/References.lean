import PageRecipe.Recipe.Reference

/-!
# What references are written like

`Reference.parse` and `Reference.display` fit together : a text is read as a reference exactly
when the reference is written like that, has a name, and does not hide a question mark at the
end of a mandatory name (`parse_eq_ok_iff`). So a question mark behind a mandatory reference
makes it optional and changes nothing else (`parse_append_mark`).

What is no reference fails in one of two ways (`parse_cases`). Either no family stands in front
of the first point (`HasForeignFamily`), or a family is followed by no name (`LacksName`).
-/

namespace PageRecipe

theorem Family.ofName?_display (family : Family) :
    ofName? family.display.toList = some family := by
  cases family <;> decide

theorem Family.ofName?_eq_some_iff {name : List Char} {family : Family} :
    ofName? name = some family ↔ name = family.display.toList := by
  refine ⟨fun h => ?_, fun h => h ▸ ofName?_display family⟩
  rw [ofName?] at h
  split at h
  · next hname => cases h; exact hname
  · split at h
    · next hname => cases h; exact hname
    · cases h

theorem Family.ne_point_of_mem_display {family : Family} :
    ∀ c ∈ family.display.toList, (c != '.') = true := by
  rw [← List.all_eq_true]
  cases family <;> decide

namespace Reference

/-- The reference has a name, which does not end in a question mark if the reference is
mandatory. -/
structure IsNamed (reference : Reference) : Prop where
  name_ne : reference.name ≠ ""
  unmarked : reference.isOptional = false → reference.name.toList.getLast? ≠ some '?'

/-- What stands behind the name of a reference. -/
def mark (isOptional : Bool) : List Char := if isOptional then ['?'] else []

theorem toList_display (reference : Reference) :
    reference.display.toList = reference.family.display.toList ++
      '.' :: (reference.name.toList ++ mark reference.isOptional) := by
  cases h : reference.isOptional <;> simp [display, mark, h]

/-! ## Reading what is written -/

theorem splitMark_append_mark {name : List Char} {isOptional : Bool}
    (h : isOptional = false → name.getLast? ≠ some '?') :
    splitMark (name ++ mark isOptional) = (name, isOptional) := by
  cases isOptional with
  | true => simp [splitMark, mark]
  | false => simp [splitMark, mark, h rfl]

theorem eq_append_mark (s : List Char) : s = (splitMark s).1 ++ mark (splitMark s).2 := by
  rw [splitMark]
  split
  · next hlast =>
    obtain ⟨front, rfl⟩ := List.getLast?_eq_some_iff.mp hlast
    simp [mark]
  · simp [mark]

theorem unmarked_of_splitMark {s : List Char} (h : (splitMark s).2 = false) :
    (splitMark s).1.getLast? ≠ some '?' := by
  rw [splitMark] at h ⊢
  split at h
  · cases h
  · next hlast => rwa [if_neg hlast]

/-- A family, a point and anything behind it are read as that family and what is behind. -/
theorem parse_of_toList {spec : String} {family : Family} {rest : List Char}
    (h : spec.toList = family.display.toList ++ '.' :: rest) :
    parse spec = if (splitMark rest).1.isEmpty then .error (.missingName spec)
      else .ok ⟨family, String.ofList (splitMark rest).1, (splitMark rest).2⟩ := by
  have hfamily : spec.toList.takeWhile (· != '.') = family.display.toList := by
    rw [h, List.takeWhile_append_of_pos Family.ne_point_of_mem_display]
    simp
  have hrest : spec.toList.drop (family.display.toList.length + 1) = rest := by
    rw [h, List.drop_append, List.drop_eq_nil_of_le (by omega)]
    simp
  simp only [parse, hfamily, Family.ofName?_display, hrest]

/-- A family alone is a reference without a name. -/
theorem parse_of_family {spec : String} {family : Family}
    (h : spec.toList = family.display.toList) : parse spec = .error (.missingName spec) := by
  have hfamily : spec.toList.takeWhile (· != '.') = family.display.toList := by
    rw [h, ← List.append_nil family.display.toList,
      List.takeWhile_append_of_pos Family.ne_point_of_mem_display]
    rfl
  have hrest : spec.toList.drop (family.display.toList.length + 1) = [] :=
    List.drop_eq_nil_of_le (by rw [h]; omega)
  simp only [parse, hfamily, Family.ofName?_display, hrest]
  rfl

/-- The text in front of the first point, or the whole text without one, is cut off. -/
theorem eq_or_eq_of_takeWhile {s front : List Char} (h : s.takeWhile (· != '.') = front) :
    s = front ∨ ∃ rest, s = front ++ '.' :: rest := by
  have hsplit := List.takeWhile_append_dropWhile (p := (· != '.')) (l := s)
  have hpoint := List.head?_dropWhile_not (· != '.') s
  cases hdrop : s.dropWhile (· != '.') with
  | nil => exact Or.inl (by rwa [hdrop, List.append_nil, h, eq_comm] at hsplit)
  | cons c rest =>
    obtain rfl : c = '.' := by simpa [hdrop] using hpoint
    exact Or.inr ⟨rest, by rw [← hdrop, ← h, hsplit]⟩

/-- No family stands in front of the first point, or a family stands alone or in front of a
point. -/
theorem front_cases (spec : String) :
    Family.ofName? (spec.toList.takeWhile (· != '.')) = none ∨
      ∃ family : Family, spec.toList = family.display.toList ∨
        ∃ rest, spec.toList = family.display.toList ++ '.' :: rest := by
  cases hfamily : Family.ofName? (spec.toList.takeWhile (· != '.')) with
  | none => exact Or.inl rfl
  | some family =>
    exact Or.inr ⟨family, eq_or_eq_of_takeWhile (Family.ofName?_eq_some_iff.mp hfamily)⟩

/-- A text in front of the first point that is no family is a mistake. -/
theorem parse_of_foreign {spec : String}
    (h : Family.ofName? (spec.toList.takeWhile (· != '.')) = none) :
    parse spec = .error (.unknownFamily spec
      (String.ofList (spec.toList.takeWhile (· != '.')))) := by
  simp only [parse, h]

/-- A text is read as the references that are written like it. -/
theorem parse_eq_ok_iff {spec : String} {reference : Reference} :
    parse spec = .ok reference ↔ reference.IsNamed ∧ spec = reference.display := by
  constructor
  · intro hparse
    rcases front_cases spec with hforeign | ⟨family, hspec | ⟨rest, hspec⟩⟩
    · cases (parse_of_foreign hforeign).symm.trans hparse
    · cases (parse_of_family hspec).symm.trans hparse
    · rw [parse_of_toList hspec] at hparse
      split at hparse
      · cases hparse
      · next hname =>
        obtain rfl := Except.ok.inj hparse
        refine ⟨⟨?_, fun hmandatory => ?_⟩, String.toList_inj.mp ?_⟩
        · rw [ne_eq, ← String.toList_inj, String.toList_ofList]
          simpa using hname
        · rw [String.toList_ofList]
          exact unmarked_of_splitMark hmandatory
        · rw [toList_display, hspec, String.toList_ofList, ← eq_append_mark]
  · rintro ⟨⟨hname, hunmarked⟩, rfl⟩
    rw [parse_of_toList (toList_display reference), splitMark_append_mark hunmarked]
    simp [hname]

/-- A question mark behind a mandatory reference makes it optional. Only the last question mark
counts, so behind an optional one it would become a part of the name. -/
theorem parse_append_mark {spec : String} {reference : Reference}
    (hparse : parse spec = .ok reference) (hmandatory : reference.isOptional = false) :
    parse (spec ++ "?") = .ok { reference with isOptional := true } := by
  obtain ⟨hnamed, rfl⟩ := parse_eq_ok_iff.mp hparse
  refine parse_eq_ok_iff.mpr ⟨⟨hnamed.name_ne, by simp⟩, ?_⟩
  simp [display, hmandatory]

/-! ## What is no reference -/

/-- No family stands in front of the first point, nor alone. -/
def HasForeignFamily (spec : String) : Prop :=
  ∀ family : Family, spec ≠ family.display ∧ ∀ rest, spec ≠ family.display ++ "." ++ rest

/-- A family is followed by no name. -/
def LacksName (spec : String) : Prop :=
  ∃ family : Family, spec = family.display ∨ spec = family.display ++ "." ∨
    spec = family.display ++ ".?"

theorem toList_point (family : Family) (rest : String) :
    (family.display ++ "." ++ rest).toList = family.display.toList ++ '.' :: rest.toList := by
  simp

theorem hasForeignFamily_iff {spec : String} :
    HasForeignFamily spec ↔ Family.ofName? (spec.toList.takeWhile (· != '.')) = none := by
  constructor
  · intro hforeign
    rcases front_cases spec with hnone | ⟨family, hspec | ⟨rest, hspec⟩⟩
    · exact hnone
    · exact absurd (String.toList_inj.mp hspec) (hforeign family).1
    · refine absurd (String.toList_inj.mp ?_) ((hforeign family).2 (String.ofList rest))
      rw [toList_point, hspec, String.toList_ofList]
  · intro hfamily family
    have hparse := parse_of_foreign hfamily
    refine ⟨?_, fun rest => ?_⟩
    · rintro rfl
      cases hparse.symm.trans (parse_of_family rfl)
    · rintro rfl
      rw [parse_of_toList (toList_point family rest)] at hparse
      split at hparse <;> cases hparse

theorem lacksName_iff {spec : String} :
    LacksName spec ↔ parse spec = .error (.missingName spec) := by
  constructor
  · rintro ⟨family, rfl | rfl | rfl⟩
    · exact parse_of_family rfl
    · have hspec : (family.display ++ ".").toList = family.display.toList ++ ['.'] := by simp
      exact parse_of_toList hspec
    · have hspec : (family.display ++ ".?").toList = family.display.toList ++ ['.', '?'] := by simp
      exact parse_of_toList hspec
  · intro hparse
    rcases front_cases spec with hforeign | ⟨family, hspec | ⟨rest, hspec⟩⟩
    · cases (parse_of_foreign hforeign).symm.trans hparse
    · exact ⟨family, Or.inl (String.toList_inj.mp hspec)⟩
    · rw [parse_of_toList hspec] at hparse
      split at hparse
      · next hname =>
        have hrest : rest = mark (splitMark rest).2 := by
          have hmark := eq_append_mark rest
          rwa [List.isEmpty_iff.mp hname, List.nil_append] at hmark
        refine ⟨family, Or.inr ?_⟩
        generalize (splitMark rest).2 = isOptional at hrest
        subst hrest
        cases isOptional with
        | false => exact Or.inl (String.toList_inj.mp (by simp [hspec, mark]))
        | true => exact Or.inr (String.toList_inj.mp (by simp [hspec, mark]))
      · cases hparse

/-- A text has no family, or it has no name, or a reference is written like it. -/
theorem parse_cases (spec : String) :
    HasForeignFamily spec ∨ LacksName spec ∨
      ∃ reference : Reference, reference.IsNamed ∧ spec = reference.display := by
  cases hparse : parse spec with
  | ok reference => exact Or.inr (Or.inr ⟨reference, parse_eq_ok_iff.mp hparse⟩)
  | error error =>
    rcases front_cases spec with hforeign | ⟨family, hspec | ⟨rest, hspec⟩⟩
    · exact Or.inl (hasForeignFamily_iff.mpr hforeign)
    · exact Or.inr (Or.inl (lacksName_iff.mpr (parse_of_family hspec)))
    · refine Or.inr (Or.inl (lacksName_iff.mpr ?_))
      rw [parse_of_toList hspec] at hparse ⊢
      split at hparse
      · next hname => rw [if_pos hname]
      · cases hparse

end Reference

end PageRecipe

import PageRecipe.Proofs.Numeric.Numerals
import PageRecipe.Settings.Overrides

/-!
# What a variable says

The value of a variable is read by what it looks like, and what a setting gets is the standard
form of what was read. `ofText_eq_iff` says how a value is read, `display_ofText_eq_iff` which
values are their own standard form (`IsKept`), and `classesOfValue?_eq_some_iff` which ones are
lists of classes. Those lists are cut at their commas (`Classes.areListed_iff`).
-/

namespace PageRecipe

/-! ## Lists between commas -/

theorem splitCommas_comma (rest : List Char) : splitCommas (',' :: rest) = [] :: splitCommas rest :=
  rfl

theorem splitCommas_cons {c : Char} (hc : c ≠ ',') {rest piece : List Char}
    {others : List (List Char)} (hrest : splitCommas rest = piece :: others) :
    splitCommas (c :: rest) = (c :: piece) :: others := by
  rw [splitCommas, if_neg hc, hrest]

/-- A text is its pieces with commas between them, and there is no comma in a piece. -/
theorem splitCommas_spec (s : List Char) :
    (∀ piece ∈ splitCommas s, ',' ∉ piece) ∧ [','].intercalate (splitCommas s) = s := by
  induction s with
  | nil => exact ⟨by simp [splitCommas], rfl⟩
  | cons c rest ih =>
    obtain ⟨hnone, hjoin⟩ := ih
    obtain ⟨piece, others, hrest⟩ := List.exists_cons_of_ne_nil (splitCommas_ne_nil rest)
    rw [hrest] at hnone hjoin
    by_cases hc : c = ','
    · subst hc
      rw [splitCommas_comma, hrest]
      exact ⟨List.forall_mem_cons.mpr ⟨List.not_mem_nil, hnone⟩,
        by rw [List.intercalate_cons_cons, hjoin]; rfl⟩
    · rw [splitCommas_cons hc hrest]
      obtain ⟨hpiece, hothers⟩ := List.forall_mem_cons.mp hnone
      refine ⟨List.forall_mem_cons.mpr ⟨?_, hothers⟩, ?_⟩
      · rw [List.mem_cons, not_or]
        exact ⟨Ne.symm hc, hpiece⟩
      · cases others with
        | nil => simpa using hjoin
        | cons other others =>
          rw [List.intercalate_cons_cons] at hjoin ⊢
          rw [List.cons_append, List.cons_append, hjoin]

theorem splitCommas_of_not_mem {piece : List Char} (h : ',' ∉ piece) :
    splitCommas piece = [piece] := by
  induction piece with
  | nil => rfl
  | cons c rest ih =>
    obtain ⟨hc, hrest⟩ := not_or.mp (mt List.mem_cons.mpr h)
    exact splitCommas_cons (Ne.symm hc) (ih hrest)

theorem splitCommas_append {piece : List Char} (h : ',' ∉ piece) (rest : List Char) :
    splitCommas (piece ++ ',' :: rest) = piece :: splitCommas rest := by
  induction piece with
  | nil => exact splitCommas_comma rest
  | cons c piece ih =>
    obtain ⟨hc, hpiece⟩ := not_or.mp (mt List.mem_cons.mpr h)
    exact splitCommas_cons (Ne.symm hc) (ih hpiece)

/-- Pieces without commas are found again between commas. -/
theorem splitCommas_intercalate {pieces : List (List Char)} (hne : pieces ≠ [])
    (hnone : ∀ piece ∈ pieces, ',' ∉ piece) : splitCommas ([','].intercalate pieces) = pieces := by
  induction pieces with
  | nil => exact absurd rfl hne
  | cons piece others ih =>
    obtain ⟨hpiece, hothers⟩ := List.forall_mem_cons.mp hnone
    cases others with
    | nil =>
      rw [List.intercalate_singleton]
      exact splitCommas_of_not_mem hpiece
    | cons other others =>
      rw [List.intercalate_cons_cons, List.append_assoc, List.singleton_append,
        splitCommas_append hpiece, ih (List.cons_ne_nil _ _) hothers]

/-- The classes that a text lists, with commas between them. -/
structure Classes.AreListed (v : String) (classes : List String) : Prop where
  nonempty : classes ≠ []
  noComma : ∀ name ∈ classes, ',' ∉ name.toList
  joined : ",".intercalate classes = v

/-- There is one way to read a text as a list of classes. -/
theorem Classes.areListed_iff {v : String} {classes : List String} :
    AreListed v classes ↔ classes = (splitCommas v.toList).map String.ofList := by
  have hlists : (classes.map String.toList).map String.ofList = classes := by
    simp [List.map_map, Function.comp_def]
  constructor
  · rintro ⟨hne, hnone, rfl⟩
    have hpieces : splitCommas (",".intercalate classes).toList = classes.map String.toList := by
      rw [String.toList_intercalate]
      refine splitCommas_intercalate (by simpa using hne) fun piece hpiece => ?_
      obtain ⟨name, hname, rfl⟩ := List.mem_map.mp hpiece
      exact hnone name hname
    rw [hpieces, hlists]
  · rintro rfl
    obtain ⟨hnone, hjoin⟩ := splitCommas_spec v.toList
    refine ⟨by simpa using splitCommas_ne_nil v.toList, fun name hname => ?_, ?_⟩
    · obtain ⟨piece, hpiece, rfl⟩ := List.mem_map.mp hname
      rw [String.toList_ofList]
      exact hnone piece hpiece
    · refine String.toList_injective ?_
      rw [String.toList_intercalate, List.map_map]
      simpa using hjoin

namespace VariableValue

/-! ## How a value is read -/

/-- A truth value, in any case. -/
def IsTruth (v : String) : Prop := lower v = "true" ∨ lower v = "false"

/-- A text that is taken for something else. -/
def IsScalar (v : String) : Prop := IsTruth v ∨ IsNumeral v.toList

/-- What a text is read as : a truth value, else an integer that 64 bits hold, else a number, else
nothing but a text. -/
inductive IsReadAs (v : String) : VariableValue → Prop where
  | boolean {b : Bool} (htruth : lower v = if b then "true" else "false") : IsReadAs v (.boolean b)
  | integer {n : Int} (hinteger : int64? v.toList = some n) : IsReadAs v (.integer n)
  | float {x : Binary64} (hinteger : int64? v.toList = none)
      (hnumber : Binary64.ofText? v.toList = some x) : IsReadAs v (.float x)
  | text (hscalar : ¬IsScalar v) : IsReadAs v (.text v)

theorem isNumeral_of_int64? {s : List Char} {n : Int} (h : int64? s = some n) : IsNumeral s := by
  obtain ⟨hn, -⟩ := Option.filter_eq_some_iff.mp h
  exact (isSome_intOfText?_iff.mp (Option.isSome_of_eq_some hn)).isNumeral

theorem isNumeral_of_ofText? {s : List Char} {x : Binary64} (h : Binary64.ofText? s = some x) :
    IsNumeral s :=
  isSome_ofText?_iff.mp (Option.isSome_of_eq_some h)

/-- A number is no truth value. -/
theorem not_isTruth_of_isNumeral {v : String} (h : IsNumeral v.toList) : ¬IsTruth v := by
  obtain ⟨ht, hf⟩ := h.head?
  have hlower : v.toList.map Char.toLower = (lower v).toList := String.toList_ofList.symm
  rw [hlower] at ht hf
  rintro (htruth | htruth)
  · exact ht (by rw [htruth]; decide)
  · exact hf (by rw [htruth]; decide)

theorem ofText_of_not_isTruth {v : String} (h : ¬IsTruth v) :
    ofText v = match int64? v.toList, Binary64.ofText? v.toList with
      | some n, _ => integer n
      | none, some x => float x
      | none, none => text v := by
  obtain ⟨htrue, hfalse⟩ := not_or.mp h
  exact (if_neg htrue).trans (if_neg hfalse)

theorem isReadAs_ofText (v : String) : IsReadAs v (ofText v) := by
  by_cases htruth : IsTruth v
  · rcases htruth with h | h
    · rw [ofText, if_pos h]
      exact .boolean h
    · rw [ofText, if_neg (by rw [h]; decide), if_pos h]
      exact .boolean h
  · rw [ofText_of_not_isTruth htruth]
    cases hinteger : int64? v.toList with
    | some n => exact .integer hinteger
    | none =>
      cases hnumber : Binary64.ofText? v.toList with
      | some x => exact .float hinteger hnumber
      | none =>
        refine .text (not_or.mpr ⟨htruth, fun h => ?_⟩)
        rw [← isSome_ofText?_iff, hnumber] at h
        cases h

theorem ofText_eq_iff {v : String} {value : VariableValue} :
    ofText v = value ↔ IsReadAs v value := by
  constructor
  · rintro rfl
    exact isReadAs_ofText v
  · intro h
    -- a number is no truth value, so the tests in front of the one that counts fail
    cases h with
    | @boolean b htruth => cases b <;> simp [ofText, htruth]
    | integer hinteger =>
      rw [ofText_of_not_isTruth (not_isTruth_of_isNumeral (isNumeral_of_int64? hinteger)), hinteger]
    | float hinteger hnumber =>
      rw [ofText_of_not_isTruth (not_isTruth_of_isNumeral (isNumeral_of_ofText? hnumber)),
        hinteger, hnumber]
    | text hscalar =>
      obtain ⟨htruth, hnumeral⟩ := not_or.mp hscalar
      have hnumber : Binary64.ofText? v.toList = none :=
        Option.not_isSome_iff_eq_none.mp fun h => hnumeral (isSome_ofText?_iff.mp h)
      have hinteger : int64? v.toList = none :=
        Option.eq_none_iff_forall_ne_some.mpr fun n h => hnumeral (isNumeral_of_int64? h)
      rw [ofText_of_not_isTruth htruth, hinteger, hnumber]

/-! ## Standard forms -/

/-- A value that is its own standard form. -/
inductive IsKept : String → Prop where
  | true : IsKept "true"
  | false : IsKept "false"
  | integer {n : Int} (hsize : isSigned 64 n = true) : IsKept (toString n)
  | float {v : String} {x : Binary64} (hinteger : int64? v.toList = none)
      (hnumber : Binary64.ofText? v.toList = some x) (hform : x.toPositional = v) : IsKept v
  | text {v : String} (hscalar : ¬IsScalar v) : IsKept v

theorem int64?_toString {n : Int} (h : isSigned 64 n = true) :
    int64? (toString n).toList = some n := by
  rw [int64?, intOfText?_toString, Option.filter_some, if_pos h]

theorem display_ofText_eq_iff {v : String} : (ofText v).display = v ↔ IsKept v := by
  constructor
  · intro h
    have hread := isReadAs_ofText v
    generalize ofText v = value at h hread
    cases hread with
    | @boolean b _ =>
      cases b
      · exact h ▸ .false
      · exact h ▸ .true
    | @integer n hinteger =>
      obtain ⟨-, hsize⟩ := Option.filter_eq_some_iff.mp hinteger
      exact h ▸ .integer hsize
    | float hinteger hnumber => exact .float hinteger hnumber h
    | text hscalar => exact .text hscalar
  · intro h
    cases h with
    | true => decide
    | false => decide
    | integer hsize => rw [ofText_eq_iff.mpr (.integer (int64?_toString hsize)), display]
    | float hinteger hnumber hform =>
      rw [ofText_eq_iff.mpr (.float hinteger hnumber), display, hform]
    | text hscalar => rw [ofText_eq_iff.mpr (.text hscalar), display]

/-- A value that is no truth value and no number lists classes. -/
theorem classesOfValue?_of_not_isScalar {v : String} (h : ¬IsScalar v) :
    Layer.classesOfValue? (ofText v) = some ((splitCommas v.toList).map String.ofList) := by
  rw [ofText_eq_iff.mpr (.text h), Layer.classesOfValue?]

/-- A truth value or a number lists nothing. -/
theorem classesOfValue?_of_isScalar {v : String} (h : IsScalar v) :
    Layer.classesOfValue? (ofText v) = none := by
  have hread := isReadAs_ofText v
  generalize ofText v = value at hread
  cases hread with
  | boolean htruth => rfl
  | integer hinteger => rfl
  | float hinteger hnumber => rfl
  | text hscalar => exact absurd h hscalar

/-- A standard form has no characters of its own but those of numbers and their names. -/
theorem mem_display_ofText {v : String} {c : Char} (h : c ∈ (ofText v).display.toList) :
    c ∈ v.toList ∨ IsNumeralChar c := by
  have hread := isReadAs_ofText v
  generalize ofText v = value at h hread
  cases hread with
  | @boolean b _ =>
    cases b with
    | false => exact Or.inr (.of_all (by decide) h)
    | true => exact Or.inr (.of_all (by decide) h)
  | integer _ => exact Or.inr (isNumeralChar_of_mem_toString h)
  | float _ _ => exact Or.inr (isNumeralChar_of_mem_toPositional h)
  | text _ => exact Or.inl h

end VariableValue

end PageRecipe

import Mathlib.Data.List.TakeWhile
import PageRecipe.Proofs.Recipe.References

/-!
# References and their spellings

A text is the spelling of at most one reference that is named (`display_inj`), and reading it
gives that reference. If it spells none, what stands in front of its first point (`IsFront`) says
what is wrong : it is no family, or the name behind it is missing (`parse_iff_spelling`).
-/

namespace PageRecipe

theorem Family.ofName?_eq_none_iff {name : String} :
    ofName? name.toList = none ↔ ¬(name = "meta" ∨ name = "prose") := by
  simp only [ofName?, String.toList_inj]
  by_cases hmeta : name = "meta"
  · simp [hmeta]
  · by_cases hprose : name = "prose" <;> simp [hmeta, hprose]

namespace Reference

/-- References that are named and have one spelling are one reference. -/
theorem display_inj {a b : Reference} (ha : a.IsNamed) (hb : b.IsNamed)
    (h : a.display = b.display) : a = b := by
  have hread := parse_eq_ok_iff.mpr ⟨ha, h.symm⟩
  rw [parse_eq_ok_iff.mpr ⟨hb, rfl⟩] at hread
  exact (Except.ok.inj hread).symm

/-! ## What stands in front of the first point -/

/-- The text in front of the first point, or the whole text if it holds no point. -/
def IsFront (spec front : String) : Prop :=
  '.' ∉ front.toList ∧ (spec = front ∨ ∃ rest, spec = front ++ "." ++ rest)

theorem isFront_iff {spec front : String} :
    IsFront spec front ↔ front.toList = spec.toList.takeWhile (· != '.') := by
  constructor
  · rintro ⟨hpoint, hspec⟩
    have hfront : ∀ c ∈ front.toList, (c != '.') = true := fun c hc =>
      bne_iff_ne.mpr fun h => hpoint (h ▸ hc)
    rcases hspec with rfl | ⟨rest, rfl⟩
    · exact (List.takeWhile_eq_self_iff.mpr hfront).symm
    · simp [List.takeWhile_append_of_pos hfront]
  · intro h
    constructor
    · intro hpoint
      rw [h] at hpoint
      simpa using List.all_eq_true.mp List.all_takeWhile _ hpoint
    · rcases eq_or_eq_of_takeWhile h.symm with hspec | ⟨rest, hspec⟩
      · exact Or.inl (String.toList_inj.mp hspec)
      · exact Or.inr ⟨String.ofList rest, String.toList_inj.mp (by simp [hspec])⟩

/-- Every text has exactly one front. -/
theorem exists_isFront_iff (spec : String) : ∃ front, ∀ other, IsFront spec other ↔ other = front :=
  ⟨String.ofList (spec.toList.takeWhile (· != '.')), fun other => by
    rw [isFront_iff, ← String.toList_inj, String.toList_ofList]⟩

/-! ## What is wrong with a text that spells no reference -/

/-- The mistake in a text that spells no reference, told from its front. -/
def mistake (spec front : String) : RecipeError :=
  if front = "meta" ∨ front = "prose" then .missingName spec else .unknownFamily spec front

theorem eq_mistake_of_parse {spec front : String} {error : RecipeError}
    (hfront : IsFront spec front) (h : parse spec = .error error) :
    error = mistake spec front := by
  rw [mistake]
  rw [parse] at h
  rw [isFront_iff] at hfront
  simp only [← hfront] at h
  split at h
  · next hnone =>
    cases h
    rw [if_neg (Family.ofName?_eq_none_iff.mp hnone), String.ofList_toList]
  · next family hfamily =>
    have hname : front = family.display :=
      String.toList_inj.mp (Family.ofName?_eq_some_iff.mp hfamily)
    have hknown : front = "meta" ∨ front = "prose" := by
      cases family with
      | metadata => exact Or.inl hname
      | prose => exact Or.inr hname
    rw [if_pos hknown]
    split at h
    · exact (Except.error.inj h).symm
    · cases h

/-- A text is read as the reference that it spells, which is the only one : one with a name, which
does not end in a question mark if the reference is mandatory. A text that spells none is a
mistake that its front tells. Where the front is `meta` or `prose` there is no name, and else the
front is no family. -/
theorem parse_iff_spelling (spec : String) :
    (∀ reference, parse spec = .ok reference ↔ reference.display = spec ∧ reference.IsNamed) ∧
    (∀ a b : Reference, a.IsNamed → b.IsNamed → a.display = spec → b.display = spec → a = b) ∧
    ∃ front, (∀ other, IsFront spec other ↔ other = front) ∧ ∀ error,
      parse spec = .error error ↔
        (∀ reference : Reference, reference.IsNamed → reference.display ≠ spec) ∧
          error = mistake spec front := by
  refine ⟨fun reference => by rw [parse_eq_ok_iff, and_comm, eq_comm],
    fun a b ha hb hspec hspec' => display_inj ha hb (hspec.trans hspec'.symm), ?_⟩
  obtain ⟨front, hfront⟩ := exists_isFront_iff spec
  have hmistake : ∀ error, parse spec = .error error → error = mistake spec front :=
    fun error => eq_mistake_of_parse ((hfront front).mpr rfl)
  refine ⟨front, hfront, fun error => ⟨fun h => ⟨?_, hmistake error h⟩, ?_⟩⟩
  · intro reference hnamed hspec
    cases h.symm.trans (parse_eq_ok_iff.mpr ⟨hnamed, hspec.symm⟩)
  · rintro ⟨hnone, rfl⟩
    cases hparse : parse spec with
    | ok reference =>
      obtain ⟨hnamed, hspec⟩ := parse_eq_ok_iff.mp hparse
      exact absurd hspec.symm (hnone reference hnamed)
    | error found => rw [hmistake found hparse]

end Reference

end PageRecipe

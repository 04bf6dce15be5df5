import PageRecipe.Proofs.Check.ConstructorVerdict
import PageRecipe.Proofs.Check.ExamplePlacement
import PageRecipe.Proofs.Check.Registration

/-!
# The codes of the library's handlers

What a handler of the library finds carries one of the codes of the handler, whatever the tree
is (`Registry.code_mem_of_builtin`). The library registers two handlers, under names that do
not begin with the qualifier, so a name resolves when it is one of the two, bare or qualified
(`Registry.resolve?_builtin_eq_none_iff`).
-/

namespace PageRecipe

namespace LinkList

/-- The codes of the findings about link lists. -/
def codes : List String :=
  ["link-list-single-dl", "link-list-dt-has-link", "link-list-dt-followed-by-dd"]

theorem code_of_mem_itemsFindings {label : String} {finding : Finding} :
    ∀ {items : List Located}, finding ∈ itemsFindings label items → finding.code ∈ codes
  | [], h => by simp [itemsFindings] at h
  | item :: rest, h => by
    rw [itemsFindings, List.mem_append] at h
    rcases h with h | h
    · split at h
      · rw [termFindings, List.mem_append] at h
        rcases h with h | h <;> rw [Finding.code_of_mem_failIf h] <;> decide
      · simp at h
    · exact code_of_mem_itemsFindings h

theorem code_of_mem_sectionFindings {label : String} {run : Run} {finding : Finding}
    (h : finding ∈ sectionFindings label run) : finding.code ∈ codes := by
  rw [sectionFindings, List.mem_append] at h
  rcases h with h | h
  · rw [Finding.code_of_mem_failIf h]
    decide
  · obtain ⟨list, -, hlist⟩ := List.mem_flatMap.mp h
    exact code_of_mem_itemsFindings hlist

end LinkList

namespace Constructor

/-- The codes of the findings about constructor sections. -/
def codes : List String :=
  LinkList.codes ++ ["expected-heading", "only-single-constructor-dt", "only-single-constructor-dd",
    "constructor-description-at-least-three-nodes", "constructor-description-first-node",
    "constructor-description-second-node", "constructor-description-third-node"]

theorem code_of_mem_partFindings {run : Run} {first second third : Node} {finding : Finding}
    (h : finding ∈ partFindings run first second third) : finding.code ∈ codes := by
  simp only [partFindings, List.mem_append] at h
  rcases h with (h | h) | h <;> rw [Finding.code_of_mem_failIf h] <;> decide

theorem code_of_mem_descriptionFindings {run : Run} {descriptions : List Located}
    {finding : Finding} (h : finding ∈ descriptionFindings run descriptions) :
    finding.code ∈ codes := by
  rw [descriptionFindings.eq_def] at h
  split at h
  · split at h
    · exact code_of_mem_partFindings h
    · obtain rfl := List.mem_singleton.mp h
      simp [codes]
  · obtain rfl := List.mem_singleton.mp h
    simp [codes]

theorem code_of_mem_sectionFindings {run : Run} {finding : Finding}
    (h : finding ∈ sectionFindings run) : finding.code ∈ codes := by
  rw [sectionFindings] at h
  split at h
  · simp at h
  · simp only [entryFindings, List.mem_append] at h
    rcases h with (h | h) | h
    · exact List.mem_append_left _ (LinkList.code_of_mem_sectionFindings h)
    · rw [Finding.code_of_mem_failIf h]
      decide
    · exact code_of_mem_descriptionFindings h

theorem code_of_mem_check {ctx : Context} {tree : Located} {finding : Finding}
    (h : finding ∈ (check ctx tree .empty).2.findings) : finding.code ∈ codes := by
  cases hselect : tree.select? (LinkList.selector sectionId).isMatch with
  | none =>
    rw [check_of_none .empty hselect, Report.findings_extend] at h
    obtain rfl := List.mem_singleton.mp h
    simp [codes]
  | some heading =>
    rw [check_of_heading .empty hselect, Report.findings_extend] at h
    exact code_of_mem_sectionFindings h

end Constructor

namespace InteractiveExample

/-- The codes of the findings about interactive examples. -/
def codes : List String :=
  ["interactive-example-before-first-h2", "at-most-one-interactive-example",
    "interactive-example-inside-div", "interactive-example-preceded-by-p"]

theorem code_of_mem_check {ctx : Context} {tree : Located} {finding : Finding}
    (h : finding ∈ (check ctx tree .empty).2.findings) : finding.code ∈ codes := by
  obtain ⟨run, -, hcheck⟩ := exists_lead_check_eq ctx tree .empty
  rw [hcheck, Report.findings_extend] at h
  simp only [Report.empty, List.nil_append, List.mem_append] at h
  rcases h with (h | h) | h
  · rw [code_of_mem_afterFindings h]
    decide
  · rw [Finding.code_of_mem_failIf h]
    decide
  · rcases code_of_mem_firstFindings h with h | h <;> rw [h] <;> decide

end InteractiveExample

namespace Registry

/-- Where no registered name begins with the qualifier, a name resolves when it is a registered
one, bare or behind the qualifier. -/
theorem resolve?_eq_none_iff {registry : Registry} {name : String}
    (h : ∀ registered ∈ registry.names, ¬qualifier.toList <+: registered.toList) :
    registry.resolve? name = none ↔
      ∀ registered ∈ registry.names, name ≠ registered ∧ name ≠ qualifier ++ registered := by
  have hresolve : registry.resolve? name = none ↔ bareName name ∉ registry.names := by
    rw [names, Dictionary.mem_labels_iff, Bool.not_eq_true, Option.isSome_eq_false_iff,
      Option.isNone_iff_eq_none, resolve?]
  rw [hresolve]
  constructor
  · rintro hbare registered hregistered
    refine ⟨?_, ?_⟩
    · rintro rfl
      rw [bareName_of_unqualified (h _ hregistered)] at hbare
      exact hbare hregistered
    · rintro rfl
      rw [bareName_qualified] at hbare
      exact hbare hregistered
  · intro hother hbare
    by_cases hprefix : qualifier.toList <+: name.toList
    · obtain ⟨bare, hsplit⟩ := hprefix
      obtain rfl : name = qualifier ++ String.ofList bare :=
        String.toList_inj.mp (by rw [← hsplit, String.toList_append, String.toList_ofList])
      rw [bareName_qualified] at hbare
      exact (hother _ hbare).2 rfl
    · rw [bareName_of_unqualified hprefix] at hbare
      exact (hother _ hbare).1 rfl

/-! ## The handlers of the library -/

theorem resolve?_builtin_eq_none_iff {name : String} :
    builtin.resolve? name = none ↔
      ∀ registered ∈ builtin.names, name ≠ registered ∧ name ≠ qualifier ++ registered :=
  resolve?_eq_none_iff (by decide)

theorem entries_builtin : builtin.entries =
    [("constructor", Constructor.check), ("interactive_example", InteractiveExample.check)] :=
  rfl

theorem eq_of_resolve?_builtin {name : String} {handler : Handler}
    (h : builtin.resolve? name = some handler) :
    handler = Constructor.check ∨ handler = InteractiveExample.check := by
  rw [resolve?, entries_builtin, Dictionary.get?, List.lookup_cons, List.lookup_cons] at h
  split at h
  · exact Or.inl (Option.some.inj h).symm
  · split at h
    · exact Or.inr (Option.some.inj h).symm
    · simp at h

/-- The codes of the handlers of the library. -/
def builtinCodes : List String := Constructor.codes ++ InteractiveExample.codes

theorem code_mem_of_builtin {name : String} {handler : Handler}
    (h : builtin.resolve? name = some handler) {ctx : Context} {tree : Located}
    {finding : Finding} (hfinding : finding ∈ (handler ctx tree .empty).2.findings) :
    finding.code ∈ builtinCodes := by
  rcases eq_of_resolve?_builtin h with rfl | rfl
  · exact List.mem_append_left _ (Constructor.code_of_mem_check hfinding)
  · exact List.mem_append_right _ (InteractiveExample.code_of_mem_check hfinding)

end Registry

end PageRecipe

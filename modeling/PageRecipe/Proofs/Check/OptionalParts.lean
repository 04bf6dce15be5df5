import Mathlib.Data.List.Forall2
import PageRecipe.Proofs.Check.RecipeFindings
import PageRecipe.Proofs.Recipe.References

/-!
# Making parts optional

A question mark behind a mandatory leaf makes it optional. A leaf of the front matter then adds
nothing, and a leaf of the prose adds what it added before without the findings that something
was expected (`leafFindings_append_mark`).

`Ingredient.RelaxesAll` lets some mandatory leaves of a recipe be made optional, wherever they
stand. The entries of the two flattened recipes are then in step (`RelaxesAll.forall₂_flatAll`),
and entry by entry findings are only taken away. So `relaxing_removes` : the findings of the
lenient recipe are some of the findings of the strict one, in their order, and no violation
that a leaf of the prose found is lost.
-/

namespace PageRecipe

namespace Ingredient

/-! ## Lenient recipes -/

mutual

/-- The second ingredient is the first one, in which some mandatory leaves were made optional. -/
inductive Relaxes : Ingredient → Ingredient → Prop where
  | same (ingredient : Ingredient) : Relaxes ingredient ingredient
  | leaf {spec : String} {reference : Reference} (hparse : Reference.parse spec = .ok reference)
      (hmandatory : reference.isOptional = false) : Relaxes (.leaf spec) (.leaf (spec ++ "?"))
  | group {entries lenient : List (String × List Ingredient)}
      (hentries : RelaxesEntries entries lenient) : Relaxes (.group entries) (.group lenient)

/-- Some mandatory leaves among ingredients were made optional. -/
inductive RelaxesAll : List Ingredient → List Ingredient → Prop where
  | nil : RelaxesAll [] []
  | cons {ingredient lenient : Ingredient} {rest lenientRest : List Ingredient}
      (hingredient : Relaxes ingredient lenient) (hrest : RelaxesAll rest lenientRest) :
      RelaxesAll (ingredient :: rest) (lenient :: lenientRest)

/-- Some mandatory leaves in the bodies of a group were made optional. -/
inductive RelaxesEntries :
    List (String × List Ingredient) → List (String × List Ingredient) → Prop where
  | nil : RelaxesEntries [] []
  | cons (label : String) {body lenient : List Ingredient}
      {rest lenientRest : List (String × List Ingredient)} (hbody : RelaxesAll body lenient)
      (hrest : RelaxesEntries rest lenientRest) :
      RelaxesEntries ((label, body) :: rest) ((label, lenient) :: lenientRest)

end

theorem RelaxesEntries.labels_eq : ∀ {entries lenient : List (String × List Ingredient)},
    RelaxesEntries entries lenient → lenient.map (·.1) = entries.map (·.1)
  | _, _, .nil => rfl
  | _, _, .cons label _ hrest => by rw [List.map_cons, List.map_cons, hrest.labels_eq]

/-- The entry is a leaf of the prose. -/
def IsProse (entry : Ingredient) : Prop :=
  ∃ spec reference, entry = .leaf spec ∧ Reference.parse spec = .ok reference ∧
    reference.family = .prose

/-- What becomes of an entry of a flattened recipe when leaves are made optional : it stays, or
it is such a leaf, or it is a malformed group, of which only the labels count. -/
inductive RelaxesEntry : Ingredient → Ingredient → Prop where
  | same (entry : Ingredient) : RelaxesEntry entry entry
  | leaf {spec : String} {reference : Reference} (hparse : Reference.parse spec = .ok reference)
      (hmandatory : reference.isOptional = false) : RelaxesEntry (.leaf spec) (.leaf (spec ++ "?"))
  | malformed {entries lenient : List (String × List Ingredient)}
      (hlabels : lenient.map (·.1) = entries.map (·.1)) (hlength : entries.length ≠ 1) :
      RelaxesEntry (.group entries) (.group lenient)

theorem forall₂_same (entries : List Ingredient) : List.Forall₂ RelaxesEntry entries entries :=
  List.forall₂_same.mpr fun entry _ => .same entry

mutual

theorem Relaxes.forall₂_flat : ∀ {ingredient lenient : Ingredient}, Relaxes ingredient lenient →
    List.Forall₂ RelaxesEntry (flat ingredient) (flat lenient)
  | _, _, .same ingredient => forall₂_same (flat ingredient)
  | _, _, .leaf hparse hmandatory => by
    simp only [flat]
    exact .cons (.leaf hparse hmandatory) .nil
  | _, _, .group .nil => by
    simp only [flat]
    exact .cons (.same _) .nil
  | _, _, .group (.cons label hbody .nil) => by
    rw [flat, flat]
    exact RelaxesAll.forall₂_flatAll hbody
  | _, _, .group (.cons label hbody (.cons other hother hrest)) => by
    simp only [flat]
    exact .cons (.malformed (by simp [hrest.labels_eq]) (by simp)) .nil

/-- The entries of the two flattened recipes are in step. -/
theorem RelaxesAll.forall₂_flatAll : ∀ {ingredients lenient : List Ingredient},
    RelaxesAll ingredients lenient →
    List.Forall₂ RelaxesEntry (flatAll ingredients) (flatAll lenient)
  | _, _, .nil => .nil
  | _, _, .cons hingredient hrest => by
    rw [flatAll, flatAll]
    exact List.rel_append (Relaxes.forall₂_flat hingredient) (RelaxesAll.forall₂_flatAll hrest)

end

end Ingredient

namespace Interpreter

open Ingredient

variable (interpreter : Interpreter) (page : Page)

/-! ## One leaf -/

theorem metadataFindings_of_isOptional {reference : Reference}
    (h : reference.isOptional = true) : metadataFindings page reference = [] := by
  rw [metadataFindings, Finding.failIf_eq_nil_iff, h, Bool.not_true, Bool.and_false]

/-- An optional leaf of the prose keeps what is not merely expected. The finding that no handler
is known is a violation, and stays. -/
theorem proseFindings_optional {reference : Reference} (h : reference.isOptional = false) :
    interpreter.proseFindings page { reference with isOptional := true } =
      (interpreter.proseFindings page reference).filter (·.severity != .expected) := by
  cases hresolve : interpreter.registry.resolve? reference.name with
  | none => simp [proseFindings, hresolve, mistake]
  | some handler => simp [proseFindings, hresolve, h, bne]

theorem leafFindings_append_mark {spec : String} {reference : Reference}
    (hparse : Reference.parse spec = .ok reference) (hmandatory : reference.isOptional = false) :
    interpreter.leafFindings page (spec ++ "?") =
      match reference.family with
      | .metadata => []
      | .prose => (interpreter.leafFindings page spec).filter (·.severity != .expected) := by
  simp only [leafFindings, Reference.parse_append_mark hparse hmandatory, hparse]
  cases reference.family with
  | metadata => exact metadataFindings_of_isOptional page rfl
  | prose => exact interpreter.proseFindings_optional page hmandatory

/-! ## The entries of a recipe -/

/-- What an entry adds to an empty report. -/
def alone (entry : Ingredient) : List Finding := (interpreter.checkAll page [entry] .empty).findings

theorem alone_eq (entry : Ingredient) :
    interpreter.alone page entry = interpreter.findings page entry := by
  rw [alone, findings_checkAll_empty, findingsOfAll_singleton]

/-- The findings of the second entry are some of those of the first one, and all violations if
that is a leaf of the prose. -/
def KeepsViolations (entry lenient : Ingredient) : Prop :=
  (interpreter.alone page lenient).Sublist (interpreter.alone page entry) ∧
    (entry.IsProse → (interpreter.alone page lenient).filter (·.severity == .fail) =
      (interpreter.alone page entry).filter (·.severity == .fail))

/-- What is expected is no violation. -/
theorem filter_fail_filter (findings : List Finding) :
    (findings.filter (·.severity != .expected)).filter (·.severity == .fail) =
      findings.filter (·.severity == .fail) := by
  rw [List.filter_filter]
  refine List.filter_congr fun finding _ => ?_
  cases finding.severity <;> rfl

theorem keepsViolations_leaf {spec : String} {reference : Reference}
    (hparse : Reference.parse spec = .ok reference) (hmandatory : reference.isOptional = false) :
    interpreter.KeepsViolations page (.leaf spec) (.leaf (spec ++ "?")) := by
  simp only [KeepsViolations, alone_eq, findings,
    interpreter.leafFindings_append_mark page hparse hmandatory]
  cases hfamily : reference.family with
  | metadata =>
    refine ⟨List.nil_sublist _, ?_⟩
    rintro ⟨_, other, hspec, hother, hprose⟩
    obtain rfl := Ingredient.leaf.inj hspec
    obtain rfl := Except.ok.inj (hparse.symm.trans hother)
    cases hfamily.symm.trans hprose
  | prose => exact ⟨List.filter_sublist, fun _ => filter_fail_filter _⟩

theorem keepsViolations_malformed {entries lenient : List (String × List Ingredient)}
    (hlabels : lenient.map (·.1) = entries.map (·.1)) (hlength : entries.length ≠ 1) :
    interpreter.KeepsViolations page (.group entries) (.group lenient) := by
  have hlengths : lenient.length = entries.length := by
    simpa using congrArg List.length hlabels
  rw [KeepsViolations, alone_eq, alone_eq, findings_malformedGroup _ _ hlength,
    findings_malformedGroup _ _ (hlengths ▸ hlength), hlengths, hlabels]
  exact ⟨List.Sublist.refl _, fun _ => rfl⟩

theorem keepsViolations_of_relaxesEntry {entry lenient : Ingredient}
    (h : RelaxesEntry entry lenient) : interpreter.KeepsViolations page entry lenient := by
  cases h with
  | same => exact ⟨List.Sublist.refl _, fun _ => rfl⟩
  | leaf hparse hmandatory => exact interpreter.keepsViolations_leaf page hparse hmandatory
  | malformed hlabels hlength => exact interpreter.keepsViolations_malformed page hlabels hlength

/-! ## Whole recipes -/

theorem findings_check (recipe : Recipe) (report : Report) :
    (interpreter.check page recipe report).findings =
      report.findings ++ (flatAll recipe.body).flatMap (interpreter.alone page) := by
  rw [check, findings_checkAll, findingsOfAll_eq_flatMap, funext (interpreter.alone_eq page)]

theorem sublist_flatMap_alone {entries lenient : List Ingredient}
    (h : List.Forall₂ (interpreter.KeepsViolations page) entries lenient) :
    (lenient.flatMap (interpreter.alone page)).Sublist
      (entries.flatMap (interpreter.alone page)) := by
  induction h with
  | nil => exact List.Sublist.refl _
  | cons hentry _ ih =>
    rw [List.flatMap_cons, List.flatMap_cons]
    exact hentry.1.append ih

/-- Making a leaf optional takes away all its findings if it is metadata, and those that were
only expected if it is prose. Making some leaves of a recipe optional, wherever they stand,
leaves a part of the findings in their order : entry by entry findings are taken away, and a
leaf of the prose keeps all its violations. -/
theorem relaxing_removes :
    (∀ spec reference report, Reference.parse spec = .ok reference →
      reference.isOptional = false → (interpreter.checkLeaf page (spec ++ "?") report).findings =
        report.findings ++ match reference.family with
          | .metadata => []
          | .prose => (interpreter.checkLeaf page spec .empty).findings.filter
              (·.severity != .expected)) ∧
    (∀ (recipe : Recipe) report, (interpreter.check page recipe report).findings =
      report.findings ++ (flatAll recipe.body).flatMap (interpreter.alone page)) ∧
    ∀ (recipe lenient : Recipe) report, RelaxesAll recipe.body lenient.body →
      (interpreter.check page lenient report).findings.Sublist
          (interpreter.check page recipe report).findings ∧
        List.Forall₂ (interpreter.KeepsViolations page) (flatAll recipe.body)
          (flatAll lenient.body) := by
  refine ⟨fun spec reference report hparse hmandatory => ?_, interpreter.findings_check page,
    fun recipe lenient report hrelaxes => ?_⟩
  · rw [checkLeaf_eq, checkLeaf_eq, Report.findings_extend, Report.findings_extend, Report.empty,
      List.nil_append, leafFindings_append_mark interpreter page hparse hmandatory]
  · have hkeeps := hrelaxes.forall₂_flatAll.imp fun _ _ =>
      interpreter.keepsViolations_of_relaxesEntry page
    rw [findings_check, findings_check]
    exact ⟨(List.Sublist.refl _).append (interpreter.sublist_flatMap_alone page hkeeps), hkeeps⟩

end Interpreter

end PageRecipe

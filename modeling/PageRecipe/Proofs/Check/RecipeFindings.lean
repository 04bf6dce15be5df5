import PageRecipe.Check.Interpreter
import PageRecipe.Proofs.Check.Reporting

/-!
# The findings of a recipe

`Interpreter.checkAll` threads one report through leaves, mistakes and groups. It extends the
report by the findings of the ingredients, whatever the report holds (`checkAll_eq`), and these
are the findings of the flattened ingredients, one entry after the other
(`findingsOfAll_eq_flatMap`).

So groups of one label are transparent (`checkAll_transparent`) : every entry of the flattened
list adds what it adds to an empty report, a layer of one label around some ingredients changes
nothing, and what stands at a place of the recipe has no part in the findings of the rest.
-/

namespace PageRecipe

namespace Ingredient

/-! ## Groups looked through -/

mutual

/-- The entries of an ingredient : those of its body for a group of one label, else the
ingredient itself. -/
def flat : Ingredient → List Ingredient
  | .group [(_, body)] => flatAll body
  | entry => [entry]

/-- The entries of ingredients, one after the other. -/
def flatAll : List Ingredient → List Ingredient
  | [] => []
  | ingredient :: rest => flat ingredient ++ flatAll rest

end

theorem flatAll_append (a b : List Ingredient) : flatAll (a ++ b) = flatAll a ++ flatAll b := by
  induction a with
  | nil => rfl
  | cons ingredient rest ih =>
    rw [List.cons_append, flatAll, flatAll, ih, List.append_assoc]

theorem flatAll_group (label : String) (body : List Ingredient) :
    flatAll [.group [(label, body)]] = flatAll body := by
  rw [flatAll, flat, flatAll, List.append_nil]

/-- A place among the ingredients of a recipe : between others, in groups of one label. -/
inductive Spot where
  | among (before after : List Ingredient)
  /-- Between others in a group that stands at a place. -/
  | inGroup (outer : Spot) (label : String) (before after : List Ingredient)

/-- The ingredients with some of them put at a place. -/
def Spot.fill : Spot → List Ingredient → List Ingredient
  | .among before after, inner => before ++ inner ++ after
  | .inGroup outer label before after, inner =>
    outer.fill [.group [(label, before ++ inner ++ after)]]

/-- What is put at a place is flattened where it stands. -/
theorem flatAll_fill (spot : Spot) : ∃ before after, ∀ inner,
    flatAll (spot.fill inner) = before ++ flatAll inner ++ after := by
  induction spot with
  | among before after =>
    exact ⟨flatAll before, flatAll after, fun inner => by
      rw [Spot.fill, flatAll_append, flatAll_append]⟩
  | inGroup outer label before after ih =>
    obtain ⟨outerBefore, outerAfter, houter⟩ := ih
    refine ⟨outerBefore ++ flatAll before, flatAll after ++ outerAfter, fun inner => ?_⟩
    rw [Spot.fill, houter, flatAll_group, flatAll_append, flatAll_append]
    simp only [List.append_assoc]

end Ingredient

namespace Interpreter

open Ingredient

/-! ## The findings -/

/-- A mistake in a recipe as a finding. -/
def mistake (page : Page) (error : RecipeError) : Finding :=
  ⟨anchor page, error.message, error.code, .fail⟩

/-- The findings of a leaf of the front matter. -/
def metadataFindings (page : Page) (reference : Reference) : List Finding :=
  let isPresent := (page.metadata.get? reference.name).any fun value => !value.isNull
  Finding.failIf (!isPresent && !reference.isOptional) (anchor page)
    ("Missing mandatory ingredient: " ++ reference.name) "missing-meta-ingredient"

/-- The findings of a leaf of the prose : those of its handler on an empty report. -/
def proseFindings (interpreter : Interpreter) (page : Page) (reference : Reference) :
    List Finding :=
  match interpreter.registry.resolve? reference.name with
  | none => [mistake page (.unknownProse reference.name)]
  | some handler =>
    let scratch := (handler interpreter.context (.root page.prose 0) .empty).2
    scratch.findings.filter fun finding =>
      !(reference.isOptional && finding.severity == .expected)

/-- The findings of a leaf. -/
def leafFindings (interpreter : Interpreter) (page : Page) (spec : String) : List Finding :=
  match Reference.parse spec with
  | .error error => [mistake page error]
  | .ok reference =>
    match reference.family with
    | .metadata => metadataFindings page reference
    | .prose => interpreter.proseFindings page reference

mutual

/-- The findings of an ingredient. -/
def findings (interpreter : Interpreter) (page : Page) : Ingredient → List Finding
  | .leaf spec => interpreter.leafFindings page spec
  | .group [(_, body)] => interpreter.findingsOfAll page body
  | .group entries => [mistake page (.malformedGroup entries.length (entries.map (·.1)))]
  | .invalid value => [mistake page (.invalidEntry value.display)]

/-- The findings of ingredients, one after the other. -/
def findingsOfAll (interpreter : Interpreter) (page : Page) : List Ingredient → List Finding
  | [] => []
  | ingredient :: rest =>
    interpreter.findings page ingredient ++ interpreter.findingsOfAll page rest

end

variable (interpreter : Interpreter) (page : Page)

theorem reportMistake_eq (error : RecipeError) (report : Report) :
    reportMistake page error report = report.extend [mistake page error] :=
  Report.fail_eq_extend report _ _ _

theorem checkMetadata_eq (reference : Reference) (report : Report) :
    checkMetadata page reference report = report.extend (metadataFindings page reference) :=
  Report.failIf_eq_extend report _ _ _ _

/-- A handler never sees the report : it is run on an empty one. -/
theorem checkProse_eq (reference : Reference) (report : Report) :
    interpreter.checkProse page reference report =
      report.extend (interpreter.proseFindings page reference) := by
  rw [checkProse, proseFindings]
  cases interpreter.registry.resolve? reference.name with
  | none => exact reportMistake_eq page _ report
  | some handler => rfl

theorem checkLeaf_eq (spec : String) (report : Report) :
    interpreter.checkLeaf page spec report =
      report.extend (interpreter.leafFindings page spec) := by
  rw [checkLeaf, leafFindings]
  cases Reference.parse spec with
  | error error => exact reportMistake_eq page error report
  | ok reference =>
    simp only
    cases reference.family with
    | metadata => exact checkMetadata_eq page reference report
    | prose => exact checkProse_eq interpreter page reference report

mutual

/-- An ingredient extends the report by its findings. -/
theorem checkOne_eq : ∀ (ingredient : Ingredient) (report : Report),
    interpreter.checkOne page ingredient report =
      report.extend (interpreter.findings page ingredient)
  | .leaf spec, report => by rw [checkOne, findings, checkLeaf_eq]
  | .group [(_, body)], report => by rw [checkOne, findings, checkAll_eq body]
  | .group [], report => by simp [checkOne, findings, reportMistake_eq]
  | .group (_ :: _ :: _), report => by simp [checkOne, findings, reportMistake_eq]
  | .invalid value, report => by rw [checkOne, findings, reportMistake_eq]

/-- Ingredients extend the report by their findings. -/
theorem checkAll_eq : ∀ (ingredients : List Ingredient) (report : Report),
    interpreter.checkAll page ingredients report =
      report.extend (interpreter.findingsOfAll page ingredients)
  | [], report => by rw [checkAll, findingsOfAll, Report.extend_nil]
  | ingredient :: rest, report => by
    rw [checkAll, checkOne_eq ingredient, checkAll_eq rest, Report.extend_extend, findingsOfAll]

end

theorem findings_checkAll (ingredients : List Ingredient) (report : Report) :
    (interpreter.checkAll page ingredients report).findings =
      report.findings ++ interpreter.findingsOfAll page ingredients := by
  rw [checkAll_eq, Report.findings_extend]

theorem findings_checkAll_empty (ingredients : List Ingredient) :
    (interpreter.checkAll page ingredients .empty).findings =
      interpreter.findingsOfAll page ingredients := by
  rw [findings_checkAll, Report.empty, List.nil_append]

/-- A group of several labels or none is a mistake, and nothing in it is looked at. -/
theorem findings_malformedGroup {entries : List (String × List Ingredient)}
    (hlabels : entries.length ≠ 1) : interpreter.findings page (.group entries) =
      [mistake page (.malformedGroup entries.length (entries.map (·.1)))] := by
  rcases entries with _ | ⟨_, _ | ⟨_, _⟩⟩
  · rw [findings]
    simp
  · exact absurd rfl hlabels
  · rw [findings]
    simp

/-- A recipe adds to a report what it adds to an empty one. -/
theorem check_eq_extend (recipe : Recipe) (report : Report) :
    interpreter.check page recipe report =
      report.extend (interpreter.check page recipe .empty).findings := by
  rw [check, checkAll_eq, check, findings_checkAll_empty]

/-! ## Groups are transparent -/

theorem findingsOfAll_singleton (ingredient : Ingredient) :
    interpreter.findingsOfAll page [ingredient] = interpreter.findings page ingredient := by
  rw [findingsOfAll, findingsOfAll, List.append_nil]

mutual

theorem findings_eq_flatMap : ∀ ingredient : Ingredient,
    interpreter.findings page ingredient = ingredient.flat.flatMap (interpreter.findings page)
  | .leaf _ => by simp [flat]
  | .group [(_, body)] => by rw [findings, flat, findingsOfAll_eq_flatMap body]
  | .group [] => by simp [flat]
  | .group (_ :: _ :: _) => by simp [flat]
  | .invalid _ => by simp [flat]

/-- Ingredients have the findings of their entries, one after the other. -/
theorem findingsOfAll_eq_flatMap : ∀ ingredients : List Ingredient,
    interpreter.findingsOfAll page ingredients =
      (flatAll ingredients).flatMap (interpreter.findings page)
  | [] => rfl
  | ingredient :: rest => by
    rw [findingsOfAll, flatAll, List.flatMap_append, findings_eq_flatMap ingredient,
      findingsOfAll_eq_flatMap rest]

end

/-- What is put at a place adds its findings there, between findings that do not depend on it. -/
theorem findingsOfAll_fill (spot : Spot) : ∃ before after, ∀ inner,
    interpreter.findingsOfAll page (spot.fill inner) =
      before ++ interpreter.findingsOfAll page inner ++ after := by
  obtain ⟨before, after, hflat⟩ := flatAll_fill spot
  refine ⟨before.flatMap (interpreter.findings page), after.flatMap (interpreter.findings page),
    fun inner => ?_⟩
  rw [findingsOfAll_eq_flatMap, hflat, List.flatMap_append, List.flatMap_append,
    ← findingsOfAll_eq_flatMap]

/-- Checking keeps what was reported and adds, for each entry of the flattened ingredients, what
the entry alone adds to an empty report. A group of one label around some ingredients makes no
difference, at whatever place they stand. What is put at a place changes nothing about the
findings before and after it. -/
theorem checkAll_transparent :
    (∀ ingredients report, (interpreter.checkAll page ingredients report).findings =
      report.findings ++ (flatAll ingredients).flatMap fun entry =>
        (interpreter.checkAll page [entry] .empty).findings) ∧
    (∀ (spot : Spot) label body report,
      interpreter.checkAll page (spot.fill [.group [(label, body)]]) report =
        interpreter.checkAll page (spot.fill body) report) ∧
    ∀ spot : Spot, ∃ before after, ∀ inner report,
      (interpreter.checkAll page (spot.fill inner) report).findings =
        report.findings ++
          (before ++ (interpreter.checkAll page inner .empty).findings ++ after) := by
  simp only [findings_checkAll_empty]
  refine ⟨fun ingredients report => ?_, fun spot label body report => ?_, fun spot => ?_⟩
  · simp only [findingsOfAll_singleton]
    rw [findings_checkAll, findingsOfAll_eq_flatMap]
  · obtain ⟨before, after, hfill⟩ := findingsOfAll_fill interpreter page spot
    rw [checkAll_eq, checkAll_eq, hfill, hfill, findingsOfAll_singleton, findings]
  · obtain ⟨before, after, hfill⟩ := findingsOfAll_fill interpreter page spot
    exact ⟨before, after, fun inner report => by rw [findings_checkAll, hfill]⟩

end Interpreter

end PageRecipe

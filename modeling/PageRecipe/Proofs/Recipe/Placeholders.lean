import Mathlib.Data.List.Forall2
import PageRecipe.Proofs.Check.RecipeMistakes
import PageRecipe.Recipe.Outline

/-!
# Placeholders in the outline of a recipe

A recipe is outlined and it is checked, and both look through groups of one label and stop at
entries that are malformed. Here both are compared with the entries that are reached on the way,
in the order of the recipe (`Ingredient.reachedAll`).

The outline has one label for each of them, and a placeholder for those that are malformed
(`Ingredient.forall₂_isShownAs`). What a check finds is what each of them adds by itself
(`Interpreter.findingsOfAll_eq_flatMap_reachedAll`). An entry adds a finding about a malformed
entry exactly if there is a placeholder in its place, and what is inside of a malformed group
makes no difference to either (`Interpreter.placeholders_are_reported`).
-/

namespace PageRecipe

namespace Outline

mutual

/-- An outline and those below it, from the top to the bottom. -/
def preorder : Outline → List Outline
  | .mk label children => .mk label children :: preorderAll children

/-- Outlines and those below them, from the top to the bottom. -/
def preorderAll : List Outline → List Outline
  | [] => []
  | outline :: rest => preorder outline ++ preorderAll rest

end

end Outline

namespace Ingredient

/-! ## Entries that are reached -/

mutual

/-- An ingredient, and behind a group of one label the ingredients that are reached in it. -/
def reached : Ingredient → List Ingredient
  | .group [(label, body)] => .group [(label, body)] :: reachedAll body
  | entry => [entry]

/-- The ingredients that are reached through groups of one label, with these groups. -/
def reachedAll : List Ingredient → List Ingredient
  | [] => []
  | ingredient :: rest => reached ingredient ++ reachedAll rest

end

/-- A label that nothing hangs on stands for a malformed entry. -/
inductive IsPlaceholder : Ingredient → Outline → Prop where
  /-- The group has several labels or none. -/
  | group {entries : List (String × List Ingredient)} (hlabels : entries.length ≠ 1) :
      IsPlaceholder (.group entries)
        (.mk ("<malformed group: " ++ ", ".intercalate (entries.map (·.1)) ++ ">") [])
  | invalid (value : Yaml.Value) :
      IsPlaceholder (.invalid value) (.mk ("<invalid entry: " ++ value.display ++ ">") [])

/-- What stands for an entry. On the label of a group hang as many outlines as it has entries. -/
inductive IsShownAs : Ingredient → Outline → Prop where
  | leaf (spec : String) : IsShownAs (.leaf spec) (.mk spec [])
  | group {label : String} {body : List Ingredient} {children : List Outline}
      (hlength : children.length = body.length) :
      IsShownAs (.group [(label, body)]) (.mk label children)
  | placeholder {entry : Ingredient} {outline : Outline} (h : IsPlaceholder entry outline) :
      IsShownAs entry outline

theorem length_outlines (ingredients : List Ingredient) :
    (outlines ingredients).length = ingredients.length := by
  induction ingredients with
  | nil => rfl
  | cons ingredient rest ih => rw [outlines, List.length_cons, ih, List.length_cons]

theorem outline_of_malformed {entries : List (String × List Ingredient)}
    (hlabels : entries.length ≠ 1) : outline (.group entries) =
      .mk ("<malformed group: " ++ ", ".intercalate (entries.map (·.1)) ++ ">") [] := by
  rcases entries with _ | ⟨_, _ | ⟨_, _⟩⟩
  · rw [outline]
    simp
  · exact absurd rfl hlabels
  · rw [outline]
    simp

theorem reached_of_malformed {entries : List (String × List Ingredient)}
    (hlabels : entries.length ≠ 1) : reached (.group entries) = [.group entries] := by
  rcases entries with _ | ⟨_, _ | ⟨_, _⟩⟩
  · rw [reached]
    simp
  · exact absurd rfl hlabels
  · rw [reached]
    simp

mutual

theorem forall₂_isShownAs_reached : ∀ ingredient : Ingredient,
    List.Forall₂ IsShownAs ingredient.reached ingredient.outline.preorder
  | .leaf spec => .cons (.leaf spec) .nil
  | .group [(label, body)] => by
    rw [reached, outline, Outline.preorder]
    exact .cons (.group (length_outlines body)) (forall₂_isShownAs body)
  | .group [] => .cons (.placeholder (.group (by simp))) .nil
  | .group (first :: second :: rest) => by
    have hlabels : (first :: second :: rest).length ≠ 1 := by simp
    rw [reached_of_malformed hlabels, outline_of_malformed hlabels, Outline.preorder,
      Outline.preorderAll]
    exact .cons (.placeholder (.group hlabels)) .nil
  | .invalid value => .cons (.placeholder (.invalid value)) .nil

/-- The outlines of ingredients show the entries that are reached, one by one and in order. -/
theorem forall₂_isShownAs : ∀ ingredients : List Ingredient,
    List.Forall₂ IsShownAs (reachedAll ingredients) (Outline.preorderAll (outlines ingredients))
  | [] => .nil
  | ingredient :: rest => by
    rw [reachedAll, outlines, Outline.preorderAll]
    exact List.rel_append (forall₂_isShownAs_reached ingredient) (forall₂_isShownAs rest)

end

/-- The entries that are reached, each with the outline that shows it. -/
theorem exists_places (ingredients : List Ingredient) : ∃ places : List (Ingredient × Outline),
    places.map (·.1) = reachedAll ingredients ∧
    places.map (·.2) = Outline.preorderAll (outlines ingredients) ∧
    ∀ place ∈ places, IsShownAs place.1 place.2 := by
  obtain ⟨hlength, hshown⟩ := List.forall₂_iff_zip.mp (forall₂_isShownAs ingredients)
  exact ⟨_, List.map_fst_zip hlength.le, List.map_snd_zip hlength.ge, fun _ hplace => hshown hplace⟩

end Ingredient

namespace Interpreter

open Ingredient

/-! ## What an entry adds by itself -/

/-- What an entry adds to a report by itself. A group of one label adds nothing, since its
entries are checked in its place. -/
def ownFindings (interpreter : Interpreter) (page : Page) : Ingredient → List Finding
  | .group [_] => []
  | entry => (interpreter.checkAll page [entry] .empty).findings

/-- The code of findings about malformed entries. -/
def malformedCode : String := "malformed-ingredient-group"

section

variable (interpreter : Interpreter) (page : Page)

theorem ownFindings_leaf (spec : String) :
    interpreter.ownFindings page (.leaf spec) = interpreter.leafFindings page spec := by
  rw [ownFindings, findings_checkAll_empty, findingsOfAll_singleton, findings]
  simp

theorem ownFindings_invalid (value : Yaml.Value) :
    interpreter.ownFindings page (.invalid value) =
      [mistake page (.invalidEntry value.display)] := by
  rw [ownFindings, findings_checkAll_empty, findingsOfAll_singleton, findings]
  simp

theorem ownFindings_of_malformed {entries : List (String × List Ingredient)}
    (hlabels : entries.length ≠ 1) : interpreter.ownFindings page (.group entries) =
      [mistake page (.malformedGroup entries.length (entries.map (·.1)))] := by
  rw [← findings_malformedGroup interpreter page hlabels, ← findingsOfAll_singleton,
    ← findings_checkAll_empty, ownFindings.eq_2]
  rintro only honly
  obtain rfl := Ingredient.group.inj honly
  exact hlabels rfl

mutual

theorem findings_eq_flatMap_reached : ∀ ingredient : Ingredient,
    interpreter.findings page ingredient =
      ingredient.reached.flatMap (interpreter.ownFindings page)
  | .leaf spec => by
    rw [reached, List.flatMap_singleton, ownFindings_leaf, findings]
    simp
  | .group [(label, body)] => by
    rw [reached, List.flatMap_cons, findings, ownFindings, List.nil_append,
      findingsOfAll_eq_flatMap_reachedAll body]
  | .group [] => by
    rw [reached_of_malformed (by simp), List.flatMap_singleton,
      ownFindings_of_malformed interpreter page (by simp),
      findings_malformedGroup interpreter page (by simp)]
  | .group (first :: second :: rest) => by
    have hlabels : (first :: second :: rest).length ≠ 1 := by simp
    rw [reached_of_malformed hlabels, List.flatMap_singleton,
      ownFindings_of_malformed interpreter page hlabels,
      findings_malformedGroup interpreter page hlabels]
  | .invalid value => by
    rw [reached, List.flatMap_singleton, ownFindings_invalid, findings]
    simp

/-- A check finds what the entries that are reached add by themselves, one after the other. -/
theorem findingsOfAll_eq_flatMap_reachedAll : ∀ ingredients : List Ingredient,
    interpreter.findingsOfAll page ingredients =
      (reachedAll ingredients).flatMap (interpreter.ownFindings page)
  | [] => rfl
  | ingredient :: rest => by
    rw [findingsOfAll, reachedAll, List.flatMap_append, findings_eq_flatMap_reached ingredient,
      findingsOfAll_eq_flatMap_reachedAll rest]

end

end

/-! ## Placeholders and findings -/

section Builtin

variable (context : Context)

theorem IsWrong.ne_malformedCode {page : Page} {spec code : String}
    (h : IsWrong page (.leaf spec) code) : code ≠ malformedCode := by
  cases h <;> decide

/-- Leaves are never reported as malformed entries. -/
theorem code_ne_malformedCode_of_leaf {page : Page} {spec : String} {finding : Finding}
    (h : finding ∈ leafFindings ⟨.builtin, context⟩ page spec) : finding.code ≠ malformedCode := by
  have hcases : (∃ code, IsWrong page (.leaf spec) code) ∨
      ∀ finding ∈ leafFindings ⟨.builtin, context⟩ page spec, finding.code ∉ wrongCodes :=
    isWrong_leaf_or_code_notMem context spec
  obtain ⟨code, hwrong⟩ | hquiet := hcases
  · obtain ⟨message, hfindings⟩ := findings_of_isWrong context hwrong
    simp only [findings] at hfindings
    rw [hfindings, List.mem_singleton] at h
    rw [h]
    exact hwrong.ne_malformedCode
  · exact fun hcode => hquiet finding h (hcode ▸ by decide)

/-- A malformed entry adds one finding, about itself. -/
theorem exists_ownFindings_of_isPlaceholder {entry : Ingredient} {outline : Outline}
    (h : IsPlaceholder entry outline) (page : Page) : ∃ finding,
      ownFindings ⟨.builtin, context⟩ page entry = [finding] ∧ finding.code = malformedCode := by
  cases h with
  | group hlabels => exact ⟨_, ownFindings_of_malformed _ page hlabels, rfl⟩
  | invalid value => exact ⟨_, ownFindings_invalid _ page value, rfl⟩

/-- What has another place in the outline than a placeholder adds no finding about a malformed
entry. -/
theorem code_ne_malformedCode_of_isShownAs {entry : Ingredient} {outline : Outline}
    (hshown : IsShownAs entry outline) (hnot : ¬IsPlaceholder entry outline) {page : Page}
    {finding : Finding} (h : finding ∈ ownFindings ⟨.builtin, context⟩ page entry) :
    finding.code ≠ malformedCode := by
  cases hshown with
  | leaf spec =>
    rw [ownFindings_leaf] at h
    exact code_ne_malformedCode_of_leaf context h
  | group => simp [ownFindings] at h
  | placeholder hplaceholder => exact absurd hplaceholder hnot

theorem isPlaceholder_iff {entry : Ingredient} {outline : Outline}
    (hshown : IsShownAs entry outline) : IsPlaceholder entry outline ↔
      ∀ page, ∃ finding ∈ ownFindings ⟨.builtin, context⟩ page entry,
        finding.code = malformedCode := by
  constructor
  · intro h page
    obtain ⟨finding, hfindings, hcode⟩ := exists_ownFindings_of_isPlaceholder context h page
    exact ⟨finding, by simp [hfindings], hcode⟩
  · intro h
    by_contra hnot
    obtain ⟨finding, hfinding, hcode⟩ := h ⟨[], .text ""⟩
    exact code_ne_malformedCode_of_isShownAs context hshown hnot hfinding hcode

/-- What is inside of a malformed group is neither shown nor checked. -/
theorem eq_of_labels_eq {entries other : List (String × List Ingredient)}
    (hlabels : entries.length ≠ 1) (hother : other.map (·.1) = entries.map (·.1)) :
    (Ingredient.group other).outline = (Ingredient.group entries).outline ∧
      ∀ page report, checkAll ⟨.builtin, context⟩ page [.group other] report =
        checkAll ⟨.builtin, context⟩ page [.group entries] report := by
  have hlength : other.length = entries.length := by
    simpa using congrArg List.length hother
  have hlabels' : other.length ≠ 1 := hlength ▸ hlabels
  refine ⟨?_, fun page report => ?_⟩
  · rw [outline_of_malformed hlabels, outline_of_malformed hlabels', hother]
  · rw [checkAll_eq, checkAll_eq, findingsOfAll_singleton, findingsOfAll_singleton,
      findings_malformedGroup _ _ hlabels, findings_malformedGroup _ _ hlabels', hlength, hother]

open Classical in
/-- The outline of a recipe and the entries that are reached in it are in step. The placeholders
are for those entries that add a finding about a malformed entry on every page, and on a page
these findings are, one by one and in order, what the entries with a placeholder add. Malformed
groups of the same labels are outlined and checked alike, whatever is inside of them. -/
theorem placeholders_are_reported (name : String) (recipe : Recipe) :
    (∃ places : List (Ingredient × Outline),
      places.map (·.1) = reachedAll recipe.body ∧
      places.map (·.2) = Outline.preorderAll (recipe.outline name).children ∧
      (∀ place ∈ places, IsShownAs place.1 place.2 ∧
        (IsPlaceholder place.1 place.2 ↔ ∀ page, ∃ finding ∈
          ownFindings ⟨.builtin, context⟩ page place.1, finding.code = malformedCode)) ∧
      ∀ page report, ∃ found,
        (check ⟨.builtin, context⟩ page recipe report).findings = report.findings ++ found ∧
        found = places.flatMap (fun place => ownFindings ⟨.builtin, context⟩ page place.1) ∧
        List.Forall₂ (fun place finding =>
            ownFindings ⟨.builtin, context⟩ page place.1 = [finding])
          (places.filter fun place => IsPlaceholder place.1 place.2)
          (found.filter fun finding => finding.code = malformedCode)) ∧
    ∀ entries other : List (String × List Ingredient), entries.length ≠ 1 →
      other.map (·.1) = entries.map (·.1) →
      (Ingredient.group other).outline = (Ingredient.group entries).outline ∧
      ∀ page report, checkAll ⟨.builtin, context⟩ page [.group other] report =
        checkAll ⟨.builtin, context⟩ page [.group entries] report := by
  refine ⟨?_, fun entries other hlabels hother => eq_of_labels_eq context hlabels hother⟩
  obtain ⟨places, hentries, houtlines, hshown⟩ := exists_places recipe.body
  refine ⟨places, hentries, houtlines, fun place hplace =>
    ⟨hshown place hplace, isPlaceholder_iff context (hshown place hplace)⟩, fun page report => ?_⟩
  refine ⟨_, findings_checkAll _ page recipe.body report, ?_, ?_⟩
  · rw [findingsOfAll_eq_flatMap_reachedAll, ← hentries, List.flatMap_map]
  · rw [findingsOfAll_eq_flatMap_reachedAll, ← hentries, List.flatMap_map]
    refine forall₂_filter_flatMap (fun place _ hmarked => ?_) fun place hplace hnot finding => ?_
    · obtain ⟨finding, hown, hcode⟩ := exists_ownFindings_of_isPlaceholder context hmarked page
      exact ⟨finding, hown, hcode, hown⟩
    · exact code_ne_malformedCode_of_isShownAs context (hshown place hplace) hnot

/-- A group of two labels is outlined and checked like one with the same labels and nothing
inside. -/
theorem alike_twoLabels :
    [("prose", [Ingredient.leaf "prose.intro"]), ("data", [])].length ≠ 1 ∧
      (Ingredient.group [("prose", []), ("data", [])]).outline =
        (Ingredient.group [("prose", [.leaf "prose.intro"]), ("data", [])]).outline ∧
      ∀ page report, checkAll ⟨.builtin, ⟨⟨Classifier.defaultClasses⟩, "Example"⟩⟩ page
          [.group [("prose", []), ("data", [])]] report =
        checkAll ⟨.builtin, ⟨⟨Classifier.defaultClasses⟩, "Example"⟩⟩ page
          [.group [("prose", [.leaf "prose.intro"]), ("data", [])]] report := by
  have hlabels : [("prose", [Ingredient.leaf "prose.intro"]), ("data", [])].length ≠ 1 := by decide
  exact ⟨hlabels, (placeholders_are_reported _ "reference" ⟨"/reference", []⟩).2 _ _ hlabels rfl⟩

end Builtin

end Interpreter

end PageRecipe

import Mathlib.Data.List.Forall2
import PageRecipe.Proofs.Check.HandlerCodes
import PageRecipe.Proofs.Check.RecipeFindings
import PageRecipe.Proofs.Recipe.References

/-!
# What is wrong with a recipe, entry by entry

An entry of a recipe may be wrong by itself, or ask for metadata that a page does not have
(`IsWrong`). With the handlers of the library this is accounted for exactly : a wrong entry has
one finding and nothing else is looked at (`findings_of_isWrong`), and what an entry that is
not wrong adds carries none of the codes of wrong entries (`isWrong_or_code_notMem`). So the
findings with these codes and the wrong entries of the flattened recipe are in step
(`accounts_for_wrong_entries`).
-/

namespace PageRecipe

namespace Ingredient

mutual

theorem ne_group_of_mem_flat {entry : Ingredient} (label : String) (body : List Ingredient) :
    ∀ {ingredient : Ingredient}, entry ∈ flat ingredient → entry ≠ .group [(label, body)]
  | .leaf _, h => by simp_all [flat]
  | .group [(_, inner)], h => ne_group_of_mem_flatAll label body (by rwa [flat] at h)
  | .group [], h => by simp_all [flat]
  | .group (_ :: _ :: _), h => by simp_all [flat]
  | .invalid _, h => by simp_all [flat]

/-- No group of one label is left among flattened ingredients. -/
theorem ne_group_of_mem_flatAll {entry : Ingredient} (label : String) (body : List Ingredient) :
    ∀ {ingredients : List Ingredient}, entry ∈ flatAll ingredients → entry ≠ .group [(label, body)]
  | [], h => by simp [flatAll] at h
  | ingredient :: rest, h => by
    rw [flatAll, List.mem_append] at h
    exact h.elim (ne_group_of_mem_flat label body) (ne_group_of_mem_flatAll label body)

end

end Ingredient

namespace Interpreter

open Ingredient

/-! ## Wrong entries -/

/-- The page has not the metadata that a mandatory reference asks for, or a null in their
place. -/
def Misses (page : Page) (reference : Reference) : Prop :=
  reference.isOptional = false ∧
    ∀ value, page.metadata.get? reference.name = some value → value.isNull = true

/-- The entry is wrong on a page, and the code says in which way. -/
inductive IsWrong (page : Page) : Ingredient → String → Prop where
  | foreignFamily {spec : String} (hspec : Reference.HasForeignFamily spec) :
      IsWrong page (.leaf spec) "unknown-ingredient-type"
  | noName {spec : String} (hspec : Reference.LacksName spec) :
      IsWrong page (.leaf spec) "unknown-ingredient-type"
  | missing {reference : Reference} (hnamed : reference.IsNamed)
      (hfamily : reference.family = .metadata) (hmisses : Misses page reference) :
      IsWrong page (.leaf reference.display) "missing-meta-ingredient"
  /-- The library has no handler of this name, bare or qualified. -/
  | unknownProse {reference : Reference} (hnamed : reference.IsNamed)
      (hfamily : reference.family = .prose)
      (hunknown : ∀ registered ∈ Registry.builtin.names,
        reference.name ≠ registered ∧ reference.name ≠ Registry.qualifier ++ registered) :
      IsWrong page (.leaf reference.display) "unknown-prose-ingredient"
  | malformedGroup {entries : List (String × List Ingredient)} (hlabels : entries.length ≠ 1) :
      IsWrong page (.group entries) "malformed-ingredient-group"
  | noEntry (value : Yaml.Value) : IsWrong page (.invalid value) "malformed-ingredient-group"

/-- The codes of wrong entries. -/
def wrongCodes : List String :=
  ["missing-meta-ingredient", "unknown-ingredient-type", "malformed-ingredient-group",
    "unknown-prose-ingredient"]

theorem IsWrong.code_mem {page : Page} {entry : Ingredient} {code : String}
    (h : IsWrong page entry code) : code ∈ wrongCodes := by
  cases h <;> decide

/-! ## One entry -/

variable {page : Page}

theorem leafFindings_of_isNamed (interpreter : Interpreter) {reference : Reference}
    (hnamed : reference.IsNamed) :
    interpreter.leafFindings page reference.display =
      match reference.family with
      | .metadata => metadataFindings page reference
      | .prose => interpreter.proseFindings page reference := by
  have hparse : Reference.parse reference.display = .ok reference :=
    Reference.parse_eq_ok_iff.mpr ⟨hnamed, rfl⟩
  cases hfamily : reference.family <;> simp only [leafFindings, hparse, hfamily]

theorem metadataFindings_of_misses {reference : Reference} (h : Misses page reference) :
    metadataFindings page reference = [⟨anchor page,
      "Missing mandatory ingredient: " ++ reference.name, "missing-meta-ingredient", .fail⟩] := by
  obtain ⟨hmandatory, hmissing⟩ := h
  rw [metadataFindings, hmandatory]
  cases hvalue : page.metadata.get? reference.name with
  | none => rfl
  | some value => simp [Finding.failIf, hmissing value hvalue]

theorem metadataFindings_of_not_misses {reference : Reference} (h : ¬Misses page reference) :
    metadataFindings page reference = [] := by
  rw [metadataFindings, Finding.failIf_eq_nil_iff]
  cases hmandatory : reference.isOptional with
  | true => simp
  | false =>
    simp only [Misses, hmandatory, true_and, not_forall] at h
    obtain ⟨value, hvalue, hnull⟩ := h
    simp [hvalue, hnull]

section Builtin

variable (context : Context)

theorem proseFindings_of_unknown {reference : Reference}
    (h : Registry.builtin.resolve? reference.name = none) :
    proseFindings ⟨.builtin, context⟩ page reference =
      [mistake page (.unknownProse reference.name)] := by
  simp only [proseFindings, h]

/-- What the library's handlers find about a prose ingredient has none of the codes of wrong
entries. -/
theorem code_notMem_of_known {reference : Reference} {handler : Handler}
    (h : Registry.builtin.resolve? reference.name = some handler) {finding : Finding}
    (hfinding : finding ∈ proseFindings ⟨.builtin, context⟩ page reference) :
    finding.code ∉ wrongCodes := by
  have hdisjoint : ∀ code ∈ Registry.builtinCodes, code ∉ wrongCodes := by decide
  simp only [proseFindings, h] at hfinding
  exact hdisjoint _ (Registry.code_mem_of_builtin h (List.mem_filter.mp hfinding).1)

/-- A wrong entry has one finding, and nothing inside it is looked at. -/
theorem findings_of_isWrong {entry : Ingredient} {code : String} (h : IsWrong page entry code) :
    ∃ message, findings ⟨.builtin, context⟩ page entry = [⟨anchor page, message, code, .fail⟩] := by
  cases h with
  | foreignFamily hspec =>
    rw [findings, leafFindings,
      Reference.parse_of_foreign (Reference.hasForeignFamily_iff.mp hspec)]
    exact ⟨_, rfl⟩
  | noName hspec =>
    rw [findings, leafFindings, Reference.lacksName_iff.mp hspec]
    exact ⟨_, rfl⟩
  | missing hnamed hfamily hmisses =>
    simp only [findings, leafFindings_of_isNamed _ hnamed, hfamily]
    exact ⟨_, metadataFindings_of_misses hmisses⟩
  | unknownProse hnamed hfamily hunknown =>
    have hresolve := Registry.resolve?_builtin_eq_none_iff.mpr hunknown
    simp only [findings, leafFindings_of_isNamed _ hnamed, hfamily]
    exact ⟨_, proseFindings_of_unknown context hresolve⟩
  | malformedGroup hlabels =>
    rw [findings_malformedGroup _ _ hlabels]
    exact ⟨_, rfl⟩
  | noEntry value =>
    rw [findings]
    exact ⟨_, rfl⟩

/-- A leaf is wrong, or what it adds has none of the codes of wrong entries. -/
theorem isWrong_leaf_or_code_notMem (spec : String) : (∃ code, IsWrong page (.leaf spec) code) ∨
    ∀ finding ∈ leafFindings ⟨.builtin, context⟩ page spec, finding.code ∉ wrongCodes := by
  rcases Reference.parse_cases spec with hspec | hspec | ⟨reference, hnamed, rfl⟩
  · exact Or.inl ⟨_, .foreignFamily hspec⟩
  · exact Or.inl ⟨_, .noName hspec⟩
  · rw [leafFindings_of_isNamed _ hnamed]
    cases hfamily : reference.family with
    | metadata =>
      by_cases hmisses : Misses page reference
      · exact Or.inl ⟨_, .missing hnamed hfamily hmisses⟩
      · simp [metadataFindings_of_not_misses hmisses]
    | prose =>
      cases hresolve : Registry.builtin.resolve? reference.name with
      | none =>
        have hunknown := Registry.resolve?_builtin_eq_none_iff.mp hresolve
        exact Or.inl ⟨_, .unknownProse hnamed hfamily hunknown⟩
      | some handler => exact Or.inr fun _ => code_notMem_of_known context hresolve

/-- An entry that is no group of one label is wrong, or what it adds has none of the codes of
wrong entries. -/
theorem isWrong_or_code_notMem {entry : Ingredient}
    (hunit : ∀ label body, entry ≠ .group [(label, body)]) : (∃ code, IsWrong page entry code) ∨
      ∀ finding ∈ findings ⟨.builtin, context⟩ page entry, finding.code ∉ wrongCodes := by
  cases entry with
  | leaf spec =>
    rw [findings]
    exact isWrong_leaf_or_code_notMem context spec
  | group entries =>
    refine Or.inl ⟨_, .malformedGroup fun hlength => ?_⟩
    obtain ⟨⟨label, body⟩, rfl⟩ := List.length_eq_one_iff.mp hlength
    exact hunit label body rfl
  | invalid value => exact Or.inl ⟨_, .noEntry value⟩

/-! ## All entries -/

/-- The finding is the one about a wrong entry. -/
def Tells (page : Page) (entry : Ingredient) (finding : Finding) : Prop :=
  IsWrong page entry finding.code ∧ finding.severity = .fail ∧ finding.node = page.prose.display

/-- Where a marked entry adds one marked finding and the others add none, marked entries and
marked findings are in step. -/
theorem forall₂_filter_flatMap {α : Type} {entries : List α} {added : α → List Finding}
    {tells : α → Finding → Prop} {marked : α → Prop} {isMarked : Finding → Prop}
    [DecidablePred marked] [DecidablePred isMarked]
    (hone : ∀ entry ∈ entries, marked entry →
      ∃ finding, added entry = [finding] ∧ isMarked finding ∧ tells entry finding)
    (hnone : ∀ entry ∈ entries, ¬marked entry → ∀ finding ∈ added entry, ¬isMarked finding) :
    List.Forall₂ tells (entries.filter fun entry => marked entry)
      ((entries.flatMap added).filter fun finding => isMarked finding) := by
  induction entries with
  | nil => exact .nil
  | cons entry rest ih =>
    rw [List.forall_mem_cons] at hone hnone
    have hrest := ih hone.2 hnone.2
    rw [List.flatMap_cons, List.filter_append]
    by_cases hmarked : marked entry
    · obtain ⟨finding, hadded, hfinding, htells⟩ := hone.1 hmarked
      rw [List.filter_cons_of_pos (by simpa using hmarked), hadded,
        List.filter_cons_of_pos (by simpa using hfinding)]
      exact .cons htells hrest
    · have hquiet : (added entry).filter (fun finding => isMarked finding) = [] :=
        List.filter_eq_nil_iff.mpr fun finding h => by simpa using hnone.1 hmarked finding h
      rw [List.filter_cons_of_neg (by simpa using hmarked), hquiet, List.nil_append]
      exact hrest

open Classical in
/-- Wrong entries and the findings with their codes are in step. -/
theorem forall₂_tells {entries : List Ingredient}
    (hunit : ∀ entry ∈ entries, ∀ label body, entry ≠ .group [(label, body)]) :
    List.Forall₂ (Tells page) (entries.filter fun entry => ∃ code, IsWrong page entry code)
      ((entries.flatMap (findings ⟨.builtin, context⟩ page)).filter fun finding =>
        finding.code ∈ wrongCodes) := by
  refine forall₂_filter_flatMap (fun entry _ hwrong => ?_) fun entry hentry hwrong => ?_
  · obtain ⟨code, hcode⟩ := hwrong
    obtain ⟨message, hfindings⟩ := findings_of_isWrong context hcode
    exact ⟨_, hfindings, hcode.code_mem, hcode, rfl, rfl⟩
  · exact (isWrong_or_code_notMem context (hunit entry hentry)).resolve_left hwrong

open Classical in
/-- The findings that carry a code of wrong entries are, one by one and in order, about the
wrong entries of the flattened recipe. Each is a violation at the root of the page. A wrong
entry alone adds its one finding and no other, so nothing inside a malformed group is checked. -/
theorem accounts_for_wrong_entries (page : Page) (recipe : Recipe) (report : Report) :
    (∃ found, (check ⟨.builtin, context⟩ page recipe report).findings = report.findings ++ found ∧
      List.Forall₂ (Tells page)
        ((flatAll recipe.body).filter fun entry => ∃ code, IsWrong page entry code)
        (found.filter fun finding => finding.code ∈ wrongCodes)) ∧
    ∀ entry code, IsWrong page entry code → ∃ message,
      (checkAll ⟨.builtin, context⟩ page [entry] report).findings =
        report.findings ++ [⟨page.prose.display, message, code, .fail⟩] := by
  refine ⟨⟨_, findings_checkAll _ page recipe.body report, ?_⟩, fun entry code hwrong => ?_⟩
  · rw [findingsOfAll_eq_flatMap]
    exact forall₂_tells context fun entry hentry label body =>
      ne_group_of_mem_flatAll label body hentry
  · obtain ⟨message, hfindings⟩ := findings_of_isWrong context hwrong
    exact ⟨message, by rw [findings_checkAll, findingsOfAll_singleton, hfindings]; rfl⟩

end Builtin

end Interpreter

end PageRecipe

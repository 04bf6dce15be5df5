import PageRecipe.Proofs.Check.RecipeFindings
import PageRecipe.Proofs.Recipe.Groups

/-!
# Which written groups are reported

A group is meant to have one label, and a mapping with another number of entries is meant to be
reported. How many labels there are is judged on the dictionary that was made of the entries, in
which labels that are written twice are one.

`WrittenSpot` is a place in a body as it is written, in mappings of a single entry. Where a
mapping stands at such a place, its group stands at the place that is read from it
(`exists_reads_of_writes`). So a mapping without entries or with entries of different labels is
reported by one finding, and nothing in it is looked at ; but of entries with one label the
last is checked as if it were alone, and nothing is reported (`Interpreter.check_of_writtenGroup`,
`Interpreter.unreported_twinText`).
-/

namespace PageRecipe

open Yaml (Step)

/-- The body that a text writes is a sequence of these items. -/
def Recipe.HasItems (s : String) (items : List Yaml.Node) : Prop :=
  ∃ mark tag entries bodyMark bodyTag, Yaml.root? isField s = some (.mapping mark tag entries) ∧
    .sequence bodyMark bodyTag items ∈ valuesUnder bodyField entries

theorem Recipe.HasItems.forall₂_writes {s : String} {items : List Yaml.Node} {recipe : Recipe}
    (hitems : HasItems s items) (hread : ofText s = .ok recipe) :
    List.Forall₂ Ingredient.Writes items recipe.body := by
  obtain ⟨mark, tag, entries, bodyMark, bodyTag, hroot, hmem⟩ := hitems
  obtain ⟨root, hroot', hread⟩ := Yaml.decode_eq_ok_iff.mp hread
  obtain rfl := Option.some.inj (hroot.symm.trans hroot')
  obtain ⟨hnone, -⟩ | ⟨node, hnode, hbody⟩ := (ofNode_mapping_eq_ok_iff.mp hread).body
  · rw [hnone] at hmem
    cases hmem
  · obtain rfl := List.mem_singleton.mp (hnode ▸ hmem)
    exact Ingredient.writesBody_sequence_iff.mp hbody

/-- The entries of the only item of a text, if that is a mapping. -/
def Recipe.onlyMapping? (s : String) : Option (List (Step × Yaml.Node × Yaml.Node)) :=
  match parts? s with
  | some ⟨_, _, [.mapping _ _ entries]⟩ => some entries
  | _ => none

theorem Recipe.exists_hasItems_of_onlyMapping? {s : String}
    {entries : List (Step × Yaml.Node × Yaml.Node)} (h : onlyMapping? s = some entries) :
    ∃ mark tag, HasItems s [.mapping mark tag entries] := by
  rw [onlyMapping?] at h
  split at h
  · next mark tag _ hparts =>
    obtain rfl := Option.some.inj h
    obtain ⟨rootMark, rootTag, hroot, -, bodyMark, bodyTag, hbody⟩ :=
      parts?_eq_some_iff.mp hparts
    refine ⟨mark, tag, rootMark, rootTag, _, bodyMark, bodyTag, hroot, ?_⟩
    rw [hbody]
    exact List.mem_singleton_self _
  · cases h

namespace Ingredient

/-! ## Places -/

/-- A place in a body as it is written : between other items, in mappings of one entry with a
sequence under a text. -/
inductive WrittenSpot where
  | among (before after : List Yaml.Node)
  /-- Between others in the sequence of a mapping that stands at a place. -/
  | inGroup (outer : WrittenSpot) (mark itemsMark : Yaml.Mark) (tag itemsTag : Option String)
      (step : Step) (key : Yaml.Node) (label : String) (isText : key.Holds (.string label))
      (before after : List Yaml.Node)

/-- The items with some of them put at a place. -/
def WrittenSpot.fill : WrittenSpot → List Yaml.Node → List Yaml.Node
  | .among before after, inner => before ++ inner ++ after
  | .inGroup outer mark itemsMark tag itemsTag step key _ _ before after, inner =>
    outer.fill [.mapping mark tag
      [(step, key, .sequence itemsMark itemsTag (before ++ inner ++ after))]]

/-- The written place is read as this one. -/
inductive WrittenSpot.Reads : WrittenSpot → Spot → Prop where
  | among {before after : List Yaml.Node} {readBefore readAfter : List Ingredient}
      (hbefore : List.Forall₂ Writes before readBefore)
      (hafter : List.Forall₂ Writes after readAfter) :
      Reads (.among before after) (.among readBefore readAfter)
  | inGroup {outer : WrittenSpot} {place : Spot} (houter : Reads outer place)
      (mark itemsMark : Yaml.Mark) (tag itemsTag : Option String) (step : Step) (key : Yaml.Node)
      (label : String) (isText : key.Holds (.string label))
      {before after : List Yaml.Node} {readBefore readAfter : List Ingredient}
      (hbefore : List.Forall₂ Writes before readBefore)
      (hafter : List.Forall₂ Writes after readAfter) :
      Reads (.inGroup outer mark itemsMark tag itemsTag step key label isText before after)
        (.inGroup place label readBefore readAfter)

theorem exists_forall₂_of_append {α β : Type} {R : α → β → Prop} {xs more : List α} {ys : List β}
    (h : List.Forall₂ R (xs ++ more) ys) :
    ∃ front back, ys = front ++ back ∧ List.Forall₂ R xs front ∧ List.Forall₂ R more back := by
  induction xs generalizing ys with
  | nil => exact ⟨[], ys, rfl, .nil, h⟩
  | cons x rest ih =>
    obtain _ | ⟨hx, hrest⟩ := h
    obtain ⟨front, back, rfl, hfront, hback⟩ := ih hrest
    exact ⟨_ :: front, back, rfl, .cons hx hfront, hback⟩

/-- What is put between other items is read between what they are read as. -/
theorem exists_between_of_writes {before inner after : List Yaml.Node} {body : List Ingredient}
    (hwrites : List.Forall₂ Writes (before ++ inner ++ after) body) :
    ∃ readBefore readInner readAfter, body = readBefore ++ readInner ++ readAfter ∧
      List.Forall₂ Writes before readBefore ∧ List.Forall₂ Writes inner readInner ∧
      List.Forall₂ Writes after readAfter := by
  obtain ⟨front, readAfter, rfl, hfront, hafter⟩ := exists_forall₂_of_append hwrites
  obtain ⟨readBefore, readInner, rfl, hbefore, hinner⟩ := exists_forall₂_of_append hfront
  exact ⟨readBefore, readInner, readAfter, rfl, hbefore, hinner, hafter⟩

/-- A mapping of one entry is read as a group of one label. -/
theorem Writes.group_of_single {mark itemsMark : Yaml.Mark} {tag itemsTag : Option String}
    {step : Step} {key : Yaml.Node} {items : List Yaml.Node} {label : String}
    {ingredient : Ingredient}
    (hwrites : Writes (.mapping mark tag [(step, key, .sequence itemsMark itemsTag items)])
      ingredient) (htext : key.Holds (.string label)) :
    ∃ body, List.Forall₂ Writes items body ∧ ingredient = .group [(label, body)] := by
  have hlabelled : ∀ entry ∈ [(step, key, Yaml.Node.sequence itemsMark itemsTag items)],
      IsLabelled entry := by
    rw [List.forall_mem_singleton]
    exact ⟨⟨label, htext⟩, itemsMark, itemsTag, items, rfl⟩
  obtain ⟨labelled, hentries, rfl⟩ := hwrites.group_of_labelled hlabelled
  obtain _ | ⟨⟨hkey, _, _, _, hnode, hbody⟩, ⟨⟩⟩ := hentries
  cases hnode
  cases htext.unique hkey
  exact ⟨_, hbody, rfl⟩

/-- What is put at a written place is read at the place that is read. -/
theorem exists_reads_of_writes (spot : WrittenSpot) {inner : List Yaml.Node}
    {body : List Ingredient} (hwrites : List.Forall₂ Writes (spot.fill inner) body) :
    ∃ place readInner, spot.Reads place ∧ List.Forall₂ Writes inner readInner ∧
      body = place.fill readInner := by
  induction spot generalizing inner body with
  | among before after =>
    obtain ⟨readBefore, readInner, readAfter, rfl, hbefore, hinner, hafter⟩ :=
      exists_between_of_writes hwrites
    exact ⟨.among readBefore readAfter, readInner, .among hbefore hafter, hinner, rfl⟩
  | inGroup outer mark itemsMark tag itemsTag step key label isText before after ih =>
    obtain ⟨place, group, hplace, hgroup, rfl⟩ := ih hwrites
    obtain _ | ⟨hsingle, ⟨⟩⟩ := hgroup
    obtain ⟨items, hitems, rfl⟩ := hsingle.group_of_single isText
    obtain ⟨readBefore, readInner, readAfter, rfl, hbefore, hinner, hafter⟩ :=
      exists_between_of_writes hitems
    exact ⟨.inGroup place label readBefore readAfter, readInner,
      .inGroup hplace mark itemsMark tag itemsTag step key label isText hbefore hafter, hinner, rfl⟩

/-! ## Labels -/

/-- The label of an entry that is written as one of a group. -/
def labelOf? (entry : Step × Yaml.Node × Yaml.Node) : Option String :=
  match Yaml.Value.ofNode .buffered [] entry.2.1, entry.2.2 with
  | .ok (.string label), .sequence _ _ _ => some label
  | _, _ => none

theorem holds_of_labelOf? {entry : Step × Yaml.Node × Yaml.Node} {label : String}
    (h : labelOf? entry = some label) :
    entry.2.1.Holds (.string label) ∧ IsLabelled entry := by
  rw [labelOf?] at h
  split at h
  · next hkey hvalue =>
    obtain rfl := Option.some.inj h
    have hholds := (Yaml.Value.ofNode_eq_ok_iff _ _).mp hkey
    exact ⟨hholds, ⟨_, hholds⟩, _, _, _, hvalue⟩
  · cases h

/-- The labels of a mapping whose only item is a mapping of two entries, and then those of that. -/
def nestedLabels : List (Step × Yaml.Node × Yaml.Node) → List (Option String)
  | [(step, key, .sequence mark tag [.mapping innerMark innerTag [first, second]])] =>
    [labelOf? (step, key, .sequence mark tag [.mapping innerMark innerTag [first, second]]),
      labelOf? first, labelOf? second]
  | _ => []

/-- The only leaf of a body, if it stands alone in a group of one label. -/
def onlyLeaf? : List Ingredient → Option String
  | [.group [(_, [.leaf spec])]] => some spec
  | _ => none

end Ingredient

namespace Interpreter

open Ingredient

/-- A mapping that is written as a group, at any place in groups of a single entry, is read as the
group of its entries at that place. Between the findings of what is around it, which do not depend
on it, there is one finding for the mapping itself if it has no entries or two different labels.
If all labels are one, then there are the findings of the last entry in its place. -/
theorem check_of_writtenGroup {s : String} {recipe : Recipe} (hread : Recipe.ofText s = .ok recipe)
    {spot : WrittenSpot} {mark : Yaml.Mark} {tag : Option String}
    {entries : List (Step × Yaml.Node × Yaml.Node)}
    (hitems : Recipe.HasItems s (spot.fill [.mapping mark tag entries]))
    (hlabelled : ∀ entry ∈ entries, IsLabelled entry) :
    ∃ place labelled, spot.Reads place ∧ List.Forall₂ WritesEntry entries labelled ∧
      ∀ (interpreter : Interpreter) (page : Page), ∃ before after,
        (∀ inner report, (interpreter.checkAll page (place.fill inner) report).findings =
          report.findings ++
            (before ++ (interpreter.checkAll page inner .empty).findings ++ after)) ∧
        ((labelled = [] ∨ ∃ a ∈ labelled, ∃ b ∈ labelled, a.1 ≠ b.1) →
          ∃ finding, finding.code = "malformed-ingredient-group" ∧ ∀ report,
            (interpreter.check page recipe report).findings =
              report.findings ++ (before ++ [finding] ++ after)) ∧
        ∀ init label body, labelled = init ++ [(label, body)] →
          (∀ entry ∈ init, entry.1 = label) → ∀ report,
            (interpreter.check page recipe report).findings = report.findings ++
              (before ++ (interpreter.checkAll page body .empty).findings ++ after) := by
  obtain ⟨place, group, hplace, hgroup, hbody⟩ :=
    exists_reads_of_writes spot (hitems.forall₂_writes hread)
  obtain _ | ⟨hmapping, ⟨⟩⟩ := hgroup
  obtain ⟨labelled, hentries, rfl⟩ := hmapping.group_of_labelled hlabelled
  refine ⟨place, labelled, hplace, hentries, fun interpreter page => ?_⟩
  obtain ⟨before, after, hfill⟩ := findingsOfAll_fill interpreter page place
  simp only [findings_checkAll_empty, check, hbody]
  simp only [findings_checkAll, hfill, findingsOfAll_singleton]
  refine ⟨before, after, fun _ _ => rfl, fun hlabels => ?_, ?_⟩
  · rw [findings_malformedGroup interpreter page (Dictionary.length_ofEntries_ne_one hlabels)]
    exact ⟨_, rfl, fun _ => rfl⟩
  · rintro init label body rfl hone report
    rw [Dictionary.ofEntries_of_oneLabel hone, findings]

/-- A text with a group of two labels in a group of one. -/
def nestedText : String :=
  "related_content: r.yaml\nbody: [\x7bg: [\x7ba: [meta.x], b: [meta.y]\x7d]\x7d]\n"

/-- The inner group is reported. -/
theorem check_nestedText : ∃ recipe, ∃ spot : WrittenSpot, ∃ mark tag entries,
    Recipe.ofText nestedText = .ok recipe ∧
    Recipe.HasItems nestedText (spot.fill [.mapping mark tag entries]) ∧
    (∀ entry ∈ entries, IsLabelled entry) ∧ entries.length = 2 ∧
    ∀ (interpreter : Interpreter) (page : Page), ∃ before after finding,
      finding.code = "malformed-ingredient-group" ∧ ∀ report,
        (interpreter.check page recipe report).findings =
          report.findings ++ (before ++ [finding] ++ after) := by
  have hshape : (Recipe.onlyMapping? nestedText).map nestedLabels =
      some [some "g", some "a", some "b"] := by decide +kernel
  have hread : (Recipe.ofText nestedText).toOption.isSome := by decide +kernel
  obtain ⟨recipe, hread⟩ := isSome_toOption_iff.mp hread
  obtain ⟨entries, hentries, hlabels⟩ := Option.map_eq_some_iff.mp hshape
  obtain ⟨mark, tag, hitems⟩ := Recipe.exists_hasItems_of_onlyMapping? hentries
  rw [nestedLabels.eq_def] at hlabels
  split at hlabels
  · next step key itemsMark itemsTag groupMark groupTag first second =>
    simp only [List.cons.injEq, and_true] at hlabels
    obtain ⟨houter, hfirst, hsecond⟩ := hlabels
    obtain ⟨hfirst, hfirstLabelled⟩ := holds_of_labelOf? hfirst
    obtain ⟨hsecond, hsecondLabelled⟩ := holds_of_labelOf? hsecond
    let spot : WrittenSpot := .inGroup (.among [] []) mark itemsMark tag itemsTag step key "g"
      (holds_of_labelOf? houter).1 [] []
    have hspot : Recipe.HasItems nestedText
        (spot.fill [.mapping groupMark groupTag [first, second]]) := hitems
    have hentries : ∀ entry ∈ [first, second], IsLabelled entry := by
      simp [hfirstLabelled, hsecondLabelled]
    obtain ⟨place, labelled, -, hlabelled, hcheck⟩ := check_of_writtenGroup hread hspot hentries
    obtain ⟨a, _, ha, hrest, rfl⟩ := List.forall₂_cons_left_iff.mp hlabelled
    obtain ⟨b, _, hb, ⟨⟩, rfl⟩ := List.forall₂_cons_left_iff.mp hrest
    have hlabels : a.1 ≠ b.1 := by
      rw [← Yaml.Value.string.inj (hfirst.unique ha.1),
        ← Yaml.Value.string.inj (hsecond.unique hb.1)]
      decide
    refine ⟨recipe, spot, groupMark, groupTag, [first, second], hread, hspot, hentries, rfl,
      fun interpreter page => ?_⟩
    obtain ⟨before, after, -, hreport, -⟩ := hcheck interpreter page
    obtain ⟨finding, hcode, hfindings⟩ := hreport (.inr ⟨_, by simp, _, by simp, hlabels⟩)
    exact ⟨before, after, finding, hcode, hfindings⟩
  · cases hlabels

/-- A text with a group in which one label is written twice. -/
def twinText : String := "related_content: r.yaml\nbody:\n  - a: [meta.x]\n    a: [meta.y]\n"

/-- The group of two entries is not reported, whatever it is checked with. -/
theorem unreported_twinText : ∃ recipe mark tag entries, Recipe.ofText twinText = .ok recipe ∧
    Recipe.HasItems twinText [.mapping mark tag entries] ∧ entries.length = 2 ∧
    (∀ entry ∈ entries, IsLabelled entry) ∧ ∀ (interpreter : Interpreter) (page : Page),
      ∀ finding ∈ (interpreter.check page recipe .empty).findings,
        finding.code ≠ "malformed-ingredient-group" := by
  have hshape : (Recipe.onlyMapping? twinText).map (·.map labelOf?) =
      some [some "a", some "a"] := by decide +kernel
  have hbody : (Recipe.ofText twinText).toOption.bind (onlyLeaf? ·.body) = some "meta.y" := by
    decide +kernel
  obtain ⟨entries, hentries, hlabels⟩ := Option.map_eq_some_iff.mp hshape
  obtain ⟨mark, tag, hitems⟩ := Recipe.exists_hasItems_of_onlyMapping? hentries
  obtain ⟨recipe, hread, hspec⟩ := Option.bind_eq_some_iff.mp hbody
  refine ⟨recipe, mark, tag, entries, toOption_eq_some_iff.mp hread, hitems, ?_, ?_, ?_⟩
  · simpa using congrArg List.length hlabels
  · intro entry hentry
    have hmem := List.mem_map_of_mem (f := labelOf?) hentry
    rw [hlabels] at hmem
    have hlabel : labelOf? entry = some "a" := by simpa using hmem
    exact (holds_of_labelOf? hlabel).2
  · intro interpreter page finding hfinding
    rw [onlyLeaf?.eq_def] at hspec
    split at hspec
    · next label spec hgroup =>
      obtain rfl := Option.some.inj hspec
      rw [check, hgroup, findings_checkAll_empty, findingsOfAll_singleton, findings,
        findingsOfAll_singleton, findings, leafFindings] at hfinding
      rw [show Reference.parse "meta.y" = .ok ⟨.metadata, "y", false⟩ from rfl] at hfinding
      rw [Finding.code_of_mem_failIf hfinding]
      decide
    · cases hspec

end Interpreter

end PageRecipe

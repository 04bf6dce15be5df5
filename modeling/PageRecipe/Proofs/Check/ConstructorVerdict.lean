import PageRecipe.Check.Constructor
import PageRecipe.Proofs.Check.LinkListFindings

/-!
# The verdict on the constructor section

`Constructor.check` decides a page by a flag, two early exits and the link-list check, which
looks the heading up again. Here the findings come first : a section has a list of findings
(`sectionFindings`), the report is extended by it, and the page is valid exactly when it is
empty (`check_of_heading`). So no path clears the flag without a finding, or the other way
round.

`sectionFindings_eq_nil_iff` says what a section without findings looks like : either it
states that the object cannot be constructed (`StatesNoConstructor`), or it lists one entry
whose description names what is created (`HoldsEntry`).
-/

namespace PageRecipe.Constructor

open Located

/-! ## The findings -/

/-- The findings of the three parts that open a description. -/
def partFindings (run : Run) (first second third : Node) : List Finding :=
  Finding.failIf (!first.isText descriptionStart) run.display
      "Constructor description must be in the form 'Creates a new <code>...</code> object.'"
      "constructor-description-first-node" ++
    Finding.failIf (!second.isTag "code") run.display
      "Constructor description must contain <code>Object</code> after 'Creates a new'"
      "constructor-description-second-node" ++
    Finding.failIf (!third.startsWithText descriptionEnd) run.display
      "Constructor description must end first sentence with ' object.'"
      "constructor-description-third-node"

/-- The findings of the descriptions of a section : there is one, and it has three parts. -/
def descriptionFindings (run : Run) : List Located → List Finding
  | [description] =>
    match description.node.children with
    | first :: second :: third :: _ => partFindings run first second third
    | _ => [⟨description.node.display,
        "Constructor description must be in the form `Creates a new <code>...</code> object.`",
        "constructor-description-at-least-three-nodes", .fail⟩]
  | _ => [⟨run.display, "Constructor section may only contain one DD item",
      "only-single-constructor-dd", .fail⟩]

/-- The findings of the entry of a section : its list, its terms and its descriptions. -/
def entryFindings (run : Run) : List Finding :=
  LinkList.sectionFindings sectionId run ++
    Finding.failIf (!(run.selectAll (·.isTag "dt")).length == 1) run.display
      "Constructor section may only contain one DT item" "only-single-constructor-dt" ++
    descriptionFindings run (run.selectAll (·.isTag "dd"))

/-- The findings of a section. -/
def sectionFindings (run : Run) : List Finding :=
  if declaresNoConstructor run then [] else entryFindings run

theorem checkDescription_eq (run : Run) (first second third : Node) (report : Report) :
    checkDescription run first second third report =
      ((partFindings run first second third).isEmpty,
        report.extend (partFindings run first second third)) := by
  simp [checkDescription, partFindings, Report.failIf_eq_extend, Bool.and_assoc]

theorem checkEntry_of_heading {tree heading : Located} (report : Report)
    (h : tree.select? (LinkList.selector sectionId).isMatch = some heading) :
    checkEntry tree (Run.ofSection heading tree) report =
      ((entryFindings (Run.ofSection heading tree)).isEmpty,
        report.extend (entryFindings (Run.ofSection heading tree))) := by
  simp only [checkEntry, LinkList.check_of_heading report h, entryFindings,
    Report.failIf_eq_extend, Report.extend_extend, Report.fail_eq_extend, checkDescription_eq]
  -- the two early exits : the count of descriptions, then the count of their parts
  rcases (Run.ofSection heading tree).selectAll (·.isTag "dd") with
    _ | ⟨description, _ | ⟨other, more⟩⟩
  · simp [descriptionFindings]
  · rcases hparts : description.node.children with _ | ⟨first, _ | ⟨second, _ | ⟨third, rest⟩⟩⟩ <;>
      simp [descriptionFindings, hparts, Bool.and_assoc]
  · simp [descriptionFindings]

theorem check_of_none {ctx : Context} {tree : Located} (report : Report)
    (h : tree.select? (LinkList.selector sectionId).isMatch = none) :
    check ctx tree report = (.invalid, report.extend [⟨tree.node.display,
      "expected element not found: " ++ (LinkList.selector sectionId).display,
      "expected-heading", .expected⟩]) := by
  simp only [check, h, Report.expected_eq_extend]

theorem check_of_heading {ctx : Context} {tree heading : Located} (report : Report)
    (h : tree.select? (LinkList.selector sectionId).isMatch = some heading) :
    check ctx tree report =
      (if (sectionFindings (Run.ofSection heading tree)).isEmpty then .valid heading else .invalid,
        report.extend (sectionFindings (Run.ofSection heading tree))) := by
  simp only [check, h, sectionFindings, checkEntry_of_heading report h]
  by_cases hdeclares : declaresNoConstructor (Run.ofSection heading tree) = true
  · simp [hdeclares]
  · cases hempty : (entryFindings (Run.ofSection heading tree)).isEmpty <;> simp [hdeclares, hempty]

/-- A section with findings makes the page invalid. -/
theorem invalid_of_findings {ctx : Context} {tree heading : Located} (report : Report)
    (h : tree.select? (LinkList.selector sectionId).isMatch = some heading)
    (hfound : (sectionFindings (Run.ofSection heading tree)).isEmpty = false) :
    (check ctx tree report).1 = .invalid := by
  rw [check_of_heading report h, hfound]
  rfl

/-! ## Sections without findings -/

/-- The section states that the object cannot be constructed : its second element is a
paragraph that opens with the statement. -/
def StatesNoConstructor (nodes : List Located) : Prop :=
  ∃ first second rest, nodes.filter (·.node.isElement) = first :: second :: rest ∧
    second.node.isTag "p" = true ∧
    ∃ value more, second.node.children = .text value :: more ∧
      noConstructor.toList <+: value.toList

/-- `l` is the one element with this tag among the nodes and everything below them. -/
def IsOnly (nodes : List Located) (tag : String) (l : Located) : Prop :=
  (nodes.flatMap preorder).filter (·.node.isTag tag) = [l]

/-- The section holds one list, one term and one description, at any depth, and the terms of
its list are in order. -/
def ListsOneEntry (nodes : List Located) (description : Located) : Prop :=
  ∃ list term, IsOnly nodes "dl" list ∧ IsOnly nodes "dt" term ∧ IsOnly nodes "dd" description ∧
    LinkList.InOrder list

/-- The description opens with `descriptionStart` and a code element, and goes on. -/
def OpensWithName (description : Located) : Prop :=
  ∃ name third rest,
    description.node.children = .text descriptionStart :: name :: third :: rest ∧
      name.isTag "code" = true

/-- The third part of the description is a text that opens with `descriptionEnd`. -/
def EndsSentence (description : Located) : Prop :=
  ∃ first second value rest,
    description.node.children = first :: second :: .text value :: rest ∧
      descriptionEnd.toList <+: value.toList

/-- The section lists one entry, whose description says what is created. -/
def HoldsEntry (nodes : List Located) : Prop :=
  ∃ description, ListsOneEntry nodes description ∧ OpensWithName description ∧
    EndsSentence description

theorem declaresNoConstructor_iff (run : Run) :
    declaresNoConstructor run = true ↔ StatesNoConstructor run.nodes := by
  rw [declaresNoConstructor, StatesNoConstructor]
  generalize run.nodes.filter (·.node.isElement) = elements
  rcases elements with _ | ⟨first, _ | ⟨second, rest⟩⟩
  · simp
  · simp
  · simp only [Bool.and_eq_true, List.cons.injEq]
    constructor
    · rintro ⟨htag, hany⟩
      obtain ⟨opening, hhead, hstarts⟩ := (Option.any_eq_true _ _).mp hany
      obtain ⟨more, hchildren⟩ := List.head?_eq_some_iff.mp hhead
      obtain ⟨value, rfl, hvalue⟩ := Node.startsWithText_iff.mp hstarts
      exact ⟨first, second, rest, ⟨rfl, rfl, rfl⟩, htag, value, more, hchildren, hvalue⟩
    · rintro ⟨_, _, _, ⟨rfl, rfl, rfl⟩, htag, value, more, hchildren, hvalue⟩
      refine ⟨htag, ?_⟩
      rw [hchildren, List.head?_cons, Option.any_some]
      exact Node.startsWithText_iff.mpr ⟨value, rfl, hvalue⟩

theorem partFindings_eq_nil_iff (run : Run) (first second third : Node) :
    partFindings run first second third = [] ↔
      first = .text descriptionStart ∧ second.isTag "code" = true ∧
        ∃ value, third = .text value ∧ descriptionEnd.toList <+: value.toList := by
  simp only [partFindings, List.append_eq_nil_iff, Finding.failIf_eq_nil_iff,
    Bool.not_eq_false', Node.isText_iff, Node.startsWithText_iff, and_assoc]

/-- Descriptions are without findings when there is one and its three parts are right. -/
theorem descriptionFindings_eq_nil_iff (run : Run) (descriptions : List Located) :
    descriptionFindings run descriptions = [] ↔
      ∃ description, descriptions = [description] ∧ OpensWithName description ∧
        EndsSentence description := by
  rcases descriptions with _ | ⟨description, _ | ⟨other, more⟩⟩
  · simp [descriptionFindings]
  · rcases hparts : description.node.children with _ | ⟨first, _ | ⟨second, _ | ⟨third, rest⟩⟩⟩
    case cons.cons.cons =>
      simp only [descriptionFindings, hparts, partFindings_eq_nil_iff]
      constructor
      · rintro ⟨rfl, htag, value, rfl, hvalue⟩
        exact ⟨description, rfl, ⟨second, .text value, rest, hparts, htag⟩,
          ⟨.text descriptionStart, second, value, rest, hparts, hvalue⟩⟩
      · rintro ⟨_, hone, ⟨name, _, _, hopens, htag⟩, ⟨_, _, value, _, hends, hvalue⟩⟩
        obtain rfl := List.singleton_inj.mp hone
        simp only [hparts, List.cons.injEq] at hopens hends
        obtain ⟨rfl, rfl, -, -⟩ := hopens
        exact ⟨rfl, htag, value, hends.2.2.1, hvalue⟩
    all_goals simp [descriptionFindings, OpensWithName, hparts]
  · simp [descriptionFindings]

theorem entryFindings_eq_nil_iff (run : Run) :
    entryFindings run = [] ↔ HoldsEntry run.nodes := by
  rw [entryFindings, List.append_eq_nil_iff, List.append_eq_nil_iff,
    LinkList.sectionFindings_eq_nil_iff, Finding.failIf_eq_nil_iff, Bool.not_eq_false',
    beq_iff_eq, List.length_eq_one_iff, descriptionFindings_eq_nil_iff]
  simp only [Run.selectAll_eq_filter, HoldsEntry, ListsOneEntry, IsOnly]
  constructor
  · rintro ⟨⟨⟨list, hlist, horder⟩, term, hterm⟩, description, hdescription, hopens, hends⟩
    exact ⟨description, ⟨list, term, hlist, hterm, hdescription, horder⟩, hopens, hends⟩
  · rintro ⟨description, ⟨list, term, hlist, hterm, hdescription, horder⟩, hopens, hends⟩
    exact ⟨⟨⟨list, hlist, horder⟩, term, hterm⟩, description, hdescription, hopens, hends⟩

theorem sectionFindings_eq_nil_iff (run : Run) :
    sectionFindings run = [] ↔ StatesNoConstructor run.nodes ∨ HoldsEntry run.nodes := by
  rw [sectionFindings, ← declaresNoConstructor_iff, ← entryFindings_eq_nil_iff]
  by_cases hdeclares : declaresNoConstructor run = true <;> simp [hdeclares]

/-! ## The verdict -/

/-- The node is an `h2` with id `Constructor`. -/
def IsSectionHeading (node : Node) : Prop := node.isTag "h2" = true ∧ node.id? = some sectionId

instance : DecidablePred IsSectionHeading := fun _ => inferInstanceAs (Decidable (_ ∧ _))

theorem isMatch_iff (node : Node) :
    (LinkList.selector sectionId).isMatch node = true ↔ IsSectionHeading node := by
  simp [LinkList.selector, Selector.isMatch, IsSectionHeading]

/-- Checking extends the report. The page is valid when nothing is added and invalid
otherwise, and it is valid at a node exactly when the node is the first heading of a
constructor section and its section is as it should be. -/
theorem check_verdict (ctx : Context) (tree : Located) (report : Report) :
    ∃ added, (check ctx tree report).2.findings = report.findings ++ added ∧
      (added = [] ↔ ∃ node, (check ctx tree report).1 = .valid node) ∧
      (added ≠ [] ↔ (check ctx tree report).1 = .invalid) ∧
      ∀ node, (check ctx tree report).1 = .valid node ↔
        tree.IsFirst IsSectionHeading node ∧ ∃ nodes, Run.IsSection tree node nodes ∧
          (StatesNoConstructor nodes ∨ HoldsEntry nodes) := by
  cases hselect : tree.select? (LinkList.selector sectionId).isMatch with
  | none =>
    rw [check_of_none report hselect]
    refine ⟨_, rfl, by simp, by simp, fun node => ?_⟩
    simp [isFirst_iff isMatch_iff, hselect]
  | some heading =>
    have hmem := ((isFirst_iff isMatch_iff).mpr hselect).mem_preorder
    rw [check_of_heading report hselect]
    refine ⟨_, rfl, ?_⟩
    simp only [isFirst_iff isMatch_iff, hselect, Option.some.injEq]
    by_cases hnone : sectionFindings (Run.ofSection heading tree) = []
    · refine ⟨by simp [hnone], by simp [hnone], fun node => ?_⟩
      have hsound := (sectionFindings_eq_nil_iff _).mp hnone
      simp only [hnone, List.isEmpty_nil, if_true, Outcome.valid.injEq]
      constructor
      · rintro rfl
        exact ⟨rfl, _, (Run.isSection_iff hmem).mpr rfl, hsound⟩
      · exact fun h => h.1
    · have hempty : (sectionFindings (Run.ofSection heading tree)).isEmpty = false := by
        simpa using hnone
      refine ⟨by simp [hnone, hempty], by simp [hnone, hempty], fun node => ?_⟩
      simp only [hempty, Bool.false_eq_true, if_false, reduceCtorEq, false_iff, not_and]
      rintro rfl ⟨nodes, hsection, hsound⟩
      rw [Run.isSection_iff hmem] at hsection
      subst hsection
      exact hnone ((sectionFindings_eq_nil_iff _).mpr hsound)

/-- A page whose section says that the object cannot be constructed. -/
def abstractPage : Node :=
  .branch "body" [
    .element "h2" (some "Constructor") [] [.text "Constructor"],
    .branch "p" [.text "This object cannot be instantiated directly. See the factory."]]

/-- The page is valid at its heading, and nothing is added to a report. -/
theorem valid_abstractPage : ∃ heading, (root abstractPage 0).IsFirst IsSectionHeading heading ∧
    ∀ ctx report, (check ctx (root abstractPage 0) report).1 = .valid heading ∧
      (check ctx (root abstractPage 0) report).2.findings = report.findings := by
  have hheading : (root abstractPage 0).IsFirst IsSectionHeading
      (root abstractPage 0).children[0] :=
    ⟨[root abstractPage 0], _, rfl, by decide, by decide⟩
  have hsection : Run.IsSection (root abstractPage 0) (root abstractPage 0).children[0]
      (root abstractPage 0).children := Run.isSection_children rfl (by decide)
  have hstates : StatesNoConstructor (root abstractPage 0).children :=
    ⟨_, _, _, rfl, by decide, _, _, rfl, by decide⟩
  refine ⟨_, hheading, fun ctx report => ?_⟩
  obtain ⟨added, hfindings, hadded, -, hvalid⟩ := check_verdict ctx (root abstractPage 0) report
  have hverdict := (hvalid _).mpr ⟨hheading, _, hsection, Or.inl hstates⟩
  refine ⟨hverdict, ?_⟩
  rw [hfindings, hadded.mpr ⟨_, hverdict⟩, List.append_nil]

/-- A page whose one description opens with the name and does not end its sentence. -/
def unfinishedPage : Node :=
  .branch "body" [
    .element "h2" (some "Constructor") [] [.text "Constructor"],
    .branch "dl" [
      .branch "dt" [.branch "code" [.text "Foo()"]],
      .branch "dd" [.text "Creates a new ", .branch "code" [.text "Foo"], .text " thing."]]]

/-- Three parts of which the first two are right are not enough : the section lists one
entry that opens with a name, and the page is invalid. -/
theorem invalid_unfinishedPage :
    ∃ heading nodes description, (root unfinishedPage 0).IsFirst IsSectionHeading heading ∧
      Run.IsSection (root unfinishedPage 0) heading nodes ∧
      ListsOneEntry nodes description ∧ OpensWithName description ∧
      ∀ ctx report, (check ctx (root unfinishedPage 0) report).1 = .invalid := by
  have hheading : (root unfinishedPage 0).IsFirst IsSectionHeading
      (root unfinishedPage 0).children[0] :=
    ⟨[root unfinishedPage 0], _, rfl, by decide, by decide⟩
  have hsection : Run.IsSection (root unfinishedPage 0) (root unfinishedPage 0).children[0]
      (root unfinishedPage 0).children := Run.isSection_children rfl (by decide)
  refine ⟨_, _, (root unfinishedPage 0).children[1].children[1], hheading, hsection,
    ⟨(root unfinishedPage 0).children[1], (root unfinishedPage 0).children[1].children[0],
      rfl, rfl, rfl, ?_⟩, ⟨_, _, _, rfl, by decide⟩, fun ctx report => ?_⟩
  · rw [← LinkList.listFindings_eq_nil_iff sectionId]
    decide +kernel
  · exact invalid_of_findings report ((isFirst_iff isMatch_iff).mp hheading) (by decide +kernel)

end PageRecipe.Constructor

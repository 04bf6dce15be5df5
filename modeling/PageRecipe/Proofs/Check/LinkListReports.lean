import Mathlib.Data.List.Infix
import PageRecipe.Proofs.Check.LinkListFindings

/-!
# What is reported of a link list

`LinkList.check` goes through the items of a list, with the blank texts taken out, and looks at
the item behind each term. Here its findings are told from the page itself : a list is its
children, each with the siblings after it (`listFaults`), and a term is at fault when nothing
below it is a link or code, or when the first sibling after it that is not a blank text is no
description (`termFaults`). Taking the blank texts out first comes to the same
(`listFindings_eq_listFaults`).

`check_reports` says when the answer is yes, when nothing is reported although the answer is no,
and what is reported when the heading is there.
-/

namespace PageRecipe.LinkList

open Located

variable {label : String}

/-! ## Faults -/

instance (item : Located) : Decidable (NamesItem item) := decidable_of_iff _ (hasLink_iff item)

instance (siblings : List Located) : Decidable (DescribedBy siblings) :=
  decidable_of_iff _ (isDescribed_items_iff siblings)

/-- What is wrong with a term that the siblings `later` follow. -/
def termFaults (label : String) (term : Located) (later : List Located) : List Finding :=
  (if NamesItem term then [] else
    [⟨term.node.display, label ++ " DT items must link to or name the documented item",
      "link-list-dt-has-link", .fail⟩]) ++
  (if DescribedBy later then [] else
    [⟨term.node.display, label ++ " DT items must be followed by a DD",
      "link-list-dt-followed-by-dd", .fail⟩])

/-- What is wrong with the first of some siblings : only a term can be at fault. -/
def childFaults (label : String) : List Located → List Finding
  | [] => []
  | child :: later => if child.node.isTag "dt" then termFaults label child later else []

/-- What is wrong with a list : its children in order, each with the siblings after it. -/
def listFaults (label : String) (list : Located) : List Finding :=
  list.children.tails.flatMap (childFaults label)

/-- The lists among some nodes and everything below them, in document order. -/
def listsIn (nodes : List Located) : List Located :=
  (nodes.flatMap preorder).filter (·.node.isTag "dl")

/-- What is wrong with a section : it holds no list or several, and then list by list. -/
def sectionFaults (label : String) (nodes : List Located) : List Finding :=
  (if (listsIn nodes).length = 1 then [] else
    [⟨(Run.mk nodes).display, label ++ " section must contain exactly one DL",
      "link-list-single-dl", .fail⟩]) ++
  (listsIn nodes).flatMap (listFaults label)

/-! ## Findings are faults -/

theorem termFindings_eq_termFaults (term : Located) (later : List Located) :
    termFindings label term (later.filter fun l => !l.node.isBlankText) =
      termFaults label term later := by
  rw [termFindings, termFaults, Finding.failIf_not_eq (hasLink_iff term),
    Finding.failIf_not_eq (isDescribed_items_iff later)]

/-- Blank texts are no terms, so they are at no fault and nobody misses them. -/
theorem itemsFindings_eq_flatMap_childFaults (siblings : List Located) :
    itemsFindings label (siblings.filter fun l => !l.node.isBlankText) =
      siblings.tails.flatMap (childFaults label) := by
  induction siblings with
  | nil => rfl
  | cons child later ih =>
    rw [List.tails_cons, List.flatMap_cons, childFaults]
    by_cases hblank : child.node.isBlankText = true
    · have hterm : child.node.isTag "dt" = false := by
        rw [Bool.eq_false_iff]
        intro htag
        rw [Node.isBlankText_of_isTag htag] at hblank
        cases hblank
      rw [List.filter_cons_of_neg (by simp [hblank]), ih, hterm]
      rfl
    · rw [List.filter_cons_of_pos (by simp [hblank]), itemsFindings, termFindings_eq_termFaults, ih]

theorem listFindings_eq_listFaults (list : Located) :
    listFindings label list = listFaults label list :=
  itemsFindings_eq_flatMap_childFaults list.children

theorem sectionFindings_eq_sectionFaults (run : Run) :
    sectionFindings label run = sectionFaults label run.nodes := by
  have hlists : run.selectAll (·.isTag "dl") = listsIn run.nodes := Run.selectAll_eq_filter run _
  rw [sectionFindings, sectionFaults, hlists, Finding.failIf_not_eq beq_iff_eq,
    funext listFindings_eq_listFaults]

/-! ## The check -/

/-- The node is an `h2` with this id. -/
def Heads (label : String) (node : Node) : Prop := node.isTag "h2" = true ∧ node.id? = some label

instance : DecidablePred (Heads label) := fun _ => inferInstanceAs (Decidable (_ ∧ _))

theorem isMatch_iff_heads (node : Node) :
    (selector label).isMatch node = true ↔ Heads label node := by
  simp [selector, Selector.isMatch, Heads]

/-- The tree has an `h2` with this id. -/
def HasHeading (label : String) (tree : Located) : Prop := ∃ l ∈ tree.preorder, Heads label l.node

theorem hasHeading_iff {tree : Located} :
    HasHeading label tree ↔ ∃ heading, tree.IsFirst (Heads label) heading := by
  simp only [isFirst_iff isMatch_iff_heads, select?_eq_find?, ← Option.isSome_iff_exists,
    List.find?_isSome, isMatch_iff_heads]
  rfl

/-- The report is extended. The answer is yes when the heading is there and nothing is added ; it
is no without an addition when the heading is missing. When it is there, what is added are the
faults of the section of the first such heading. -/
theorem check_reports (label : String) (tree : Located) (report : Report) :
    ∃ added, (check label tree report).2.findings = report.findings ++ added ∧
      ((check label tree report).1 = true ↔ HasHeading label tree ∧ added = []) ∧
      ((check label tree report).1 = false ∧ added = [] ↔ ¬HasHeading label tree) ∧
      (HasHeading label tree → ∃ heading nodes, tree.IsFirst (Heads label) heading ∧
        Run.IsSection tree heading nodes ∧ added = sectionFaults label nodes) := by
  rw [hasHeading_iff]
  by_cases h : ∃ heading, tree.IsFirst (Heads label) heading
  · obtain ⟨heading, hfirst⟩ := h
    have hsection := (Run.isSection_iff hfirst.mem_preorder).mpr rfl
    have hselect := (isFirst_iff isMatch_iff_heads).mp hfirst
    rw [check_of_heading report hselect, sectionFindings_eq_sectionFaults]
    refine ⟨_, rfl, ?_, ?_, fun _ => ⟨heading, _, hfirst, hsection, rfl⟩⟩
    · simp only [List.isEmpty_iff]
      exact ⟨fun hnone => ⟨⟨heading, hfirst⟩, hnone⟩, fun h => h.2⟩
    · simp only [List.isEmpty_eq_false_iff]
      exact ⟨fun h => absurd h.2 h.1, fun h => absurd ⟨heading, hfirst⟩ h⟩
  · have hselect : tree.select? (selector label).isMatch = none := by
      rw [Option.eq_none_iff_forall_ne_some]
      exact fun heading hselect => h ⟨heading, (isFirst_iff isMatch_iff_heads).mpr hselect⟩
    refine ⟨[], ?_, ?_, ?_, fun hheading => absurd hheading h⟩
    all_goals simp [check, hselect, h]

/-- A page with a list in a description of another list. The outer list has blank texts between
its items and ends with a term. -/
def nestedLists : Node :=
  .branch "body" [
    .heading 2 "Methods",
    .branch "dl" [
      .text "\n",
      .branch "dt" [.branch "code" [.text "Foo.bar()"]],
      .text "\n",
      .branch "dd" [.branch "dl" [.branch "dt" [.text "x"], .branch "dd" []]],
      .branch "dt" [.text "Foo.baz()"]],
    .heading 2 "Notes"]

/-- Two lists, of which the outer one ends with a term that is at fault twice and the inner one
has a term that is at fault once. -/
theorem reports_nestedLists : HasHeading "Methods" (root nestedLists 0) ∧
    ∀ report, (check "Methods" (root nestedLists 0) report).2.findings = report.findings ++
      [⟨"section(h2#Methods)", "Methods section must contain exactly one DL",
          "link-list-single-dl", .fail⟩,
        ⟨"dt", "Methods DT items must link to or name the documented item",
          "link-list-dt-has-link", .fail⟩,
        ⟨"dt", "Methods DT items must be followed by a DD", "link-list-dt-followed-by-dd", .fail⟩,
        ⟨"dt", "Methods DT items must link to or name the documented item",
          "link-list-dt-has-link", .fail⟩] := by
  have hfirst : (root nestedLists 0).IsFirst (Heads "Methods") (root nestedLists 0).children[0] :=
    ⟨[root nestedLists 0], _, rfl, by decide, by decide⟩
  have hheading := hasHeading_iff.mpr ⟨_, hfirst⟩
  refine ⟨hheading, fun report => ?_⟩
  obtain ⟨added, hadded, -, -, hfaults⟩ := check_reports "Methods" (root nestedLists 0) report
  obtain ⟨heading, nodes, hfirst', hsection, rfl⟩ := hfaults hheading
  have hsame : heading = (root nestedLists 0).children[0] := hfirst'.eq hfirst
  rw [hadded]
  subst hsame
  rw [Run.isSection_iff hfirst.mem_preorder] at hsection
  subst hsection
  congr 1
  decide +kernel

end PageRecipe.LinkList

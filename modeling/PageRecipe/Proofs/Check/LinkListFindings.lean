import PageRecipe.Check.LinkList
import PageRecipe.Proofs.Check.Reporting
import PageRecipe.Proofs.Prose.Sections

/-!
# The findings of a link list

`LinkList.check` threads a report and a verdict through the lists of a section and the items
of each list. `check_of_heading` says what comes out : the report is extended by the
findings of the section (`sectionFindings`), and the verdict is that there are none.

A list has no findings exactly when each of its terms names an item and is followed by a
description (`listFindings_eq_nil_iff`), where blank texts between siblings do not count.
-/

namespace PageRecipe.LinkList

open Located

/-! ## The findings -/

/-- The findings of one term, with the items after it. -/
def termFindings (label : String) (item : Located) (rest : List Located) : List Finding :=
  Finding.failIf (!hasLink item) item.node.display
      (label ++ " DT items must link to or name the documented item") "link-list-dt-has-link" ++
    Finding.failIf (!isDescribed rest) item.node.display
      (label ++ " DT items must be followed by a DD") "link-list-dt-followed-by-dd"

/-- The findings of the items of a list, term by term. -/
def itemsFindings (label : String) : List Located → List Finding
  | [] => []
  | item :: rest =>
    (if item.node.isTag "dt" then termFindings label item rest else []) ++
      itemsFindings label rest

/-- The findings of a list. -/
def listFindings (label : String) (list : Located) : List Finding :=
  itemsFindings label (items list)

/-- The findings of a section : whether it holds one list, then list by list. -/
def sectionFindings (label : String) (run : Run) : List Finding :=
  Finding.failIf (!(run.selectAll (·.isTag "dl")).length == 1) run.display
      (label ++ " section must contain exactly one DL") "link-list-single-dl" ++
    (run.selectAll (·.isTag "dl")).flatMap (listFindings label)

theorem checkItems_eq (label : String) : ∀ (items : List Located) (report : Report),
    checkItems label items report =
      ((itemsFindings label items).isEmpty, report.extend (itemsFindings label items))
  | [], report => by simp [checkItems, itemsFindings]
  | item :: rest, report => by
    by_cases hterm : item.node.isTag "dt" = true
    · simp [checkItems, itemsFindings, termFindings, hterm, checkItems_eq label rest,
        Report.failIf_eq_extend, Bool.and_assoc]
    · simp [checkItems, itemsFindings, hterm, checkItems_eq label rest]

theorem checkLists_eq (label : String) : ∀ (lists : List Located) (report : Report),
    checkLists label lists report =
      ((lists.flatMap (listFindings label)).isEmpty,
        report.extend (lists.flatMap (listFindings label)))
  | [], report => by simp [checkLists]
  | list :: rest, report => by
    simp [checkLists, checkItems_eq, checkLists_eq label rest, listFindings]

theorem check_of_heading {label : String} {tree heading : Located} (report : Report)
    (h : tree.select? (selector label).isMatch = some heading) :
    check label tree report =
      ((sectionFindings label (Run.ofSection heading tree)).isEmpty,
        report.extend (sectionFindings label (Run.ofSection heading tree))) := by
  simp [check, h, sectionFindings, checkLists_eq, Report.failIf_eq_extend]

/-! ## Lists without findings -/

/-- A link or code stands below the node. -/
def NamesItem (item : Located) : Prop :=
  ∃ l ∈ item.children.flatMap preorder, l.node.isTag "a" = true ∨ l.node.isTag "code" = true

/-- The first of the siblings that is not a blank text is a description. -/
def DescribedBy (siblings : List Located) : Prop :=
  ∃ blanks next rest, siblings = blanks ++ next :: rest ∧
    (∀ l ∈ blanks, l.node.isBlankText = true) ∧ next.node.isTag "dd" = true

/-- Every term among the children of the list names an item and is followed by a
description. -/
def InOrder (list : Located) : Prop :=
  ∀ before item after, list.children = before ++ item :: after →
    item.node.isTag "dt" = true → NamesItem item ∧ DescribedBy after

theorem hasLink_iff (item : Located) : hasLink item = true ↔ NamesItem item := by
  rw [hasLink, descendants_eq_preorder, preorder_eq, List.tail_cons, List.any_eq_true]
  simp only [NamesItem, Bool.or_eq_true]

/-- A description is no blank text, so it is the first item after the blank texts. -/
theorem isDescribed_items_iff (siblings : List Located) :
    isDescribed (siblings.filter fun l => !l.node.isBlankText) = true ↔
      DescribedBy siblings := by
  rw [isDescribed, List.head?_filter, Option.any_eq_true]
  constructor
  · rintro ⟨next, hfind, htag⟩
    obtain ⟨-, blanks, rest, hsplit, hblanks⟩ := List.find?_eq_some_iff_append.mp hfind
    exact ⟨blanks, next, rest, hsplit, fun l hl => by simpa using hblanks l hl, htag⟩
  · rintro ⟨blanks, next, rest, hsplit, hblanks, htag⟩
    refine ⟨next, List.find?_eq_some_iff_append.mpr ⟨by simp [Node.isBlankText_of_isTag htag],
      blanks, rest, hsplit, fun l hl => by simp [hblanks l hl]⟩, htag⟩

theorem termFindings_eq_nil_iff (label : String) (item : Located) (rest : List Located) :
    termFindings label item rest = [] ↔ hasLink item = true ∧ isDescribed rest = true := by
  simp [termFindings, Finding.failIf_eq_nil_iff]

/-- Items are without findings when every term is, wherever it stands. -/
theorem itemsFindings_eq_nil_iff (label : String) (items : List Located) :
    itemsFindings label items = [] ↔ ∀ before item after, items = before ++ item :: after →
      item.node.isTag "dt" = true → hasLink item = true ∧ isDescribed after = true := by
  induction items with
  | nil => simp [itemsFindings]
  | cons first rest ih =>
    rw [itemsFindings, List.append_eq_nil_iff, ih]
    constructor
    · rintro ⟨hfirst, hrest⟩ before item after hsplit hterm
      cases before with
      | nil =>
        obtain ⟨rfl, rfl⟩ := List.cons.inj hsplit
        rw [if_pos hterm, termFindings_eq_nil_iff] at hfirst
        exact hfirst
      | cons _ before => exact hrest before item after (List.cons.inj hsplit).2 hterm
    · intro h
      refine ⟨?_, fun before item after hsplit => h (first :: before) item after (by simp [hsplit])⟩
      by_cases hterm : first.node.isTag "dt" = true
      · rw [if_pos hterm, termFindings_eq_nil_iff]
        exact h [] first rest rfl hterm
      · rw [if_neg hterm]

/-- A list has no findings exactly when its terms are in order. -/
theorem listFindings_eq_nil_iff (label : String) (list : Located) :
    listFindings label list = [] ↔ InOrder list := by
  rw [listFindings, itemsFindings_eq_nil_iff, items, Run.forall_split_filter_iff]
  simp only [hasLink_iff, isDescribed_items_iff, InOrder]
  constructor
  · intro h before item after hsplit hterm
    exact h before item after hsplit (by simp [Node.isBlankText_of_isTag hterm]) hterm
  · intro h before item after hsplit _ hterm
    exact h before item after hsplit hterm

/-- A section has no findings exactly when it holds one list, whose terms are in order. -/
theorem sectionFindings_eq_nil_iff (label : String) (run : Run) :
    sectionFindings label run = [] ↔
      ∃ list, run.selectAll (·.isTag "dl") = [list] ∧ InOrder list := by
  rw [sectionFindings, List.append_eq_nil_iff, Finding.failIf_eq_nil_iff, Bool.not_eq_false',
    beq_iff_eq, List.length_eq_one_iff]
  constructor
  · rintro ⟨⟨list, hlist⟩, hitems⟩
    rw [hlist, List.flatMap_singleton, listFindings_eq_nil_iff] at hitems
    exact ⟨list, hlist, hitems⟩
  · rintro ⟨list, hlist, horder⟩
    rw [hlist, List.flatMap_singleton, listFindings_eq_nil_iff]
    exact ⟨⟨list, rfl⟩, horder⟩

end PageRecipe.LinkList

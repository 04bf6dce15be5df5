import PageRecipe.Check.Report
import PageRecipe.Prose.Run

/-!
# Link lists

A link-list section is an `h2` whose section holds a single `dl`. Each term of the list
links to an item or names it as code, and a description follows it directly. `LinkList.check`
reports where a section falls short, term by term.
-/

namespace PageRecipe.LinkList

/-- Something below the node is a link or code. -/
def hasLink (item : Located) : Bool :=
  item.descendants.tail.any fun l => l.node.isTag "a" || l.node.isTag "code"

/-- The next item is a description. -/
def isDescribed (rest : List Located) : Bool := rest.head?.any (·.node.isTag "dd")

/-- Checks the items of a list from the left : every term is linked and described. -/
def checkItems (label : String) : List Located → Report → Bool × Report
  | [], report => (true, report)
  | item :: rest, report =>
    if item.node.isTag "dt" then
      let linked := hasLink item
      let described := isDescribed rest
      let report := report.failIf (!linked) item.node.display
        (label ++ " DT items must link to or name the documented item") "link-list-dt-has-link"
      let report := report.failIf (!described) item.node.display
        (label ++ " DT items must be followed by a DD") "link-list-dt-followed-by-dd"
      let (ok, report) := checkItems label rest report
      (linked && described && ok, report)
    else checkItems label rest report

/-- The items of a list : its children that are not blank texts. -/
def items (list : Located) : List Located := list.children.filter fun l => !l.node.isBlankText

/-- Checks every list in turn. -/
def checkLists (label : String) : List Located → Report → Bool × Report
  | [], report => (true, report)
  | list :: rest, report =>
    let (first, report) := checkItems label (items list) report
    let (others, report) := checkLists label rest report
    (first && others, report)

/-- The heading that opens the section with this label. -/
def selector (label : String) : Selector := ⟨"h2", some label⟩

/-- Checks the section under the `h2` with this id : it holds exactly one list, and the
items of each list are in order. Without the heading the answer is `false` and nothing is
reported, for then the finding is the caller's. -/
def check (label : String) (tree : Located) (report : Report) : Bool × Report :=
  match tree.select? (selector label).isMatch with
  | none => (false, report)
  | some heading =>
    let run := Run.ofSection heading tree
    let lists := run.selectAll (·.isTag "dl")
    let single := lists.length == 1
    let report := report.failIf (!single) run.display
      (label ++ " section must contain exactly one DL") "link-list-single-dl"
    let (ok, report) := checkLists label lists report
    (single && ok, report)

end PageRecipe.LinkList

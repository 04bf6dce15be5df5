import PageRecipe.Check.Handler
import PageRecipe.Check.LinkList

/-!
# The constructor section

The section of a class page under the `h2` with id `Constructor` is either an explicit
statement that the object cannot be constructed, or a link list with one term whose
description reads "Creates a new `Name` object.", with the name as code.
-/

namespace PageRecipe.Constructor

/-- The id of the section. -/
def sectionId : String := "Constructor"

/-- The statement that replaces the link list. -/
def noConstructor : String := "This object cannot be instantiated directly."

/-- How the description starts. -/
def descriptionStart : String := "Creates a new "

/-- How the first sentence of the description ends. -/
def descriptionEnd : String := " object."

/-- The second element of the run is a paragraph that opens with `noConstructor`. -/
def declaresNoConstructor (run : Run) : Bool :=
  match run.nodes.filter (·.node.isElement) with
  | _ :: second :: _ =>
    second.node.isTag "p" && second.node.children.head?.any (·.startsWithText noConstructor)
  | _ => false

/-- Checks the first three parts of the description. -/
def checkDescription (run : Run) (first second third : Node) (report : Report) :
    Bool × Report :=
  let starts := first.isText descriptionStart
  let report := report.failIf (!starts) run.display
    "Constructor description must be in the form 'Creates a new <code>...</code> object.'"
    "constructor-description-first-node"
  let named := second.isTag "code"
  let report := report.failIf (!named) run.display
    "Constructor description must contain <code>Object</code> after 'Creates a new'"
    "constructor-description-second-node"
  let ends := third.startsWithText descriptionEnd
  let report := report.failIf (!ends) run.display
    "Constructor description must end first sentence with ' object.'"
    "constructor-description-third-node"
  (starts && named && ends, report)

/-- Checks the link list of the section, its single term and its single description. -/
def checkEntry (tree : Located) (run : Run) (report : Report) : Bool × Report :=
  let (listed, report) := LinkList.check sectionId tree report
  let singleTerm := (run.selectAll (·.isTag "dt")).length == 1
  let report := report.failIf (!singleTerm) run.display
    "Constructor section may only contain one DT item" "only-single-constructor-dt"
  match run.selectAll (·.isTag "dd") with
  | [description] =>
    match description.node.children with
    | first :: second :: third :: _ =>
      let (described, report) := checkDescription run first second third report
      (listed && singleTerm && described, report)
    | _ =>
      (false, report.fail description.node.display
        "Constructor description must be in the form `Creates a new <code>...</code> object.`"
        "constructor-description-at-least-three-nodes")
  | _ =>
    (false, report.fail run.display "Constructor section may only contain one DD item"
      "only-single-constructor-dd")

/-- Checks the constructor section. It is anchored at its heading when valid. -/
def check : Handler := fun _ tree report =>
  let selector := LinkList.selector sectionId
  match tree.select? selector.isMatch with
  | none => (.invalid, report.expected tree.node.display selector.display "expected-heading")
  | some heading =>
    let run := Run.ofSection heading tree
    if declaresNoConstructor run then (.valid heading, report)
    else
      match checkEntry tree run report with
      | (true, report) => (.valid heading, report)
      | (false, report) => (.invalid, report)

end PageRecipe.Constructor

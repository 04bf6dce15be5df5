import PageRecipe.Check.Handler

/-!
# The interactive example

A page embeds at most one interactive example. It belongs into the lead section before the
first `h2`, alone in a `div` that directly follows a plain paragraph. `InteractiveExample.check`
only reports ; it never calls the page invalid.
-/

namespace PageRecipe.InteractiveExample

/-- An invocation with the node that holds it, `none` at the top of a run. -/
structure Site where
  container : Option Located
  invocation : Located
  deriving Repr

/-- The node embeds an interactive example. -/
def isExample (ctx : Context) (node : Node) : Bool := node.isMacro ctx.exampleMacro

mutual

/-- The invocations below a node, in document order. -/
def sitesBelow (ctx : Context) (place : Place) : Node → List Site
  | .element tag id classes nodes =>
    sitesAmong ctx ⟨place, .element tag id classes nodes⟩ 0 nodes
  | .text _ => []

/-- The invocations among the children of `holder`, counted from `first`, and below them. -/
def sitesAmong (ctx : Context) (holder : Located) (first : Nat) : List Node → List Site
  | [] => []
  | node :: rest =>
    let place : Place := ⟨holder.place.copy, holder.place.path ++ [first]⟩
    (if isExample ctx node then [⟨some holder, ⟨place, node⟩⟩] else []) ++
      sitesBelow ctx place node ++ sitesAmong ctx holder (first + 1) rest

end

/-- The invocations at a top node of a run and below it. -/
def sitesOfTop (ctx : Context) (top : Located) : List Site :=
  (if isExample ctx top.node then [⟨none, top⟩] else []) ++ sitesBelow ctx top.place top.node

/-- Every invocation in a run, in document order. -/
def sites (ctx : Context) (run : Run) : List Site := run.nodes.flatMap (sitesOfTop ctx)

/-- A `div` whose only child embeds an interactive example. -/
def isExampleDiv (ctx : Context) (node : Node) : Bool :=
  node.isTag "div" &&
    match node.children with
    | [child] => isExample ctx child
    | _ => false

/-- A paragraph that is not a callout. -/
def isPlainParagraph (ctx : Context) (node : Node) : Bool :=
  node.isTag "p" && !ctx.classifier.isAdmonition node

/-- The tree's `body`, or the tree itself without one. -/
def bodyOf (tree : Located) : Located := (tree.select? (·.isTag "body")).getD tree

/-- Reports examples after the first `h2`. -/
def checkAfter (ctx : Context) (body : Located) (report : Report) : Report :=
  match body.select? (·.isTag "h2") with
  | none => report
  | some first =>
    let run := Run.after first (fun _ => false) body
    report.failIf (!(sites ctx run).isEmpty) run.display
      "Interactive examples must be before first H2" "interactive-example-before-first-h2"

/-- Reports each example `div` that no plain paragraph precedes directly. -/
def checkPreceding (ctx : Context) : Option Node → List Located → Report → Report
  | _, [], report => report
  | previous, l :: rest, report =>
    let misplaced := isExampleDiv ctx l.node && !previous.any (isPlainParagraph ctx)
    checkPreceding ctx (some l.node) rest
      (report.failIf misplaced l.node.display
        "Interactive example must be preceded by a P node" "interactive-example-preceded-by-p")

/-- Reports an invocation that is not held by a `div`. -/
def checkHolder (site : Site) (report : Report) : Report :=
  let holder := site.container.getD site.invocation
  report.failIf (!site.container.any (·.node.isTag "div")) holder.node.display
    "Interactive example must be in a DIV" "interactive-example-inside-div"

/-- The lead section : what stands before the first `h2`, as far as the section of the
body's first node reaches. -/
def lead (first body : Located) : Run := (Run.ofSection first body).takeWhile fun n => !n.isTag "h2"

/-- Checks the lead section. -/
def checkLead (ctx : Context) (run : Run) (report : Report) : Report :=
  let found := sites ctx run
  let report := report.failIf (decide (1 < found.length)) run.display
    "Only one interactive example may be included" "at-most-one-interactive-example"
  match found with
  | [] => report
  | site :: _ => checkPreceding ctx none run.significant (checkHolder site report)

/-- Checks the placement of interactive examples. -/
def check : Handler := fun ctx tree report =>
  let body := bodyOf tree
  let report := checkAfter ctx body report
  match body.children with
  | [] => (.checked, report)
  | first :: _ => (.checked, checkLead ctx (lead first body) report)

end PageRecipe.InteractiveExample

import Mathlib.Data.List.TakeWhile
import PageRecipe.Proofs.Check.ExampleSites
import PageRecipe.Proofs.Check.Reporting

/-!
# The placement of examples

`InteractiveExample.check` holds a page's examples against one rule : at most one, in the
lead section before the first `h2`, alone in a `div` at the top level that directly follows
a plain paragraph (`WellPlaced`). Its findings are those after a heading and those of the
lead section (`check_of_body`).

The checks look at less than the rule speaks of, and each statement below says exactly at
what.

* The lead section is cut as the section of the first node. If that is a heading, the next
  heading of equal or higher standing ends it, `h2` or not, and what stands behind is
  `unreached`. The findings on more than one example count what is `reached`
  (`countOf_severalExamples`).
* The region after the first `h2` consists of the later siblings of the first `h2` in
  document order, at whatever depth that stands (`reportsAfter_iff`).
* The scan for the preceding paragraph knows a `div` only as a top node with one child. A
  silent check means a well placed example if that is where the example is
  (`wellPlaced_iff_of_silent`).
-/

namespace PageRecipe.InteractiveExample

open Located

variable {ctx : Context}

/-! ## The findings -/

/-- The findings of examples after the first `h2`. -/
def afterFindings (ctx : Context) (body : Located) : List Finding :=
  match body.select? (·.isTag "h2") with
  | none => []
  | some first =>
    let run := Run.after first (fun _ => false) body
    Finding.failIf (!(sites ctx run).isEmpty) run.display
      "Interactive examples must be before first H2" "interactive-example-before-first-h2"

/-- The findings of example `div`s, each with the node before it. -/
def precedingFindings (ctx : Context) : Option Node → List Located → List Finding
  | _, [] => []
  | previous, l :: rest =>
    Finding.failIf (isExampleDiv ctx l.node && !previous.any (isPlainParagraph ctx)) l.node.display
        "Interactive example must be preceded by a P node" "interactive-example-preceded-by-p" ++
      precedingFindings ctx (some l.node) rest

/-- The finding of an invocation that no `div` holds. -/
def holderFindings (site : Site) : List Finding :=
  Finding.failIf (!site.container.any (·.node.isTag "div"))
    (site.container.getD site.invocation).node.display
    "Interactive example must be in a DIV" "interactive-example-inside-div"

/-- The finding of more than one example. -/
def severalFindings (ctx : Context) (run : Run) : List Finding :=
  Finding.failIf (decide (1 < (sites ctx run).length)) run.display
    "Only one interactive example may be included" "at-most-one-interactive-example"

/-- The findings of the first example of a run. -/
def firstFindings (ctx : Context) (run : Run) : List Finding :=
  match sites ctx run with
  | [] => []
  | site :: _ => holderFindings site ++ precedingFindings ctx none run.significant

theorem checkAfter_eq (body : Located) (report : Report) :
    checkAfter ctx body report = report.extend (afterFindings ctx body) := by
  cases hfirst : body.select? (·.isTag "h2") with
  | none => simp [checkAfter, afterFindings, hfirst]
  | some first => simp [checkAfter, afterFindings, hfirst, Report.failIf_eq_extend]

theorem checkPreceding_eq : ∀ (previous : Option Node) (ls : List Located) (report : Report),
    checkPreceding ctx previous ls report = report.extend (precedingFindings ctx previous ls)
  | _, [], report => by rw [checkPreceding, precedingFindings, Report.extend_nil]
  | previous, l :: rest, report => by
    rw [checkPreceding, checkPreceding_eq, Report.failIf_eq_extend, Report.extend_extend,
      precedingFindings]

theorem checkLead_eq (run : Run) (report : Report) :
    checkLead ctx run report =
      report.extend (severalFindings ctx run ++ firstFindings ctx run) := by
  cases hsites : sites ctx run with
  | nil => simp [checkLead, severalFindings, firstFindings, hsites, Report.failIf_eq_extend]
  | cons site rest =>
    simp [checkLead, severalFindings, firstFindings, hsites, checkPreceding_eq, checkHolder,
      holderFindings, Report.failIf_eq_extend]

/-! ## The lead section -/

/-- The nodes before the first `h2` among them. -/
def beforeHeading (tops : List Located) : List Located := tops.takeWhile fun l => !l.node.isTag "h2"

/-- What of the siblings the section of the first one reaches : all of them, unless the first
is a heading and a later one ends its section. -/
def reached : List Located → List Located
  | [] => []
  | first :: rest =>
    first :: rest.takeWhile fun l => !Run.endsSection first.node.headingRank? l.node

/-- What of the siblings the section of the first one does not reach. -/
def unreached : List Located → List Located
  | [] => []
  | first :: rest => rest.dropWhile fun l => !Run.endsSection first.node.headingRank? l.node

theorem reached_append_unreached (tops : List Located) : reached tops ++ unreached tops = tops := by
  cases tops with
  | nil => rfl
  | cons first rest => rw [reached, unreached, List.cons_append, List.takeWhile_append_dropWhile]

theorem bodyOf_of_isTag {tree : Located} (h : tree.node.isTag "body" = true) :
    bodyOf tree = tree := by
  rw [bodyOf, select?_eq_find?, preorder_eq, List.find?_cons, h, Option.getD_some]

theorem nodes_lead {first body : Located} {rest : List Located}
    (h : body.children = first :: rest) :
    (lead first body).nodes = reached (beforeHeading body.children) := by
  have hsplit : body.children = [] ++ first :: rest := h
  rw [lead, Run.ofSection_of_split (self_mem_preorder body) hsplit, h]
  by_cases hfirst : first.node.isTag "h2" = true
  · simp [Run.takeWhile, beforeHeading, reached, hfirst]
  · simp [Run.takeWhile, beforeHeading, reached, hfirst, List.takeWhile_takeWhile, and_comm]

/-- What is added for a tree : the findings after the first `h2` of its body, then those of the
lead section. -/
theorem exists_lead_check_eq (ctx : Context) (tree : Located) (report : Report) :
    ∃ run : Run, run.nodes = reached (beforeHeading (bodyOf tree).children) ∧
      check ctx tree report = (.checked, report.extend (afterFindings ctx (bodyOf tree) ++
        severalFindings ctx run ++ firstFindings ctx run)) := by
  rw [check]
  cases hchildren : (bodyOf tree).children with
  | nil =>
    refine ⟨.empty, rfl, ?_⟩
    simp [checkAfter_eq, severalFindings, firstFindings, sites, Run.empty, Finding.failIf]
  | cons first rest =>
    refine ⟨lead first (bodyOf tree), hchildren ▸ nodes_lead hchildren, ?_⟩
    simp [checkAfter_eq, checkLead_eq]

/-- A tree with the tag of a body is its own body. -/
theorem check_of_body {tree : Located} (hbody : tree.node.isTag "body" = true) (report : Report) :
    ∃ run : Run, run.nodes = reached (beforeHeading tree.children) ∧
      check ctx tree report = (.checked, report.extend
        (afterFindings ctx tree ++ severalFindings ctx run ++ firstFindings ctx run)) := by
  have hcheck := exists_lead_check_eq ctx tree report
  rwa [bodyOf_of_isTag hbody] at hcheck

/-! ## Codes -/

theorem code_of_mem_afterFindings {body : Located} {finding : Finding}
    (h : finding ∈ afterFindings ctx body) :
    finding.code = "interactive-example-before-first-h2" := by
  rw [afterFindings] at h
  split at h
  · simp at h
  · exact Finding.code_of_mem_failIf h

theorem code_of_mem_precedingFindings {finding : Finding} :
    ∀ {previous : Option Node} {ls : List Located}, finding ∈ precedingFindings ctx previous ls →
      finding.code = "interactive-example-preceded-by-p"
  | _, [], h => by simp [precedingFindings] at h
  | _, _ :: _, h => by
    rw [precedingFindings] at h
    rcases List.mem_append.mp h with h | h
    · exact Finding.code_of_mem_failIf h
    · exact code_of_mem_precedingFindings h

theorem code_of_mem_firstFindings {run : Run} {finding : Finding}
    (h : finding ∈ firstFindings ctx run) :
    finding.code = "interactive-example-inside-div" ∨
      finding.code = "interactive-example-preceded-by-p" := by
  rw [firstFindings] at h
  split at h
  · simp at h
  · rcases List.mem_append.mp h with h | h
    · exact Or.inl (Finding.code_of_mem_failIf h)
    · exact Or.inr (code_of_mem_precedingFindings h)

/-! ## More than one example -/

/-- The built-in classes of callouts and the built-in macro. -/
def builtinContext : Context := ⟨⟨Classifier.defaultClasses⟩, "EmbedInteractiveExample"⟩

/-- A text that embeds an example by the built-in macro. -/
def exampleText : Node := .text "\x7b\x7bEmbedInteractiveExample\x7d\x7d"

/-- More than one example is reported once when two or more are in the reached part of the
lead section. So the report speaks of the whole lead section exactly when the unreached part
does not tip the count. -/
theorem countOf_severalExamples {tree : Located} (hbody : tree.node.isTag "body" = true)
    (report : Report) :
    ∃ added, (check ctx tree report).2.findings = report.findings ++ added ∧
      Finding.countOf "at-most-one-interactive-example" added =
        (if 2 ≤ (examplesIn ctx (reached (beforeHeading tree.children))).length then 1 else 0) ∧
      (Finding.countOf "at-most-one-interactive-example" added =
          (if 2 ≤ (examplesIn ctx (beforeHeading tree.children)).length then 1 else 0) ↔
        (2 ≤ (examplesIn ctx (beforeHeading tree.children)).length →
          2 ≤ (examplesIn ctx (reached (beforeHeading tree.children))).length)) := by
  obtain ⟨run, hrun, hcheck⟩ := @check_of_body ctx tree hbody report
  refine ⟨_, by rw [hcheck, Report.findings_extend], ?_⟩
  have hafter : Finding.countOf "at-most-one-interactive-example" (afterFindings ctx tree) = 0 :=
    Finding.countOf_eq_zero fun finding h => by
      rw [code_of_mem_afterFindings h]
      decide
  have hfirst : Finding.countOf "at-most-one-interactive-example" (firstFindings ctx run) = 0 :=
    Finding.countOf_eq_zero fun finding h => by
      rcases code_of_mem_firstFindings h with h | h <;>
        · rw [h]
          decide
  have hseveral : Finding.countOf "at-most-one-interactive-example" (severalFindings ctx run) =
      if 2 ≤ (examplesIn ctx (reached (beforeHeading tree.children))).length then 1 else 0 := by
    rw [severalFindings, Finding.countOf_failIf, length_sites, hrun]
    simp [Nat.lt_iff_add_one_le]
  have hreached : (examplesIn ctx (reached (beforeHeading tree.children))).length ≤
      (examplesIn ctx (beforeHeading tree.children)).length := by
    conv_rhs => rw [← reached_append_unreached (beforeHeading tree.children), examplesIn_append]
    rw [List.length_append]
    omega
  rw [Finding.countOf_append, Finding.countOf_append, hafter, hfirst, hseveral]
  refine ⟨by omega, ?_⟩
  split <;> split <;> simp <;> omega

/-- A page with an example too many. -/
def twoExamplesPage : Node :=
  .branch "body" [.branch "p" [.text "Summary"], .branch "div" [exampleText],
    .branch "div" [exampleText], .heading 2 "Syntax"]

theorem severalExamples_twoExamplesPage :
    ∃ added, (check builtinContext (root twoExamplesPage 0) .empty).2.findings = added ∧
      Finding.countOf "at-most-one-interactive-example" added = 1 := by
  obtain ⟨added, hadded, hcount, -⟩ :=
    @countOf_severalExamples builtinContext (root twoExamplesPage 0) (by decide) .empty
  exact ⟨added, hadded, hcount.trans (by decide)⟩

/-- A page with two headings in front of its text. -/
def subtitledPage : Node :=
  .branch "body" [.heading 3 "First", .heading 3 "Second", .branch "p" [.text "Summary"],
    .branch "div" [exampleText], .branch "p" [.text "Remark"], .branch "div" [exampleText]]

/-- The second heading ends the section of the first, and neither example is counted. -/
theorem unreported_subtitledPage :
    (root subtitledPage 0).node.isTag "body" = true ∧
      2 ≤ (examplesIn builtinContext (beforeHeading (root subtitledPage 0).children)).length ∧
        (check builtinContext (root subtitledPage 0) .empty).2 = .empty :=
  ⟨by decide, by decide, by decide +kernel⟩

/-! ## Examples after a heading -/

/-- An example is embedded after a heading `h2` among the tops. -/
def ExampleAfterHeading (ctx : Context) (tops : List Located) : Prop :=
  ∃ before heading after, tops = before ++ heading :: after ∧
    heading.node.isTag "h2" = true ∧ examplesIn ctx after ≠ []

/-- An example is embedded in the later siblings of the tree's first `h2` in document order. -/
def ExampleAfterFirst (ctx : Context) (tree : Located) : Prop :=
  ∃ first parent before after, tree.IsFirst (fun node => node.isTag "h2" = true) first ∧
    parent ∈ tree.preorder ∧ parent.children = before ++ first :: after ∧
      examplesIn ctx after ≠ []

theorem sites_ne_nil_iff (run : Run) : sites ctx run ≠ [] ↔ examplesIn ctx run.nodes ≠ [] := by
  rw [← map_invocation_sites, Ne, Ne, List.map_eq_nil_iff]

theorem isFirst_h2_iff {tree first : Located} :
    tree.IsFirst (fun node => node.isTag "h2" = true) first ↔
      tree.select? (·.isTag "h2") = some first :=
  isFirst_iff fun _ => Iff.rfl

/-- There are findings after a heading exactly when an example follows the first `h2` of the
document among its own siblings. -/
theorem afterFindings_ne_nil_iff (tree : Located) :
    afterFindings ctx tree ≠ [] ↔ ExampleAfterFirst ctx tree := by
  constructor
  · intro h
    rw [afterFindings] at h
    split at h
    · exact absurd rfl h
    next first hfirst =>
      have hfirst := isFirst_h2_iff.mpr hfirst
      rw [Ne, Finding.failIf_eq_nil_iff, Bool.not_eq_false', List.isEmpty_iff] at h
      have hexamples := (sites_ne_nil_iff _).mp h
      rcases eq_or_exists_parent hfirst.mem_preorder with rfl | ⟨parent, hparent, hmem⟩
      · rw [Run.after, Run.siblingsFrom_self] at hexamples
        exact absurd rfl hexamples
      · obtain ⟨before, after, hsplit⟩ := List.append_of_mem hmem
        rw [Run.after_of_split_of_noStop hparent hsplit] at hexamples
        exact ⟨first, parent, before, after, hfirst, hparent, hsplit, hexamples⟩
  · rintro ⟨first, parent, before, after, hfirst, hparent, hsplit, hexamples⟩
    have hsites := (sites_ne_nil_iff ⟨after⟩).mpr hexamples
    rw [afterFindings, isFirst_h2_iff.mp hfirst]
    simpa [Run.after_of_split_of_noStop hparent hsplit, Finding.failIf_eq_nil_iff] using hsites

/-- An example after some `h2` among the tops stands after the first one. -/
theorem split_at_first_h2 : ∀ {tops : List Located}, ExampleAfterHeading ctx tops →
    ∃ first later, tops = beforeHeading tops ++ first :: later ∧
      first.node.isTag "h2" = true ∧ examplesIn ctx later ≠ []
  | [], ⟨before, heading, after, hsplit, _, _⟩ => by simp at hsplit
  | top :: rest, ⟨before, heading, after, hsplit, hheading, hexamples⟩ => by
    by_cases htop : top.node.isTag "h2" = true
    · refine ⟨top, rest, by simp [beforeHeading, htop], htop, ?_⟩
      cases before with
      | nil => exact (List.cons.inj hsplit).2 ▸ hexamples
      | cons _ before =>
        rw [List.cons_append] at hsplit
        rw [(List.cons.inj hsplit).2, examplesIn_append, examplesIn_cons]
        simp [hexamples]
    · cases before with
      | nil => exact absurd hheading ((List.cons.inj hsplit).1 ▸ htop)
      | cons _ before =>
        obtain ⟨first, later, hrest, hfirst, hlater⟩ := split_at_first_h2
          ⟨before, heading, after, (List.cons.inj hsplit).2, hheading, hexamples⟩
        refine ⟨first, later, ?_, hfirst, hlater⟩
        simpa [beforeHeading, htop] using hrest

/-- When no `h2` is nested in the tops before the first `h2` among them, that one is the first
of the document. -/
theorem exampleAfterFirst_of_noneNested {tree : Located}
    (hbody : tree.node.isTag "body" = true) (hafter : ExampleAfterHeading ctx tree.children)
    (hnone : ∀ l ∈ (beforeHeading tree.children).flatMap preorder, l.node.isTag "h2" = false) :
    ExampleAfterFirst ctx tree := by
  obtain ⟨first, later, hsplit, hfirst, hlater⟩ := split_at_first_h2 hafter
  refine ⟨first, tree, beforeHeading tree.children, later, ⟨tree ::
    (beforeHeading tree.children).flatMap preorder, first.children.flatMap preorder ++
      later.flatMap preorder, ?_, hfirst, ?_⟩, self_mem_preorder tree, hsplit, hlater⟩
  · conv_lhs => rw [preorder_eq, hsplit, List.flatMap_append, List.flatMap_cons, preorder_eq first]
    simp
  · intro l hl
    rcases List.mem_cons.mp hl with rfl | hl
    · simp [Node.isTag_eq_false_of_ne hbody]
    · simp [hnone l hl]

/-- An example in a top-level child after a top-level `h2` is reported exactly when no `h2`
is nested in front of the first top-level one, or else an example follows the nested one among
its own siblings. -/
theorem reportsAfter_iff {tree : Located} (hbody : tree.node.isTag "body" = true)
    (hafter : ExampleAfterHeading ctx tree.children) (report : Report) :
    ∃ added, (check ctx tree report).2.findings = report.findings ++ added ∧
      ((∃ finding ∈ added, finding.code = "interactive-example-before-first-h2") ↔
        (∀ l ∈ (beforeHeading tree.children).flatMap preorder, l.node.isTag "h2" = false) ∨
          ExampleAfterFirst ctx tree) := by
  obtain ⟨run, -, hcheck⟩ := @check_of_body ctx tree hbody report
  refine ⟨_, by rw [hcheck, Report.findings_extend], ?_⟩
  have hreported : (∃ finding ∈ afterFindings ctx tree ++ severalFindings ctx run ++
      firstFindings ctx run, finding.code = "interactive-example-before-first-h2") ↔
        afterFindings ctx tree ≠ [] := by
    constructor
    · rintro ⟨finding, hfinding, hcode⟩ hnil
      rw [hnil, List.nil_append, List.mem_append] at hfinding
      rcases hfinding with h | h
      · rw [Finding.code_of_mem_failIf h] at hcode
        exact absurd hcode (by decide)
      · rcases code_of_mem_firstFindings h with h | h <;>
          · rw [h] at hcode
            exact absurd hcode (by decide)
    · intro h
      obtain ⟨finding, hfinding⟩ := List.exists_mem_of_ne_nil _ h
      exact ⟨finding, by simp [hfinding], code_of_mem_afterFindings hfinding⟩
  rw [hreported, afterFindings_ne_nil_iff]
  exact ⟨Or.inr, fun h => h.elim (exampleAfterFirst_of_noneNested hbody hafter) id⟩

/-- A page with an example below its first heading. -/
def lateExamplePage : Node :=
  .branch "body" [.branch "p" [.text "Summary"], .heading 2 "Syntax", .branch "div" [exampleText]]

theorem reportsAfter_lateExamplePage :
    ∃ finding ∈ (check builtinContext (root lateExamplePage 0) .empty).2.findings,
      finding.code = "interactive-example-before-first-h2" := by
  have hafter : ExampleAfterHeading builtinContext (root lateExamplePage 0).children :=
    ⟨[(root lateExamplePage 0).children[0]], _, [(root lateExamplePage 0).children[2]], rfl,
      by decide, by decide⟩
  obtain ⟨added, hadded, hreported⟩ := reportsAfter_iff (by decide) hafter .empty
  rw [hadded]
  exact hreported.mpr (Or.inl (by decide))

/-- A page with a heading inside a quotation, and an example below the first heading of its
own. -/
def quotingPage : Node :=
  .branch "body" [.branch "blockquote" [.heading 2 "Inner"], .heading 2 "Syntax",
    .branch "p" [exampleText]]

/-- The quoted heading is the first of the document, and nothing follows it inside the
quotation. -/
theorem unreported_quotingPage :
    (root quotingPage 0).node.isTag "body" = true ∧
      ExampleAfterHeading builtinContext (root quotingPage 0).children ∧
        (check builtinContext (root quotingPage 0) .empty).2 = .empty :=
  ⟨by decide, ⟨[(root quotingPage 0).children[0]], _, [(root quotingPage 0).children[2]], rfl,
    by decide, by decide⟩, by decide +kernel⟩

/-! ## The one example -/

/-- The last of the nodes that is not a blank text is a plain paragraph. -/
def EndsWithParagraph (ctx : Context) (nodes : List Located) : Prop :=
  ∃ earlier paragraph blanks, nodes = earlier ++ paragraph :: blanks ∧
    paragraph.node.isTag "p" = true ∧ ctx.classifier.isAdmonition paragraph.node = false ∧
      ∀ l ∈ blanks, l.node.isBlankText = true

/-- The tops embed one example. It is the only child of a `div`, which is itself one of the
tops, and a plain paragraph precedes the `div`, blank texts aside. -/
def WellPlaced (ctx : Context) (tops : List Located) : Prop :=
  ∃ before div after invocation, tops = before ++ div :: after ∧ EndsWithParagraph ctx before ∧
    div.node.isTag "div" = true ∧ div.children = [invocation] ∧
      examplesIn ctx tops = [invocation]

theorem isExampleDiv_iff (l : Located) :
    isExampleDiv ctx l.node = true ↔ l.node.isTag "div" = true ∧
      ∃ invocation, l.children = [invocation] ∧ isExample ctx invocation.node = true := by
  rw [isExampleDiv, ← map_node_children, Bool.and_eq_true]
  rcases l.children with _ | ⟨child, _ | ⟨other, rest⟩⟩ <;> simp

theorem examplesIn_of_children {l invocation : Located} (hchild : l.children = [invocation])
    (h : isExample ctx invocation.node = true) : examplesIn ctx [l] = [invocation] := by
  have hnone : isExample ctx l.node = false :=
    isExample_eq_false_of_mem_children (hchild ▸ List.mem_singleton_self invocation)
  rw [examplesIn_cons, hchild, examplesIn_cons, children_eq_nil_of_isExample h]
  simp [hnone, h]

theorem precedingFindings_eq_nil_iff : ∀ (ls : List Located) (previous : Option Node),
    precedingFindings ctx previous ls = [] ↔ ∀ before l after, ls = before ++ l :: after →
      isExampleDiv ctx l.node = true →
        ((before.getLast?.map (·.node)).or previous).any (isPlainParagraph ctx) = true
  | [], _ => by simp [precedingFindings]
  | first :: rest, previous => by
    rw [precedingFindings, List.append_eq_nil_iff, Finding.failIf_eq_nil_iff,
      precedingFindings_eq_nil_iff rest]
    -- the node before a later one is the last of those in front of it, or else the first
    have hlast : ∀ before : List Located,
        ((before.getLast?.map (·.node)).or (some first.node)) =
          (((first :: before).getLast?.map (·.node)).or previous) := by
      intro before
      rw [List.getLast?_cons]
      cases before.getLast? <;> simp
    constructor
    · rintro ⟨hfirst, hrest⟩ before l after hsplit hdiv
      cases before with
      | nil =>
        obtain ⟨rfl, rfl⟩ := List.cons.inj hsplit
        simpa [hdiv] using hfirst
      | cons _ before =>
        rw [List.cons_append] at hsplit
        obtain ⟨rfl, htail⟩ := List.cons.inj hsplit
        rw [← hlast]
        exact hrest before l after htail hdiv
    · intro h
      refine ⟨?_, fun before l after hsplit hdiv => ?_⟩
      · cases hdiv : isExampleDiv ctx first.node with
        | false => rfl
        | true => simpa using h [] first rest rfl hdiv
      · rw [hlast]
        exact h (first :: before) l after (by rw [hsplit, List.cons_append]) hdiv

theorem endsWithParagraph_iff (nodes : List Located) :
    (((nodes.filter fun l => !l.node.isBlankText).getLast?.map (·.node)).or none).any
        (isPlainParagraph ctx) = true ↔ EndsWithParagraph ctx nodes := by
  rw [Option.or_none, List.getLast?_filter]
  constructor
  · intro h
    obtain ⟨node, hnode, hplain⟩ := (Option.any_eq_true _ _).mp h
    obtain ⟨paragraph, hfind, rfl⟩ := Option.map_eq_some_iff.mp hnode
    obtain ⟨-, blanks, earlier, hsplit, hblanks⟩ := List.find?_eq_some_iff_append.mp hfind
    rw [isPlainParagraph, Bool.and_eq_true, Bool.not_eq_true'] at hplain
    refine ⟨earlier.reverse, paragraph, blanks.reverse, ?_, hplain.1, hplain.2, ?_⟩
    · rw [List.reverse_eq_iff.mp hsplit]
      simp
    · intro l hl
      simpa using hblanks l (List.mem_reverse.mp hl)
  · rintro ⟨earlier, paragraph, blanks, rfl, htag, hplain, hblanks⟩
    have hfind : (earlier ++ paragraph :: blanks).reverse.find?
        (fun l => !l.node.isBlankText) = some paragraph := by
      refine List.find?_eq_some_iff_append.mpr ⟨by simp [Node.isBlankText_of_isTag htag],
        blanks.reverse, earlier.reverse, by simp, fun l hl => ?_⟩
      simp [hblanks l (List.mem_reverse.mp hl)]
    rw [hfind]
    simp [isPlainParagraph, htag, hplain]

/-- The scan of a run finds nothing when every example `div` among its tops follows a plain
paragraph. -/
theorem precedingFindings_significant_eq_nil_iff (run : Run) :
    precedingFindings ctx none run.significant = [] ↔
      ∀ before top after, run.nodes = before ++ top :: after →
        isExampleDiv ctx top.node = true → EndsWithParagraph ctx before := by
  rw [precedingFindings_eq_nil_iff, Run.significant, Run.forall_split_filter_iff]
  simp only [endsWithParagraph_iff]
  constructor
  · intro h before top after hsplit hdiv
    have hsolid := Node.isBlankText_of_isTag ((isExampleDiv_iff top).mp hdiv).1
    exact h before top after hsplit (by simp [hsolid]) hdiv
  · intro h before top after hsplit _ hdiv
    exact h before top after hsplit hdiv

theorem EndsWithParagraph.prepend {nodes : List Located} (front : List Located)
    (h : EndsWithParagraph ctx nodes) : EndsWithParagraph ctx (front ++ nodes) := by
  obtain ⟨earlier, paragraph, blanks, rfl, hparagraph⟩ := h
  exact ⟨front ++ earlier, paragraph, blanks, by simp, hparagraph⟩

/-- A heading is no blank text, so the paragraph stands after it. -/
theorem EndsWithParagraph.of_heading {front nodes : List Located} {heading : Located}
    (hheading : heading.node.isHeading = true)
    (h : EndsWithParagraph ctx (front ++ heading :: nodes)) :
    EndsWithParagraph ctx (heading :: nodes) := by
  obtain ⟨earlier, paragraph, blanks, hsplit, htag, hplain, hblanks⟩ := h
  rcases List.append_eq_append_iff.mp hsplit with ⟨mid, -, hmid⟩ | ⟨mid, -, hmid⟩
  · exact ⟨mid, paragraph, blanks, hmid, htag, hplain, hblanks⟩
  · cases mid with
    | nil => exact ⟨[], paragraph, blanks, hmid.symm, htag, hplain, hblanks⟩
    | cons _ mid =>
      rw [List.cons_append] at hmid
      have hmem : heading ∈ blanks := by
        rw [(List.cons.inj hmid).2]
        simp
      simp [Node.isHeading_of_isBlankText (hblanks heading hmem)] at hheading

/-! ## Cutting the lead section -/

theorem isHeading_of_mem_head?_unreached {tops : List Located} {l : Located}
    (h : l ∈ (unreached tops).head?) : l.node.isHeading = true := by
  cases tops with
  | nil => simp [unreached] at h
  | cons first rest => exact Run.isHeading_of_endsSection (Run.stop_of_mem_head?_dropWhile h)

/-- Around a node that embeds the one example, none is embedded. -/
theorem length_examplesIn_around {before after : List Located} {top invocation : Located}
    (hown : examplesIn ctx [top] = [invocation]) :
    (examplesIn ctx (before ++ top :: after)).length ≤ 1 ↔
      examplesIn ctx before = [] ∧ examplesIn ctx after = [] := by
  rw [List.append_cons, examplesIn_append, examplesIn_append, hown, List.length_append,
    List.length_append, List.length_singleton, ← List.length_eq_zero_iff,
    ← List.length_eq_zero_iff]
  omega

theorem examplesIn_around {before after : List Located} {top invocation : Located}
    (hown : examplesIn ctx [top] = [invocation]) :
    examplesIn ctx (before ++ top :: after) = [invocation] ↔
      examplesIn ctx before = [] ∧ examplesIn ctx after = [] := by
  constructor
  · intro h
    exact (length_examplesIn_around hown).mp (by rw [h, List.length_singleton])
  · rintro ⟨hbefore, hafter⟩
    rw [List.append_cons, examplesIn_append, examplesIn_append, hown, hbefore, hafter]
    rfl

theorem WellPlaced.append {tops back : List Located} (h : WellPlaced ctx tops)
    (hnone : examplesIn ctx back = []) : WellPlaced ctx (tops ++ back) := by
  obtain ⟨before, div, after, invocation, rfl, hparagraph, hdiv, hchild, hone⟩ := h
  refine ⟨before, div, after ++ back, invocation, by simp, hparagraph, hdiv, hchild, ?_⟩
  rw [examplesIn_append, hone, hnone, List.append_nil]

theorem WellPlaced.prepend {front tops : List Located} (h : WellPlaced ctx tops)
    (hnone : examplesIn ctx front = []) : WellPlaced ctx (front ++ tops) := by
  obtain ⟨before, div, after, invocation, rfl, hparagraph, hdiv, hchild, hone⟩ := h
  refine ⟨front ++ before, div, after, invocation, by simp, hparagraph.prepend front, hdiv,
    hchild, ?_⟩
  rw [examplesIn_append, hone, hnone, List.nil_append]

/-- An example `div` does not stand astride a heading : the tops in front of a heading and
those from it on are well placed together when one part is and the other embeds no example. -/
theorem wellPlaced_append_iff {front back : List Located}
    (hheading : ∀ l ∈ back.head?, l.node.isHeading = true) :
    WellPlaced ctx (front ++ back) ↔
      (examplesIn ctx back = [] ∧ WellPlaced ctx front) ∨
        (examplesIn ctx front = [] ∧ WellPlaced ctx back) := by
  constructor
  · rintro ⟨before, div, after, invocation, hsplit, hparagraph, hdiv, hchild, hone⟩
    have hexample : isExample ctx invocation.node = true :=
      isExample_of_mem_examplesIn (hone ▸ List.mem_singleton_self invocation)
    have hown := examplesIn_of_children hchild hexample
    have hnotHead : ∀ rest, back ≠ div :: rest := by
      rintro rest rfl
      have := hheading div (by simp)
      simp [Node.isHeading_of_isTag_div hdiv] at this
    rw [hsplit, examplesIn_around hown] at hone
    obtain ⟨hbefore, hafter⟩ := hone
    rcases List.append_eq_append_iff.mp hsplit with ⟨mid, rfl, hback⟩ | ⟨mid, rfl, htail⟩
    · right
      rw [examplesIn_append, List.append_eq_nil_iff] at hbefore
      cases mid with
      | nil => exact absurd hback (hnotHead after)
      | cons heading mid =>
        refine ⟨hbefore.1, heading :: mid, div, after, invocation, hback, ?_, hdiv, hchild, ?_⟩
        · exact hparagraph.of_heading (hheading heading (by simp [hback]))
        · rw [hback, examplesIn_around hown]
          exact ⟨hbefore.2, hafter⟩
    · left
      cases mid with
      | nil => exact absurd htail.symm (hnotHead after)
      | cons _ mid =>
        rw [List.cons_append] at htail
        obtain ⟨rfl, rfl⟩ := List.cons.inj htail
        rw [examplesIn_append, List.append_eq_nil_iff] at hafter
        refine ⟨hafter.2, before, div, mid, invocation, rfl, hparagraph, hdiv, hchild, ?_⟩
        rw [examplesIn_around hown]
        exact ⟨hbefore, hafter.1⟩
  · rintro (⟨hnone, h⟩ | ⟨hnone, h⟩)
    · exact h.append hnone
    · exact h.prepend hnone

/-- When the lead section gives no finding, the rule comes down to the shape that the scan
for the preceding paragraph knows. -/
theorem wellPlaced_iff_of_noFindings {run : Run} (hseveral : severalFindings ctx run = [])
    (hfirst : firstFindings ctx run = []) :
    WellPlaced ctx run.nodes ↔ ∃ top ∈ run.nodes, isExampleDiv ctx top.node = true := by
  constructor
  · rintro ⟨before, div, after, invocation, hsplit, -, hdiv, hchild, hone⟩
    have hexample : isExample ctx invocation.node = true :=
      isExample_of_mem_examplesIn (hone ▸ List.mem_singleton_self invocation)
    exact ⟨div, by simp [hsplit], (isExampleDiv_iff div).mpr ⟨hdiv, invocation, hchild, hexample⟩⟩
  · rintro ⟨top, htop, hshape⟩
    obtain ⟨hdiv, invocation, hchild, hexample⟩ := (isExampleDiv_iff top).mp hshape
    obtain ⟨before, after, hsplit⟩ := List.append_of_mem htop
    have hown := examplesIn_of_children hchild hexample
    have hone : examplesIn ctx run.nodes = [invocation] := by
      rw [severalFindings, Finding.failIf_eq_nil_iff, decide_eq_false_iff_not, Nat.not_lt,
        length_sites, hsplit, length_examplesIn_around hown] at hseveral
      rw [hsplit, examplesIn_around hown]
      exact hseveral
    have hpreceding : precedingFindings ctx none run.significant = [] := by
      cases hsites : sites ctx run with
      | nil => exact absurd hsites ((sites_ne_nil_iff run).mpr (by simp [hone]))
      | cons site rest =>
        rw [firstFindings, hsites, List.append_eq_nil_iff] at hfirst
        exact hfirst.2
    have hparagraph :=
      (precedingFindings_significant_eq_nil_iff run).mp hpreceding before top after hsplit hshape
    exact ⟨before, top, after, invocation, hsplit, hparagraph, hdiv, hchild, hone⟩

/-- After a silent check the lead section embeds its example by the rule exactly in two
cases : everything is in the reached part and one of its tops is a `div` with the example as
its only child, or everything is in the unreached part, which the check does not look at, and
obeys the rule by itself. -/
theorem wellPlaced_iff_of_silent {tree : Located} (hbody : tree.node.isTag "body" = true)
    (report : Report) (hsilent : (check ctx tree report).2.findings = report.findings) :
    WellPlaced ctx (beforeHeading tree.children) ↔
      (examplesIn ctx (unreached (beforeHeading tree.children)) = [] ∧
          ∃ top ∈ reached (beforeHeading tree.children), isExampleDiv ctx top.node = true) ∨
        (examplesIn ctx (reached (beforeHeading tree.children)) = [] ∧
          WellPlaced ctx (unreached (beforeHeading tree.children))) := by
  obtain ⟨run, hrun, hcheck⟩ := @check_of_body ctx tree hbody report
  rw [hcheck, Report.findings_extend, List.append_right_eq_self, List.append_eq_nil_iff,
    List.append_eq_nil_iff] at hsilent
  obtain ⟨⟨-, hseveral⟩, hfirst⟩ := hsilent
  conv_lhs => rw [← reached_append_unreached (beforeHeading tree.children)]
  rw [wellPlaced_append_iff fun _ => isHeading_of_mem_head?_unreached, ← hrun,
    wellPlaced_iff_of_noFindings hseveral hfirst]

/-- A page that keeps to the rule. -/
def summaryPage : Node :=
  .branch "body" [.branch "p" [.text "Summary"], .text " ", .branch "div" [exampleText],
    .heading 2 "Syntax"]

theorem wellPlaced_summaryPage :
    (check builtinContext (root summaryPage 0) .empty).2 = .empty ∧
      WellPlaced builtinContext (beforeHeading (root summaryPage 0).children) := by
  have hsilent : (check builtinContext (root summaryPage 0) .empty).2 = .empty := by decide +kernel
  have hreached : (root summaryPage 0).children[2] ∈
      reached (beforeHeading (root summaryPage 0).children) :=
    List.mem_of_getElem? (rfl : (reached _)[2]? = _)
  exact ⟨hsilent, (wellPlaced_iff_of_silent (by decide) .empty (by rw [hsilent])).mpr
    (Or.inl ⟨rfl, _, hreached, by decide⟩)⟩

/-- A page whose `div` holds more than its example. -/
def crowdedPage : Node :=
  .branch "body" [.branch "div" [exampleText, .branch "p" [.text "Caption"]]]

/-- A `div` holds the example, which satisfies the one check, and the scan of the other does
not know it. -/
theorem silent_crowdedPage :
    (root crowdedPage 0).node.isTag "body" = true ∧
      examplesIn builtinContext (beforeHeading (root crowdedPage 0).children) ≠ [] ∧
        (check builtinContext (root crowdedPage 0) .empty).2 = .empty ∧
          ¬ WellPlaced builtinContext (beforeHeading (root crowdedPage 0).children) := by
  refine ⟨by decide, by decide, by decide +kernel, ?_⟩
  rintro ⟨before, div, after, invocation, hsplit, -, -, hchild, -⟩
  have hone : beforeHeading (root crowdedPage 0).children = [(root crowdedPage 0).children[0]] :=
    rfl
  rw [hone, List.singleton_eq_append_iff] at hsplit
  rcases hsplit with ⟨-, hdiv⟩ | ⟨-, hdiv⟩
  · rw [(List.cons.inj hdiv).1] at hchild
    have hlength : (root crowdedPage 0).children[0].children.length = 1 :=
      congrArg List.length hchild
    exact absurd hlength (by decide)
  · exact absurd hdiv (List.cons_ne_nil _ _)

end PageRecipe.InteractiveExample

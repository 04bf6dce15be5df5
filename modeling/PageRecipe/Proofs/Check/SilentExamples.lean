import PageRecipe.Proofs.Check.ExamplePlacement

/-!
# No finding for a page that keeps to the rule

A page keeps to the rule on examples when it embeds none, or one that is well placed in its lead
section (`KeepsToRule`). Then `InteractiveExample.check` finds nothing (`check_of_keepsToRule`),
although its checks look at other parts of the page than the rule does.

* The lead section that is checked may end before the example, and then no example is found in
  it ; otherwise the one site of it is the `div`, which follows a paragraph there as well
  (`noFindings_of_wellPlaced`).
* The first `h2` of the document may be nested in front of the example, but the example is not
  among its later siblings : the `div` has one child, and the tops of the page embed no other
  example (`not_exampleAfterFirst_of_wellPlaced`).

The converse fails, as `wellPlaced_iff_of_silent` shows.
-/

namespace PageRecipe.InteractiveExample

open Located

variable {ctx : Context}

/-- The page embeds no example, or one that is alone in a `div` among the tops before the first
`h2` and follows a plain paragraph. -/
def KeepsToRule (ctx : Context) (body : Located) : Prop :=
  examplesIn ctx body.children = [] ∨
    (examplesIn ctx body.children).length = 1 ∧ WellPlaced ctx (beforeHeading body.children)

/-! ## One example among tops -/

theorem examplesIn_ne_nil_of_mem {top : Located} {tops : List Located} (h : top ∈ tops)
    (htop : examplesIn ctx [top] ≠ []) : examplesIn ctx tops ≠ [] := by
  have hsubset : examplesIn ctx [top] ⊆ examplesIn ctx tops :=
    examplesIn_subset fun l hl => ⟨l, List.mem_singleton.mp hl ▸ h, self_mem_preorder l⟩
  intro hnil
  exact htop (List.subset_nil.mp (hnil ▸ hsubset))

/-- Where one example is embedded, one top embeds it. -/
theorem eq_of_embeds {tops : List Located} {a b : Located}
    (hone : (examplesIn ctx tops).length ≤ 1) (ha : a ∈ tops) (hb : b ∈ tops)
    (hea : examplesIn ctx [a] ≠ []) (heb : examplesIn ctx [b] ≠ []) : a = b := by
  obtain ⟨before, after, rfl⟩ := List.append_of_mem ha
  rw [List.append_cons, examplesIn_append, examplesIn_append, List.length_append,
    List.length_append] at hone
  have hown := List.length_pos_iff.mpr hea
  rcases List.mem_append.mp hb with hb | hb
  · have hbefore := List.length_pos_iff.mpr (examplesIn_ne_nil_of_mem hb heb)
    omega
  · rcases List.mem_cons.mp hb with rfl | hb
    · rfl
    · have hafter := List.length_pos_iff.mpr (examplesIn_ne_nil_of_mem hb heb)
      omega

/-- The top that embeds the first example stands at one position. -/
theorem eq_of_split_of_embeds {div top : Located} {before after front back : List Located}
    (h : before ++ div :: after = front ++ top :: back)
    (hbefore : examplesIn ctx before = []) (hfront : examplesIn ctx front = [])
    (hdiv : examplesIn ctx [div] ≠ []) (htop : examplesIn ctx [top] ≠ []) : before = front := by
  rcases List.append_eq_append_iff.mp h with ⟨mid, rfl, hmid⟩ | ⟨mid, rfl, hmid⟩
  · cases mid with
    | nil => rw [List.append_nil]
    | cons l mid =>
      obtain ⟨rfl, -⟩ := List.cons.inj hmid
      exact absurd hfront (examplesIn_ne_nil_of_mem (by simp) hdiv)
  · cases mid with
    | nil => rw [List.append_nil]
    | cons l mid =>
      obtain ⟨rfl, -⟩ := List.cons.inj hmid
      exact absurd hbefore (examplesIn_ne_nil_of_mem (by simp) htop)

/-! ## The lead section -/

/-- The one site of a `div` whose only child is an example is held by the `div`. -/
theorem sitesOfTop_of_children {l invocation : Located} (hchild : l.children = [invocation])
    (h : isExample ctx invocation.node = true) :
    sitesOfTop ctx l = [⟨some l, invocation⟩] := by
  have hnone : isExample ctx l.node = false :=
    isExample_eq_false_of_mem_children (hchild ▸ List.mem_singleton_self invocation)
  rw [sitesOfTop, sitesBelow_eq_flatMap, hchild, List.flatMap_singleton, sitesAt,
    sitesBelow_eq_flatMap, children_eq_nil_of_isExample h]
  simp [hnone, h]

theorem sites_of_noExample {run : Run} (h : examplesIn ctx run.nodes = []) :
    sites ctx run = [] := by
  by_contra hsome
  exact (sites_ne_nil_iff run).mp hsome h

/-- The one site of tops is that of the `div` which embeds the one example. -/
theorem sites_of_split {run : Run} {before after : List Located} {div invocation : Located}
    (hsplit : run.nodes = before ++ div :: after) (hchild : div.children = [invocation])
    (h : isExample ctx invocation.node = true) (hbefore : examplesIn ctx before = [])
    (hafter : examplesIn ctx after = []) : sites ctx run = [⟨some div, invocation⟩] := by
  have hfront : sites ctx ⟨before⟩ = [] := sites_of_noExample hbefore
  have hback : sites ctx ⟨after⟩ = [] := sites_of_noExample hafter
  rw [sites] at hfront hback
  rw [sites, hsplit, List.flatMap_append, List.flatMap_cons, hfront, hback,
    sitesOfTop_of_children hchild h, List.nil_append, List.append_nil]

/-- The scan for the preceding paragraph comes to one example `div`, the one that a paragraph
precedes. -/
theorem precedingFindings_of_split {run : Run} {before after : List Located}
    {div invocation : Located} (hsplit : run.nodes = before ++ div :: after)
    (hchild : div.children = [invocation]) (hone : examplesIn ctx run.nodes = [invocation])
    (hparagraph : EndsWithParagraph ctx before) :
    precedingFindings ctx none run.significant = [] := by
  have hexample : isExample ctx invocation.node = true :=
    isExample_of_mem_examplesIn (hone ▸ List.mem_singleton_self invocation)
  have hown := examplesIn_of_children hchild hexample
  have hbefore : examplesIn ctx before = [] := ((examplesIn_around hown).mp (hsplit ▸ hone)).1
  rw [precedingFindings_significant_eq_nil_iff]
  intro front top back hsplit' hshape
  obtain ⟨-, other, hother, hisExample⟩ := (isExampleDiv_iff top).mp hshape
  have htop := examplesIn_of_children hother hisExample
  have hfront : examplesIn ctx front = [] := by
    have hlength : (examplesIn ctx (front ++ top :: back)).length ≤ 1 := by
      rw [← hsplit', hone, List.length_singleton]
    exact ((length_examplesIn_around htop).mp hlength).1
  have hsame : before = front :=
    eq_of_split_of_embeds (hsplit ▸ hsplit') hbefore hfront (by simp [hown]) (by simp [htop])
  exact hsame ▸ hparagraph

theorem noFindings_of_noExample {run : Run} (h : examplesIn ctx run.nodes = []) :
    severalFindings ctx run = [] ∧ firstFindings ctx run = [] := by
  simp [severalFindings, firstFindings, sites_of_noExample h, Finding.failIf]

/-- Where the example is well placed among the tops of a run, nothing is found in the run. -/
theorem noFindings_of_wellPlaced {run : Run} (h : WellPlaced ctx run.nodes) :
    severalFindings ctx run = [] ∧ firstFindings ctx run = [] := by
  obtain ⟨before, div, after, invocation, hsplit, hparagraph, hdiv, hchild, hone⟩ := h
  have hexample : isExample ctx invocation.node = true :=
    isExample_of_mem_examplesIn (hone ▸ List.mem_singleton_self invocation)
  have haround : examplesIn ctx before = [] ∧ examplesIn ctx after = [] :=
    (examplesIn_around (examplesIn_of_children hchild hexample)).mp (hsplit ▸ hone)
  have hsites := sites_of_split hsplit hchild hexample haround.1 haround.2
  have hpreceding := precedingFindings_of_split hsplit hchild hone hparagraph
  simp [severalFindings, firstFindings, holderFindings, hsites, hpreceding, hdiv,
    Finding.failIf]

/-! ## The siblings of the first heading -/

/-- A child of a node of the tree is at or below a top of the tree. -/
theorem exists_top_of_mem_children {tree parent l : Located} (hparent : parent ∈ tree.preorder)
    (h : l ∈ parent.children) : ∃ top ∈ tree.children, l ∈ top.preorder := by
  rw [preorder_eq] at hparent
  rcases List.mem_cons.mp hparent with rfl | hparent
  · exact ⟨l, h, self_mem_preorder l⟩
  · obtain ⟨top, htop, hbelow⟩ := List.mem_flatMap.mp hparent
    exact ⟨top, htop,
      mem_preorder_trans (child_mem_preorder h) hbelow⟩

theorem mem_of_mem_beforeHeading {tops : List Located} {l : Located} (h : l ∈ beforeHeading tops) :
    l ∈ tops :=
  (List.takeWhile_prefix _).subset h

theorem not_exampleAfterFirst_of_noExample {tree : Located}
    (h : examplesIn ctx tree.children = []) : ¬ ExampleAfterFirst ctx tree := by
  rintro ⟨first, parent, before, after, -, hparent, hsplit, hexamples⟩
  have hsubset : examplesIn ctx after ⊆ examplesIn ctx tree.children :=
    examplesIn_subset fun l hl => exists_top_of_mem_children hparent (by simp [hsplit, hl])
  rw [h] at hsubset
  exact hexamples (List.subset_nil.mp hsubset)

theorem beforeHeading_append {before after : List Located} {heading : Located}
    (h : heading.node.isTag "h2" = true) :
    beforeHeading (before ++ heading :: after) = beforeHeading before := by
  induction before with
  | nil => simp [beforeHeading, h]
  | cons top rest ih =>
    simp only [beforeHeading, List.cons_append, List.takeWhile_cons] at ih ⊢
    rw [ih]

/-- Below a `div` whose only child is an example no node has two children. -/
theorem length_children_le_of_mem_preorder {div invocation parent : Located}
    (hchild : div.children = [invocation]) (h : isExample ctx invocation.node = true)
    (hparent : parent ∈ div.preorder) : parent.children.length ≤ 1 := by
  have hbelow := children_eq_nil_of_isExample h
  rw [preorder_eq, hchild, List.flatMap_singleton, preorder_eq invocation, hbelow,
    List.flatMap_nil] at hparent
  rcases List.mem_cons.mp hparent with rfl | hparent
  · rw [hchild, List.length_singleton]
  · rw [List.mem_singleton.mp hparent, hbelow]
    exact Nat.zero_le 1

/-- The one example of a page, well placed, does not follow the first `h2` of the document among
its siblings. -/
theorem not_exampleAfterFirst_of_wellPlaced {tree : Located}
    (hone : (examplesIn ctx tree.children).length = 1)
    (h : WellPlaced ctx (beforeHeading tree.children)) : ¬ ExampleAfterFirst ctx tree := by
  rintro ⟨first, parent, before, after, hfirst, hparent, hsplit, hexamples⟩
  obtain ⟨front, div, back, invocation, hlead, -, -, hchild, hleadOne⟩ := h
  have hexample : isExample ctx invocation.node = true :=
    isExample_of_mem_examplesIn (hleadOne ▸ List.mem_singleton_self invocation)
  have hembeds : examplesIn ctx [div] ≠ [] := by
    simp [examplesIn_of_children hchild hexample]
  have hdivLead : div ∈ beforeHeading tree.children := by simp [hlead]
  have hdiv : div ∈ tree.children := mem_of_mem_beforeHeading hdivLead
  rw [preorder_eq] at hparent
  rcases List.mem_cons.mp hparent with rfl | hparent
  · -- the first `h2` is a top : the example stands in front of it and another one behind
    have hheading : first.node.isTag "h2" = true := hfirst.choose_spec.choose_spec.2.1
    rw [hsplit, beforeHeading_append hheading] at hdivLead
    have hbefore : examplesIn ctx before ≠ [] :=
      examplesIn_ne_nil_of_mem (mem_of_mem_beforeHeading hdivLead) hembeds
    have hfrontOne := List.length_pos_iff.mpr hbefore
    have hbackOne := List.length_pos_iff.mpr hexamples
    rw [hsplit, List.append_cons, examplesIn_append, examplesIn_append, List.length_append,
      List.length_append] at hone
    omega
  · -- the first `h2` is below a top, which embeds the example and so is the `div`
    obtain ⟨top, htop, hbelow⟩ := List.mem_flatMap.mp hparent
    have hsubset : examplesIn ctx after ⊆ examplesIn ctx [top] :=
      examplesIn_subset fun l hl => ⟨top, List.mem_singleton_self top,
        mem_preorder_trans (child_mem_preorder (by simp [hsplit, hl])) hbelow⟩
    have htopEmbeds : examplesIn ctx [top] ≠ [] := by
      intro hnil
      exact hexamples (List.subset_nil.mp (hnil ▸ hsubset))
    have hsame : top = div := eq_of_embeds hone.le htop hdiv htopEmbeds hembeds
    have hfew := length_children_le_of_mem_preorder hchild hexample (hsame ▸ hbelow)
    rw [hsplit, List.length_append, List.length_cons] at hfew
    have hnone : after = [] := List.length_eq_zero_iff.mp (by omega)
    exact hexamples (by rw [hnone, examplesIn_nil])

/-! ## The check -/

/-- A page that keeps to the rule is checked and nothing is reported, whatever headings, lists and
blank texts stand around its example. -/
theorem check_of_keepsToRule {tree : Located} (hbody : tree.node.isTag "body" = true)
    (h : KeepsToRule ctx tree) (report : Report) : check ctx tree report = (.checked, report) := by
  obtain ⟨run, hrun, hcheck⟩ := @check_of_body ctx tree hbody report
  have hafter : afterFindings ctx tree = [] := by
    by_contra hfindings
    have hexample := (afterFindings_ne_nil_iff tree).mp hfindings
    rcases h with hnone | ⟨hone, hplaced⟩
    · exact not_exampleAfterFirst_of_noExample hnone hexample
    · exact not_exampleAfterFirst_of_wellPlaced hone hplaced hexample
  have hlead : severalFindings ctx run = [] ∧ firstFindings ctx run = [] := by
    rcases h with hnone | ⟨-, hplaced⟩
    · refine noFindings_of_noExample (List.subset_nil.mp ?_)
      rw [← hnone, hrun]
      refine examplesIn_subset fun l hl => ⟨l, mem_of_mem_beforeHeading ?_, self_mem_preorder l⟩
      rw [← reached_append_unreached (beforeHeading tree.children)]
      exact List.mem_append_left _ hl
    · rw [← reached_append_unreached (beforeHeading tree.children), wellPlaced_append_iff
        fun _ => isHeading_of_mem_head?_unreached, ← hrun] at hplaced
      rcases hplaced with ⟨-, hplaced⟩ | ⟨hnone, -⟩
      · exact noFindings_of_wellPlaced hplaced
      · exact noFindings_of_noExample hnone
  rw [hcheck, hafter, hlead.1, hlead.2]
  simp

/-- A page with headings of all kinds around its example. -/
def headingsPage : Node :=
  .branch "body" [.branch "blockquote" [.heading 2 "Quoted", .branch "p" []], .heading 3 "Intro",
    .branch "p" [.text "Summary"], .text "\n", .branch "div" [exampleText],
    .branch "ul" [.branch "li" [.heading 2 "Nested"]], .heading 2 "Syntax", .branch "p" []]

theorem check_headingsPage :
    KeepsToRule builtinContext (root headingsPage 0) ∧
      check builtinContext (root headingsPage 0) .empty = (.checked, .empty) := by
  have hkeeps : KeepsToRule builtinContext (root headingsPage 0) := by
    refine Or.inr ⟨by decide, (root headingsPage 0).children.take 4,
      (root headingsPage 0).children[4], [(root headingsPage 0).children[5]], _, rfl, ?_,
      by decide, rfl, rfl⟩
    exact ⟨(root headingsPage 0).children.take 2, (root headingsPage 0).children[2],
      [(root headingsPage 0).children[3]], rfl, by decide, by decide, by decide⟩
  exact ⟨hkeeps, check_of_keepsToRule (by decide) hkeeps .empty⟩

end PageRecipe.InteractiveExample

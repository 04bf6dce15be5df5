import PageRecipe.Proofs.Check.BlankSpacing

/-!
# The constructor section is all that is looked at

`Constructor.check` finds its heading in the whole tree, and so does the link-list check that it
calls. Nothing of the tree but the section of that heading has a part in what comes out : two
trees whose constructor sections hold the same nodes get the same findings and are both valid or
both invalid (`check_of_sameSection`).

The findings are computed from located nodes, and places differ from tree to tree. Equal nodes at
other places (`Located.Alike`) are equal up to blank texts in no child list at all, so
`sectionFindings_eq_of_respaced` says that their findings are the same.
-/

namespace PageRecipe.Constructor

open Located (Alike alike_iff_forall₂ Respaced)

/-- Sections with the same nodes have the same findings. -/
theorem sectionFindings_eq_of_alike {a b : Run} (h : Alike a.nodes b.nodes) :
    sectionFindings a = sectionFindings b := by
  have hnodes := alike_iff_forall₂.mp h
  have hdisplay : a.display = b.display := by
    obtain ⟨xs⟩ := a
    obtain ⟨ys⟩ := b
    cases hnodes with
    | nil => rfl
    | cons hfirst _ => simp only [Run.display, hfirst]
  have hrespaced : List.Forall₂ (Respaced TakesBlanks) a.nodes b.nodes :=
    hnodes.imp fun _ _ hnode => .of_node_eq hnode
  exact sectionFindings_eq_of_respaced hdisplay (.of_forall₂ hrespaced)

/-- Two trees whose first constructor headings own the same nodes are checked alike : the same
findings are added to each report, and both are valid, each at its own heading, or both are
invalid. -/
theorem check_of_sameSection {tree₁ tree₂ heading₁ heading₂ : Located}
    {nodes₁ nodes₂ : List Located} (hfirst₁ : tree₁.IsFirst IsSectionHeading heading₁)
    (hfirst₂ : tree₂.IsFirst IsSectionHeading heading₂)
    (hsection₁ : Run.IsSection tree₁ heading₁ nodes₁)
    (hsection₂ : Run.IsSection tree₂ heading₂ nodes₂)
    (hsame : nodes₁.map (·.node) = nodes₂.map (·.node)) (ctx₁ ctx₂ : Context) :
    ∃ added, ∀ report₁ report₂,
      (check ctx₁ tree₁ report₁).2.findings = report₁.findings ++ added ∧
      (check ctx₂ tree₂ report₂).2.findings = report₂.findings ++ added ∧
      ((check ctx₁ tree₁ report₁).1 = .valid heading₁ ∧
          (check ctx₂ tree₂ report₂).1 = .valid heading₂ ∨
        (check ctx₁ tree₁ report₁).1 = .invalid ∧ (check ctx₂ tree₂ report₂).1 = .invalid) := by
  have hnodes₁ := (Run.isSection_iff hfirst₁.mem_preorder).mp hsection₁
  have hnodes₂ := (Run.isSection_iff hfirst₂.mem_preorder).mp hsection₂
  have hfindings : sectionFindings (Run.ofSection heading₁ tree₁) =
      sectionFindings (Run.ofSection heading₂ tree₂) :=
    sectionFindings_eq_of_alike (by rw [hnodes₁, hnodes₂]; exact hsame)
  refine ⟨sectionFindings (Run.ofSection heading₁ tree₁), fun report₁ report₂ => ?_⟩
  rw [check_of_heading report₁ ((Located.isFirst_iff isMatch_iff).mp hfirst₁),
    check_of_heading report₂ ((Located.isFirst_iff isMatch_iff).mp hfirst₂), ← hfindings]
  refine ⟨rfl, rfl, ?_⟩
  cases (sectionFindings (Run.ofSection heading₁ tree₁)).isEmpty with
  | true => exact .inl ⟨rfl, rfl⟩
  | false => exact .inr ⟨rfl, rfl⟩

/-- A constructor heading and a list whose term is not linked. -/
def unlinkedSection : List Node :=
  [.element "h2" (some "Constructor") [] [.text "Constructor"],
    .branch "dl" [
      .branch "dt" [.text "Foo()"],
      .branch "dd" [.text "Makes a ", .branch "code" [.text "Foo"], .text " object."]]]

/-- A page that is nothing but the section. -/
def loneSection : Node := .branch "body" unlinkedSection

/-- A page that quotes the section, with another list before it and another section after it. -/
def quotedSection : Node :=
  .branch "body" [
    .branch "dl" [.branch "dt" [.text "Foo"], .branch "dd" []],
    .branch "blockquote" (.text "See" :: unlinkedSection),
    .heading 2 "Methods",
    .branch "dl" [.branch "dt" [.text "Foo.bar()"]]]

/-- Both pages own the same section, so they are checked alike. -/
theorem check_loneSection_quotedSection : ∃ heading₁ heading₂ nodes₁ nodes₂,
    (Located.root loneSection 0).IsFirst IsSectionHeading heading₁ ∧
    (Located.root quotedSection 0).IsFirst IsSectionHeading heading₂ ∧
    Run.IsSection (Located.root loneSection 0) heading₁ nodes₁ ∧
    Run.IsSection (Located.root quotedSection 0) heading₂ nodes₂ ∧
    nodes₁.map (·.node) = unlinkedSection ∧ nodes₂.map (·.node) = unlinkedSection ∧
    ∀ ctx₁ ctx₂, ∃ added, ∀ report₁ report₂,
      (check ctx₁ (.root loneSection 0) report₁).2.findings = report₁.findings ++ added ∧
      (check ctx₂ (.root quotedSection 0) report₂).2.findings = report₂.findings ++ added ∧
      ((check ctx₁ (.root loneSection 0) report₁).1 = .valid heading₁ ∧
          (check ctx₂ (.root quotedSection 0) report₂).1 = .valid heading₂ ∨
        (check ctx₁ (.root loneSection 0) report₁).1 = .invalid ∧
          (check ctx₂ (.root quotedSection 0) report₂).1 = .invalid) := by
  let lone := Located.root loneSection 0
  let quoted := Located.root quotedSection 0
  have hfirst₁ : lone.IsFirst IsSectionHeading lone.children[0] :=
    ⟨[lone], _, rfl, by decide, by decide⟩
  have hfirst₂ : quoted.IsFirst IsSectionHeading quoted.children[1].children[1] :=
    ⟨quoted.preorder.take 7, _, rfl, by decide, by decide⟩
  have hsection₁ : Run.IsSection lone lone.children[0] lone.children :=
    Run.isSection_children rfl (by decide)
  have hsection₂ : Run.IsSection quoted quoted.children[1].children[1]
      quoted.children[1].children.tail := by
    have hsplit : quoted.children[1].children = [quoted.children[1].children[0]] ++
        quoted.children[1].children[1] :: [quoted.children[1].children[2]] := rfl
    exact Run.isSection_of_noEnd (Located.child_mem_preorder (List.getElem_mem _)) hsplit
      (by decide)
  exact ⟨_, _, _, _, hfirst₁, hfirst₂, hsection₁, hsection₂, rfl, rfl,
    check_of_sameSection hfirst₁ hfirst₂ hsection₁ hsection₂ rfl⟩

end PageRecipe.Constructor

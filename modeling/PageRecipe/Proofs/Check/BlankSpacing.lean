import PageRecipe.Proofs.Check.ConstructorVerdict
import PageRecipe.Proofs.Check.LinkListReports
import PageRecipe.Proofs.Prose.BlankTexts

/-!
# Blank texts in constructor sections

Markup between tags leaves blank texts in a tree, and the constructor check passes over them : it
counts elements, drops the blank items of a list, and looks for elements below a term. Only the
opening of a paragraph and the parts of a description are told by their positions. So sections
that are equal up to blank texts outside of paragraphs and descriptions have the same findings
(`sectionFindings_eq_of_respaced`).

`check_of_respaced` says this of whole trees : blank texts may come and go among the siblings of
the heading and in the lists of its section.
-/

namespace PageRecipe

open Located (Respaced UpToBlanks PicksElements)

/-! ## Link lists -/

namespace LinkList

variable {loose : Located → Prop} {a b : Located} {xs ys : List Located}

theorem hasLink_eq_of_respaced (h : Respaced loose a b) : hasLink a = hasLink b := by
  have hlink : PicksElements fun node => node.isTag "a" || node.isTag "code" :=
    ⟨fun _ => rfl, fun _ _ _ _ _ => rfl⟩
  have hbelow (item : Located) : hasLink item = (item.children.flatMap Located.preorder).any
      fun l => l.node.isTag "a" || l.node.isTag "code" := by
    rw [hasLink, Located.descendants_eq_preorder, Located.preorder_eq, List.tail_cons]
  rw [hbelow, hbelow]
  exact h.children.any_selected_eq hlink

theorem isDescribed_eq_of_forall₂ (h : List.Forall₂ (Respaced loose) xs ys) :
    isDescribed xs = isDescribed ys := by
  cases h with
  | nil => rfl
  | cons hnext _ => exact hnext.isTag_eq "dd"

theorem itemsFindings_eq_of_forall₂ (label : String) (h : List.Forall₂ (Respaced loose) xs ys) :
    itemsFindings label xs = itemsFindings label ys := by
  induction h with
  | nil => rfl
  | @cons item item' _ _ hfirst hrest ih =>
    rw [itemsFindings, itemsFindings, termFindings, termFindings, ih, hfirst.isTag_eq,
      hfirst.display_eq, isDescribed_eq_of_forall₂ hrest, hasLink_eq_of_respaced hfirst]

/-- The items of a list are what is left when its blank texts are dropped. -/
theorem listFindings_eq_of_respaced (label : String) (h : Respaced loose a b) :
    listFindings label a = listFindings label b := by
  have hitems := h.children.forall₂_filter (fun node => !node.isBlankText)
    (fun _ _ hpair => hpair.looksLike.congr (f := fun node => !node.isBlankText)
      fun _ _ _ _ _ => rfl) fun _ hblank => by rw [hblank, Bool.not_true]
  exact itemsFindings_eq_of_forall₂ label hitems

theorem sectionFindings_eq_of_respaced (label : String) {run run' : Run}
    (hdisplay : run.display = run'.display) (h : UpToBlanks (Respaced loose) run.nodes run'.nodes) :
    sectionFindings label run = sectionFindings label run' := by
  have hlists := h.forall₂_selectAll (.of_isTag "dl")
  have hlistwise : (run.selectAll (·.isTag "dl")).flatMap (listFindings label) =
      (run'.selectAll (·.isTag "dl")).flatMap (listFindings label) := by
    rw [← List.forall₂_eq_eq_eq]
    refine List.rel_flatMap hlists fun _ _ hpair => ?_
    rw [List.forall₂_eq_eq_eq]
    exact listFindings_eq_of_respaced label hpair
  rw [sectionFindings, sectionFindings, hlists.length_eq, hdisplay, hlistwise]

end LinkList

/-! ## The constructor section -/

namespace Constructor

variable {loose : Located → Prop} {a b : Located} {run run' : Run}

/-- Blank texts among the children do not count : the node is no paragraph and no description. -/
def TakesBlanks (l : Located) : Prop := l.node.isTag "p" = false ∧ l.node.isTag "dd" = false

/-- The second element is told by its tag and, if it is a paragraph, by its first child. -/
theorem declaresNoConstructor_eq_of_respaced
    (h : UpToBlanks (Respaced TakesBlanks) run.nodes run'.nodes) :
    declaresNoConstructor run = declaresNoConstructor run' := by
  have helements := h.forall₂_filter Node.isElement
    (fun _ _ hpair => hpair.looksLike.congr PicksElements.of_isElement.element)
    fun _ => PicksElements.of_isElement.eq_false_of_isBlankText
  rw [declaresNoConstructor, declaresNoConstructor]
  generalize run.nodes.filter (·.node.isElement) = xs at helements ⊢
  generalize run'.nodes.filter (·.node.isElement) = ys at helements ⊢
  cases helements with
  | nil => rfl
  | cons _ hrest =>
    cases hrest with
    | nil => rfl
    | @cons second second' _ _ hsecond _ =>
      simp only
      rw [← hsecond.isTag_eq]
      cases hp : second.node.isTag "p" with
      | false => rfl
      | true =>
        have hchildren := hsecond.forall₂_looksLike fun htakes => by
          simp [TakesBlanks, hp] at htakes
        generalize second.node.children = xs at hchildren ⊢
        generalize second'.node.children = ys at hchildren ⊢
        cases hchildren with
        | nil => rfl
        | cons hfirst _ =>
          exact hfirst.congr (f := fun node => node.startsWithText noConstructor)
            fun _ _ _ _ _ => rfl

theorem partFindings_eq_of_looksLike (hdisplay : run.display = run'.display)
    {first first' second second' third third' : Node} (hfirst : first.LooksLike first')
    (hsecond : second.LooksLike second') (hthird : third.LooksLike third') :
    partFindings run first second third = partFindings run' first' second' third' := by
  have hstarts : first.isText descriptionStart = first'.isText descriptionStart :=
    hfirst.congr (f := fun node => node.isText descriptionStart) fun _ _ _ _ _ => rfl
  have hnamed : second.isTag "code" = second'.isTag "code" :=
    hsecond.congr (f := fun node => node.isTag "code") fun _ _ _ _ _ => rfl
  have hends : third.startsWithText descriptionEnd = third'.startsWithText descriptionEnd :=
    hthird.congr (f := fun node => node.startsWithText descriptionEnd) fun _ _ _ _ _ => rfl
  rw [partFindings, partFindings, hdisplay, hstarts, hnamed, hends]

/-- The parts of a description are told by their positions, which stay as they are. -/
theorem descriptionFindings_eq_of_respaced (hdisplay : run.display = run'.display)
    {xs ys : List Located} (h : List.Forall₂ (Respaced TakesBlanks) xs ys)
    (htag : ∀ l ∈ xs, l.node.isTag "dd" = true) :
    descriptionFindings run xs = descriptionFindings run' ys := by
  cases h with
  | nil => simp only [descriptionFindings, hdisplay]
  | @cons description description' _ _ hfirst hrest =>
    cases hrest with
    | cons _ _ => simp only [descriptionFindings, hdisplay]
    | nil =>
      have hparts := hfirst.forall₂_looksLike fun htakes => by
        simp [TakesBlanks, htag description (by simp)] at htakes
      simp only [descriptionFindings, hfirst.display_eq]
      generalize description.node.children = parts at hparts ⊢
      generalize description'.node.children = parts' at hparts ⊢
      rcases hparts with _ | ⟨hone, _ | ⟨htwo, _ | ⟨hthree, _⟩⟩⟩
      case cons.cons.cons => exact partFindings_eq_of_looksLike hdisplay hone htwo hthree
      all_goals rfl

/-- Sections that are equal up to blank texts outside of paragraphs and descriptions have the same
findings. -/
theorem sectionFindings_eq_of_respaced (hdisplay : run.display = run'.display)
    (h : UpToBlanks (Respaced TakesBlanks) run.nodes run'.nodes) :
    sectionFindings run = sectionFindings run' := by
  have hterms := h.forall₂_selectAll (.of_isTag "dt")
  have hdescriptions := h.forall₂_selectAll (.of_isTag "dd")
  have htag : ∀ l ∈ run.selectAll (·.isTag "dd"), l.node.isTag "dd" = true :=
    fun _ hl => (List.mem_filter.mp hl).2
  rw [sectionFindings, sectionFindings, entryFindings, entryFindings,
    declaresNoConstructor_eq_of_respaced h,
    LinkList.sectionFindings_eq_of_respaced sectionId hdisplay h, hterms.length_eq, hdisplay,
    descriptionFindings_eq_of_respaced hdisplay hdescriptions htag]

/-! ## Pages up to blank texts -/

/-- The node holds the heading of the first constructor section of the tree among its children, or
it is a list of that section. -/
def HoldsSpacing (tree l : Located) : Prop :=
  ∃ heading nodes, tree.IsFirst IsSectionHeading heading ∧ Run.IsSection tree heading nodes ∧
    (heading ∈ l.children ∨ l ∈ LinkList.listsIn nodes)

/-- In the section, only the lists hold spacing, for the node that holds the heading is above. -/
theorem takesBlanks_of_holdsSpacing {tree heading l : Located} {nodes : List Located}
    (hfirst : tree.IsFirst IsSectionHeading heading) (hsection : Run.IsSection tree heading nodes)
    (hl : l ∈ nodes.flatMap Located.preorder) (h : HoldsSpacing tree l) : TakesBlanks l := by
  obtain ⟨heading', nodes', hfirst', hsection', hplace⟩ := h
  obtain rfl := hfirst'.eq hfirst
  rw [Run.isSection_iff hfirst.mem_preorder] at hsection'
  rw [(Run.isSection_iff hfirst.mem_preorder).mp hsection] at hsection'
  subst hsection'
  rcases hplace with hheading | hlist
  · exact absurd hheading (hsection.notMem_children hl)
  · have htag : l.node.isTag "dl" = true := (List.mem_filter.mp hlist).2
    exact ⟨Node.isTag_eq_false_of_ne htag (by decide), Node.isTag_eq_false_of_ne htag (by decide)⟩

/-- Blank texts that come or go among the siblings of the first constructor heading and in the
lists of its section change nothing : the same findings are added, both pages are valid at their
headings or both are invalid, and the link-list check gives the same answer. -/
theorem check_of_respaced {tree other : Located} (h : Respaced (HoldsSpacing tree) tree other)
    (ctx : Context) : ∃ added listed, ∀ report₁ report₂,
      (check ctx tree report₁).2.findings = report₁.findings ++ added ∧
      (check ctx other report₂).2.findings = report₂.findings ++ added ∧
      ((∃ heading₁ heading₂, tree.IsFirst IsSectionHeading heading₁ ∧
          other.IsFirst IsSectionHeading heading₂ ∧
          (check ctx tree report₁).1 = .valid heading₁ ∧
          (check ctx other report₂).1 = .valid heading₂) ∨
        (check ctx tree report₁).1 = .invalid ∧ (check ctx other report₂).1 = .invalid) ∧
      (LinkList.check sectionId tree report₁).2.findings = report₁.findings ++ listed ∧
      (LinkList.check sectionId other report₂).2.findings = report₂.findings ++ listed ∧
      (LinkList.check sectionId tree report₁).1 = (LinkList.check sectionId other report₂).1 := by
  cases hselect : tree.select? (LinkList.selector sectionId).isMatch with
  | none =>
    have hselect' : other.select? (LinkList.selector sectionId).isMatch = none :=
      h.select?_eq_none (.of_isMatch _) hselect
    refine ⟨[⟨tree.node.display, "expected element not found: " ++
      (LinkList.selector sectionId).display, "expected-heading", .expected⟩], [],
      fun report₁ report₂ => ?_⟩
    rw [check_of_none report₁ hselect, check_of_none report₂ hselect', ← h.display_eq]
    refine ⟨rfl, rfl, .inr ⟨rfl, rfl⟩, ?_⟩
    simp [LinkList.check, hselect, hselect']
  | some heading =>
    obtain ⟨heading', hselect', hdisplay, hnodes⟩ := h.exists_ofSection (.of_isMatch _) hselect
    have hfirst := (Located.isFirst_iff isMatch_iff).mpr hselect
    have hfirst' := (Located.isFirst_iff isMatch_iff).mpr hselect'
    have hsection := (Run.isSection_iff hfirst.mem_preorder).mpr rfl
    have hspaced : UpToBlanks (Respaced TakesBlanks) (Run.ofSection heading tree).nodes
        (Run.ofSection heading' other).nodes :=
      hnodes.mono fun top htop _ hpair => hpair.weaken fun l hl =>
        takesBlanks_of_holdsSpacing hfirst hsection (List.mem_flatMap.mpr ⟨top, htop, hl⟩)
    have hfindings := sectionFindings_eq_of_respaced hdisplay hspaced
    have hlisted := LinkList.sectionFindings_eq_of_respaced sectionId hdisplay hspaced
    refine ⟨sectionFindings (Run.ofSection heading tree),
      LinkList.sectionFindings sectionId (Run.ofSection heading tree), fun report₁ report₂ => ?_⟩
    rw [check_of_heading report₁ hselect, check_of_heading report₂ hselect', ← hfindings,
      LinkList.check_of_heading report₁ hselect, LinkList.check_of_heading report₂ hselect',
      ← hlisted]
    refine ⟨rfl, rfl, ?_, rfl, rfl, rfl⟩
    cases (sectionFindings (Run.ofSection heading tree)).isEmpty with
    | true => exact .inl ⟨heading, heading', hfirst, hfirst', rfl, rfl⟩
    | false => exact .inr ⟨rfl, rfl⟩

/-- A page with a list whose term is not linked, written without spacing. -/
def tightPage : Node :=
  .branch "body" [
    .heading 2 "Constructor",
    .branch "dl" [
      .branch "dt" [.text "Foo()"],
      .branch "dd" [.text "Creates a new ", .branch "code" [.text "Foo"], .text " object."]]]

/-- The same page with spacing between the items of the list and around the list. -/
def airyPage : Node :=
  .branch "body" [
    .text "\n",
    .heading 2 "Constructor",
    .text "\n\n",
    .branch "dl" [
      .text "\n  ",
      .branch "dt" [.text "Foo()"],
      .text "\n  ",
      .branch "dd" [.text "Creates a new ", .branch "code" [.text "Foo"], .text " object."],
      .text "\n"],
    .text ""]

/-- The spacing changes nothing : both pages are invalid, for the term is not linked. -/
theorem check_airyPage :
    Respaced (HoldsSpacing (.root tightPage 0)) (.root tightPage 0) (.root airyPage 0) ∧
    ∀ ctx, ∃ added, ∀ report₁ report₂,
      (check ctx (.root tightPage 0) report₁).2.findings = report₁.findings ++ added ∧
      (check ctx (.root airyPage 0) report₂).2.findings = report₂.findings ++ added ∧
      (check ctx (.root tightPage 0) report₁).1 = .invalid ∧
      (check ctx (.root airyPage 0) report₂).1 = .invalid := by
  let tight := Located.root tightPage 0
  have hfirst : tight.IsFirst IsSectionHeading tight.children[0] :=
    ⟨[tight], _, rfl, by decide, by decide⟩
  have hsection : Run.IsSection tight tight.children[0] tight.children :=
    Run.isSection_children rfl (by decide)
  have hbody : HoldsSpacing tight tight :=
    ⟨_, _, hfirst, hsection, .inl (List.getElem_mem _)⟩
  have hlist : HoldsSpacing tight tight.children[1] :=
    ⟨_, _, hfirst, hsection, .inr (List.mem_filter.mpr ⟨List.mem_flatMap.mpr
      ⟨_, List.getElem_mem _, Located.self_mem_preorder _⟩, by decide⟩)⟩
  have hitems : UpToBlanks (Respaced (HoldsSpacing tight)) tight.children[1].children
      (Located.root airyPage 0).children[3].children :=
    .inserted (by decide) (.cons (.of_node_eq rfl) (.inserted (by decide)
      (.cons (.of_node_eq rfl) (.inserted (by decide) .nil))))
  have hblocks : UpToBlanks (Respaced (HoldsSpacing tight)) tight.children
      (Located.root airyPage 0).children :=
    .inserted (by decide) (.cons (.of_node_eq rfl) (.inserted (by decide)
      (.cons (.loose hlist rfl rfl hitems) (.inserted (by decide) .nil))))
  have hspaced : Respaced (HoldsSpacing tight) tight (Located.root airyPage 0) :=
    .loose hbody rfl rfl hblocks
  refine ⟨hspaced, fun ctx => ?_⟩
  obtain ⟨added, listed, hcheck⟩ := check_of_respaced hspaced ctx
  refine ⟨added, fun report₁ report₂ => ?_⟩
  obtain ⟨htight, hairy, hverdict, -⟩ := hcheck report₁ report₂
  have hinvalid : (check ctx tight report₁).1 = .invalid :=
    invalid_of_findings report₁ ((Located.isFirst_iff isMatch_iff).mp hfirst) (by decide +kernel)
  rcases hverdict with ⟨heading, _, _, _, hvalid, _⟩ | hboth
  · rw [hinvalid] at hvalid
    cases hvalid
  · exact ⟨htight, hairy, hboth⟩

end Constructor

end PageRecipe

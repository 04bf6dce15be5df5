import PageRecipe.Proofs.Check.ConstructorVerdict

/-!
# Where the term of a constructor section stands

A constructor section is accepted with one list, one term and one description, which are counted
at any depth. Links and descriptions are looked for at the children of the list only. So the one
term is linked and the one description follows it (`LinkedEntry`) exactly when the term is a child
of the list ; a term that stands elsewhere, wrapped in a `div` of the list or outside of any list,
is counted and not looked at (`inOrder_iff`). `valid_iff_linkedEntry` is the condition under which
a section without the statement that replaces the list is valid.
-/

namespace PageRecipe.Constructor

open Located

/-- The term is a child of the list and names an item, and the description is the next child of
the list that is not a blank text. -/
structure LinkedEntry (list term description : Located) : Prop where
  described : ∃ before blanks after,
    list.children = before ++ term :: (blanks ++ description :: after) ∧
      ∀ l ∈ blanks, l.node.isBlankText = true
  linked : LinkList.NamesItem term

section Section

variable {nodes : List Located} {tag : String} {list term description l other : Located}

theorem IsOnly.mem_and_isTag (h : IsOnly nodes tag l) :
    l ∈ nodes.flatMap preorder ∧ l.node.isTag tag = true := by
  rw [← List.mem_filter (p := fun l : Located => l.node.isTag tag), h]
  exact List.mem_singleton_self l

theorem IsOnly.eq (h : IsOnly nodes tag l) (hmem : other ∈ nodes.flatMap preorder)
    (htag : other.node.isTag tag = true) : other = l := by
  have hother : other ∈ (nodes.flatMap preorder).filter (·.node.isTag tag) :=
    List.mem_filter.mpr ⟨hmem, htag⟩
  rw [h] at hother
  exact List.mem_singleton.mp hother

theorem mem_flatMap_preorder_of_child (hl : l ∈ nodes.flatMap preorder)
    (hother : other ∈ l.children) : other ∈ nodes.flatMap preorder := by
  obtain ⟨top, htop, hbelow⟩ := List.mem_flatMap.mp hl
  exact List.mem_flatMap.mpr ⟨top, htop, mem_preorder_trans (child_mem_preorder hother) hbelow⟩

/-- The one list is in order exactly when its term is linked and described there, or the term does
not stand there at all. -/
theorem inOrder_iff (hlist : IsOnly nodes "dl" list) (hterm : IsOnly nodes "dt" term)
    (hdescription : IsOnly nodes "dd" description) :
    LinkList.InOrder list ↔ LinkedEntry list term description ∨ term ∉ list.children := by
  have hchild {child : Located} (h : child ∈ list.children) : child ∈ nodes.flatMap preorder :=
    mem_flatMap_preorder_of_child hlist.mem_and_isTag.1 h
  constructor
  · intro horder
    by_cases hplace : term ∈ list.children
    · obtain ⟨before, after, hsplit⟩ := List.append_of_mem hplace
      obtain ⟨hlinked, blanks, next, rest, rfl, hblanks, hnext⟩ :=
        horder before term after hsplit hterm.mem_and_isTag.2
      have hsame : next = description := hdescription.eq (hchild (by simp [hsplit])) hnext
      subst hsame
      exact Or.inl ⟨⟨before, blanks, rest, hsplit, hblanks⟩, hlinked⟩
    · exact Or.inr hplace
  · intro h before item after hsplit htag
    have hmem : item ∈ list.children := by simp [hsplit]
    have hsame : item = term := hterm.eq (hchild hmem) htag
    subst hsame
    rcases h with ⟨⟨front, blanks, rest, hfront, hblanks⟩, hlinked⟩ | hplace
    · -- the term has one place among the children, so what follows it is what follows it there
      have hafter : item :: after = item :: (blanks ++ description :: rest) := by
        rw [← Run.fromStart_of_split hsplit, Run.fromStart_of_split hfront]
      rw [(List.cons.inj hafter).2]
      exact ⟨hlinked, blanks, description, rest, rfl, hblanks, hdescription.mem_and_isTag.2⟩
    · exact absurd hmem hplace

end Section

/-- A page whose section does not state that the object cannot be constructed is valid exactly
when the section holds one list, one term and one description, the description says what is
created, and the term is linked and described in the list or is no child of the list. -/
theorem valid_iff_linkedEntry {ctx : Context} {tree heading : Located} {nodes : List Located}
    (report : Report) (hfirst : tree.IsFirst IsSectionHeading heading)
    (hsection : Run.IsSection tree heading nodes) (hstates : ¬StatesNoConstructor nodes) :
    (check ctx tree report).1 = .valid heading ↔ ∃ list term description,
      IsOnly nodes "dl" list ∧ IsOnly nodes "dt" term ∧ IsOnly nodes "dd" description ∧
        OpensWithName description ∧ EndsSentence description ∧
        (LinkedEntry list term description ∨ term ∉ list.children) := by
  have hnodes := (Run.isSection_iff hfirst.mem_preorder).mp hsection
  have hsound : sectionFindings (Run.ofSection heading tree) = [] ↔ HoldsEntry nodes := by
    rw [sectionFindings_eq_nil_iff, hnodes, or_iff_right hstates]
  have hvalid : (check ctx tree report).1 = .valid heading ↔ HoldsEntry nodes := by
    rw [check_of_heading report ((isFirst_iff isMatch_iff).mp hfirst), ← hsound,
      ← List.isEmpty_iff]
    cases (sectionFindings (Run.ofSection heading tree)).isEmpty <;> simp
  rw [hvalid, HoldsEntry]
  constructor
  · rintro ⟨description, ⟨list, term, hlist, hterm, hdescription, horder⟩, hopens, hends⟩
    exact ⟨list, term, description, hlist, hterm, hdescription, hopens, hends,
      (inOrder_iff hlist hterm hdescription).mp horder⟩
  · rintro ⟨list, term, description, hlist, hterm, hdescription, hopens, hends, hplaced⟩
    exact ⟨description, ⟨list, term, hlist, hterm, hdescription,
      (inOrder_iff hlist hterm hdescription).mpr hplaced⟩, hopens, hends⟩

/-- The description of an object that is called Foo. -/
def describesFoo : Node :=
  .branch "dd" [.text "Creates a new ", .branch "code" [.text "Foo"], .text " object."]

/-- A page with a list of one term, which is linked, and its description. -/
def linkedPage : Node :=
  .branch "body" [
    .heading 2 "Constructor",
    .branch "dl" [.text "\n", .branch "dt" [.branch "code" [.text "Foo()"]], .text "\n",
      describesFoo]]

/-- The page is valid, for its term is linked and described in the list. -/
theorem valid_linkedPage : ∃ heading, (root linkedPage 0).IsFirst IsSectionHeading heading ∧
    Run.IsSection (root linkedPage 0) heading (root linkedPage 0).children ∧
    ¬StatesNoConstructor (root linkedPage 0).children ∧
    ∀ ctx report, (check ctx (root linkedPage 0) report).1 = .valid heading := by
  let page := root linkedPage 0
  have hfirst : page.IsFirst IsSectionHeading page.children[0] :=
    ⟨[page], _, rfl, by decide, by decide⟩
  have hsection : Run.IsSection page page.children[0] page.children :=
    Run.isSection_children rfl (by decide)
  have hstates : ¬StatesNoConstructor page.children := by
    rw [← declaresNoConstructor_iff ⟨page.children⟩]
    decide
  let list := page.children[1]
  have hblank : ∀ l ∈ [list.children[2]], l.node.isBlankText = true := by
    simp only [List.mem_singleton, forall_eq]
    decide
  have hlinked : LinkList.NamesItem list.children[1] := by
    rw [← LinkList.hasLink_iff]
    decide +kernel
  have hentry : LinkedEntry list list.children[1] list.children[3] :=
    ⟨⟨[list.children[0]], [list.children[2]], [], rfl, hblank⟩, hlinked⟩
  refine ⟨_, hfirst, hsection, hstates, fun ctx report => ?_⟩
  exact (valid_iff_linkedEntry report hfirst hsection hstates).mpr
    ⟨list, list.children[1], list.children[3], rfl, rfl, rfl, ⟨_, _, _, rfl, by decide⟩,
      ⟨_, _, " object.", _, rfl, List.prefix_refl _⟩, Or.inl hentry⟩

/-- A page whose term and description are wrapped in a `div` of the list. The term is not
linked. -/
def wrappedPage : Node :=
  .branch "body" [
    .heading 2 "Constructor",
    .branch "dl" [.branch "div" [.branch "dt" [.text "Foo()"], describesFoo]]]

/-- The page is valid without the statement that replaces the list, although neither its one term
nor its one description is a child of its one list, and the term names no item. -/
theorem valid_wrappedPage : ∃ heading nodes list term description,
    (root wrappedPage 0).IsFirst IsSectionHeading heading ∧
    Run.IsSection (root wrappedPage 0) heading nodes ∧ ¬StatesNoConstructor nodes ∧
    IsOnly nodes "dl" list ∧ IsOnly nodes "dt" term ∧ IsOnly nodes "dd" description ∧
    (∀ ctx report, (check ctx (root wrappedPage 0) report).1 = .valid heading) ∧
    term ∉ list.children ∧ description ∉ list.children ∧ ¬LinkList.NamesItem term := by
  let page := root wrappedPage 0
  have hfirst : page.IsFirst IsSectionHeading page.children[0] :=
    ⟨[page], _, rfl, by decide, by decide⟩
  have hselect := (isFirst_iff isMatch_iff).mp hfirst
  have hsection : Run.IsSection page page.children[0] page.children :=
    Run.isSection_children rfl (by decide)
  have hstates : ¬StatesNoConstructor page.children := by
    rw [← declaresNoConstructor_iff ⟨page.children⟩]
    decide
  let list := page.children[1]
  let wrapper := list.children[0]
  have hplace {l : Located} (h : l.place ≠ wrapper.place) : l ∉ list.children := by
    rw [show list.children = [wrapper] from rfl, List.mem_singleton]
    exact fun heq => h (congrArg Located.place heq)
  refine ⟨_, _, list, wrapper.children[0], wrapper.children[1], hfirst, hsection, hstates,
    rfl, rfl, rfl, fun ctx report => ?_, hplace (by decide), hplace (by decide), ?_⟩
  · have hnone : (sectionFindings (Run.ofSection page.children[0] page)).isEmpty = true := by
      decide +kernel
    rw [check_of_heading report hselect, hnone]
    rfl
  · rw [← LinkList.hasLink_iff, Bool.not_eq_true]
    decide +kernel

end PageRecipe.Constructor

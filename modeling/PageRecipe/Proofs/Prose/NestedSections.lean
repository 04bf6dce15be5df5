import PageRecipe.Proofs.Prose.Sections

/-!
# Sections are nested or apart

Among the siblings of one child list a section takes up the positions from its heading on, up to
the next heading of no greater rank number or to the end (`SectionSpan`, `exists_sectionSpan`).
Where two sections end is tied together : the heading that ends the earlier section has a rank
number below that of every heading inside it, so it ends a later section that is still going on.
The later section therefore ends by then or begins behind it (`SectionSpan.apart_or_within`), and
it begins inside exactly when all headings up to its own have greater rank numbers
(`SectionSpan.lt_end_iff`). `sections_nested` says both of `Run.ofSection`.
-/

namespace PageRecipe.Run

open Located

/-- The section of a heading of rank `own` at position `first` takes up the positions before
`last` : the headings inside have greater rank numbers, and unless the siblings end at `last`, the
one there is a heading whose rank number is not greater. -/
structure SectionSpan (siblings : List Located) (own first last : Nat) : Prop where
  first_lt : first < last
  le_length : last ≤ siblings.length
  inside : ∀ k l rank, first < k → k < last → siblings[k]? = some l →
    l.node.headingRank? = some rank → own < rank
  ends : ∀ l, siblings[last]? = some l → ∃ rank, l.node.headingRank? = some rank ∧ rank ≤ own

section Positions

variable {siblings : List Located} {own other i j m n : Nat}

/-- Of two sections, the later one begins behind the earlier one or ends within it. -/
theorem SectionSpan.apart_or_within (hfirst : SectionSpan siblings own i m)
    (hsecond : SectionSpan siblings other j n) (hij : i < j) {second : Located}
    (hj : siblings[j]? = some second) (hother : second.node.headingRank? = some other) :
    m ≤ j ∨ j < m ∧ n ≤ m := by
  rcases Nat.lt_or_ge j m with hjm | hmj
  · refine Or.inr ⟨hjm, Nat.le_of_not_lt fun hmn => ?_⟩
    -- else the heading that ends the earlier section stands inside the later one
    have hm : m < siblings.length := Nat.lt_of_lt_of_le hmn hsecond.le_length
    have hat : siblings[m]? = some siblings[m] := List.getElem?_eq_getElem hm
    obtain ⟨rank, hrank, hle⟩ := hfirst.ends _ hat
    have hown : own < other := hfirst.inside j second other hij hjm hj hother
    have hinside : other < rank := hsecond.inside m _ rank hjm hmn hat hrank
    omega
  · exact Or.inl hmj

/-- A position behind the heading is inside its section exactly when all headings up to there have
greater rank numbers. -/
theorem SectionSpan.lt_end_iff (hfirst : SectionSpan siblings own i m) (hj : j < siblings.length) :
    j < m ↔ ∀ k l rank, i < k → k ≤ j → siblings[k]? = some l →
      l.node.headingRank? = some rank → own < rank := by
  constructor
  · intro hjm k l rank hik hkj hk hrank
    exact hfirst.inside k l rank hik (by omega) hk hrank
  · intro hgreater
    refine Nat.lt_of_not_le fun hmj => ?_
    have hat : siblings[m]? = some siblings[m] := List.getElem?_eq_getElem (by omega)
    obtain ⟨rank, hrank, hle⟩ := hfirst.ends _ hat
    have := hgreater m _ rank hfirst.first_lt hmj hat hrank
    omega

end Positions

/-! ## The positions of a section -/

theorem endsSection_eq_false_iff {own : Nat} {node : Node} :
    endsSection (some own) node = false ↔
      ∀ rank, node.headingRank? = some rank → own < rank := by
  cases hnode : node.headingRank? <;> simp [endsSection, hnode]

theorem endsSection_eq_true_iff {own : Nat} {node : Node} :
    endsSection (some own) node = true ↔ ∃ rank, node.headingRank? = some rank ∧ rank ≤ own := by
  cases hnode : node.headingRank? <;> simp [endsSection, hnode]

/-- A node ends the section of a heading, if it has a rank that does not lie below the one of the
heading. Other sections are not ended. -/
theorem endsSection_iff {own : Option Nat} {node : Node} :
    endsSection own node = true ↔ ∃ limit ∈ own, ∃ rank ≤ limit, node.headingRank? = some rank := by
  cases own with
  | none => simp [endsSection]
  | some limit => simp [endsSection_eq_true_iff, and_comm]

/-- What a heading owns stands behind it, in one piece. -/
theorem sectionSpan_of_split {siblings before owned rest : List Located} {start : Located}
    {own : Nat} (h : siblings = before ++ start :: (owned ++ rest))
    (howned : ∀ l ∈ owned, endsSection (some own) l.node = false)
    (hrest : ∀ l ∈ rest.head?, endsSection (some own) l.node = true) :
    SectionSpan siblings own before.length (before.length + (owned.length + 1)) where
  first_lt := by omega
  le_length := by
    rw [h]
    simp
  inside k l rank hk hlast hl hrank := by
    have hmem : l ∈ owned := by
      rw [h, List.getElem?_append_right (by omega), List.getElem?_cons, if_neg (by omega),
        List.getElem?_append_left (by omega)] at hl
      exact List.mem_of_getElem? hl
    exact endsSection_eq_false_iff.mp (howned l hmem) rank hrank
  ends l hl := by
    have hhead : rest.head? = some l := by
      rw [h, List.getElem?_append_right (by omega), Nat.add_sub_cancel_left,
        List.getElem?_cons_succ, List.getElem?_append_right (by omega), Nat.sub_self] at hl
      rw [List.head?_eq_getElem?, hl]
    exact endsSection_eq_true_iff.mp (hrest l hhead)

section Siblings

variable {tree parent start : Located} {i own : Nat}

/-- The section of a heading is a range of the child list that holds it. -/
theorem exists_sectionSpan (hparent : parent ∈ tree.preorder)
    (hstart : parent.children[i]? = some start) (hown : start.node.headingRank? = some own) :
    ∃ last, SectionSpan parent.children own i last ∧
      (ofSection start tree).nodes = (parent.children.take last).drop i := by
  obtain ⟨hi, hat⟩ := List.getElem?_eq_some_iff.mp hstart
  have hsplit : parent.children =
      parent.children.take i ++ start :: parent.children.drop (i + 1) := by
    rw [← hat, List.getElem_cons_drop, List.take_append_drop]
  have hlength : (parent.children.take i).length = i := by simp; omega
  obtain ⟨owned, rest, hafter, hnodes, howned, hrest⟩ := exists_split_ofSection hparent hsplit
  rw [hown] at howned hrest
  rw [hafter] at hsplit
  have hspan := sectionSpan_of_split hsplit howned hrest
  rw [hlength] at hspan
  refine ⟨_, hspan, ?_⟩
  calc (ofSection start tree).nodes = start :: owned := hnodes
    _ = (parent.children.take i ++ (start :: owned)).drop i := by
        rw [List.drop_left' hlength]
    _ = ((parent.children.take i ++ (start :: owned) ++ rest).take (i + (owned.length + 1))).drop i
        := by rw [List.take_left' (by simp [hlength])]
    _ = (parent.children.take (i + (owned.length + 1))).drop i := by
        rw [List.append_assoc, List.cons_append, ← hsplit]

/-- A child is in a range of the child list exactly when its position is. -/
theorem mem_drop_take_iff {m j : Nat} {child : Located} (hij : i ≤ j)
    (h : parent.children[j]? = some child) :
    child ∈ (parent.children.take m).drop i ↔ j < m := by
  rw [List.mem_iff_getElem?]
  constructor
  · rintro ⟨k, hk⟩
    rw [List.getElem?_drop, List.getElem?_take] at hk
    split at hk
    next hlt =>
      have hsame := (place_eq_of_child_place_eq hk h rfl).2
      omega
    next => exact absurd hk (by simp)
  · intro hjm
    refine ⟨j - i, ?_⟩
    rw [List.getElem?_drop, Nat.add_sub_cancel' hij, List.getElem?_take, if_pos hjm, h]

end Siblings

/-- The sections of two headings among the same siblings are ranges of them, from position `i` to
before `m` and from `j` to before `n`. The second begins behind the first or ends within it, and
its heading is in the first exactly when all headings from position `i + 1` to `j` have rank
numbers greater than the first one's. -/
theorem sections_nested {tree parent first second : Located} {i j own other : Nat}
    (hparent : parent ∈ tree.preorder) (hij : i < j)
    (hfirst : parent.children[i]? = some first) (hsecond : parent.children[j]? = some second)
    (hown : first.node.headingRank? = some own) (hother : second.node.headingRank? = some other) :
    ∃ m n, i < m ∧ m ≤ parent.children.length ∧ j < n ∧ n ≤ parent.children.length ∧
      (ofSection first tree).nodes = (parent.children.take m).drop i ∧
      (ofSection second tree).nodes = (parent.children.take n).drop j ∧
      (m ≤ j ∨ j < m ∧ n ≤ m) ∧
      (second ∈ (ofSection first tree).nodes ↔
        ∀ k l rank, i + 1 ≤ k → k ≤ j → parent.children[k]? = some l →
          l.node.headingRank? = some rank → own < rank) := by
  obtain ⟨m, hm, hnodes⟩ := exists_sectionSpan hparent hfirst hown
  obtain ⟨n, hn, hnodes'⟩ := exists_sectionSpan hparent hsecond hother
  have hj : j < parent.children.length := (List.getElem?_eq_some_iff.mp hsecond).1
  refine ⟨m, n, hm.first_lt, hm.le_length, hn.first_lt, hn.le_length, hnodes, hnodes',
    hm.apart_or_within hn hij hsecond hother, ?_⟩
  rw [hnodes, mem_drop_take_iff (Nat.le_of_lt hij) hsecond]
  exact hm.lt_end_iff hj

/-- A quotation with headings of three ranks and a text between them. -/
def quotedHeadings : Node :=
  .branch "body" [.branch "p" [], .branch "blockquote" [.branch "p" [], .heading 2 "A",
    .heading 4 "B", .text "x", .heading 3 "C", .branch "p" [], .heading 4 "D", .heading 1 "E",
    .heading 2 "F"]]

/-- The section `C` is in the section `A`, for all headings between them have rank numbers greater
than 2, and both end at the heading `E`. -/
theorem sections_quotedHeadings :
    ∃ first second, first.node = .heading 2 "A" ∧ second.node = .heading 3 "C" ∧
      second ∈ (ofSection first (root quotedHeadings 0)).nodes ∧
      (ofSection first (root quotedHeadings 0)).nodes.length = 6 ∧
      (ofSection second (root quotedHeadings 0)).nodes.length = 3 := by
  have hparent : (root quotedHeadings 0).children[1] ∈ (root quotedHeadings 0).preorder :=
    child_mem_preorder (List.getElem_mem _)
  have hown : ((root quotedHeadings 0).children[1].children[1]).node.headingRank? = some 2 := by
    decide
  have hother : ((root quotedHeadings 0).children[1].children[4]).node.headingRank? = some 3 := by
    decide
  have hbetween : ∀ k < 5, 2 ≤ k → ((root quotedHeadings 0).children[1].children[k]?.bind
      fun l => l.node.headingRank?).all (2 < ·) = true := by decide
  obtain ⟨m, n, -, -, -, -, -, -, -, hmem⟩ := sections_nested (i := 1) (j := 4) hparent
    (by decide) rfl rfl hown hother
  refine ⟨_, _, rfl, rfl, hmem.mpr ?_, by decide +kernel, by decide +kernel⟩
  intro k l rank hik hkj hl hrank
  simpa [hl, hrank] using hbetween k (by omega) hik

end PageRecipe.Run

import Mathlib.Data.List.Forall2
import PageRecipe.Proofs.Prose.Sections

/-!
# Trees up to blank texts

`Respaced loose a b` says that the tree `b` is the tree `a` with blank texts put into or taken out
of the child lists of the nodes for which `loose` holds. What stands at corresponding places looks
alike (`Respaced.looksLike`), and what is selected by tags, ids and classes corresponds one to one
(`UpToBlanks.forall₂_selected`), whatever the positions are.

The first node that is selected corresponds to the first one, and it stands among corresponding
siblings (`Respaced.exists_select?`) ; so the sections of the two are equal up to blank texts as
well (`Respaced.exists_ofSection`).
-/

namespace PageRecipe

/-- The nodes are one text, or elements that differ at most in their children. -/
inductive Node.LooksLike : Node → Node → Prop where
  | text (value : String) : LooksLike (.text value) (.text value)
  | element (tag : String) (id : Option String) (classes : List String) (xs ys : List Node) :
      LooksLike (.element tag id classes xs) (.element tag id classes ys)

/-- What does not depend on the children is the same. -/
theorem Node.LooksLike.congr {β : Type} {x y : Node} (h : LooksLike x y) {f : Node → β}
    (hf : ∀ tag id classes xs ys, f (.element tag id classes xs) = f (.element tag id classes ys)) :
    f x = f y := by
  cases h with
  | text value => rfl
  | element tag id classes xs ys => exact hf tag id classes xs ys

namespace Located

/-! ## The same nodes at other places -/

/-- The same nodes in the same order, wherever they stand. -/
def Alike (xs ys : List Located) : Prop := xs.map (·.node) = ys.map (·.node)

theorem alike_iff_forall₂ {xs ys : List Located} :
    Alike xs ys ↔ List.Forall₂ (fun a b => a.node = b.node) xs ys := by
  rw [Alike, ← List.forall₂_eq_eq_eq, List.forall₂_map_left_iff, List.forall₂_map_right_iff]

theorem alike_children {a b : Located} (h : a.node = b.node) : Alike a.children b.children := by
  rw [Alike, map_node_children, map_node_children, h]

/-! ## Lists up to blank texts -/

/-- The lists correspond item by item, and each of them may hold blank texts besides. -/
inductive UpToBlanks (R : Located → Located → Prop) : List Located → List Located → Prop where
  | nil : UpToBlanks R [] []
  | cons {a b : Located} {xs ys : List Located} (hfirst : R a b) (hrest : UpToBlanks R xs ys) :
      UpToBlanks R (a :: xs) (b :: ys)
  | inserted {b : Located} {xs ys : List Located} (hblank : b.node.isBlankText = true)
      (hrest : UpToBlanks R xs ys) : UpToBlanks R xs (b :: ys)
  | deleted {a : Located} {xs ys : List Located} (hblank : a.node.isBlankText = true)
      (hrest : UpToBlanks R xs ys) : UpToBlanks R (a :: xs) ys

namespace UpToBlanks

variable {R S : Located → Located → Prop} {xs ys : List Located}

theorem of_forall₂ (h : List.Forall₂ R xs ys) : UpToBlanks R xs ys := by
  induction h with
  | nil => exact .nil
  | cons hfirst _ ih => exact .cons hfirst ih

theorem mono (h : UpToBlanks R xs ys) (hR : ∀ a ∈ xs, ∀ b, R a b → S a b) :
    UpToBlanks S xs ys := by
  induction h with
  | nil => exact .nil
  | cons hfirst _ ih =>
    exact .cons (hR _ List.mem_cons_self _ hfirst)
      (ih fun a ha => hR a (List.mem_cons_of_mem _ ha))
  | inserted hblank _ ih => exact .inserted hblank (ih hR)
  | deleted hblank _ ih => exact .deleted hblank (ih fun a ha => hR a (List.mem_cons_of_mem _ ha))

theorem append {xs' ys' : List Located} (h : UpToBlanks R xs ys) (h' : UpToBlanks R xs' ys') :
    UpToBlanks R (xs ++ xs') (ys ++ ys') := by
  induction h with
  | nil => exact h'
  | cons hfirst _ ih => exact .cons hfirst ih
  | inserted hblank _ ih => exact .inserted hblank ih
  | deleted hblank _ ih => exact .deleted hblank ih

/-- What is kept by a test that drops the blank texts corresponds one to one. -/
theorem forall₂_filter (h : UpToBlanks R xs ys) (keep : Node → Bool)
    (hkeep : ∀ a b, R a b → keep a.node = keep b.node)
    (hblank : ∀ node : Node, node.isBlankText = true → keep node = false) :
    List.Forall₂ R (xs.filter (keep ·.node)) (ys.filter (keep ·.node)) := by
  induction h with
  | nil => exact .nil
  | @cons a b _ _ hfirst _ ih =>
    rw [List.filter_cons, List.filter_cons, hkeep a b hfirst]
    split
    · exact .cons hfirst ih
    · exact ih
  | inserted hb _ ih => rwa [List.filter_cons_of_neg (by simp [hblank _ hb])]
  | deleted ha _ ih => rwa [List.filter_cons_of_neg (by simp [hblank _ ha])]

/-- A scan that blank texts do not stop stops at corresponding places. -/
theorem takeWhile (h : UpToBlanks R xs ys) (stop : Node → Bool)
    (hstop : ∀ a b, R a b → stop a.node = stop b.node)
    (hblank : ∀ node : Node, node.isBlankText = true → stop node = false) :
    UpToBlanks R (xs.takeWhile fun l => !stop l.node) (ys.takeWhile fun l => !stop l.node) := by
  induction h with
  | nil => exact .nil
  | @cons a b _ _ hfirst _ ih =>
    rw [List.takeWhile_cons, List.takeWhile_cons, hstop a b hfirst]
    split
    · exact .cons hfirst ih
    · exact .nil
  | inserted hb _ ih =>
    rw [List.takeWhile_cons, if_pos (by simp [hblank _ hb])]
    exact .inserted hb ih
  | deleted ha _ ih =>
    rw [List.takeWhile_cons, if_pos (by simp [hblank _ ha])]
    exact .deleted ha ih

/-- A node that is no blank text corresponds to a node, and what stands before and after the one
to what stands before and after the other. -/
theorem exists_split {before after : List Located} {a : Located}
    (h : UpToBlanks R (before ++ a :: after) ys) (ha : a.node.isBlankText = false) :
    ∃ before' b after', ys = before' ++ b :: after' ∧ UpToBlanks R before before' ∧ R a b ∧
      UpToBlanks R after after' := by
  generalize hxs : before ++ a :: after = xs at h
  induction h generalizing before with
  | nil => simp at hxs
  | @cons c b xs ys hfirst hrest ih =>
    cases before with
    | nil =>
      obtain ⟨rfl, rfl⟩ := List.cons.inj hxs
      exact ⟨[], b, ys, rfl, .nil, hfirst, hrest⟩
    | cons d before =>
      obtain ⟨rfl, rfl⟩ := List.cons.inj hxs
      obtain ⟨before', b', after', rfl, hbefore, hb, hafter⟩ := ih rfl
      exact ⟨b :: before', b', after', rfl, .cons hfirst hbefore, hb, hafter⟩
  | @inserted b xs ys hblank hrest ih =>
    obtain ⟨before', b', after', rfl, hbefore, hb, hafter⟩ := ih hxs
    exact ⟨b :: before', b', after', rfl, .inserted hblank hbefore, hb, hafter⟩
  | @deleted c xs ys hblank hrest ih =>
    cases before with
    | nil =>
      obtain ⟨rfl, rfl⟩ := List.cons.inj hxs
      rw [ha] at hblank
      cases hblank
    | cons d before =>
      obtain ⟨rfl, rfl⟩ := List.cons.inj hxs
      obtain ⟨before', b', after', rfl, hbefore, hb, hafter⟩ := ih rfl
      exact ⟨before', b', after', rfl, .deleted hblank hbefore, hb, hafter⟩

end UpToBlanks

/-! ## Texts -/

theorem children_eq_nil_of_text {l : Located} {value : String} (h : l.node = .text value) :
    l.children = [] := by
  obtain ⟨place, node⟩ := l
  cases h
  rfl

theorem preorder_of_isBlankText {l : Located} (h : l.node.isBlankText = true) :
    l.preorder = [l] := by
  cases hnode : l.node with
  | element => rw [hnode, Node.isBlankText] at h; cases h
  | text value => rw [preorder_eq, children_eq_nil_of_text hnode, List.flatMap_nil]

theorem UpToBlanks.flatMap_preorder {R : Located → Located → Prop} {xs ys : List Located}
    (h : UpToBlanks R xs ys)
    (hR : ∀ a ∈ xs, ∀ b, R a b → UpToBlanks R a.preorder b.preorder) :
    UpToBlanks R (xs.flatMap Located.preorder) (ys.flatMap Located.preorder) := by
  induction h with
  | nil => exact .nil
  | cons hfirst _ ih =>
    exact (hR _ List.mem_cons_self _ hfirst).append
      (ih fun a ha => hR a (List.mem_cons_of_mem _ ha))
  | inserted hblank _ ih =>
    rw [List.flatMap_cons, preorder_of_isBlankText hblank]
    exact .inserted hblank (ih hR)
  | deleted hblank _ ih =>
    rw [List.flatMap_cons, preorder_of_isBlankText hblank]
    exact .deleted hblank (ih fun a ha => hR a (List.mem_cons_of_mem _ ha))

/-- The test picks elements by what they are and not by their children. -/
structure PicksElements (test : Node → Bool) : Prop where
  text : ∀ value, test (.text value) = false
  element : ∀ tag id classes xs ys,
    test (.element tag id classes xs) = test (.element tag id classes ys)

namespace PicksElements

theorem of_isElement : PicksElements Node.isElement := ⟨fun _ => rfl, fun _ _ _ _ _ => rfl⟩

theorem of_isTag (tag : String) : PicksElements (·.isTag tag) :=
  ⟨fun _ => rfl, fun _ _ _ _ _ => rfl⟩

theorem of_isMatch (selector : Selector) : PicksElements selector.isMatch :=
  ⟨fun _ => rfl, fun _ _ _ _ _ => rfl⟩

theorem eq_false_of_isBlankText {test : Node → Bool} (h : PicksElements test) {node : Node}
    (hblank : node.isBlankText = true) : test node = false := by
  cases node with
  | element => cases hblank
  | text value => exact h.text value

end PicksElements

/-! ## Trees up to blank texts -/

/-- The second tree is the first one with blank texts put into or taken out of the child lists of
the nodes of the first for which `loose` holds. -/
inductive Respaced (loose : Located → Prop) : Located → Located → Prop where
  | text {a b : Located} {value : String} (ha : a.node = .text value) (hb : b.node = .text value) :
      Respaced loose a b
  | strict {a b : Located} {tag : String} {id : Option String} {classes : List String}
      {nodes nodes' : List Node} (ha : a.node = .element tag id classes nodes)
      (hb : b.node = .element tag id classes nodes')
      (hchildren : List.Forall₂ (Respaced loose) a.children b.children) : Respaced loose a b
  | loose {a b : Located} {tag : String} {id : Option String} {classes : List String}
      {nodes nodes' : List Node} (hloose : loose a) (ha : a.node = .element tag id classes nodes)
      (hb : b.node = .element tag id classes nodes')
      (hchildren : UpToBlanks (Respaced loose) a.children b.children) : Respaced loose a b

namespace Respaced

variable {loose : Located → Prop} {a b : Located}

theorem looksLike (h : Respaced loose a b) : a.node.LooksLike b.node := by
  cases h with
  | text ha hb =>
    rw [ha, hb]
    exact .text _
  | strict ha hb _ =>
    rw [ha, hb]
    exact .element _ _ _ _ _
  | loose _ ha hb _ =>
    rw [ha, hb]
    exact .element _ _ _ _ _

theorem isTag_eq (h : Respaced loose a b) (tag : String) : a.node.isTag tag = b.node.isTag tag :=
  h.looksLike.congr (f := fun node => node.isTag tag) fun _ _ _ _ _ => rfl

theorem display_eq (h : Respaced loose a b) : a.node.display = b.node.display :=
  h.looksLike.congr fun _ _ _ _ _ => rfl

theorem children (h : Respaced loose a b) :
    UpToBlanks (Respaced loose) a.children b.children := by
  cases h with
  | text ha hb =>
    rw [children_eq_nil_of_text ha, children_eq_nil_of_text hb]
    exact .nil
  | strict _ _ hchildren => exact .of_forall₂ hchildren
  | loose _ _ _ hchildren => exact hchildren

/-- In a child list that is kept as it is, the children look alike one by one. -/
theorem forall₂_looksLike (h : Respaced loose a b) (hstrict : ¬loose a) :
    List.Forall₂ Node.LooksLike a.node.children b.node.children := by
  have hchildren : List.Forall₂ (Respaced loose) a.children b.children := by
    cases h with
    | text ha hb =>
      rw [children_eq_nil_of_text ha, children_eq_nil_of_text hb]
      exact .nil
    | strict _ _ hchildren => exact hchildren
    | loose hloose _ _ _ => exact absurd hloose hstrict
  rw [← map_node_children, ← map_node_children, List.forall₂_map_left_iff,
    List.forall₂_map_right_iff]
  exact hchildren.imp fun _ _ hpair => hpair.looksLike

/-- In document order, the nodes correspond up to blank texts. -/
theorem preorder (h : Respaced loose a b) :
    UpToBlanks (Respaced loose) a.preorder b.preorder := by
  induction a using Located.induction generalizing b with
  | step a ih =>
    rw [preorder_eq a, preorder_eq b]
    exact .cons h (h.children.flatMap_preorder fun child hchild _ => ih child hchild)

/-- Trees that are equal up to blank texts in some child lists are so in more child lists. -/
theorem weaken {loose' : Located → Prop} (h : Respaced loose a b)
    (hloose : ∀ l ∈ a.preorder, loose l → loose' l) : Respaced loose' a b := by
  induction a using Located.induction generalizing b with
  | step a ih =>
    have hchild : ∀ child ∈ a.children, ∀ c, Respaced loose child c → Respaced loose' child c :=
      fun child hmem c hc => ih child hmem hc fun l hl =>
        hloose l (mem_preorder_of_mem_children hmem hl)
    cases h with
    | text ha hb => exact .text ha hb
    | strict ha hb hchildren =>
      refine .strict ha hb ?_
      exact ((List.forall₂_and_left _ _).mpr ⟨fun _ hmem => hmem, hchildren⟩).imp
        fun _ _ hpair => hchild _ hpair.1 _ hpair.2
    | loose hwhere ha hb hchildren =>
      exact .loose (hloose a (self_mem_preorder a) hwhere) ha hb (hchildren.mono hchild)

/-- Equal nodes are equal up to blank texts, wherever they stand. -/
theorem of_node_eq (h : a.node = b.node) : Respaced loose a b := by
  induction a using Located.induction generalizing b with
  | step a ih =>
    cases hnode : a.node with
    | text value => exact .text hnode (h ▸ hnode)
    | element tag id classes nodes =>
      refine .strict hnode (h ▸ hnode) ?_
      have hchildren := alike_iff_forall₂.mp (alike_children h)
      exact ((List.forall₂_and_left _ _).mpr ⟨fun _ hmem => hmem, hchildren⟩).imp
        fun _ _ hpair => ih _ hpair.1 hpair.2

end Respaced

section Selected

variable {loose : Located → Prop} {a b l : Located} {xs ys : List Located} {test : Node → Bool}

/-- What is selected among nodes and everything below them corresponds one to one. -/
theorem UpToBlanks.forall₂_selected (h : UpToBlanks (Respaced loose) xs ys)
    (htest : PicksElements test) :
    List.Forall₂ (Respaced loose) ((xs.flatMap Located.preorder).filter (test ·.node))
      ((ys.flatMap Located.preorder).filter (test ·.node)) :=
  (h.flatMap_preorder fun _ _ _ hpair => hpair.preorder).forall₂_filter test
    (fun _ _ hpair => hpair.looksLike.congr htest.element) fun _ => htest.eq_false_of_isBlankText

theorem UpToBlanks.forall₂_selectAll {run run' : Run}
    (h : UpToBlanks (Respaced loose) run.nodes run'.nodes) (htest : PicksElements test) :
    List.Forall₂ (Respaced loose) (run.selectAll test) (run'.selectAll test) := by
  rw [Run.selectAll_eq_filter, Run.selectAll_eq_filter]
  exact h.forall₂_selected htest

theorem UpToBlanks.any_selected_eq (h : UpToBlanks (Respaced loose) xs ys)
    (htest : PicksElements test) : (xs.flatMap Located.preorder).any (test ·.node) =
      (ys.flatMap Located.preorder).any (test ·.node) := by
  have hany (list : List Located) :
      list.any (test ·.node) = true ↔ 0 < (list.filter (test ·.node)).length := by
    rw [List.any_eq_true, List.length_pos_iff_exists_mem]
    simp only [List.mem_filter]
  rw [Bool.eq_iff_iff, hany, hany, (h.forall₂_selected htest).length_eq]

theorem forall_select?_eq_none_iff {xs : List Located} : (∀ l ∈ xs, l.select? test = none) ↔
    (xs.flatMap Located.preorder).filter (test ·.node) = [] := by
  simp only [select?_eq_find?, List.find?_eq_none, List.filter_eq_nil_iff, List.mem_flatMap]
  exact ⟨fun h l ⟨top, htop, hl⟩ => h top htop l hl, fun h top htop l hl => h l ⟨top, htop, hl⟩⟩

theorem UpToBlanks.select?_eq_none (h : UpToBlanks (Respaced loose) xs ys)
    (htest : PicksElements test) (hnone : ∀ l ∈ xs, l.select? test = none) :
    ∀ l ∈ ys, l.select? test = none := by
  have hselected := h.forall₂_selected htest
  rw [forall_select?_eq_none_iff] at hnone ⊢
  rw [hnone] at hselected
  exact List.forall₂_nil_left_iff.mp hselected

theorem Respaced.select?_eq_none (h : Respaced loose a b) (htest : PicksElements test)
    (hnone : a.select? test = none) : b.select? test = none := by
  have hboth : UpToBlanks (Respaced loose) [a] [b] := .cons h .nil
  exact hboth.select?_eq_none htest (by simpa using hnone) b (by simp)

/-- What is selected first corresponds to what is selected first, and the siblings after the one
correspond to the siblings after the other. -/
theorem Respaced.exists_select? (h : Respaced loose a b) (htest : PicksElements test)
    (hl : a.select? test = some l) : ∃ l', b.select? test = some l' ∧ Respaced loose l l' ∧
      (l = a ∧ l' = b ∨ ∃ parent ∈ a.preorder, ∃ parent' ∈ b.preorder,
        ∃ before after before' after', parent.children = before ++ l :: after ∧
          parent'.children = before' ++ l' :: after' ∧
          UpToBlanks (Respaced loose) after after') := by
  induction a using Located.induction generalizing b with
  | step a ih =>
    rcases select?_eq_some_iff.mp hl with
      ⟨hself, rfl⟩ | ⟨hself, before, child, after, hsplit, hnone, hchild⟩
    · rw [h.looksLike.congr htest.element] at hself
      exact ⟨b, select?_eq_some_iff.mpr (Or.inl ⟨hself, rfl⟩), h, Or.inl ⟨rfl, rfl⟩⟩
    · rw [h.looksLike.congr htest.element] at hself
      have hsolid : child.node.isBlankText = false := by
        rw [Bool.eq_false_iff]
        intro hblank
        rw [select?_eq_find?, preorder_of_isBlankText hblank, List.find?_singleton,
          htest.eq_false_of_isBlankText hblank] at hchild
        cases hchild
      have hchildren := h.children
      rw [hsplit] at hchildren
      obtain ⟨before', child', after', hsplit', hbefore, hpair, hafter⟩ :=
        hchildren.exists_split hsolid
      have hmem : child ∈ a.children := by simp [hsplit]
      have hmem' : child' ∈ b.children := by simp [hsplit']
      obtain ⟨l', hl', hlocated, hplace⟩ := ih child hmem hpair hchild
      have hfirst : b.select? test = some l' := select?_eq_some_iff.mpr
        (Or.inr ⟨hself, before', child', after', hsplit', hbefore.select?_eq_none htest hnone, hl'⟩)
      refine ⟨l', hfirst, hlocated, Or.inr ?_⟩
      rcases hplace with ⟨rfl, rfl⟩ | ⟨parent, hparent, parent', hparent', hsiblings⟩
      · exact ⟨a, self_mem_preorder a, b, self_mem_preorder b, before, after, before', after',
          hsplit, hsplit', hafter⟩
      · exact ⟨parent, mem_preorder_of_mem_children hmem hparent, parent',
          mem_preorder_of_mem_children hmem' hparent', hsiblings⟩

/-- The section of what is selected first corresponds to the section of what is selected first. -/
theorem Respaced.exists_ofSection (h : Respaced loose a b) (htest : PicksElements test)
    (hl : a.select? test = some l) : ∃ l', b.select? test = some l' ∧
      (Run.ofSection l a).display = (Run.ofSection l' b).display ∧
      UpToBlanks (Respaced loose) (Run.ofSection l a).nodes (Run.ofSection l' b).nodes := by
  obtain ⟨l', hl', hpair, hplace⟩ := h.exists_select? htest hl
  refine ⟨l', hl', ?_⟩
  rcases hplace with ⟨rfl, rfl⟩ | ⟨parent, hparent, parent', hparent', before, after, before',
    after', hsplit, hsplit', hafter⟩
  · rw [Run.ofSection_self, Run.ofSection_self]
    exact ⟨rfl, .nil⟩
  · have hrank : l.node.headingRank? = l'.node.headingRank? :=
      hpair.looksLike.congr fun _ _ _ _ _ => rfl
    rw [Run.ofSection_of_split hparent hsplit, Run.ofSection_of_split hparent' hsplit', ← hrank]
    refine ⟨by simp only [Run.display, hpair.display_eq], .cons hpair ?_⟩
    refine hafter.takeWhile _ (fun c d hcd => ?_) fun node hblank => ?_
    · exact hcd.looksLike.congr fun _ _ _ _ _ => rfl
    · rw [Bool.eq_false_iff]
      intro hends
      have hheading := Run.isHeading_of_endsSection hends
      rw [Node.isHeading_of_isBlankText hblank] at hheading
      cases hheading

end Selected

end Located

end PageRecipe

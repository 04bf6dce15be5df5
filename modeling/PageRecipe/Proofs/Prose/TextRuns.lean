import Mathlib.Data.List.SplitBy
import PageRecipe.Proofs.Prose.Nodes
import PageRecipe.Proofs.Prose.TextConservation

/-!
# Runs of texts

Among siblings, texts that follow each other are a run. `Node.joinTexts` makes one text of every
run, and `EventTree.pieces` is what a tree of events stands for when its own runs are joined
in this way and no others.

Where no HTML block is opened, putting a tree of events behind siblings that are joined is the
same as joining the siblings and what the tree stands for (`translate_joinTexts`), and it leaves
no two texts side by side (`isNormal_translate`). So a tree of events in any order has no two texts
side by side, and the children of its elements are what stands in them with every run joined
(`ofEvents_textRuns`).
-/

namespace PageRecipe

open Markdown (Tag Event EventTree)

namespace Node

/-! ## Siblings without neighbouring texts -/

/-- Both nodes are texts. -/
def areTexts (a b : Node) : Bool := !a.isElement && !b.isElement

/-- No two neighbours among the siblings are texts. -/
def Apart (siblings : List Node) : Prop := siblings.IsChain fun a b => areTexts a b = false

/-- The siblings, and the children of every node among them and below, are apart. -/
structure IsNormal (siblings : List Node) : Prop where
  apart : Apart siblings
  below : ∀ node ∈ nodesOfAll siblings, Apart node.children

theorem isNormal_nil : IsNormal [] := ⟨List.isChain_nil, by simp [nodesOfAll]⟩

theorem apart_concat_iff {siblings : List Node} {node : Node} :
    Apart (siblings ++ [node]) ↔
      Apart siblings ∧ ∀ last ∈ siblings.getLast?, areTexts last node = false := by
  simp [Apart, List.isChain_append]

theorem forall_nodes_apart_iff {node : Node} :
    (∀ inner ∈ node.nodes, Apart inner.children) ↔ IsNormal node.children := by
  cases node with
  | element tag id classes siblings =>
    rw [nodes, List.forall_mem_cons]
    exact ⟨fun ⟨hapart, hbelow⟩ => ⟨hapart, hbelow⟩, fun ⟨hapart, hbelow⟩ => ⟨hapart, hbelow⟩⟩
  | text value => simp [nodes, children, Apart, isNormal_nil]

theorem isNormal_concat_iff {siblings : List Node} {node : Node} :
    IsNormal (siblings ++ [node]) ↔ IsNormal siblings ∧
      (∀ last ∈ siblings.getLast?, areTexts last node = false) ∧ IsNormal node.children := by
  have hbelow : (∀ inner ∈ nodesOfAll (siblings ++ [node]), Apart inner.children) ↔
      (∀ inner ∈ nodesOfAll siblings, Apart inner.children) ∧ IsNormal node.children := by
    rw [nodesOfAll_eq_flatMap, List.flatMap_append, ← nodesOfAll_eq_flatMap,
      List.forall_mem_append, List.flatMap_singleton, forall_nodes_apart_iff]
  constructor
  · intro h
    obtain ⟨hapart, hlast⟩ := apart_concat_iff.mp h.apart
    obtain ⟨hsiblings, hnode⟩ := hbelow.mp h.below
    exact ⟨⟨hapart, hsiblings⟩, hlast, hnode⟩
  · rintro ⟨hsiblings, hlast, hnode⟩
    exact ⟨apart_concat_iff.mpr ⟨hsiblings.apart, hlast⟩, hbelow.mpr ⟨hsiblings.below, hnode⟩⟩

/-- An element with normal children goes behind normal siblings. -/
theorem IsNormal.concat {siblings : List Node} {node : Node} (h : IsNormal siblings)
    (helement : node.isElement = true) (hchildren : IsNormal node.children) :
    IsNormal (siblings ++ [node]) :=
  isNormal_concat_iff.mpr ⟨h, fun last _ => by simp [areTexts, helement], hchildren⟩

/-- A text goes behind normal siblings, or into the last one of them. -/
theorem IsNormal.appendText {siblings : List Node} (h : IsNormal siblings) (value : String) :
    IsNormal (Markdown.appendText siblings value) := by
  rcases List.eq_nil_or_concat' siblings with rfl | ⟨init, last, rfl⟩
  · exact isNormal_concat_iff.mpr ⟨isNormal_nil, by simp, isNormal_nil⟩
  · cases last with
    | element tag id classes inner =>
      have happend : Markdown.appendText (init ++ [.element tag id classes inner]) value =
          init ++ [.element tag id classes inner] ++ [.text value] := by
        simp [Markdown.appendText]
      rw [happend]
      exact isNormal_concat_iff.mpr ⟨h, by simp [areTexts, isElement], isNormal_nil⟩
    | text front =>
      have happend : Markdown.appendText (init ++ [.text front]) value =
          init ++ [.text (front ++ value)] := by
        simp [Markdown.appendText]
      obtain ⟨hinit, hlast, -⟩ := isNormal_concat_iff.mp h
      rw [happend]
      exact isNormal_concat_iff.mpr ⟨hinit, hlast, isNormal_nil⟩

/-! ## Joining runs -/

/-- One text of several, and one node as it is. -/
def joinRun : List Node → Node
  | [node] => node
  | run => .text (textContents run)

/-- The siblings with one text for every run of texts. -/
def joinTexts (siblings : List Node) : List Node := (siblings.splitBy areTexts).map joinRun

/-- A node that is no text, or behind one that is no text, is a run of its own. -/
theorem joinTexts_concat {siblings : List Node} {node : Node}
    (h : ∀ last ∈ siblings.getLast?, areTexts last node = false) :
    joinTexts (siblings ++ [node]) = joinTexts siblings ++ [node] := by
  rw [joinTexts, List.splitBy_append (by simpa using h), List.map_append]
  rfl

/-- A run that ends with a text is one text. -/
theorem joinRun_concat_text (front : List Node) (value : String) :
    joinRun (front ++ [Node.text value]) = .text (textContents (front ++ [Node.text value])) := by
  cases front with
  | nil => simp [joinRun, textContents, textContent]
  | cons first rest => cases rest <;> rfl

/-- A text behind a text goes into the run that ends there. -/
theorem exists_splitBy_concat_text (siblings : List Node) (last next : String) : ∃ runs front,
    (siblings ++ [Node.text last]).splitBy areTexts = runs ++ [front ++ [Node.text last]] ∧
      (siblings ++ [Node.text last] ++ [Node.text next]).splitBy areTexts =
        runs ++ [front ++ [Node.text last] ++ [Node.text next]] := by
  obtain ⟨runs, run, hruns⟩ : ∃ runs run,
      (siblings ++ [Node.text last]).splitBy areTexts = runs ++ [run] := by
    rcases List.eq_nil_or_concat' ((siblings ++ [Node.text last]).splitBy areTexts) with
      hnil | hconcat
    · simp at hnil
    · exact hconcat
  obtain ⟨hflatten, hne, hchains, hbetween⟩ := List.splitBy_eq_iff.mp hruns
  obtain ⟨front, rfl⟩ : ∃ front, run = front ++ [Node.text last] := by
    rcases List.eq_nil_or_concat' run with rfl | ⟨front, node, rfl⟩
    · simp at hne
    · have hlast : Node.text last = node := by simpa using congrArg List.getLast? hflatten
      exact ⟨front, by rw [hlast]⟩
  -- the last run takes one more text, and what stands between the runs stays
  refine ⟨runs, front, hruns,
    List.splitBy_eq_iff.mpr ⟨by simp [hflatten], by simpa using hne, ?_, ?_⟩⟩
  · intro run hrun
    rcases List.mem_append.mp hrun with hrun | hrun
    · exact hchains run (List.mem_append_left _ hrun)
    · rw [List.mem_singleton.mp hrun, List.isChain_append]
      exact ⟨hchains _ (by simp), List.isChain_singleton _, by simp [areTexts, isElement]⟩
  · obtain ⟨hfirst, -, hends⟩ := List.isChain_append.mp hbetween
    refine List.isChain_append.mpr ⟨hfirst, List.isChain_singleton _, fun a ha b hb => ?_⟩
    obtain rfl : front ++ [Node.text last] ++ [Node.text next] = b := by simpa using hb
    obtain ⟨hane, hbne, hapart⟩ := hends a ha _ rfl
    exact ⟨hane, by simp, by rwa [List.head_append_of_ne_nil hbne]⟩

/-- A text behind some siblings goes into the text of the run that ends there. -/
theorem joinTexts_concat_text (siblings : List Node) (value : String) :
    joinTexts (siblings ++ [Node.text value]) = Markdown.appendText (joinTexts siblings) value := by
  rcases List.eq_nil_or_concat' siblings with rfl | ⟨init, last, rfl⟩
  · rfl
  · cases last with
    | element tag id classes inner =>
      rw [joinTexts_concat (by simp [areTexts, isElement]),
        joinTexts_concat (by simp [areTexts, isElement])]
      simp [Markdown.appendText]
    | text last =>
      obtain ⟨runs, front, hbefore, hbehind⟩ := exists_splitBy_concat_text init last value
      simp only [joinTexts, hbefore, hbehind, List.map_append, List.map_singleton,
        joinRun_concat_text]
      simp [Markdown.appendText, textContents_append, textContents, textContent,
        String.append_assoc]

end Node

namespace Markdown

/-! ## Events that open no HTML block -/

theorem counted_sublist (opened : List Tag) (events : List Event) :
    (counted opened events).Sublist events := by
  induction events generalizing opened with
  | nil => exact List.Sublist.slnil
  | cons event rest ih =>
    rw [counted]
    split
    · exact (ih _).cons_cons event
    · exact (ih _).cons event

/-- Events are balanced without opening anything. -/
theorem notMem_balanced {events : List Event} {tag : Tag} (h : .start tag ∉ events) :
    .start tag ∉ balanced events :=
  fun hmem => notMem_closed h ((counted_sublist [] (closed events)).subset hmem)

namespace EventTree

/-! ## What a forest stands for -/

mutual

/-- What a tree of events stands for on its own. -/
def pieces : EventTree → List Node
  | enclosed tag _ inner => [tag.element (Node.joinTexts (piecesOfAll inner))]
  | htmlBlock html => [HtmlElement.nodeOf (String.join html)]
  | single event _ => event.translate []

/-- What the trees of a forest stand for, one behind the other. -/
def piecesOfAll : List EventTree → List Node
  | [] => []
  | tree :: rest => pieces tree ++ piecesOfAll rest

end

theorem notMem_inner {tag : Tag} {isElement : tag ≠ .htmlBlock} {inner : List EventTree}
    (h : .start .htmlBlock ∉ (enclosed tag isElement inner).events) :
    .start .htmlBlock ∉ eventsOfAll inner := by
  rw [events] at h
  exact fun hmem => h (by simp [hmem])

theorem notMem_of_cons {tree : EventTree} {rest : List EventTree}
    (h : .start .htmlBlock ∉ eventsOfAll (tree :: rest)) :
    .start .htmlBlock ∉ tree.events ∧ .start .htmlBlock ∉ eventsOfAll rest := by
  rw [eventsOfAll] at h
  exact ⟨fun hmem => h (by simp [hmem]), fun hmem => h (by simp [hmem])⟩

/-- An event that opens and closes nothing goes into joined siblings as what it stands for. -/
theorem translate_single_joinTexts {event : Event} (siblings : List Node) :
    event.translate (Node.joinTexts siblings) =
      Node.joinTexts (siblings ++ event.translate []) := by
  cases event with
  | text value | html value | inlineHtml value | inlineMath value | displayMath value =>
    exact (Node.joinTexts_concat_text siblings value).symm
  | softBreak => exact (Node.joinTexts_concat_text siblings "\n").symm
  | code _ | footnoteReference _ | hardBreak | rule =>
    refine (Node.joinTexts_concat ?_).symm
    simp [Node.areTexts, Node.branch, Node.bare, Node.isElement]
  | taskListMarker _ | start _ | stop =>
    exact congrArg Node.joinTexts (List.append_nil siblings).symm

mutual

/-- A tree of events that opens no HTML block goes into joined siblings as what it stands for. -/
theorem translate_joinTexts : ∀ (tree : EventTree) (siblings : List Node),
    .start .htmlBlock ∉ tree.events →
      tree.translate (Node.joinTexts siblings) = Node.joinTexts (siblings ++ tree.pieces)
  | enclosed tag isElement inner, siblings, h => by
    have hinner := translateAll_joinTexts inner [] (notMem_inner h)
    have helement : ∀ children, (tag.element children).isElement = true := fun _ => rfl
    rw [translate, pieces, Node.joinTexts_concat (by simp [Node.areTexts, helement])]
    exact congrArg (fun children => Node.joinTexts siblings ++ [tag.element children]) hinner
  | htmlBlock html, siblings, h => by
    rw [events] at h
    exact absurd List.mem_cons_self h
  | single event isSingle, siblings, h => by
    rw [translate, pieces, translate_single_joinTexts]

/-- A forest that opens no HTML block goes into joined siblings as what it stands for. -/
theorem translateAll_joinTexts : ∀ (forest : List EventTree) (siblings : List Node),
    .start .htmlBlock ∉ eventsOfAll forest →
      translateAll (Node.joinTexts siblings) forest =
        Node.joinTexts (siblings ++ piecesOfAll forest)
  | [], siblings, _ => by rw [translateAll, piecesOfAll, List.append_nil]
  | tree :: rest, siblings, h => by
    obtain ⟨htree, hrest⟩ := notMem_of_cons h
    rw [translateAll, translate_joinTexts tree siblings htree,
      translateAll_joinTexts rest _ hrest, piecesOfAll, List.append_assoc]

end

/-! ## No texts side by side -/

theorem isNormal_translate_single {event : Event} {siblings : List Node}
    (h : Node.IsNormal siblings) : Node.IsNormal (event.translate siblings) := by
  cases event with
  | text value | html value | inlineHtml value | inlineMath value | displayMath value =>
    exact h.appendText value
  | softBreak => exact h.appendText "\n"
  | code value | footnoteReference value =>
    exact h.concat rfl (Node.isNormal_nil.appendText value)
  | hardBreak | rule => exact h.concat rfl Node.isNormal_nil
  | taskListMarker _ | start _ | stop => exact h

mutual

/-- A tree of events that opens no HTML block leaves siblings normal. -/
theorem isNormal_translate : ∀ (tree : EventTree) {siblings : List Node},
    .start .htmlBlock ∉ tree.events → Node.IsNormal siblings →
      Node.IsNormal (tree.translate siblings)
  | enclosed tag isElement inner, siblings, h, hsiblings => by
    rw [translate]
    exact hsiblings.concat rfl (isNormal_translateAll inner (notMem_inner h) Node.isNormal_nil)
  | htmlBlock html, siblings, h, _ => by
    rw [events] at h
    exact absurd List.mem_cons_self h
  | single event isSingle, siblings, _, hsiblings => by
    rw [translate]
    exact isNormal_translate_single hsiblings

/-- A forest that opens no HTML block leaves siblings normal. -/
theorem isNormal_translateAll : ∀ (forest : List EventTree) {siblings : List Node},
    .start .htmlBlock ∉ eventsOfAll forest → Node.IsNormal siblings →
      Node.IsNormal (translateAll siblings forest)
  | [], siblings, _, hsiblings => by rwa [translateAll]
  | tree :: rest, siblings, h, hsiblings => by
    obtain ⟨htree, hrest⟩ := notMem_of_cons h
    rw [translateAll]
    exact isNormal_translateAll rest hrest (isNormal_translate tree htree hsiblings)

end

end EventTree

end Markdown

namespace Builder

/-- In the tree of events that open no HTML block, in any order, no two texts stand side by side.
The children of the body, and in the same way those of the elements below it, are what
stands there with one text for every run of texts. -/
theorem ofEvents_textRuns (events : List Event) (h : .start .htmlBlock ∉ events) :
    (∀ node ∈ (ofEvents events).nodes, Node.Apart node.children) ∧
    ∃ forest, EventTree.eventsOfAll forest = Markdown.balanced events ∧
      ofEvents events = .branch "body" (Node.joinTexts (EventTree.piecesOfAll forest)) := by
  obtain ⟨forest, hforest, htree⟩ := exists_forest_ofEvents events
  have hnone : .start .htmlBlock ∉ EventTree.eventsOfAll forest :=
    hforest ▸ Markdown.notMem_balanced h
  constructor
  · have hnormal := EventTree.isNormal_translateAll forest hnone Node.isNormal_nil
    rw [htree]
    exact Node.forall_nodes_apart_iff.mpr hnormal
  · have hjoined := EventTree.translateAll_joinTexts forest [] hnone
    exact ⟨forest, hforest, htree.trans (congrArg (Node.branch "body") hjoined)⟩

/-- Events with texts of several kinds around a marker and stops without a start. -/
def scatteredEvents : List Event :=
  [.text "a", .taskListMarker true, .stop, .html "<b>", .start .strong, .inlineMath "x",
    .softBreak, .stop, .inlineHtml "</b>", .start .emphasis, .code "f", .displayMath "y", .text "z"]

theorem textRuns_scatteredEvents :
    .start .htmlBlock ∉ scatteredEvents ∧
    (∀ node ∈ (ofEvents scatteredEvents).nodes, Node.Apart node.children) ∧
    ofEvents scatteredEvents = .branch "body" [.text "a<b>", .branch "strong" [.text "x\n"],
      .text "</b>", .branch "em" [.branch "code" [.text "f"], .text "yz"]] := by
  have hnone : .start .htmlBlock ∉ scatteredEvents := by decide
  exact ⟨hnone, (ofEvents_textRuns scatteredEvents hnone).1, by rfl⟩

end Builder

end PageRecipe

import Mathlib.Data.List.Forall2
import PageRecipe.Proofs.Prose.BalancedEvents
import PageRecipe.Proofs.Prose.Nodes
import PageRecipe.Prose.Markup

/-!
# The ids of headings

Sections are looked up by the ids of their headings. A heading is written with a level, and then
it has the id that it is given or the one of its title, or it is written as an HTML block, and
then it has an id only if the block gives one (`WrittenHeading.Becomes`).

The headings of the tree of any events are those that are written in their forest, one for one
and in document order (`headings_ofEvents`). So every heading has an id exactly when the HTML
blocks among them give one, and a page with the block `<h2>Title</h2>` has a heading without an
id (`headings_untitledPage`).
-/

namespace PageRecipe

open Markdown (Tag Event EventTree)

namespace Node

/-- The headings among the node and everything below it, in document order. -/
def headings (node : Node) : List Node := node.nodes.filter (·.isHeading)

/-- The headings among nodes and everything below them, in document order. -/
def headingsOfAll (list : List Node) : List Node := (nodesOfAll list).filter (·.isHeading)

theorem headingsOfAll_append (a b : List Node) :
    headingsOfAll (a ++ b) = headingsOfAll a ++ headingsOfAll b := by
  simp only [headingsOfAll, nodesOfAll_eq_flatMap, List.flatMap_append, List.filter_append]

theorem headingsOfAll_nil : headingsOfAll [] = [] := rfl

theorem headingsOfAll_cons (node : Node) (rest : List Node) :
    headingsOfAll (node :: rest) = headings node ++ headingsOfAll rest := by
  rw [headingsOfAll, nodesOfAll, List.filter_append, headings, headingsOfAll]

theorem headingsOfAll_singleton (node : Node) : headingsOfAll [node] = headings node := by
  rw [headingsOfAll_cons, headingsOfAll_nil, List.append_nil]

theorem headings_text (value : String) : headings (.text value) = [] := rfl

theorem headings_element (tag : String) (id : Option String) (classes : List String)
    (children : List Node) : headings (.element tag id classes children) =
      (if (Node.bare tag).isHeading then [.element tag id classes children] else []) ++
        headingsOfAll children := by
  have htag : (Node.element tag id classes children).isHeading = (Node.bare tag).isHeading := rfl
  rw [headings, nodes, List.filter_cons, htag]
  cases (Node.bare tag).isHeading <;> rfl

/-- Texts are no headings. -/
theorem headingsOfAll_eq_nil_of_texts {list : List Node}
    (h : ∀ node ∈ list, ∃ value, node = .text value) : headingsOfAll list = [] := by
  induction list with
  | nil => rfl
  | cons node rest ih =>
    obtain ⟨⟨value, rfl⟩, hrest⟩ := List.forall_mem_cons.mp h
    rw [headingsOfAll_cons, headings_text, ih hrest, List.nil_append]

end Node

/-! ## HTML blocks -/

namespace HtmlElement

/-- The id that an attribute gives. -/
def Attribute.id? : Attribute → Option (List Char)
  | .id value => some value
  | .class _ => none

/-- The id that attributes give : the last one counts. -/
def lastId? (found : List Attribute) : Option String :=
  (found.filterMap Attribute.id?).getLast?.map String.ofList

/-- The id that an HTML block gives to the element that it spells. -/
def givenId? (html : String) : Option String :=
  (parts? (Text.trim html.toList)).bind fun parts => lastId? (attributes parts.attributes)

/-- The classes that an attribute gives. -/
def Attribute.classes : Attribute → List String
  | .id _ => []
  | .class value => (Text.words value).map String.ofList

theorem foldl_withClass (names : List (List Char)) (tag : String) (id : Option String)
    (classes : List String) (children : List Node) :
    names.foldl (fun node name => node.withClass (String.ofList name))
        (Node.element tag id classes children) =
      .element tag id (classes ++ names.map String.ofList) children := by
  induction names generalizing classes with
  | nil => rw [List.map_nil, List.append_nil, List.foldl_nil]
  | cons name rest ih =>
    rw [List.foldl_cons, Node.withClass, ih, List.append_assoc, List.singleton_append,
      List.map_cons]

/-- Attributes set the id and add to the classes of an element. -/
theorem foldl_setAttribute (found : List Attribute) (tag : String) (id : Option String)
    (classes : List String) (children : List Node) :
    found.foldl setAttribute (.element tag id classes children) =
      .element tag ((lastId? found).or id) (classes ++ found.flatMap Attribute.classes)
        children := by
  induction found generalizing id classes with
  | nil => rw [List.flatMap_nil, List.append_nil]; rfl
  | cons first rest ih =>
    cases first with
    | id value =>
      rw [List.foldl_cons, setAttribute, Node.withId, ih]
      cases hlast : (rest.filterMap Attribute.id?).getLast? <;>
        simp [lastId?, Attribute.id?, Attribute.classes, List.getLast?_cons, hlast]
    | «class» value =>
      rw [List.foldl_cons, setAttribute, foldl_withClass, ih, List.append_assoc]
      rfl

/-- An HTML block stays as it is, with its ends trimmed, or becomes an element with the id that it
gives and nothing but texts below it. -/
theorem nodeOf_cases (html : String) : nodeOf html = .text (Text.trimmed html) ∨
    ∃ tag classes children, nodeOf html = .element tag (givenId? html) classes children ∧
      ∀ child ∈ children, ∃ value, child = .text value := by
  rw [nodeOf, givenId?, Text.trimmed]
  generalize Text.trim html.toList = block
  rw [element?]
  cases parts? block with
  | none => exact .inl rfl
  | some parts =>
    simp only [Option.bind_some]
    split
    · exact .inl rfl
    · right
      rw [Node.bare, foldl_setAttribute, Option.or_none, Option.getD_some]
      split
      · exact ⟨_, _, [], rfl, by simp⟩
      · exact ⟨_, _, [.text _], rfl, by simp⟩

end HtmlElement

/-! ## Written headings -/

/-- A heading as it is written : with a level, an id that may be given, and classes, or as an
HTML block. -/
inductive WrittenHeading where
  | titled (level : Nat) (id : Option String) (classes : List String)
  | block (html : String)

/-- The heading becomes this node. One with a level has the id that it is given, or else the one
of its title. One that is an HTML block has the id that the block gives, or else none. -/
inductive WrittenHeading.Becomes : WrittenHeading → Node → Prop where
  | titled (level : Nat) (id : Option String) (classes : List String) (children : List Node) :
      Becomes (.titled level id classes)
        (.element ("h" ++ toString level)
          (some (id.getD (headingId (Node.textContents children)))) classes children)
  | block {html tag : String} {classes : List String} {children : List Node}
      (hspells : HtmlElement.nodeOf html =
        .element tag (HtmlElement.givenId? html) classes children) :
      Becomes (.block html) (.element tag (HtmlElement.givenId? html) classes children)

namespace Markdown

/-- The heading that a tag opens, if its level is one of 1 to 6. -/
def Tag.headings : Tag → List WrittenHeading
  | .heading level id classes =>
    if 1 ≤ level ∧ level ≤ 6 then [.titled level id classes] else []
  | _ => []

namespace EventTree

mutual

/-- The headings that are written in a tree of events, in document order. -/
def headings : EventTree → List WrittenHeading
  | enclosed tag _ inner => tag.headings ++ headingsOfAll inner
  | htmlBlock pieces =>
    if (HtmlElement.nodeOf (String.join pieces)).isHeading then [.block (String.join pieces)]
    else []
  | single _ _ => []

/-- The headings that are written in a forest of events, in document order. -/
def headingsOfAll : List EventTree → List WrittenHeading
  | [] => []
  | tree :: rest => headings tree ++ headingsOfAll rest

end

end EventTree

/-! ## The headings of a tree -/

/-- A text behind siblings, or in the last one, is no heading. -/
theorem headingsOfAll_appendText (siblings : List Node) (value : String) :
    Node.headingsOfAll (appendText siblings value) = Node.headingsOfAll siblings := by
  rcases List.eq_nil_or_concat siblings with rfl | ⟨init, last, rfl⟩
  · rfl
  · cases last <;>
      simp [appendText, Node.headingsOfAll_append, Node.headingsOfAll_cons,
        Node.headingsOfAll_nil, Node.headings_text]

/-- What stands for an event that opens and closes nothing is no heading. -/
theorem headingsOfAll_translate_single (siblings : List Node) (event : Event) :
    Node.headingsOfAll (event.translate siblings) = Node.headingsOfAll siblings := by
  cases event with
  | text value | html value | inlineHtml value | inlineMath value | displayMath value =>
    exact headingsOfAll_appendText siblings value
  | softBreak => exact headingsOfAll_appendText siblings "\n"
  | code _ | footnoteReference _ | hardBreak | rule =>
    exact (Node.headingsOfAll_append _ _).trans (List.append_nil _)
  | taskListMarker _ | start _ | stop => rfl

/-- An element is a heading when its tag opens one, and then it is what the heading becomes. -/
theorem exists_headings_element (tag : Tag) (children : List Node) : ∃ own,
    Node.headings (tag.element children) = own ++ Node.headingsOfAll children ∧
      List.Forall₂ WrittenHeading.Becomes tag.headings own := by
  refine ⟨_, Node.headings_element _ _ _ _, ?_⟩
  cases tag with
  | heading level id classes =>
    have hrank := Node.headingRank?_of_level level none [] []
    rw [Node.isHeading, Node.bare, Tag.elementTag, hrank, Tag.headings]
    by_cases hlevel : 1 ≤ level ∧ level ≤ 6
    · rw [if_pos hlevel, if_pos hlevel]
      have hid : Tag.elementId (.heading level id classes) children =
          some (id.getD (headingId (Node.textContents children))) := by
        cases id <;> simp [Tag.elementId, hlevel]
      rw [hid]
      exact .cons (.titled level id classes children) .nil
    · rw [if_neg hlevel, if_neg hlevel]
      exact .nil
  | list ordered => cases ordered <;> exact .nil
  | blockQuote alert =>
    have hquote : (Node.bare "blockquote").isHeading = false := by decide
    rw [Tag.elementTag, hquote]
    exact .nil
  | _ => exact .nil

mutual

/-- A tree adds to the headings of its siblings what the headings that are written in it become. -/
theorem exists_headings_translate : ∀ (tree : EventTree) (siblings : List Node), ∃ found,
    Node.headingsOfAll (tree.translate siblings) = Node.headingsOfAll siblings ++ found ∧
      List.Forall₂ WrittenHeading.Becomes tree.headings found
  | .enclosed tag isElement inner, siblings => by
    obtain ⟨below, hbelow, hinner⟩ := exists_headings_translateAll inner []
    obtain ⟨own, hown, htag⟩ := exists_headings_element tag (EventTree.translateAll [] inner)
    refine ⟨own ++ below, ?_, ?_⟩
    · rw [EventTree.translate, Node.headingsOfAll_append, Node.headingsOfAll_singleton, hown,
        hbelow]
      rfl
    · rw [EventTree.headings]
      exact List.rel_append htag hinner
  | .htmlBlock pieces, siblings => by
    refine ⟨Node.headings (HtmlElement.nodeOf (String.join pieces)), ?_, ?_⟩
    · rw [EventTree.translate, Node.headingsOfAll_append, Node.headingsOfAll_singleton]
    · rw [EventTree.headings]
      rcases HtmlElement.nodeOf_cases (String.join pieces) with
        htext | ⟨tag, classes, children, helement, htexts⟩
      · rw [htext]
        exact .nil
      · have htag : (Node.element tag (HtmlElement.givenId? (String.join pieces)) classes
            children).isHeading = (Node.bare tag).isHeading := rfl
        rw [helement, Node.headings_element, Node.headingsOfAll_eq_nil_of_texts htexts,
          List.append_nil, htag]
        split
        · exact .cons (.block helement) .nil
        · exact .nil
  | .single event isSingle, siblings =>
    ⟨[], by rw [EventTree.translate, headingsOfAll_translate_single, List.append_nil],
      by rw [EventTree.headings]; exact .nil⟩

/-- A forest adds to the headings of its siblings what the headings that are written in it
become. -/
theorem exists_headings_translateAll : ∀ (forest : List EventTree) (siblings : List Node),
    ∃ found, Node.headingsOfAll (EventTree.translateAll siblings forest) =
        Node.headingsOfAll siblings ++ found ∧
      List.Forall₂ WrittenHeading.Becomes (EventTree.headingsOfAll forest) found
  | [], siblings => ⟨[], (List.append_nil _).symm, by rw [EventTree.headingsOfAll]; exact .nil⟩
  | tree :: rest, siblings => by
    obtain ⟨first, hfirst, htree⟩ := exists_headings_translate tree siblings
    obtain ⟨others, hothers, hrest⟩ :=
      exists_headings_translateAll rest (tree.translate siblings)
    refine ⟨first ++ others, ?_, ?_⟩
    · rw [EventTree.translateAll, hothers, hfirst, List.append_assoc]
    · rw [EventTree.headingsOfAll]
      exact List.rel_append htree hrest

end

end Markdown

/-- Nodes that headings become all have an id when the HTML blocks among the headings give
one. -/
theorem WrittenHeading.forall_isSome_id_iff {written : List WrittenHeading} {found : List Node}
    (h : List.Forall₂ Becomes written found) :
    (∀ heading ∈ found, heading.id?.isSome = true) ↔
      ∀ html, .block html ∈ written → (HtmlElement.givenId? html).isSome = true := by
  induction h with
  | nil => simp
  | cons hfirst _ ih =>
    rw [List.forall_mem_cons, ih]
    cases hfirst with
    | titled level id classes children => simp [Node.id?]
    | block hspells => simp [Node.id?]

/-- The headings of the tree of any events are those that are written in their forest, one for
one and in document order. Each has the id that it is given, and if it is written with a level
and given none, the one of its title. So all of them have an id exactly when every HTML block
that spells a heading gives one. -/
theorem headings_ofEvents (events : List Event) : ∃ forest,
    EventTree.eventsOfAll forest = Markdown.balanced events ∧
    List.Forall₂ WrittenHeading.Becomes (EventTree.headingsOfAll forest)
      (Builder.ofEvents events).headings ∧
    ((∀ heading ∈ (Builder.ofEvents events).headings, heading.id?.isSome = true) ↔
      ∀ html, .block html ∈ EventTree.headingsOfAll forest →
        (HtmlElement.givenId? html).isSome = true) := by
  obtain ⟨forest, hforest, htree⟩ := Builder.exists_forest_ofEvents events
  obtain ⟨found, hfound, hbecomes⟩ := Markdown.exists_headings_translateAll forest []
  have hbody : (Node.bare "body").isHeading = false := rfl
  have hheadings : (Builder.ofEvents events).headings = found := by
    rw [htree, Node.branch, Node.headings_element, hbody, hfound]
    rfl
  rw [hheadings]
  exact ⟨forest, hforest, hbecomes, WrittenHeading.forall_isSome_id_iff hbecomes⟩

/-- A heading with a level, and one that is an HTML block. -/
def mixedEvents : List Event :=
  [.start (.heading 2 none []), .text "See also", .stop,
    .start .htmlBlock, .html "<h2>Title</h2>\n", .stop]

/-- Both headings are there. The first one has the id of its title and the other one has none, so
there is an HTML block that spells a heading and gives no id. -/
theorem headings_mixedEvents : ∃ forest,
    EventTree.eventsOfAll forest = mixedEvents ∧
    List.Forall₂ WrittenHeading.Becomes (EventTree.headingsOfAll forest)
      (Builder.ofEvents mixedEvents).headings ∧
    (Builder.ofEvents mixedEvents).headings.map Node.id? = [some "See_also", none] ∧
    ∃ html, .block html ∈ EventTree.headingsOfAll forest ∧ HtmlElement.givenId? html = none := by
  obtain ⟨forest, hforest, hbecomes, hall⟩ := headings_ofEvents mixedEvents
  have hbalanced : Markdown.balanced mixedEvents = mixedEvents := by decide
  have hids : (Builder.ofEvents mixedEvents).headings.map Node.id? = [some "See_also", none] := by
    decide +kernel
  obtain ⟨heading, hheading, hnone⟩ : ∃ heading ∈ (Builder.ofEvents mixedEvents).headings,
      heading.id? = none := List.mem_map.mp (by rw [hids]; decide)
  obtain ⟨html, hhtml, hgiven⟩ : ∃ html, .block html ∈ EventTree.headingsOfAll forest ∧
      HtmlElement.givenId? html = none := by
    by_contra hgiven
    have hsome := hall.mpr fun html hhtml => Option.isSome_iff_ne_none.mpr fun h =>
      hgiven ⟨html, hhtml, h⟩
    exact absurd hnone (Option.isSome_iff_ne_none.mp (hsome heading hheading))
  exact ⟨forest, hforest.trans hbalanced, hbecomes, hids, html, hhtml, hgiven⟩

/-- A page whose only heading is written as an HTML block. -/
def untitledPage : String := "<h2>Title</h2>\n"

/-- The heading has no id, although its title has one. -/
theorem headings_untitledPage : ∃ heading ∈ (Node.ofMarkdown untitledPage).headings,
    heading.id? = none ∧ headingId heading.textContent = "Title" := by
  have h : ((Node.ofMarkdown untitledPage).headings.map fun heading =>
      (heading.id?, headingId heading.textContent)) = [(none, "Title")] := by decide +kernel
  obtain ⟨heading, hheading, hid⟩ := List.mem_map.mp (h ▸ List.mem_singleton_self (none, "Title"))
  exact ⟨heading, hheading, Prod.mk.inj hid⟩

end PageRecipe

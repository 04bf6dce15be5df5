import PageRecipe.Prose.Builder
import PageRecipe.Proofs.Prose.EventForest
import PageRecipe.Proofs.Prose.Headings

/-!
# The tree of a forest of events

`Builder.push` folds events into a stack of open elements whose children stand in reverse. Here
a forest of events is translated by recursion (`translateAll`) : a start and its stop become one
element with the translation of what they enclose, and a text goes into the sibling in front of
it when that is a text.

A builder that takes nodes keeps its stack over the events of a forest, and the children of its
innermost element grow by the translation (`foldl_push_eventsOfAll`). So the tree of the events
of a forest is its translation under a `body` element (`ofEvents_eventsOfAll`), and all
well-nested events have a forest (`ofEvents_eq_translation`).
-/

namespace PageRecipe

open Markdown (Tag Event EventTree)

namespace Markdown

/-! ## The translation -/

/-- The tag of the element that an event opens. -/
def Tag.elementTag : Tag → String
  | .paragraph => "p"
  | .heading level _ _ => "h" ++ toString level
  | .blockQuote _ => "blockquote"
  | .codeBlock => "pre"
  | .list true => "ol"
  | .list false => "ul"
  | .item => "li"
  | .definitionList => "dl"
  | .definitionTerm => "dt"
  | .definitionBody => "dd"
  | .table => "table"
  | .tableHead => "thead"
  | .tableRow => "tr"
  | .tableCell => "td"
  | .emphasis => "em"
  | .strong => "strong"
  | .strikethrough => "del"
  | .link => "a"
  | .image => "img"
  | .htmlBlock | .footnoteDefinition | .metadataBlock => "div"

/-- The id of the element : the one that a heading is given, or the one of its title. -/
def Tag.elementId (tag : Tag) (children : List Node) : Option String :=
  match tag with
  | .heading _ (some id) _ => some id
  | .heading level none _ =>
    if 1 ≤ level ∧ level ≤ 6 then some (headingId (Node.textContents children)) else none
  | _ => none

/-- The classes of the element : those that a heading is given, or the kind of an alert. -/
def Tag.elementClasses : Tag → List String
  | .heading _ _ classes => classes
  | .blockQuote (some .note) => ["note"]
  | .blockQuote (some .tip) => ["tip"]
  | .blockQuote (some .important) => ["important"]
  | .blockQuote (some .warning) => ["warning"]
  | .blockQuote (some .caution) => ["caution"]
  | _ => []

/-- The element of a start, its stop and what they enclose. -/
def Tag.element (tag : Tag) (children : List Node) : Node :=
  .element tag.elementTag (tag.elementId children) tag.elementClasses children

/-- Siblings with a text behind them : it goes into the last sibling if that is a text. -/
def appendText (siblings : List Node) (value : String) : List Node :=
  match siblings.getLast? with
  | some (.text last) => siblings.dropLast ++ [.text (last ++ value)]
  | _ => siblings ++ [.text value]

/-- Siblings with what stands for an event that opens and closes nothing. -/
def Event.translate (siblings : List Node) : Event → List Node
  | .text value | .html value | .inlineHtml value | .inlineMath value | .displayMath value =>
    appendText siblings value
  | .softBreak => appendText siblings "\n"
  | .code value => siblings ++ [.branch "code" [.text value]]
  | .footnoteReference label => siblings ++ [.branch "sup" [.text label]]
  | .hardBreak => siblings ++ [.bare "br"]
  | .rule => siblings ++ [.bare "hr"]
  | .taskListMarker _ | .start _ | .stop => siblings

namespace EventTree

mutual

/-- Siblings with what a tree of events becomes behind them. -/
def translate (siblings : List Node) : EventTree → List Node
  | enclosed tag _ inner => siblings ++ [tag.element (translateAll [] inner)]
  | htmlBlock pieces => siblings ++ [HtmlElement.nodeOf (String.join pieces)]
  | single event _ => event.translate siblings

/-- Siblings with what a forest of events becomes behind them. -/
def translateAll (siblings : List Node) : List EventTree → List Node
  | [] => siblings
  | tree :: rest => translateAll (translate siblings tree) rest

end

end EventTree

end Markdown

/-! ## Opening and closing elements -/

namespace OpenElement

/-- Only the id of an element depends on its children, and only for a heading without one. -/
theorem close_element (tag : String) (id : Option String) (classes : List String)
    (children : List Node) :
    close (.element tag id classes children) =
      .element tag
        (if (Node.bare tag).isHeading = true ∧ id = none then
          some (headingId (Node.textContents children.reverse)) else id)
        classes children.reverse := by
  have hheading : (Node.element tag id classes children.reverse).isHeading =
      (Node.bare tag).isHeading := rfl
  rw [close, withHeadingId, hheading]
  cases id with
  | none => cases (Node.bare tag).isHeading <;> simp [Node.withId, Node.id?, Node.textContent]
  | some id => simp [Node.id?]

/-- An element is opened with its tag, its classes and the id that it is given. When it is
closed, its children make it the element of the translation. -/
theorem exists_ofTag_eq_element {tag : Tag} (h : tag ≠ .htmlBlock) :
    ∃ id, ofTag tag = .element tag.elementTag id tag.elementClasses [] ∧
      ∀ children, close (.element tag.elementTag id tag.elementClasses children) =
        tag.element children.reverse := by
  cases tag with
  | htmlBlock => exact absurd rfl h
  | heading level id classes =>
    refine ⟨id, rfl, fun children => ?_⟩
    rw [close_element, Tag.element, Tag.elementTag, Node.isHeading, Node.bare,
      Node.headingRank?_of_level]
    cases id with
    | none => by_cases hlevel : 1 ≤ level ∧ level ≤ 6 <;> simp [Tag.elementId, hlevel]
    | some id => simp [Tag.elementId]
  | blockQuote alert =>
    cases alert with
    | none => exact ⟨none, rfl, fun children => close_element _ _ _ _⟩
    | some alert => cases alert <;> exact ⟨none, rfl, fun children => close_element _ _ _ _⟩
  | list ordered => cases ordered <;> exact ⟨none, rfl, fun children => close_element _ _ _ _⟩
  | _ => exact ⟨none, rfl, fun children => close_element _ _ _ _⟩

end OpenElement

namespace Builder

/-! ## The innermost element -/

/-- The builder takes nodes : its innermost element is no HTML block. -/
def TakesNodes (builder : Builder) : Prop := ∀ html outer, builder.stack ≠ .raw html :: outer

theorem modify_modify (builder : Builder) (f g : List Node → List Node) :
    (builder.modify f).modify g = builder.modify (g ∘ f) := by
  obtain ⟨body, _ | ⟨_ | _, outer⟩⟩ := builder <;> rfl

theorem modify_id (builder : Builder) : builder.modify id = builder := by
  obtain ⟨body, _ | ⟨_ | _, outer⟩⟩ := builder <;> rfl

theorem TakesNodes.modify {builder : Builder} (h : builder.TakesNodes)
    (f : List Node → List Node) : (builder.modify f).TakesNodes := by
  obtain ⟨body, _ | ⟨_ | html, outer⟩⟩ := builder
  · simp [TakesNodes, Builder.modify]
  · simp [TakesNodes, Builder.modify]
  · exact absurd rfl (h html outer)

/-- Children in reverse grow by what is translated behind the children in order. -/
def grow (translate : List Node → List Node) (children : List Node) : List Node :=
  (translate children.reverse).reverse

theorem addText_eq_grow (value : String) :
    addText value = grow (Markdown.appendText · value) := by
  funext children
  rw [grow, Markdown.appendText, List.getLast?_reverse]
  rcases children with _ | ⟨_ | last, rest⟩ <;> simp [addText]

theorem cons_eq_grow (node : Node) : (node :: ·) = grow (· ++ [node]) := by
  funext children
  rw [grow, List.reverse_append, List.reverse_reverse, List.reverse_singleton,
    List.singleton_append]

theorem grow_id : grow id = id := by
  funext children
  rw [grow, id, List.reverse_reverse, id]

theorem grow_comp (f g : List Node → List Node) : grow g ∘ grow f = grow (g ∘ f) := by
  funext children
  simp only [grow, Function.comp_apply, List.reverse_reverse]

/-! ## Pushing a forest -/

/-- Raw HTML outside of an HTML block is a text. -/
theorem TakesNodes.appendHtml_eq {builder : Builder} (h : builder.TakesNodes) (value : String) :
    builder.appendHtml value = builder.appendText value := by
  obtain ⟨body, _ | ⟨_ | html, outer⟩⟩ := builder
  · rfl
  · rfl
  · exact absurd rfl (h html outer)

theorem push_single {builder : Builder} (h : builder.TakesNodes) {event : Event}
    (hsingle : event.IsSingle) :
    builder.push event = builder.modify (grow event.translate) := by
  cases event with
  | start tag => exact absurd rfl (hsingle.1 tag)
  | stop => exact absurd rfl hsingle.2
  | html value => exact (h.appendHtml_eq value).trans (congrArg _ (addText_eq_grow value))
  | text value | inlineHtml value | inlineMath value | displayMath value =>
    exact congrArg builder.modify (addText_eq_grow value)
  | softBreak => exact congrArg builder.modify (addText_eq_grow "\n")
  | code _ | footnoteReference _ | hardBreak | rule =>
    exact congrArg builder.modify (cons_eq_grow _)
  | taskListMarker _ => exact (builder.modify_id.symm).trans (congrArg _ grow_id.symm)

theorem takesNodes_start (builder : Builder) {tag : Tag} (h : tag ≠ .htmlBlock) :
    (builder.start tag).TakesNodes := by
  obtain ⟨id, hopen, -⟩ := OpenElement.exists_ofTag_eq_element h
  simp [TakesNodes, start, hopen]

/-- An element that is closed goes to the element around it. -/
theorem stop_modify_start (builder : Builder) {tag : Tag} (h : tag ≠ .htmlBlock)
    (f : List Node → List Node) :
    ((builder.start tag).modify f).stop = builder.append (tag.element (f []).reverse) := by
  obtain ⟨id, hopen, hclose⟩ := OpenElement.exists_ofTag_eq_element h
  rw [start, hopen, ← hclose]
  rfl

/-- The pieces of an HTML block are joined. -/
theorem foldl_push_html (body : List Node) (outer : List OpenElement) (html : String)
    (pieces : List String) :
    (pieces.map Event.html).foldl push ⟨body, .raw html :: outer⟩ =
      ⟨body, .raw (pieces.foldl (· ++ ·) html) :: outer⟩ := by
  induction pieces generalizing html with
  | nil => rfl
  | cons piece pieces ih => exact ih (html ++ piece)

mutual

/-- The events of a tree leave the stack as it was. The children of the innermost element grow
by what the tree becomes. -/
theorem foldl_push_events : ∀ (tree : EventTree) {builder : Builder}, builder.TakesNodes →
    tree.events.foldl push builder = builder.modify (grow tree.translate)
  | .enclosed tag isElement inner, builder, h => by
    have hinner := foldl_push_eventsOfAll inner (takesNodes_start builder isElement)
    rw [EventTree.events, List.foldl_cons, List.foldl_append, push, hinner, List.foldl_cons,
      List.foldl_nil, push, stop_modify_start builder isElement, append, cons_eq_grow, grow,
      List.reverse_reverse]
    rfl
  | .htmlBlock pieces, builder, h => by
    obtain ⟨body, stack⟩ := builder
    rw [EventTree.events, List.foldl_cons, List.foldl_append, push, start, OpenElement.ofTag,
      foldl_push_html]
    exact congrArg (modify ⟨body, stack⟩)
      (cons_eq_grow (HtmlElement.nodeOf (String.join pieces)))
  | .single event isSingle, builder, h => push_single h isSingle

/-- The events of a forest leave the stack as it was. The children of the innermost element grow
by what the forest becomes. -/
theorem foldl_push_eventsOfAll : ∀ (forest : List EventTree) {builder : Builder},
    builder.TakesNodes → (EventTree.eventsOfAll forest).foldl push builder =
      builder.modify (grow (EventTree.translateAll · forest))
  | [], builder, _ => (builder.modify_id.symm).trans (congrArg _ grow_id.symm)
  | tree :: rest, builder, h => by
    rw [EventTree.eventsOfAll, List.foldl_append, foldl_push_events tree h,
      foldl_push_eventsOfAll rest (h.modify _), modify_modify, grow_comp]
    rfl

end

/-- The tree of the events of a forest is its translation. -/
theorem ofEvents_eventsOfAll (forest : List EventTree) :
    ofEvents (EventTree.eventsOfAll forest) =
      .branch "body" (EventTree.translateAll [] forest) := by
  have hempty : empty.TakesNodes := by simp [TakesNodes, empty]
  have hbody : (empty.modify (grow (EventTree.translateAll · forest))).finish =
      .branch "body" (EventTree.translateAll [] forest).reverse.reverse := rfl
  rw [ofEvents, foldl_push_eventsOfAll forest hempty, hbody, List.reverse_reverse]

/-- Well-nested sequences of events are those that forests spell, and the tree of such events is
the translation of their forest, under a `body` element. -/
theorem ofEvents_eq_translation :
    (∀ events, Markdown.WellNested events ↔ ∃ forest, EventTree.eventsOfAll forest = events) ∧
    ∀ forest, ofEvents (EventTree.eventsOfAll forest) =
      .branch "body" (EventTree.translateAll [] forest) :=
  ⟨Markdown.wellNested_iff_exists_forest, ofEvents_eventsOfAll⟩

end Builder

end PageRecipe

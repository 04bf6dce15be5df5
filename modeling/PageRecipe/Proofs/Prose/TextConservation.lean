import PageRecipe.Proofs.Prose.BalancedEvents

/-!
# No text is lost

The text of a builder that is not finished is the text of its body followed by the texts of its
open elements, outermost first (`Builder.textContent`). While no HTML block is open, every event
adds its own text at the end (`textContent_push`) : a stop moves the text of the innermost
element to the element around it, where it stands last, and opening an element adds none.

So the text of the finished tree is what the events say, in their order, however their starts
and stops fit together (`textContent_ofEvents`).
-/

namespace PageRecipe

open Markdown (Tag Event)

namespace Markdown

/-- What an event adds to the text : the value of a text, of HTML, of math, of code or of the
label of a footnote, and a line break for a soft break. -/
def Event.addedText : Event → String
  | .text value | .html value | .inlineHtml value | .inlineMath value | .displayMath value => value
  | .code value => value
  | .footnoteReference label => label
  | .softBreak => "\n"
  | .start _ | .stop | .hardBreak | .rule | .taskListMarker _ => ""

/-- The texts that some events add, in order. -/
def addedTexts (events : List Event) : String := String.join (events.map Event.addedText)

theorem addedTexts_cons (event : Event) (rest : List Event) :
    addedTexts (event :: rest) = event.addedText ++ addedTexts rest := by
  simp [addedTexts]

theorem addedTexts_append (front back : List Event) :
    addedTexts (front ++ back) = addedTexts front ++ addedTexts back := by
  simp [addedTexts]

theorem addedTexts_stops (n : Nat) : addedTexts (List.replicate n .stop) = "" := by
  induction n with
  | zero => rfl
  | succ n ih => simp [List.replicate_succ, addedTexts_cons, Event.addedText, ih]

/-- Closing what is left open adds no text. -/
theorem addedTexts_closed (events : List Event) :
    addedTexts (closed events) = addedTexts events := by
  simp [closed, addedTexts_append, addedTexts_stops]

theorem notMem_closed {events : List Event} {tag : Tag} (h : .start tag ∉ events) :
    .start tag ∉ closed events := by
  simp [closed, h]

/-- No HTML block is open behind an event that does not open one. -/
theorem noneOpen_leavesOpen {opened : List Tag} {event : Event}
    (h : opened.any Tag.isHtmlBlock = false) (hevent : event ≠ .start .htmlBlock) :
    (event.leavesOpen opened).any Tag.isHtmlBlock = false := by
  cases event with
  | start tag =>
    have htag : tag ≠ .htmlBlock := fun heq => hevent (congrArg Event.start heq)
    simpa [Event.leavesOpen, Tag.isHtmlBlock, htag] using h
  | stop => exact any_tail_eq_false h
  | _ => exact h

end Markdown

/-! ## The text of open elements -/

theorem Node.textContents_append (front back : List Node) :
    textContents (front ++ back) = textContents front ++ textContents back := by
  induction front with
  | nil => simp [textContents]
  | cons node rest ih => simp [textContents, ih, String.append_assoc]

namespace OpenElement

/-- The text of an open element : that of its children so far, or its HTML. -/
def textContent : OpenElement → String
  | .element _ _ _ children => Node.textContents children.reverse
  | .raw html => html

/-- The texts of open elements, outermost first. -/
def textContents : List OpenElement → String
  | [] => ""
  | inner :: outer => textContents outer ++ inner.textContent

/-- An element that has just been opened has no text. -/
theorem textContent_ofTag (tag : Tag) : (ofTag tag).textContent = "" := by
  cases tag with
  | list ordered => cases ordered <;> rfl
  | _ => rfl

/-- Closing an element keeps its text. An HTML block loses its markup. -/
theorem textContent_close {element : OpenElement} (h : element.isRaw = false) :
    element.close.textContent = element.textContent := by
  cases element with
  | element tag id classes children => rw [close_element, Node.textContent, textContent]
  | raw html => simp [isRaw] at h

end OpenElement

namespace Builder

/-- The text of what is built so far, in document order. -/
def textContent (builder : Builder) : String :=
  Node.textContents builder.body.reverse ++ OpenElement.textContents builder.stack

/-! ## One event -/

section Push

variable {builder : Builder}

/-- What the children of the innermost element gain, the builder gains at its end. -/
theorem textContent_modify (h : builder.stack.any OpenElement.isRaw = false)
    {f : List Node → List Node} {added : String}
    (hf : ∀ children, Node.textContents (f children).reverse =
      Node.textContents children.reverse ++ added) :
    (builder.modify f).textContent = builder.textContent ++ added := by
  obtain ⟨body, _ | ⟨⟨tag, id, classes, children⟩ | html, outer⟩⟩ := builder
  · simp [modify, textContent, OpenElement.textContents, hf]
  · simp [modify, textContent, OpenElement.textContents, OpenElement.textContent, hf,
      String.append_assoc]
  · simp [OpenElement.isRaw] at h

theorem textContents_addText (value : String) (children : List Node) :
    Node.textContents (addText value children).reverse =
      Node.textContents children.reverse ++ value := by
  rcases children with _ | ⟨_ | last, rest⟩ <;>
    simp [addText, Node.textContents_append, Node.textContents, Node.textContent,
      String.append_assoc]

theorem textContent_appendText (h : builder.stack.any OpenElement.isRaw = false)
    (value : String) : (builder.appendText value).textContent = builder.textContent ++ value :=
  textContent_modify h (textContents_addText value)

theorem textContent_append (h : builder.stack.any OpenElement.isRaw = false) (node : Node) :
    (builder.append node).textContent = builder.textContent ++ node.textContent := by
  refine textContent_modify h fun children => ?_
  simp [Node.textContents_append, Node.textContents]

/-- The text of the innermost element is the last one, before it is closed and behind. -/
theorem textContent_stop (h : builder.stack.any OpenElement.isRaw = false) :
    builder.stop.textContent = builder.textContent := by
  obtain ⟨body, _ | ⟨inner, outer⟩⟩ := builder
  · rfl
  · obtain ⟨hinner, houter⟩ := Bool.or_eq_false_iff.mp h
    calc (append ⟨body, outer⟩ inner.close).textContent
        = textContent ⟨body, outer⟩ ++ inner.textContent := by
          rw [textContent_append houter, OpenElement.textContent_close hinner]
      _ = textContent ⟨body, inner :: outer⟩ := by
          simp [textContent, OpenElement.textContents, String.append_assoc]

theorem textContent_appendHtml (h : builder.stack.any OpenElement.isRaw = false)
    (value : String) : (builder.appendHtml value).textContent = builder.textContent ++ value := by
  have htakes : builder.TakesNodes := by
    intro html outer hstack
    simp [hstack, OpenElement.isRaw] at h
  rw [htakes.appendHtml_eq, textContent_appendText h]

/-- While no HTML block is open, an event adds its text at the end. -/
theorem textContent_push (h : builder.stack.any OpenElement.isRaw = false) (event : Event) :
    (builder.push event).textContent = builder.textContent ++ event.addedText := by
  cases event with
  | start tag =>
    simp [push, start, textContent, OpenElement.textContents, OpenElement.textContent_ofTag,
      Event.addedText]
  | stop => simp [push, Event.addedText, textContent_stop h]
  | html value => exact textContent_appendHtml h value
  | text value | inlineHtml value | inlineMath value | displayMath value | softBreak =>
    exact textContent_appendText h _
  | code value | footnoteReference value | hardBreak | rule =>
    simp [push, textContent_append h, Event.addedText, Node.branch, Node.bare, Node.textContent,
      Node.textContents]
  | taskListMarker isDone => simp [push, Event.addedText]

end Push

/-! ## All events -/

/-- Events that open no HTML block add their texts, one behind the other. -/
theorem textContent_foldl_push (events : List Event) {opened : List Tag} {builder : Builder}
    (hopen : builder.HasOpen opened) (hnone : opened.any Tag.isHtmlBlock = false)
    (h : .start .htmlBlock ∉ events) :
    (events.foldl push builder).textContent =
      builder.textContent ++ Markdown.addedTexts events := by
  induction events generalizing opened builder with
  | nil => simp [Markdown.addedTexts]
  | cons event rest ih =>
    simp only [List.mem_cons, not_or] at h
    obtain ⟨hevent, hrest⟩ := h
    have hraw : builder.stack.any OpenElement.isRaw = false := by rw [hopen.any_eq, hnone]
    have hbehind := Markdown.noneOpen_leavesOpen hnone (Ne.symm hevent)
    calc ((event :: rest).foldl push builder).textContent
        = (builder.push event).textContent ++ Markdown.addedTexts rest :=
          ih (hopen.push event) hbehind hrest
      _ = builder.textContent ++ (event.addedText ++ Markdown.addedTexts rest) := by
          rw [textContent_push hraw, String.append_assoc]
      _ = builder.textContent ++ Markdown.addedTexts (event :: rest) := by
          rw [Markdown.addedTexts_cons]

/-- The text of a tree whose events open no HTML block is the text that the events add, in their
order. A stop without a start and a start without a stop take nothing away and move nothing. -/
theorem textContent_ofEvents (events : List Event) (h : .start .htmlBlock ∉ events) :
    (ofEvents events).textContent = String.join (events.map Event.addedText) := by
  obtain ⟨body, hclosed, hbody⟩ := exists_body_ofEvents events
  have hopen : empty.HasOpen [] := rfl
  have htext := textContent_foldl_push (Markdown.closed events) hopen rfl
    (Markdown.notMem_closed h)
  rw [hclosed, Markdown.addedTexts_closed] at htext
  calc (ofEvents events).textContent
      = (⟨body, []⟩ : Builder).textContent := by
        simp [hbody, Node.branch, Node.textContent, textContent, OpenElement.textContents]
    _ = empty.textContent ++ Markdown.addedTexts events := htext
    _ = String.join (events.map Event.addedText) := by
        simp [textContent, empty, Node.textContents, OpenElement.textContents,
          Markdown.addedTexts]

/-- Events that close more than they open, and less. -/
def looseEvents : List Event :=
  [.stop, .text "a", .start .emphasis, .html "<b>", .stop, .stop, .softBreak,
    .start (.heading 2 none []), .code "f x", .start .strong, .rule, .footnoteReference "1",
    .taskListMarker true, .displayMath "y"]

theorem textContent_looseEvents :
    .start .htmlBlock ∉ looseEvents ∧
      (ofEvents looseEvents).textContent = "a<b>\nf x1y" := by
  have hnone : .start .htmlBlock ∉ looseEvents := by decide
  exact ⟨hnone, (textContent_ofEvents looseEvents hnone).trans (by decide)⟩

end Builder

end PageRecipe

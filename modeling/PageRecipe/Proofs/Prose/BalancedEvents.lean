import PageRecipe.Proofs.Prose.Translation

/-!
# Events in any order

A builder takes events in any order. A stop without a start is ignored, what stands inside an
HTML block besides its HTML is lost, and what is still open at the end is closed. `balanced`
says this about the events themselves : it leaves out the events that do not count and closes
what they leave open. The result is well nested (`wellNested_balanced`), events that are well
nested already stay as they are (`balanced_of_wellNested`), and the tree is the same
(`ofEvents_balanced`).

The argument follows one stack. While an HTML block is open around the innermost element, all
that a builder is told is lost on it (`outside_push_of_not_counts`) ; otherwise the builder and
the one that takes only what counts are the same (`push_outside_of_counts`). So every sequence of
events has a forest whose translation is its tree (`exists_forest_ofEvents`).
-/

namespace PageRecipe

open Markdown (Tag Event EventTree)

namespace Markdown

/-! ## The events that count -/

/-- The event opens an HTML block. -/
def Tag.isHtmlBlock (tag : Tag) : Bool := tag == .htmlBlock

/-- A stack, innermost first, without what stands inside an element that encloses HTML. -/
def outsideOf {α : Type} (isHtml : α → Bool) : List α → List α
  | [] => []
  | inner :: outer => if outer.any isHtml then outsideOf isHtml outer else inner :: outer

/-- The event makes a difference where these tags are open, innermost first : inside an HTML
block only its HTML and its own stop do. -/
def Event.counts (opened : List Tag) : Event → Bool
  | .stop => !opened.isEmpty && !opened.tail.any Tag.isHtmlBlock
  | .html _ => !opened.tail.any Tag.isHtmlBlock
  | _ => !opened.any Tag.isHtmlBlock

/-- The tags that are open behind an event. -/
def Event.leavesOpen (opened : List Tag) : Event → List Tag
  | .start tag => tag :: opened
  | .stop => opened.tail
  | _ => opened

/-- The tags that are open behind some events. -/
def leftOpen (opened : List Tag) (events : List Event) : List Tag :=
  events.foldl Event.leavesOpen opened

/-- The events that count. -/
def counted : List Tag → List Event → List Event
  | _, [] => []
  | opened, event :: rest =>
    if event.counts opened then event :: counted (event.leavesOpen opened) rest
    else counted (event.leavesOpen opened) rest

/-- The events with a stop for everything that they leave open. -/
def closed (events : List Event) : List Event :=
  events ++ List.replicate (leftOpen [] events).length .stop

/-- The events that count, with a stop for everything that they leave open. -/
def balanced (events : List Event) : List Event := counted [] (closed events)

/-! ## Stacks -/

section Stacks

variable {α β : Type} {isHtml : α → Bool} {isRaw : β → Bool}

theorem outsideOf_of_any {inner : α} {outer : List α} (h : outer.any isHtml = true) :
    outsideOf isHtml (inner :: outer) = outsideOf isHtml outer := by
  rw [outsideOf, if_pos h]

theorem outsideOf_eq_self {stack : List α} (h : stack.tail.any isHtml = false) :
    outsideOf isHtml stack = stack := by
  cases stack with
  | nil => rfl
  | cons inner outer => rw [outsideOf, if_neg (by simpa using h)]

/-- Two stacks with the same marks have a mark or not together. -/
theorem any_eq_of_map_eq {xs : List α} {ys : List β} (h : xs.map isHtml = ys.map isRaw) :
    xs.any isHtml = ys.any isRaw := by
  simpa [List.any_map] using congrArg (List.any · id) h

end Stacks

theorem any_tail_eq_false {opened : List Tag} (h : opened.any Tag.isHtmlBlock = false) :
    opened.tail.any Tag.isHtmlBlock = false := by
  cases opened with
  | nil => rfl
  | cons tag outer => exact (Bool.or_eq_false_iff.mp h).2

/-- Around an event that counts there is no HTML block, neither before nor behind it. -/
theorem any_tail_of_counts {opened : List Tag} {event : Event} (h : event.counts opened = true) :
    opened.tail.any Tag.isHtmlBlock = false ∧
      (event.leavesOpen opened).tail.any Tag.isHtmlBlock = false := by
  cases event with
  | start tag =>
    have hopened : opened.any Tag.isHtmlBlock = false := by simpa [Event.counts] using h
    exact ⟨any_tail_eq_false hopened, hopened⟩
  | stop =>
    have hopened : opened.tail.any Tag.isHtmlBlock = false := by
      simpa using (Bool.and_eq_true_iff.mp h).2
    exact ⟨hopened, any_tail_eq_false hopened⟩
  | html value =>
    have hopened : opened.tail.any Tag.isHtmlBlock = false := by simpa [Event.counts] using h
    exact ⟨hopened, hopened⟩
  | _ =>
    have hopened : opened.any Tag.isHtmlBlock = false := by simpa [Event.counts] using h
    exact ⟨any_tail_eq_false hopened, any_tail_eq_false hopened⟩

/-- Where no HTML block encloses the innermost element, events nest when the first one counts and
the others nest behind it. -/
theorem nests_cons_iff {opened : List Tag} (h : opened.tail.any Tag.isHtmlBlock = false)
    (event : Event) (rest : List Event) : Nests opened (event :: rest) ↔
      event.counts opened = true ∧ Nests (event.leavesOpen opened) rest := by
  have hhead : opened.head? ≠ some .htmlBlock ↔ (!opened.any Tag.isHtmlBlock) = true := by
    cases opened with
    | nil => simp
    | cons tag outer =>
      have houter : outer.any Tag.isHtmlBlock = false := h
      simp [houter, Tag.isHtmlBlock]
  cases event with
  | stop =>
    cases opened with
    | nil => simp [Nests, Event.counts]
    | cons tag outer =>
      have houter : outer.any Tag.isHtmlBlock = false := h
      simp [Nests, Event.counts, Event.leavesOpen, houter]
  | html value => simp [Nests, Event.counts, Event.leavesOpen, h]
  | _ => simp only [Nests, Event.counts, Event.leavesOpen, hhead]

/-- An event that does not count opens and closes nothing outside of HTML blocks. -/
theorem outsideOf_leavesOpen_of_not_counts {opened : List Tag} {event : Event}
    (h : event.counts opened = false) :
    outsideOf Tag.isHtmlBlock (event.leavesOpen opened) = outsideOf Tag.isHtmlBlock opened := by
  cases event with
  | start tag =>
    have hopened : opened.any Tag.isHtmlBlock = true := by simpa [Event.counts] using h
    exact outsideOf_of_any hopened
  | stop =>
    cases opened with
    | nil => rfl
    | cons tag outer =>
      have houter : outer.any Tag.isHtmlBlock = true := by simpa [Event.counts] using h
      exact (outsideOf_of_any houter).symm
  | _ => rfl

/-- What counts of events that leave nothing open is well nested. -/
theorem nests_counted (events : List Event) {opened : List Tag}
    (h : leftOpen opened events = []) :
    Nests (outsideOf Tag.isHtmlBlock opened) (counted opened events) := by
  induction events generalizing opened with
  | nil =>
    have hopened : opened = [] := h
    rw [hopened, counted, outsideOf, Nests]
  | cons event rest ih =>
    have hrest := ih h
    rw [counted]
    cases hcounts : event.counts opened with
    | true =>
      obtain ⟨hbefore, hbehind⟩ := any_tail_of_counts hcounts
      rw [outsideOf_eq_self hbehind] at hrest
      rw [if_pos rfl, outsideOf_eq_self hbefore, nests_cons_iff hbefore]
      exact ⟨hcounts, hrest⟩
    | false =>
      rw [outsideOf_leavesOpen_of_not_counts hcounts] at hrest
      rwa [if_neg (by simp)]

/-- Of events that nest, all count, and they leave nothing open. -/
theorem counted_of_nests (events : List Event) {opened : List Tag}
    (hopened : opened.tail.any Tag.isHtmlBlock = false) (h : Nests opened events) :
    counted opened events = events ∧ leftOpen opened events = [] := by
  induction events generalizing opened with
  | nil => exact ⟨rfl, h⟩
  | cons event rest ih =>
    obtain ⟨hcounts, hrest⟩ := (nests_cons_iff hopened event rest).mp h
    obtain ⟨heq, hopen⟩ := ih (any_tail_of_counts hcounts).2 hrest
    exact ⟨by rw [counted, if_pos hcounts, heq], hopen⟩

theorem leftOpen_stops (opened : List Tag) (n : Nat) :
    leftOpen opened (List.replicate n .stop) = opened.drop n := by
  induction n generalizing opened with
  | zero => rfl
  | succ n ih =>
    have hstep : leftOpen opened (List.replicate (n + 1) .stop) =
        leftOpen opened.tail (List.replicate n .stop) := rfl
    rw [hstep, ih, List.drop_tail]

theorem leftOpen_closed (events : List Event) : leftOpen [] (closed events) = [] := by
  rw [closed, leftOpen, List.foldl_append]
  exact (leftOpen_stops (leftOpen [] events) _).trans (List.drop_length)

/-- Any events are made well nested. -/
theorem wellNested_balanced (events : List Event) : WellNested (balanced events) :=
  nests_counted (closed events) (leftOpen_closed events)

/-- Events that are well nested stay as they are. -/
theorem balanced_of_wellNested {events : List Event} (h : WellNested events) :
    balanced events = events := by
  obtain ⟨heq, hopen⟩ := counted_of_nests events rfl h
  rw [balanced, closed, hopen, List.length_nil, List.replicate_zero, List.append_nil, heq]

end Markdown

/-! ## What is lost -/

namespace OpenElement

/-- The element is an HTML block. -/
def isRaw : OpenElement → Bool
  | .raw _ => true
  | .element .. => false

theorem isRaw_ofTag (tag : Tag) : (ofTag tag).isRaw = tag.isHtmlBlock := by
  cases tag with
  | list ordered => cases ordered <;> rfl
  | _ => rfl

end OpenElement

namespace Builder

/-- The builder has these tags open. -/
def HasOpen (opened : List Tag) (builder : Builder) : Prop :=
  builder.stack.map OpenElement.isRaw = opened.map Tag.isHtmlBlock

/-- The builder without what stands inside an HTML block. -/
def outside (builder : Builder) : Builder :=
  { builder with stack := Markdown.outsideOf OpenElement.isRaw builder.stack }

theorem map_isRaw_modify (builder : Builder) (f : List Node → List Node) :
    (builder.modify f).stack.map OpenElement.isRaw = builder.stack.map OpenElement.isRaw := by
  obtain ⟨body, _ | ⟨_ | _, outer⟩⟩ := builder <;> rfl

theorem map_isRaw_appendHtml (builder : Builder) (value : String) :
    (builder.appendHtml value).stack.map OpenElement.isRaw =
      builder.stack.map OpenElement.isRaw := by
  obtain ⟨body, _ | ⟨_ | _, outer⟩⟩ := builder <;> rfl

theorem map_isRaw_stop (builder : Builder) :
    builder.stop.stack.map OpenElement.isRaw = (builder.stack.map OpenElement.isRaw).tail := by
  obtain ⟨body, _ | ⟨inner, outer⟩⟩ := builder
  · rfl
  · exact map_isRaw_modify ⟨body, outer⟩ _

section Push

variable {builder : Builder} {opened : List Tag} {event : Event}

theorem HasOpen.any_eq (h : builder.HasOpen opened) :
    builder.stack.any OpenElement.isRaw = opened.any Tag.isHtmlBlock :=
  Markdown.any_eq_of_map_eq h

theorem HasOpen.any_tail_eq (h : builder.HasOpen opened) :
    builder.stack.tail.any OpenElement.isRaw = opened.tail.any Tag.isHtmlBlock :=
  Markdown.any_eq_of_map_eq (by rw [List.map_tail, List.map_tail, h])

theorem HasOpen.push (h : builder.HasOpen opened) (event : Event) :
    (builder.push event).HasOpen (event.leavesOpen opened) := by
  cases event with
  | start tag =>
    rw [HasOpen, Builder.push, start, Event.leavesOpen, List.map_cons, List.map_cons, h,
      OpenElement.isRaw_ofTag]
  | stop =>
    rw [HasOpen, Builder.push, map_isRaw_stop, h, Event.leavesOpen, List.map_tail]
  | html value => exact (map_isRaw_appendHtml builder value).trans h
  | taskListMarker isDone => exact h
  | _ => exact (map_isRaw_modify builder _).trans h

/-- A builder with no HTML block around the innermost element loses nothing. -/
theorem outside_eq_self (h : builder.stack.tail.any OpenElement.isRaw = false) :
    builder.outside = builder := by
  rw [outside, Markdown.outsideOf_eq_self h]

/-- Inside an HTML block, nodes are lost : on the block itself, or with the element that they go
to. -/
theorem outside_modify (h : builder.stack.any OpenElement.isRaw = true)
    (f : List Node → List Node) : (builder.modify f).outside = builder.outside := by
  obtain ⟨body, _ | ⟨_ | html, outer⟩⟩ := builder
  · cases h
  · have houter : outer.any OpenElement.isRaw = true := h
    simp only [modify, outside, Markdown.outsideOf_of_any houter]
  · rfl

theorem outside_appendHtml (h : builder.stack.tail.any OpenElement.isRaw = true)
    (value : String) : (builder.appendHtml value).outside = builder.outside := by
  obtain ⟨body, _ | ⟨_ | html, outer⟩⟩ := builder
  · cases h
  · exact outside_modify (by simpa [OpenElement.isRaw] using h) _
  · have houter : outer.any OpenElement.isRaw = true := h
    simp only [appendHtml, outside, Markdown.outsideOf_of_any houter]

theorem outside_stop (h : builder.stack.tail.any OpenElement.isRaw = true) :
    builder.stop.outside = builder.outside := by
  obtain ⟨body, _ | ⟨inner, outer⟩⟩ := builder
  · cases h
  · have houter : outer.any OpenElement.isRaw = true := h
    have hlost : (stop ⟨body, inner :: outer⟩).outside = outside ⟨body, outer⟩ :=
      outside_modify houter _
    rw [hlost, outside, outside, Markdown.outsideOf_of_any houter]

/-- An event that counts makes the same difference to a builder and to what is outside of its
HTML blocks. -/
theorem push_outside_of_counts (hopen : builder.HasOpen opened)
    (h : event.counts opened = true) :
    builder.outside.push event = (builder.push event).outside := by
  obtain ⟨hbefore, hbehind⟩ := Markdown.any_tail_of_counts h
  rw [← hopen.any_tail_eq] at hbefore
  rw [← (hopen.push event).any_tail_eq] at hbehind
  rw [outside_eq_self hbefore, outside_eq_self hbehind]

/-- An event that does not count is lost on what is outside of HTML blocks. -/
theorem outside_push_of_not_counts (hopen : builder.HasOpen opened)
    (h : event.counts opened = false) : (builder.push event).outside = builder.outside := by
  cases event with
  | start tag =>
    have hraw : builder.stack.any OpenElement.isRaw = true := by
      simpa [hopen.any_eq, Event.counts] using h
    simp only [push, start, outside, Markdown.outsideOf_of_any hraw]
  | stop =>
    rcases Bool.and_eq_false_iff.mp h with hempty | hraw
    · have hnone : builder.stack = [] := by
        have hopened : opened = [] := by simpa using hempty
        simpa [HasOpen, hopened] using hopen
      rw [push, stop, hnone]
    · exact outside_stop (by simpa [hopen.any_tail_eq] using hraw)
  | html value =>
    exact outside_appendHtml (by simpa [hopen.any_tail_eq, Event.counts] using h) value
  | taskListMarker isDone => rfl
  | _ => exact outside_modify (by simpa [hopen.any_eq, Event.counts] using h) _

end Push

/-- What counts of some events does outside of HTML blocks what all of them do. -/
theorem foldl_push_counted (events : List Event) {opened : List Tag} {builder : Builder}
    (hopen : builder.HasOpen opened) :
    (Markdown.counted opened events).foldl push builder.outside =
      (events.foldl push builder).outside := by
  induction events generalizing opened builder with
  | nil => rfl
  | cons event rest ih =>
    rw [List.foldl_cons, ← ih (hopen.push event), Markdown.counted]
    cases hcounts : event.counts opened with
    | true => rw [if_pos rfl, List.foldl_cons, push_outside_of_counts hopen hcounts]
    | false => rw [if_neg (by simp), outside_push_of_not_counts hopen hcounts]

/-! ## The same tree -/

theorem foldl_push_stops (n : Nat) (builder : Builder) :
    (List.replicate n Event.stop).foldl push builder = stopTimes n builder := by
  induction n generalizing builder with
  | zero => rfl
  | succ n ih => exact ih builder.stop

theorem HasOpen.foldl_push (events : List Event) {opened : List Tag} {builder : Builder}
    (h : builder.HasOpen opened) :
    (events.foldl Builder.push builder).HasOpen (Markdown.leftOpen opened events) := by
  induction events generalizing opened builder with
  | nil => exact h
  | cons event rest ih => exact ih (h.push event)

theorem HasOpen.length_eq {builder : Builder} {opened : List Tag} (h : builder.HasOpen opened) :
    builder.stack.length = opened.length := by
  simpa using congrArg List.length h

/-- When what events leave open is closed, nothing is open, and the body is that of their tree. -/
theorem exists_body_ofEvents (events : List Event) : ∃ body,
    (Markdown.closed events).foldl push empty = ⟨body, []⟩ ∧
      ofEvents events = .branch "body" body.reverse := by
  have hopen : empty.HasOpen [] := rfl
  have hstops : (Markdown.closed events).foldl push empty =
      stopTimes (events.foldl push empty).stack.length (events.foldl push empty) := by
    rw [Markdown.closed, List.foldl_append, foldl_push_stops, (hopen.foldl_push events).length_eq]
  have hstack : ((Markdown.closed events).foldl push empty).stack = [] := by
    have hlength := (hopen.foldl_push (Markdown.closed events)).length_eq
    rwa [Markdown.leftOpen_closed, List.length_nil, List.length_eq_zero_iff] at hlength
  refine ⟨((Markdown.closed events).foldl push empty).body, ?_, ?_⟩
  · rw [← hstack]
  · rw [ofEvents, finish, ← hstops]

/-- Leaving out what does not count and closing what is left open makes no difference to the
tree. -/
theorem ofEvents_balanced (events : List Event) :
    ofEvents (Markdown.balanced events) = ofEvents events := by
  obtain ⟨body, hclosed, hbody⟩ := exists_body_ofEvents events
  have hcounted : (Markdown.balanced events).foldl push empty.outside =
      ((Markdown.closed events).foldl push empty).outside :=
    foldl_push_counted (Markdown.closed events) rfl
  have hempty : empty.outside = empty := rfl
  have houtside : outside ⟨body, []⟩ = ⟨body, []⟩ := rfl
  rw [hclosed, hempty, houtside] at hcounted
  rw [ofEvents, hcounted, hbody, finish, List.length_nil, stopTimes]

/-- Any events have a forest, and their tree is its translation. -/
theorem exists_forest_ofEvents (events : List Event) : ∃ forest,
    EventTree.eventsOfAll forest = Markdown.balanced events ∧
      ofEvents events = .branch "body" (EventTree.translateAll [] forest) := by
  have hnested := Markdown.wellNested_balanced events
  obtain ⟨forest, hforest⟩ := (Markdown.wellNested_iff_exists_forest _).mp hnested
  exact ⟨forest, hforest, by rw [← ofEvents_balanced, ← hforest, ofEvents_eventsOfAll]⟩

end Builder

end PageRecipe

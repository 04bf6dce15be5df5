import PageRecipe.Markdown.Event

/-!
# Forests of events

A sequence of events is well nested when every start has its stop and an HTML block holds HTML
only (`WellNested`, read off from the left with the tags that are open). Such a sequence spells
out a forest : a start and its stop enclose a forest of their own, an HTML block encloses pieces
of HTML, and every other event stands for itself (`EventTree`). The well-nested sequences are
exactly those that forests spell (`wellNested_iff_exists_forest`).
-/

namespace PageRecipe.Markdown

/-- The event opens nothing and closes nothing. -/
def Event.IsSingle (event : Event) : Prop := (∀ tag, event ≠ .start tag) ∧ event ≠ .stop

theorem Event.start_or_stop_or_isSingle (event : Event) :
    (∃ tag, event = .start tag) ∨ event = .stop ∨ event.IsSingle := by
  cases event <;> simp [IsSingle]

/-- What a start and its stop enclose, or an event that stands for itself. -/
inductive EventTree where
  | enclosed (tag : Tag) (isElement : tag ≠ .htmlBlock) (inner : List EventTree)
  /-- An HTML block, with its pieces of HTML. -/
  | htmlBlock (pieces : List String)
  | single (event : Event) (isSingle : event.IsSingle)

namespace EventTree

mutual

/-- The events of a tree. -/
def events : EventTree → List Event
  | enclosed tag _ inner => .start tag :: (eventsOfAll inner ++ [.stop])
  | htmlBlock pieces => .start .htmlBlock :: (pieces.map .html ++ [.stop])
  | single event _ => [event]

/-- The events of a forest. -/
def eventsOfAll : List EventTree → List Event
  | [] => []
  | tree :: rest => events tree ++ eventsOfAll rest

end

end EventTree

/-- The events close what is open, innermost first, and everything that they open themselves. An
HTML block that is open takes HTML only. -/
def Nests : List Tag → List Event → Prop
  | opened, [] => opened = []
  | opened, .start tag :: rest => opened.head? ≠ some .htmlBlock ∧ Nests (tag :: opened) rest
  | [], .stop :: _ => False
  | _ :: outer, .stop :: rest => Nests outer rest
  | opened, .html _ :: rest => Nests opened rest
  | opened, _ :: rest => opened.head? ≠ some .htmlBlock ∧ Nests opened rest

/-- The events close everything that they open, and nothing else. -/
def WellNested (events : List Event) : Prop := Nests [] events

/-! ## What forests spell is well nested -/

theorem nests_single {event : Event} (h : event.IsSingle) {opened : List Tag}
    (hopened : opened.head? ≠ some .htmlBlock) (rest : List Event) :
    Nests opened (event :: rest) ↔ Nests opened rest := by
  cases event with
  | start tag => exact absurd rfl (h.1 tag)
  | stop => exact absurd rfl h.2
  | html value => rw [Nests]
  | _ => simp [Nests, hopened]

theorem nests_html (opened : List Tag) (pieces : List String) (rest : List Event) :
    Nests opened (pieces.map .html ++ rest) ↔ Nests opened rest := by
  induction pieces with
  | nil => rfl
  | cons piece pieces ih => rw [List.map_cons, List.cons_append, Nests, ih]

mutual

theorem nests_events : ∀ (tree : EventTree) (opened : List Tag),
    opened.head? ≠ some .htmlBlock → ∀ rest,
      (Nests opened (tree.events ++ rest) ↔ Nests opened rest)
  | .enclosed tag isElement inner, opened, hopened, rest => by
    have hinner := nests_eventsOfAll inner (tag :: opened) (by simpa using isElement)
      (.stop :: rest)
    simp only [EventTree.events, List.cons_append, List.append_assoc, List.nil_append, Nests,
      hopened, ne_eq, not_false_eq_true, true_and, hinner]
  | .htmlBlock pieces, opened, hopened, rest => by
    simp only [EventTree.events, List.cons_append, List.append_assoc, List.nil_append, Nests,
      hopened, ne_eq, not_false_eq_true, true_and, nests_html]
  | .single event isSingle, opened, hopened, rest => nests_single isSingle hopened rest

theorem nests_eventsOfAll : ∀ (forest : List EventTree) (opened : List Tag),
    opened.head? ≠ some .htmlBlock → ∀ rest,
      (Nests opened (EventTree.eventsOfAll forest ++ rest) ↔ Nests opened rest)
  | [], _, _, _ => by rw [EventTree.eventsOfAll, List.nil_append]
  | tree :: forest, opened, hopened, rest => by
    rw [EventTree.eventsOfAll, List.append_assoc, nests_events tree opened hopened,
      nests_eventsOfAll forest opened hopened]

end

/-! ## What is well nested spells a forest -/

/-- The rest of some events begins where the innermost open tag is closed, or is empty when
nothing is open. -/
def ClosesFirst : List Tag → List Event → Prop
  | [], rest => rest = []
  | _ :: outer, rest => ∃ after, rest = .stop :: after ∧ Nests outer after

theorem exists_pieces_of_nests {opened : List Tag} : ∀ events : List Event,
    Nests (.htmlBlock :: opened) events →
      ∃ (pieces : List String) (after : List Event),
        events = pieces.map .html ++ .stop :: after ∧ Nests opened after
  | [], h => by simp [Nests] at h
  | .stop :: after, h => ⟨[], after, rfl, h⟩
  | .html piece :: rest, h => by
    obtain ⟨pieces, after, hrest, hafter⟩ := exists_pieces_of_nests rest h
    exact ⟨piece :: pieces, after, by rw [hrest]; rfl, hafter⟩
  | .start _ :: _, h | .text _ :: _, h | .code _ :: _, h | .inlineHtml _ :: _, h
  | .inlineMath _ :: _, h | .displayMath _ :: _, h | .footnoteReference _ :: _, h
  | .softBreak :: _, h | .hardBreak :: _, h | .rule :: _, h | .taskListMarker _ :: _, h => by
    simp [Nests] at h

/-- Events that nest begin with a forest, up to where the innermost open tag is closed. -/
theorem exists_forest_of_nests (events : List Event) (opened : List Tag)
    (hopened : opened.head? ≠ some .htmlBlock) (h : Nests opened events) :
    ∃ forest rest, events = EventTree.eventsOfAll forest ++ rest ∧ ClosesFirst opened rest := by
  match events with
  | [] => exact ⟨[], [], rfl, by rw [Nests] at h; rw [h]; rfl⟩
  | event :: events =>
    rcases event.start_or_stop_or_isSingle with ⟨tag, rfl⟩ | rfl | hsingle
    · obtain ⟨-, hinner⟩ := h
      by_cases htag : tag = .htmlBlock
      · subst htag
        obtain ⟨pieces, after, rfl, hafter⟩ := exists_pieces_of_nests events hinner
        obtain ⟨forest, rest, hforest, hrest⟩ := exists_forest_of_nests after opened hopened hafter
        refine ⟨.htmlBlock pieces :: forest, rest, ?_, hrest⟩
        simp [EventTree.eventsOfAll, EventTree.events, ← hforest]
      · obtain ⟨inner, _, rfl, after, rfl, hafter⟩ :=
          exists_forest_of_nests events (tag :: opened) (by simpa using htag) hinner
        obtain ⟨forest, rest, hforest, hrest⟩ := exists_forest_of_nests after opened hopened hafter
        refine ⟨.enclosed tag htag inner :: forest, rest, ?_, hrest⟩
        simp [EventTree.eventsOfAll, EventTree.events, ← hforest]
    · cases opened with
      | nil => exact absurd h (by simp [Nests])
      | cons tag outer => exact ⟨[], .stop :: events, rfl, events, rfl, h⟩
    · obtain ⟨forest, rest, hforest, hrest⟩ :=
        exists_forest_of_nests events opened hopened ((nests_single hsingle hopened events).mp h)
      refine ⟨.single event hsingle :: forest, rest, ?_, hrest⟩
      simp [EventTree.eventsOfAll, EventTree.events, ← hforest]
termination_by events.length

/-- Well-nested sequences of events are those that forests spell. -/
theorem wellNested_iff_exists_forest (events : List Event) :
    WellNested events ↔ ∃ forest, EventTree.eventsOfAll forest = events := by
  have hnone : ([] : List Tag).head? ≠ some .htmlBlock := by simp
  constructor
  · intro h
    obtain ⟨forest, rest, hforest, hrest⟩ := exists_forest_of_nests events [] hnone h
    rw [ClosesFirst] at hrest
    exact ⟨forest, by rw [hforest, hrest, List.append_nil]⟩
  · rintro ⟨forest, rfl⟩
    have hnests := nests_eventsOfAll forest [] hnone []
    rw [List.append_nil] at hnests
    exact hnests.mpr rfl

end PageRecipe.Markdown

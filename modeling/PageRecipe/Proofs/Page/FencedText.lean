import PageRecipe.Page.FrontMatter

/-!
# Texts with front matter

`FrontMatter.split` cuts a text into lines and looks for one that closes the front matter. Here
the lines of a text are told without cutting it (`IsLineOf`), and so is how a text with front
matter is put together : an opening fence, the front matter, a closing line and the prose
(`Fenced`).

`split_iff` says that splitting undoes putting together. What is split off stands in the text,
in its order and with nothing lost between it, and every text that is put together in this way
is taken apart at the same places. A text stays whole exactly when its first line is no opening
fence or no later line closes.
-/

namespace PageRecipe.FrontMatter

/-! ## Lines -/

/-- A text of whole lines : it is empty or ends with a line feed. -/
def IsWhole (s : List Char) : Prop := s = [] ∨ ∃ body, s = body ++ ['\n']

/-- A line and what follows it. The line goes up to its line feed, and only the last line of a
text may do without one. -/
inductive IsLine : List Char → List Char → Prop where
  | ended {body : List Char} (hbody : '\n' ∉ body) (after : List Char) :
      IsLine (body ++ ['\n']) after
  | last {line : List Char} (hne : line ≠ []) (hline : '\n' ∉ line) : IsLine line []

/-- A line of a text : whole lines stand in front of it. -/
def IsLineOf (text line : List Char) : Prop :=
  ∃ before after, text = before ++ (line ++ after) ∧ IsWhole before ∧ IsLine line after

theorem IsWhole.append {a b : List Char} (ha : IsWhole a) (hb : IsWhole b) : IsWhole (a ++ b) := by
  rcases hb with rfl | ⟨body, rfl⟩
  · rwa [List.append_nil]
  · exact Or.inr ⟨a ++ body, (List.append_assoc ..).symm⟩

theorem IsWhole.tail {c : Char} {s : List Char} (h : IsWhole (c :: s)) : IsWhole s := by
  rcases h with h | ⟨body, h⟩
  · cases h
  · cases body with
    | nil => exact Or.inl (List.cons.inj h).2
    | cons d body => exact Or.inr ⟨body, (List.cons.inj h).2⟩

/-- A line that something follows has its line feed, so anything may follow it. -/
theorem IsLine.of_ne_nil {line after : List Char} (h : IsLine line after) (hafter : after ≠ []) :
    IsWhole line ∧ ∀ other, IsLine line other := by
  cases h with
  | ended hbody after => exact ⟨Or.inr ⟨_, rfl⟩, .ended hbody⟩
  | last hne hline => exact absurd rfl hafter

theorem lines_of_notMem {s : List Char} (hs : '\n' ∉ s) (hne : s ≠ []) : lines s = [s] := by
  induction s with
  | nil => exact absurd rfl hne
  | cons c rest ih =>
    have hc : c ≠ '\n' := fun h => hs (h ▸ List.mem_cons_self)
    have hrest : '\n' ∉ rest := fun h => hs (List.mem_cons_of_mem c h)
    rw [lines, if_neg hc]
    cases rest with
    | nil => rfl
    | cons d rest => rw [ih hrest (List.cons_ne_nil d rest)]

theorem lines_append {a : List Char} (ha : IsWhole a) (b : List Char) :
    lines (a ++ b) = lines a ++ lines b := by
  induction a with
  | nil => rfl
  | cons c rest ih =>
    rw [List.cons_append, lines, lines, ih ha.tail]
    by_cases hc : c = '\n'
    · rw [if_pos hc, if_pos hc, List.cons_append]
    · -- the line feed at the end is not this character, so the rest still has a line
      have hne : rest ≠ [] := by
        rintro rfl
        obtain ⟨body, hbody⟩ := ha.resolve_left (List.cons_ne_nil c [])
        cases body <;> simp_all
      rw [if_neg hc, if_neg hc]
      cases hlines : lines rest with
      | nil =>
        have hflat := flatten_lines rest
        rw [hlines] at hflat
        exact absurd hflat.symm hne
      | cons line others => rfl

theorem lines_ended_append {body : List Char} (hbody : '\n' ∉ body) (after : List Char) :
    lines (body ++ '\n' :: after) = (body ++ ['\n']) :: lines after := by
  induction body with
  | nil => rfl
  | cons c rest ih =>
    have hc : c ≠ '\n' := fun h => hbody (h ▸ List.mem_cons_self)
    have hrest : '\n' ∉ rest := fun h => hbody (List.mem_cons_of_mem c h)
    rw [List.cons_append, lines, if_neg hc, ih hrest]
    rfl

/-- A line is the first line of itself and what follows it. -/
theorem IsLine.lines_append {line after : List Char} (h : IsLine line after) :
    lines (line ++ after) = line :: lines after := by
  cases h with
  | ended hbody after =>
    rw [List.append_assoc, List.singleton_append, lines_ended_append hbody]
  | last hne hline => rw [List.append_nil, lines_of_notMem hline hne, lines]

/-- A text that is not empty starts with a line. -/
theorem exists_isLine {s : List Char} (hne : s ≠ []) :
    ∃ line after, s = line ++ after ∧ IsLine line after := by
  by_cases hs : '\n' ∈ s
  · obtain ⟨body, after, rfl, hbody⟩ := List.eq_append_cons_of_mem hs
    exact ⟨body ++ ['\n'], after, by simp, .ended hbody after⟩
  · exact ⟨s, [], (List.append_nil s).symm, .last hne hs⟩

theorem lines_eq_cons {s line : List Char} {others : List (List Char)}
    (h : lines s = line :: others) :
    ∃ after, s = line ++ after ∧ IsLine line after ∧ lines after = others := by
  have hne : s ≠ [] := fun hs => by rw [hs, lines] at h; cases h
  obtain ⟨first, after, rfl, hfirst⟩ := exists_isLine hne
  rw [hfirst.lines_append] at h
  obtain ⟨rfl, rfl⟩ := List.cons.inj h
  exact ⟨after, rfl, hfirst, rfl⟩

/-- A cut between the lines of a text is a cut of the text, behind whole lines. -/
theorem lines_eq_append_cons {s line : List Char} {front others : List (List Char)}
    (h : lines s = front ++ line :: others) :
    ∃ before after, s = before ++ (line ++ after) ∧ IsWhole before ∧ lines before = front ∧
      IsLine line after ∧ lines after = others := by
  induction front generalizing s with
  | nil =>
    obtain ⟨after, rfl, hline, hafter⟩ := lines_eq_cons h
    exact ⟨[], after, rfl, Or.inl rfl, rfl, hline, hafter⟩
  | cons first front ih =>
    obtain ⟨rest, rfl, hfirst, hrest⟩ := lines_eq_cons h
    have hne : rest ≠ [] := fun hnil => by
      rw [hnil, lines] at hrest
      simp at hrest
    obtain ⟨hwhole, hline_first⟩ := hfirst.of_ne_nil hne
    obtain ⟨before, after, rfl, hbefore, hfront, hline, hafter⟩ := ih hrest
    refine ⟨first ++ before, after, by simp, hwhole.append hbefore, ?_, hline, hafter⟩
    rw [(hline_first before).lines_append, hfront]

theorem mem_lines_iff {s line : List Char} : line ∈ lines s ↔ IsLineOf s line := by
  constructor
  · intro hmem
    obtain ⟨front, others, hlines⟩ := List.append_of_mem hmem
    obtain ⟨before, after, rfl, hbefore, -, hline, -⟩ := lines_eq_append_cons hlines
    exact ⟨before, after, rfl, hbefore, hline⟩
  · rintro ⟨before, after, rfl, hbefore, hline⟩
    rw [lines_append hbefore, hline.lines_append]
    exact List.mem_append_right _ List.mem_cons_self

/-! ## Fences -/

/-- A line that opens front matter, with its line feed. -/
def IsOpening (line : List Char) : Prop :=
  line = fence ++ ['\n'] ∨ line = fence ++ ['\r', '\n']

/-- A line reads `---` up to blanks at its end. -/
def Closes (line : List Char) : Prop := Text.trimEnd line = fence

theorem isClosing_iff {line : List Char} : isClosing line = true ↔ Closes line := beq_iff_eq

theorem afterOpening?_eq_some_iff {s rest : List Char} :
    afterOpening? s = some rest ↔ ∃ opening, IsOpening opening ∧ s = opening ++ rest := by
  constructor
  · intro h
    unfold afterOpening? at h
    split at h
    · exact ⟨_, Or.inr rfl, by rw [Option.some.inj h]; rfl⟩
    · exact ⟨_, Or.inl rfl, by rw [Option.some.inj h]; rfl⟩
    · cases h
  · rintro ⟨opening, rfl | rfl, rfl⟩ <;> rfl

theorem splitAtClosing_eq_some_iff {rows front prose : List (List Char)} :
    splitAtClosing rows = some (front, prose) ↔
      ∃ line, rows = front ++ line :: prose ∧ Closes line ∧ ∀ row ∈ front, ¬Closes row := by
  induction rows generalizing front with
  | nil => simp [splitAtClosing]
  | cons row rows ih =>
    rw [splitAtClosing]
    by_cases hrow : isClosing row
    · rw [if_pos hrow]
      constructor
      · intro h
        obtain ⟨rfl, rfl⟩ := Prod.mk.inj (Option.some.inj h)
        exact ⟨row, rfl, isClosing_iff.mp hrow, by simp⟩
      · rintro ⟨line, hrows, hline, hfront⟩
        cases front with
        | nil => rw [(List.cons.inj hrows).2]
        | cons first front =>
          rw [(List.cons.inj hrows).1] at hrow
          exact absurd (isClosing_iff.mp hrow) (hfront first List.mem_cons_self)
    · rw [if_neg hrow]
      constructor
      · intro h
        obtain ⟨⟨others, rest⟩, hsplit, heq⟩ := Option.map_eq_some_iff.mp h
        obtain ⟨rfl, rfl⟩ := Prod.mk.inj heq
        obtain ⟨line, rfl, hline, hothers⟩ := ih.mp hsplit
        exact ⟨line, rfl, hline,
          List.forall_mem_cons.mpr ⟨fun h => hrow (isClosing_iff.mpr h), hothers⟩⟩
      · rintro ⟨line, hrows, hline, hfront⟩
        cases front with
        | nil =>
          rw [(List.cons.inj hrows).1] at hrow
          exact absurd (isClosing_iff.mpr hline) hrow
        | cons first front =>
          obtain ⟨rfl, hrest⟩ := List.cons.inj hrows
          rw [ih.mpr ⟨line, hrest, hline, fun row h => hfront row (List.mem_cons_of_mem _ h)⟩]
          rfl

theorem splitAtClosing_eq_none_iff {rows : List (List Char)} :
    splitAtClosing rows = none ↔ ∀ row ∈ rows, ¬Closes row := by
  induction rows with
  | nil => simp [splitAtClosing]
  | cons row rows ih =>
    rw [splitAtClosing, List.forall_mem_cons, ← ih, ← isClosing_iff]
    by_cases hrow : isClosing row <;> simp [hrow]

/-! ## Putting together -/

/-- A text that is put together from an opening fence, front matter, a closing line and prose. No
line of the front matter closes it. -/
structure Fenced (content opening front closing prose : List Char) : Prop where
  content_eq : content = opening ++ (front ++ (closing ++ prose))
  opens : IsOpening opening
  whole : IsWhole front
  open_front : ∀ line, IsLineOf front line → ¬Closes line
  line : IsLine closing prose
  closes : Closes closing

/-- A text that has no front matter : it does not start with an opening fence, or no line behind
the fence closes. -/
def IsBare (content : List Char) : Prop :=
  (∀ opening rest, IsOpening opening → content ≠ opening ++ rest) ∨
    ∃ opening rest, IsOpening opening ∧ content = opening ++ rest ∧
      ∀ line, IsLineOf rest line → ¬Closes line

theorem Fenced.split_eq {s opening front closing prose : List Char}
    (h : Fenced (withoutMark s) opening front closing prose) : split s = (some front, prose) := by
  have hopening : afterOpening? (withoutMark s) = some (front ++ (closing ++ prose)) :=
    afterOpening?_eq_some_iff.mpr ⟨opening, h.opens, h.content_eq⟩
  have hclosing : splitAtClosing (lines (front ++ (closing ++ prose))) =
      some (lines front, lines prose) := by
    rw [lines_append h.whole, h.line.lines_append, splitAtClosing_eq_some_iff]
    exact ⟨closing, rfl, h.closes, fun row hrow => h.open_front row (mem_lines_iff.mp hrow)⟩
  simp only [split, hopening, Option.bind_some, hclosing, flatten_lines]

theorem IsBare.split_eq {s : List Char} (h : IsBare (withoutMark s)) :
    split s = (none, withoutMark s) := by
  have hnone : ((afterOpening? (withoutMark s)).bind fun rest => splitAtClosing (lines rest)) =
      none := by
    rw [Option.bind_eq_none_iff]
    intro rest hrest
    obtain ⟨opening, hopens, hcontent⟩ := afterOpening?_eq_some_iff.mp hrest
    rcases h with h | ⟨other, later, hother, hlater, hopen⟩
    · exact absurd hcontent (h opening rest hopens)
    · have : rest = later := Option.some.inj
        (hrest.symm.trans (afterOpening?_eq_some_iff.mpr ⟨other, hother, hlater⟩))
      rw [this, splitAtClosing_eq_none_iff]
      exact fun row hrow => hopen row (mem_lines_iff.mp hrow)
  simp only [split, hnone]

/-- A text has front matter or none. -/
theorem fenced_or_isBare (content : List Char) :
    (∃ opening front closing prose, Fenced content opening front closing prose) ∨
      IsBare content := by
  cases hrest : afterOpening? content with
  | none =>
    refine Or.inr (Or.inl fun opening rest hopens hcontent => ?_)
    cases hrest.symm.trans (afterOpening?_eq_some_iff.mpr ⟨opening, hopens, hcontent⟩)
  | some rest =>
    obtain ⟨opening, hopens, hcontent⟩ := afterOpening?_eq_some_iff.mp hrest
    cases hcut : splitAtClosing (lines rest) with
    | none =>
      exact Or.inr (Or.inr ⟨opening, rest, hopens, hcontent, fun line hline =>
        splitAtClosing_eq_none_iff.mp hcut line (mem_lines_iff.mpr hline)⟩)
    | some cut =>
      obtain ⟨closing, hlines, hcloses, hopen⟩ := splitAtClosing_eq_some_iff.mp hcut
      obtain ⟨front, prose, rfl, hwhole, hfront, hline, -⟩ := lines_eq_append_cons hlines
      refine Or.inl ⟨opening, front, closing, prose, hcontent, hopens, hwhole, fun row hrow => ?_,
        hline, hcloses⟩
      exact hopen row (hfront ▸ mem_lines_iff.mpr hrow)

/-! ## Taking apart -/

theorem isWhole_rows (rows : List (List Char)) : IsWhole (rows.flatMap (· ++ ['\n'])) := by
  induction rows with
  | nil => exact Or.inl rfl
  | cons row rows ih => exact IsWhole.append (Or.inr ⟨row, rfl⟩) ih

/-- Rows with a line feed behind each are the lines of the text that they make. -/
theorem lines_rows {rows : List (List Char)} (h : ∀ row ∈ rows, '\n' ∉ row) :
    lines (rows.flatMap (· ++ ['\n'])) = rows.map (· ++ ['\n']) := by
  induction rows with
  | nil => rfl
  | cons row rows ih =>
    obtain ⟨hrow, hrows⟩ := List.forall_mem_cons.mp h
    rw [List.flatMap_cons, (IsLine.ended hrow _).lines_append, ih hrows, List.map_cons]

theorem withoutMark_append {mark opening : List Char} (hmark : mark = [] ∨ mark = ['\uFEFF'])
    (hopens : IsOpening opening) (rest : List Char) :
    withoutMark (mark ++ (opening ++ rest)) = opening ++ rest := by
  rcases hmark with rfl | rfl
  · rcases hopens with rfl | rfl <;> rfl
  · rfl

/-- What is put together from rows that do not close front matter is fenced. -/
theorem fenced_rows {opening closing prose : List Char} {rows : List (List Char)}
    (hopens : IsOpening opening) (hrows : ∀ row ∈ rows, '\n' ∉ row ∧ ¬Closes (row ++ ['\n']))
    (hline : IsLine closing prose) (hcloses : Closes closing) :
    Fenced (opening ++ (rows.flatMap (· ++ ['\n']) ++ (closing ++ prose))) opening
      (rows.flatMap (· ++ ['\n'])) closing prose := by
  refine ⟨rfl, hopens, isWhole_rows rows, fun line hmem => ?_, hline, hcloses⟩
  rw [← mem_lines_iff, lines_rows fun row hrow => (hrows row hrow).1] at hmem
  obtain ⟨row, hrow, rfl⟩ := List.mem_map.mp hmem
  exact (hrows row hrow).2

/-- Splitting takes a text with front matter apart where it was put together, with or without a
byte order mark in front of it, and leaves any other text whole but for its byte order mark. -/
theorem split_iff :
    (∀ s front prose, split s = (some front, prose) ↔
      ∃ opening closing, Fenced (withoutMark s) opening front closing prose) ∧
    (∀ s prose, split s = (none, prose) ↔ prose = withoutMark s ∧ IsBare (withoutMark s)) ∧
    ∀ mark opening closing prose : List Char, ∀ rows : List (List Char),
      mark = [] ∨ mark = ['\uFEFF'] → IsOpening opening →
      (∀ row ∈ rows, '\n' ∉ row ∧ ¬Closes (row ++ ['\n'])) →
      IsLine closing prose → Closes closing →
      split (mark ++ (opening ++ (rows.flatMap (· ++ ['\n']) ++ (closing ++ prose)))) =
        (some (rows.flatMap (· ++ ['\n'])), prose) := by
  refine ⟨fun s front prose => ⟨fun hsplit => ?_, ?_⟩, fun s prose => ⟨fun hsplit => ?_, ?_⟩, ?_⟩
  · rcases fenced_or_isBare (withoutMark s) with ⟨opening, other, closing, behind, h⟩ | h
    · obtain ⟨hfront, rfl⟩ := Prod.mk.inj (hsplit.symm.trans h.split_eq)
      obtain rfl := Option.some.inj hfront
      exact ⟨opening, closing, h⟩
    · cases (Prod.mk.inj (hsplit.symm.trans h.split_eq)).1
  · rintro ⟨opening, closing, h⟩
    exact h.split_eq
  · rcases fenced_or_isBare (withoutMark s) with ⟨opening, other, closing, behind, h⟩ | h
    · cases (Prod.mk.inj (hsplit.symm.trans h.split_eq)).1
    · exact ⟨(Prod.mk.inj (hsplit.symm.trans h.split_eq)).2, h⟩
  · rintro ⟨rfl, h⟩
    exact h.split_eq
  · intro mark opening closing prose rows hmark hopens hrows hline hcloses
    refine Fenced.split_eq (?_ : Fenced _ opening _ closing _)
    rw [withoutMark_append hmark hopens]
    exact fenced_rows hopens hrows hline hcloses

end PageRecipe.FrontMatter

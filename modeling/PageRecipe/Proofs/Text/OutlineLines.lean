import Mathlib.Data.List.Forall2
import PageRecipe.Proofs.Page.FencedText
import PageRecipe.Text.Outline
import PageRecipe.Text.Quoted

/-!
# The lines of an outline

An outline writes its labels as they are, so a label with a line feed takes several lines. Where
no label has any, every label has one line, from the top to the bottom, and stands in it behind
marks of four characters for each level that it hangs down (`Outline.forall₂_isLineOf`).

A text in quotes has no line feed, whatever the text is : the escapes spell it and the other
characters that are not shown (`Text.lineFeed_notMem_quoted`).
-/

namespace PageRecipe

/-! ## Quoted texts -/

namespace Text

theorem lineFeed_notMem_toDigits (n : Nat) : '\n' ∉ Nat.toDigits 16 n := by
  have hdigit : ∀ d < 16, '\n' ≠ Nat.digitChar d := by decide
  induction n using Nat.strongRecOn with
  | ind n ih =>
    rcases Nat.lt_or_ge n 16 with hlt | hge
    · rw [Nat.toDigits_of_lt_base hlt, List.mem_singleton]
      exact hdigit n hlt
    · rw [Nat.toDigits_of_base_le (by decide) hge, List.mem_append, List.mem_singleton, not_or]
      exact ⟨ih (n / 16) (by omega), hdigit _ (Nat.mod_lt n (by decide))⟩

theorem lineFeed_notMem_escapeChar (c : Char) : '\n' ∉ escapeChar c := by
  by_cases hfeed : c = '\n'
  · rw [hfeed]
    decide
  · have hcode := lineFeed_notMem_toDigits c.toNat
    grind [escapeChar]

theorem lineFeed_notMem_quoted (s : String) : '\n' ∉ (quoted s).toList := by
  have hescaped : '\n' ∉ s.toList.flatMap escapeChar := fun h => by
    obtain ⟨c, -, hc⟩ := List.mem_flatMap.mp h
    exact lineFeed_notMem_escapeChar c hc
  simp [quoted, hescaped]

end Text

namespace Outline

/-! ## Labels and their lines -/

mutual

/-- The label at the top and those below it, from the top to the bottom, each with its depth. -/
def labels (depth : Nat) : Outline → List (Nat × String)
  | mk label children => (depth, label) :: labelsOfAll (depth + 1) children

/-- The labels of several outlines at one depth. -/
def labelsOfAll (depth : Nat) : List Outline → List (Nat × String)
  | [] => []
  | outline :: rest => labels depth outline ++ labelsOfAll depth rest

end

/-- The characters that show where a label hangs. -/
def glyphs : List Char := [' ', '│', '├', '└', '─']

/-- What stands in front of a label at a depth : four characters for each level. -/
structure IsMarks (depth : Nat) (marks : List Char) : Prop where
  length_eq : marks.length = 4 * depth
  mem_glyphs : ∀ c ∈ marks, c ∈ glyphs

theorem isMarks_nil : IsMarks 0 [] := ⟨rfl, List.forall_mem_nil _⟩

theorem IsMarks.append {a b : Nat} {front back : String} (hfront : IsMarks a front.toList)
    (hback : IsMarks b back.toList) : IsMarks (a + b) (front ++ back).toList := by
  rw [String.toList_append]
  refine ⟨?_, List.forall_mem_append.mpr ⟨hfront.mem_glyphs, hback.mem_glyphs⟩⟩
  rw [List.length_append, hfront.length_eq, hback.length_eq, Nat.mul_add]

theorem isMarks_branch (isLast : Bool) :
    IsMarks 1 (branch isLast).1.toList ∧ IsMarks 1 (branch isLast).2.toList := by
  cases isLast <;>
    exact ⟨⟨rfl, by simp [branch, glyphs]⟩, ⟨rfl, by simp [branch, glyphs]⟩⟩

/-- A label behind its marks. -/
def IsRow (label : Nat × String) (row : List Char) : Prop :=
  ∃ marks, IsMarks label.1 marks ∧ row = marks ++ label.2.toList

theorem lineFeed_notMem_rows {labels : List (Nat × String)} {rows : List (List Char)}
    (h : List.Forall₂ IsRow labels rows) (hlabels : ∀ label ∈ labels, '\n' ∉ label.2.toList) :
    ∀ row ∈ rows, '\n' ∉ row := by
  induction h with
  | nil => exact List.forall_mem_nil _
  | cons hrow hrows ih =>
    obtain ⟨hlabel, hrest⟩ := List.forall_mem_cons.mp hlabels
    obtain ⟨marks, hmarks, rfl⟩ := hrow
    refine List.forall_mem_cons.mpr ⟨?_, ih hrest⟩
    rw [List.mem_append, not_or]
    exact ⟨fun hmem => absurd (hmarks.mem_glyphs _ hmem) (by decide), hlabel⟩

mutual

/-- What is below a top is written as rows, each with a line feed. -/
theorem exists_rows_renderBelow : ∀ {depth : Nat} {stem : String}, IsMarks depth stem.toList →
    ∀ outline : Outline, ∃ rows,
      List.Forall₂ IsRow (labelsOfAll (depth + 1) outline.children) rows ∧
      (renderBelow stem outline).toList = rows.flatMap (· ++ ['\n'])
  | _, _, hstem, .mk _ children => exists_rows_renderAll hstem children

theorem exists_rows_renderAll : ∀ {depth : Nat} {stem : String}, IsMarks depth stem.toList →
    ∀ outlines : List Outline, ∃ rows, List.Forall₂ IsRow (labelsOfAll (depth + 1) outlines) rows ∧
      (renderAll stem outlines).toList = rows.flatMap (· ++ ['\n'])
  | _, _, _, [] => ⟨[], .nil, rfl⟩
  | _, stem, hstem, .mk label children :: rest => by
    obtain ⟨hmark, hbelow⟩ := isMarks_branch rest.isEmpty
    obtain ⟨inner, hinner, hrendered⟩ :=
      exists_rows_renderBelow (hstem.append hbelow) (.mk label children)
    obtain ⟨others, hothers, hrest⟩ := exists_rows_renderAll hstem rest
    refine ⟨((stem ++ (branch rest.isEmpty).1).toList ++ label.toList) :: inner ++ others, ?_, ?_⟩
    · exact .cons ⟨_, hstem.append hmark, rfl⟩ (List.rel_append hinner hothers)
    · simp [renderAll, hrendered, hrest, Outline.label]

end

/-- A line that shows a label at its depth. -/
def IsLineOf (label : Nat × String) (line : List Char) : Prop :=
  ∃ marks, IsMarks label.1 marks ∧ line = marks ++ label.2.toList ++ ['\n']

/-- Labels without line feeds have one line each, from the top to the bottom. -/
theorem forall₂_isLineOf {outline : Outline}
    (h : ∀ label ∈ outline.labels 0, '\n' ∉ label.2.toList) :
    List.Forall₂ IsLineOf (outline.labels 0) (FrontMatter.lines outline.render.toList) := by
  obtain ⟨top, children⟩ := outline
  obtain ⟨below, hbelow, hrendered⟩ :=
    @exists_rows_renderBelow 0 "" isMarks_nil (.mk top children)
  have hrows : List.Forall₂ IsRow (labels 0 (.mk top children)) (top.toList :: below) :=
    .cons ⟨[], isMarks_nil, rfl⟩ hbelow
  have hrender : (render (.mk top children)).toList =
      (top.toList :: below).flatMap (· ++ ['\n']) := by
    simp [render, hrendered, Outline.label]
  rw [hrender, FrontMatter.lines_rows (lineFeed_notMem_rows hrows h), List.forall₂_map_right_iff]
  refine hrows.imp fun label row hrow => ?_
  obtain ⟨marks, hmarks, rfl⟩ := hrow
  exact ⟨marks, hmarks, rfl⟩

end Outline

end PageRecipe

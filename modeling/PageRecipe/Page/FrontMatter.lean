import PageRecipe.Text.Blank

/-!
# Front matter

A page may start with a block between two fences. The opening fence is the first line, and the
closing fence the next line that reads `---` up to blanks at its end (`FrontMatter.split`).
Without a closing fence there is no front matter.
-/

namespace PageRecipe.FrontMatter

/-- The lines of a text, each with its line feed. -/
def lines : List Char → List (List Char)
  | [] => []
  | c :: rest =>
    if c = '\n' then [c] :: lines rest
    else
      match lines rest with
      | [] => [[c]]
      | line :: others => (c :: line) :: others

theorem flatten_lines (s : List Char) : (lines s).flatten = s := by
  induction s with
  | nil => rfl
  | cons c rest ih =>
    simp only [lines]
    split
    · simp [ih]
    · split
      · next h => rw [h] at ih; simp at ih; simp [← ih]
      · next h => rw [h] at ih; simp at ih; simp [← ih]

/-- The fence of front matter. -/
def fence : List Char := ['-', '-', '-']

/-- A line that closes front matter. -/
def isClosing (line : List Char) : Bool := Text.trimEnd line == fence

/-- What stands in front of the first line that closes front matter, and what stands behind
that line. -/
def splitAtClosing : List (List Char) → Option (List (List Char) × List (List Char))
  | [] => none
  | line :: rest =>
    if isClosing line then some ([], rest)
    else (splitAtClosing rest).map fun (front, prose) => (line :: front, prose)

/-- The text behind an opening fence. -/
def afterOpening? : List Char → Option (List Char)
  | '-' :: '-' :: '-' :: '\r' :: '\n' :: rest => some rest
  | '-' :: '-' :: '-' :: '\n' :: rest => some rest
  | _ => none

/-- A text without the byte order mark that it may start with. -/
def withoutMark : List Char → List Char
  | '\uFEFF' :: rest => rest
  | s => s

/-- The front matter of a page, if it has any, and the prose. -/
def split (s : List Char) : Option (List Char) × List Char :=
  let content := withoutMark s
  match (afterOpening? content).bind fun rest => splitAtClosing (lines rest) with
  | some (front, prose) => (some front.flatten, prose.flatten)
  | none => (none, content)

end PageRecipe.FrontMatter

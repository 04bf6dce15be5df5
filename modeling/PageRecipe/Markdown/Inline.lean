import PageRecipe.Markdown.Event
import PageRecipe.Markdown.Html
import PageRecipe.Markdown.Link
import PageRecipe.Markdown.Token

/-!
# Inline structure

The tokens of a text are read in two passes. `pieces` finds code, raw HTML, links and images
from the left : a closing bracket makes a link of what follows the last open bracket if a
target or a defined label goes with it. `emphasise` then pairs the emphasis marks that are
left, inside each link on its own.
-/

namespace PageRecipe.Markdown

/-- Inline structure with emphasis marks not yet paired. -/
inductive Piece where
  | text (value : List Char)
  | code (value : List Char)
  | html (value : List Char)
  | softBreak
  | hardBreak
  | marks (c : Char) (count : Nat) (opens closes : Bool)
  | link (isImage : Bool) (pieces : List Piece)
  deriving Repr

/-- Inline structure. -/
inductive Inline where
  | text (value : List Char)
  | code (value : List Char)
  | html (value : List Char)
  | softBreak
  | hardBreak
  | link (isImage : Bool) (inlines : List Inline)
  | emphasis (inlines : List Inline)
  | strong (inlines : List Inline)
  | strikethrough (inlines : List Inline)
  deriving Repr

/-! ## Code, raw HTML and links -/

/-- A bracket that may open a link : where it stands, whether it is an image's, whether it may
still become a link, and the pieces since, in reverse. -/
structure Bracket where
  start : Nat
  isImage : Bool
  isActive : Bool
  pieces : List Piece

/-- Pieces in reverse with the open brackets, innermost first. -/
structure Stack where
  base : List Piece
  brackets : List Bracket

namespace Stack

/-- Adds a piece behind the innermost open bracket. -/
def push (stack : Stack) (piece : Piece) : Stack :=
  match stack.brackets with
  | [] => { stack with base := piece :: stack.base }
  | bracket :: outer =>
    { stack with brackets := { bracket with pieces := piece :: bracket.pieces } :: outer }

/-- Adds pieces given in reverse. -/
def pushReversed (stack : Stack) (pieces : List Piece) : Stack :=
  match stack.brackets with
  | [] => { stack with base := pieces ++ stack.base }
  | bracket :: outer =>
    { stack with brackets := { bracket with pieces := pieces ++ bracket.pieces } :: outer }

/-- Opens a bracket. -/
def openBracket (stack : Stack) (start : Nat) (isImage : Bool) : Stack :=
  { stack with brackets := ⟨start, isImage, true, []⟩ :: stack.brackets }

/-- The bracket as it is written. -/
def bracketText (bracket : Bracket) : Piece :=
  .text (if bracket.isImage then ['!', '['] else ['['])

/-- Gives up the brackets that are still open : they are plain text. -/
def giveUp (base : List Piece) : List Bracket → List Piece
  | [] => base
  | bracket :: outer => bracket.pieces ++ bracketText bracket :: giveUp base outer

/-- The pieces in order, when the text has ended. -/
def finish (stack : Stack) : List Piece := (giveUp stack.base stack.brackets).reverse

/-- No link may contain another one, so the open brackets of links are closed for good. -/
def deactivateLinks (brackets : List Bracket) : List Bracket :=
  brackets.map fun b => if b.isImage then b else { b with isActive := false }

end Stack

/-- The text that is read : its characters, the defined labels, and whether it is a table cell. -/
structure Source where
  text : List Char
  labels : List (List Char)
  inTable : Bool

namespace Source

/-- The position at which `rest` is left of the text. -/
def positionOf (source : Source) (rest : List Char) : Nat := source.text.length - rest.length

/-- The characters between two positions. -/
def between (source : Source) (start stop : Nat) : List Char :=
  (source.text.drop start).take (stop - start)

/-- A line end counts as a space in code, and in a table a backslash before a bar does not
count. -/
def joinCode (inTable : Bool) : List Char → List Char
  | [] => []
  | '\\' :: '|' :: rest =>
    if inTable then '|' :: joinCode inTable rest else '\\' :: '|' :: joinCode inTable rest
  | c :: rest => (if isLineEnd c then ' ' else c) :: joinCode inTable rest

/-- Code that starts and ends with a space loses both, unless it is all spaces. -/
def trimCode (s : List Char) : List Char :=
  if s.head? == some ' ' && s.getLast? == some ' ' && !s.all (· == ' ') then
    s.tail.dropLast
  else s

/-- The content of a code span between two positions. -/
def codeBetween (source : Source) (start stop : Nat) : List Char :=
  trimCode (joinCode source.inTable (source.between start stop))

/-- A label is defined. -/
def isDefined (source : Source) (label : List Char) : Bool := source.labels.contains label

/-- Reads a label that takes up the whole text between two positions. -/
def labelBetween? (source : Source) (start stop : Nat) : Option (List Char) :=
  match label? (source.between start stop) with
  | some (label, []) => some label
  | _ => none

/-- Where a link ends whose closing bracket stops at `token.stop` : behind its target, or
behind the defined label that names it. -/
def linkEnd? (source : Source) (bracket : Bracket) (token : Token) : Option Nat :=
  match inlineTarget? token.after with
  | some rest => some (source.positionOf rest)
  | none =>
    let named (label : Option (List Char)) (stop : Nat) : Option Nat :=
      if label.any source.isDefined then some stop else none
    let own := source.labelBetween?
      (if bracket.isImage then bracket.start + 1 else bracket.start) token.stop
    match token.after with
    | '[' :: ']' :: _ => named own (token.stop + 2)
    | _ =>
      match label? token.after with
      | some (label, rest) => named (some label) (source.positionOf rest)
      | none => named own token.stop

end Source

/-- The closing run of `count` backticks : where it starts, and the tokens behind it. -/
def closingTicks? (count : Nat) : List Token → Option (Nat × List Token)
  | [] => none
  | token :: rest =>
    match token.kind with
    | .ticks n _ => if n = count then some (token.start, rest) else closingTicks? count rest
    | _ => closingTicks? count rest

theorem length_closingTicks_le {count start : Nat} {tokens rest : List Token}
    (h : closingTicks? count tokens = some (start, rest)) : rest.length ≤ tokens.length := by
  induction tokens with
  | nil => simp [closingTicks?] at h
  | cons token others ih =>
    simp only [closingTicks?] at h
    split at h
    · split at h
      · simp only [Option.some.injEq, Prod.mk.injEq] at h
        obtain ⟨-, rfl⟩ := h
        simp
      · exact Nat.le_trans (ih h) (Nat.le_succ _)
    · exact Nat.le_trans (ih h) (Nat.le_succ _)

/-- What an opening angle bracket starts : an address as a link, or raw HTML. Returns the
piece and the position behind it. -/
def anglePiece? (source : Source) (token : Token) : Option (Piece × Nat) :=
  match autolink? token.after with
  | some (address, rest) => some (.link false [.text address], source.positionOf rest)
  | none =>
    match inlineHtml? token.after with
    | some rest =>
      let stop := source.positionOf rest
      some (.html (source.between token.start stop), stop)
    | none => none

/-- Finds code, raw HTML, links and images. -/
def pieces (source : Source) (stack : Stack) : List Token → List Piece
  | [] => stack.finish
  | token :: rest =>
    match token.kind with
    | .text value => pieces source (stack.push (.text value)) rest
    | .reference value => pieces source (stack.push (.text value)) rest
    | .softBreak => pieces source (stack.push .softBreak) rest
    | .hardBreak => pieces source (stack.push .hardBreak) rest
    | .marks c count opens closes => pieces source (stack.push (.marks c count opens closes)) rest
    | .openImage => pieces source (stack.openBracket token.start true) rest
    | .openLink => pieces source (stack.openBracket token.start false) rest
    | .ticks count isEscaped =>
      let width := if isEscaped then count - 1 else count
      let plain : List Char := List.replicate count '\x60'
      if width = 0 then pieces source (stack.push (.text plain)) rest
      else
        match h : closingTicks? width rest with
        | some (start, others) =>
          have := length_closingTicks_le h
          let code := Piece.code (source.codeBetween token.stop start)
          let stack := if isEscaped then stack.push (.text ['\x60']) else stack
          pieces source (stack.push code) others
        | none => pieces source (stack.push (.text plain)) rest
    | .openAngle =>
      match anglePiece? source token with
      | some (piece, stop) =>
        have := Token.length_skipTo_le stop rest
        pieces source (stack.push piece) (Token.skipTo stop rest)
      | none => pieces source (stack.push (.text ['<'])) rest
    | .closeBracket =>
      match stack.brackets with
      | [] => pieces source (stack.push (.text [']'])) rest
      | bracket :: outer =>
        let found := if bracket.isActive then source.linkEnd? bracket token else none
        match found with
        | some stop =>
          have := Token.length_skipTo_le stop rest
          let outer := if bracket.isImage then outer else Stack.deactivateLinks outer
          let link := Piece.link bracket.isImage bracket.pieces.reverse
          pieces source (Stack.push { stack with brackets := outer } link)
            (Token.skipTo stop rest)
        | none =>
          let plain := .text [']'] :: bracket.pieces ++ [Stack.bracketText bracket]
          pieces source (Stack.pushReversed { stack with brackets := outer } plain) rest
termination_by tokens => tokens.length
decreasing_by all_goals simp_wf; try omega

/-! ## Emphasis -/

/-- A run of marks that may open an emphasis : how many of its marks are left, how long it was,
whether it may close one as well, and the structure since, in reverse. -/
structure Opener where
  c : Char
  count : Nat
  length : Nat
  closes : Bool
  inlines : List Inline

/-- Structure in reverse with the open runs of marks, innermost first. -/
structure OpenMarks where
  base : List Inline
  openers : List Opener

namespace OpenMarks

/-- Adds structure given in reverse behind the innermost opener. -/
def pushReversed (marks : OpenMarks) (inlines : List Inline) : OpenMarks :=
  match marks.openers with
  | [] => { marks with base := inlines ++ marks.base }
  | opener :: outer =>
    { marks with openers := { opener with inlines := inlines ++ opener.inlines } :: outer }

/-- Marks that are plain text. -/
def plain (c : Char) (count : Nat) : Inline := .text (List.replicate count c)

/-- Gives up openers : they are plain text in front of what follows them. -/
def giveUp : List Opener → List Inline
  | [] => []
  | opener :: outer => opener.inlines ++ plain opener.c opener.count :: giveUp outer

/-- The structure in order, when the text has ended. -/
def finish (marks : OpenMarks) : List Inline := (giveUp marks.openers ++ marks.base).reverse

/-- Whether a closing run of `length` marks goes with an opener : the marks are the same, tildes
come in equal numbers, and when one of the two runs could do both, their lengths do not add up
to a multiple of three unless both are one. -/
def isMatch (c : Char) (length : Nat) (opens : Bool) (opener : Opener) : Bool :=
  opener.c == c && (c != '~' || opener.length == length) &&
    ((!opens && !opener.closes) || (length + opener.length) % 3 != 0 || length % 3 == 0)

/-- Wraps structure in the emphasis of `count` marks, strong ones inside. -/
def wrap (c : Char) : Nat → List Inline → Inline
  | 0, inlines => .emphasis inlines
  | 1, inlines => if c == '~' then .strikethrough inlines else .emphasis inlines
  | 2, inlines => if c == '~' then .strikethrough inlines else .strong inlines
  | count + 3, inlines => wrap c (count + 1) [.strong inlines]

/-- Closes emphases with up to `count` marks of a run, and says how many are left. -/
def close (c : Char) (length : Nat) (opens : Bool) : Nat → Nat → OpenMarks → Nat × OpenMarks
  | 0, count, marks => (count, marks)
  | fuel + 1, count, marks =>
    if count = 0 then (0, marks)
    else
      match marks.openers.findIdx? (isMatch c length opens) with
      | none => (count, marks)
      | some i =>
        match marks.openers.drop i with
        | [] => (count, marks)
        | opener :: outer =>
          let used := min count opener.count
          let inside := giveUp (marks.openers.take i) ++ opener.inlines
          let wrapped := wrap c used inside.reverse
          let outer : OpenMarks := { marks with openers := outer }
          let next :=
            if used < opener.count then
              { outer with
                openers :=
                  { opener with count := opener.count - used, inlines := [wrapped] } ::
                    outer.openers }
            else outer.pushReversed [wrapped]
          close c length opens fuel (count - used) next

/-- Takes a run of marks : it closes what it can, and what is left of it opens an emphasis or
is plain text. -/
def take (c : Char) (length : Nat) (opens closes : Bool) (marks : OpenMarks) : OpenMarks :=
  let (count, marks) := if closes then close c length opens length length marks else (length, marks)
  if count = 0 then marks
  else if opens then { marks with openers := ⟨c, count, length, closes, []⟩ :: marks.openers }
  else marks.pushReversed [plain c count]

end OpenMarks

mutual

/-- A piece other than marks as structure. -/
def ofPiece : Piece → Inline
  | .text value => .text value
  | .code value => .code value
  | .html value => .html value
  | .softBreak => .softBreak
  | .hardBreak => .hardBreak
  | .marks c count _ _ => OpenMarks.plain c count
  | .link isImage pieces => .link isImage (emphasiseFrom ⟨[], []⟩ pieces)

/-- Pairs the marks among pieces, from the left. -/
def emphasiseFrom (marks : OpenMarks) : List Piece → List Inline
  | [] => marks.finish
  | .marks c count opens closes :: rest =>
    emphasiseFrom (marks.take c count opens closes) rest
  | piece :: rest => emphasiseFrom (marks.pushReversed [ofPiece piece]) rest

end

/-- Pairs the marks among pieces. -/
def emphasise (pieces : List Piece) : List Inline := emphasiseFrom ⟨[], []⟩ pieces

/-! ## Events -/

mutual

/-- The events of inline structure. -/
def Inline.events : Inline → List Event
  | .text value => [.text (String.ofList value)]
  | .code value => [.code (String.ofList value)]
  | .html value => [.inlineHtml (String.ofList value)]
  | .softBreak => [.softBreak]
  | .hardBreak => [.hardBreak]
  | .link isImage inlines =>
    .start (if isImage then .image else .link) :: (Inline.eventsOf inlines ++ [.stop])
  | .emphasis inlines => .start .emphasis :: (Inline.eventsOf inlines ++ [.stop])
  | .strong inlines => .start .strong :: (Inline.eventsOf inlines ++ [.stop])
  | .strikethrough inlines => .start .strikethrough :: (Inline.eventsOf inlines ++ [.stop])

/-- The events of several inline structures in a row. -/
def Inline.eventsOf : List Inline → List Event
  | [] => []
  | inline :: rest => Inline.events inline ++ Inline.eventsOf rest

end

/-- The inline structure of tokens. -/
def inlines (source : Source) (tokens : List Token) : List Inline :=
  emphasise (pieces source ⟨[], []⟩ tokens)

end PageRecipe.Markdown

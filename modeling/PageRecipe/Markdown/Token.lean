import PageRecipe.Markdown.CharacterReference
import PageRecipe.Text.Blank
import PageRecipe.Text.Punctuation

/-!
# Tokens of inline text

The text of a paragraph, heading or table cell is cut into plain text, line breaks and the
marks that may mean something : runs of emphasis marks and backticks, brackets and angle
brackets. What a mark turns out to mean is decided by `PageRecipe.Markdown.Inline`.
-/

namespace PageRecipe.Markdown

open PageRecipe.Text (isBlank isPunctuation isAsciiPunctuation)

/-- What a token is. -/
inductive TokenKind where
  | text (value : List Char)
  /-- What a character reference stands for. -/
  | reference (value : List Char)
  | softBreak
  | hardBreak
  /-- A run of `count` emphasis marks that may open or close an emphasis. -/
  | marks (c : Char) (count : Nat) (opens closes : Bool)
  /-- A run of backticks, the first of them possibly behind a backslash. -/
  | ticks (count : Nat) (isEscaped : Bool)
  | openAngle
  | openImage
  | openLink
  | closeBracket
  deriving Repr

/-- A token, with the positions at which it starts and stops and the text after it. -/
structure Token where
  kind : TokenKind
  start : Nat
  stop : Nat
  after : List Char
  deriving Repr

namespace Token

/-- What is left of a token from a position on. -/
def dropTo (position : Nat) (token : Token) : Token :=
  if position ≤ token.start then token
  else
    let kind := match token.kind with
      | .text value => .text (value.drop (position - token.start))
      | kind => kind
    { token with kind, start := position }

/-- The tokens from a position on. -/
def skipTo (position : Nat) : List Token → List Token
  | [] => []
  | token :: rest =>
    if token.stop ≤ position then skipTo position rest else token.dropTo position :: rest

theorem length_skipTo_le (position : Nat) (tokens : List Token) :
    (skipTo position tokens).length ≤ tokens.length := by
  induction tokens with
  | nil => simp [skipTo]
  | cons token rest ih =>
    simp only [skipTo]
    split
    · exact Nat.le_trans ih (Nat.le_succ _)
    · simp

/-! ## Emphasis marks -/

/-- Whether a run of marks may open an emphasis, by the characters next to it. Asterisks and
double tildes may open one inside a word. -/
def mayOpen (c : Char) (count : Nat) (previous next : Option Char) : Bool :=
  match next with
  | none => false
  | some next =>
    if isBlank next then false
    else
      match previous with
      | none => true
      | some previous =>
        (c == '*' && !isPunctuation next) || (c == '~' && 1 < count) ||
          (c == '~' && previous == '~' && !isPunctuation next) ||
          isBlank previous || isPunctuation previous

/-- Whether a run of marks may close an emphasis, by the characters next to it. -/
def mayClose (c : Char) (count : Nat) (previous next : Option Char) : Bool :=
  match previous with
  | none => false
  | some previous =>
    if isBlank previous then false
    else
      match next with
      | none => true
      | some next =>
        ((c == '*' || (c == '~' && 1 < count)) && !isPunctuation previous) ||
          (c == '~' && previous == '~') || isBlank next || isPunctuation next

/-! ## Cutting a text into tokens -/

/-- The state of the lexer : its position, the character before it, whether an odd number of
backslashes ends there, and the plain text since `begin`, in reverse. -/
structure Lexer where
  position : Nat
  previous : Option Char
  oddBackslashes : Bool
  textStart : Nat
  text : List Char

namespace Lexer

/-- The plain text collected so far as a token, without its last `cut` characters. -/
def flush (lexer : Lexer) (cut : Nat) (after : List Char) : List Token :=
  let value := (lexer.text.drop cut).reverse
  if value.isEmpty then []
  else [⟨.text value, lexer.textStart, lexer.position - cut, after⟩]

/-- The lexer behind `count` more characters, the last of which is `last`, with no text
collected. -/
def skip (lexer : Lexer) (count : Nat) (last : Option Char) : Lexer :=
  let position := lexer.position + count
  ⟨position, last, false, position, []⟩

/-- The lexer with one more character of plain text. -/
def push (lexer : Lexer) (c : Char) : Lexer :=
  { lexer with
    position := lexer.position + 1
    previous := some c
    oddBackslashes := c == '\\' && !lexer.oddBackslashes
    text := c :: lexer.text }

/-- The lexer behind a run of plain characters. -/
def pushAll (lexer : Lexer) (cs : List Char) : Lexer := cs.foldl push lexer

end Lexer

/-- Cuts the text `s` into tokens, up to the position `stop`. Line breaks at the very end are
dropped, and so are the blanks in front of them and those that a line starts with. -/
def lex (stop : Nat) : Nat → Lexer → List Char → List Token
  | 0, _, _ => []
  | fuel + 1, lexer, s =>
    let blanks := (lexer.text.takeWhile isLineBlank).length
    let finish := lexer.flush blanks s
    if stop ≤ lexer.position then finish
    else
      let single (kind : TokenKind) (count : Nat) (last : Char) (rest : List Char) : List Token :=
        let next := lexer.skip count (some last)
        lexer.flush 0 s ++ ⟨kind, lexer.position, next.position, rest⟩ :: lex stop fuel next rest
      match s with
      | [] => finish
      | '\\' :: c :: rest =>
        if isAsciiPunctuation c && lexer.position + 1 < stop then
          if c == '\x60' then
            let count := 1 + runLength '\x60' rest
            let rest := rest.drop (count - 1)
            let next := lexer.skip (1 + count) (some '\x60')
            lexer.flush 0 s ++
              ⟨.ticks count true, lexer.position + 1, next.position, rest⟩ ::
                lex stop fuel next rest
          else
            let escaped : Lexer :=
              ⟨lexer.position + 2, some c, c == '\\' && lexer.oddBackslashes,
                lexer.position + 1, [c]⟩
            lexer.flush 0 s ++ lex stop fuel escaped rest
        else lex stop fuel (lexer.push '\\') (c :: rest)
      | '\x60' :: rest =>
        let count := 1 + runLength '\x60' rest
        single (.ticks count false) count '\x60' (rest.drop (count - 1))
      | '!' :: '[' :: rest => single .openImage 2 '[' rest
      | '[' :: rest => single .openLink 1 '[' rest
      | ']' :: rest => single .closeBracket 1 ']' rest
      | c :: rest =>
        if isLineEnd c then
          let after := (lineEnd? s).getD []
          if after.isEmpty then finish
          else
            let width := s.length - after.length
            let indent := after.takeWhile fun d => d == ' ' || d == '\t'
            let next := lexer.skip (width + indent.length) (some '\n')
            let body := after.drop indent.length
            let (kind, cut) : TokenKind × Nat :=
              if lexer.oddBackslashes then (.hardBreak, 1)
              else (if 2 ≤ blanks then .hardBreak else .softBreak, blanks)
            lexer.flush cut s ++
              ⟨kind, lexer.position - cut, lexer.position + width, after⟩ :: lex stop fuel next body
        else if c == '*' || c == '_' || c == '~' then
          let count := 1 + runLength c rest
          let rest := rest.drop (count - 1)
          let opens := mayOpen c count lexer.previous rest.head?
          let closes := mayClose c count lexer.previous rest.head?
          if (opens || closes) && (c != '~' || count ≤ 2) then
            single (.marks c count opens closes) count c rest
          else lex stop fuel (lexer.pushAll (List.replicate count c)) rest
        else if c == '<' && rest.head? != some '\\' then single .openAngle 1 '<' rest
        else if c == '&' then
          match characterReference? rest with
          | some (value, after) =>
            single (.reference value) (s.length - after.length) ';' after
          | none => lex stop fuel (lexer.push c) rest
        else lex stop fuel (lexer.push c) rest

/-- The tokens of a text up to the position `stop`. -/
def ofText (s : List Char) (stop : Nat) : List Token :=
  lex stop (s.length + 1) ⟨0, none, false, 0, []⟩ s

end Token

end PageRecipe.Markdown

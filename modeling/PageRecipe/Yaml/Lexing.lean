import PageRecipe.Yaml.Label
import PageRecipe.Yaml.PlainScalar
import PageRecipe.Yaml.QuotedScalar
import PageRecipe.Yaml.BlockScalar

/-!
# Reading tokens

The block structure of a YAML text is given by its indentation, and a mapping key shows only
by the colon behind it. A lexer keeps the indentations that are open and the tokens that may
turn out to be keys, and puts the token that starts a mapping in front of its first key when
the colon comes. `tokens` are the tokens of a text.

A token that may still become a key is not settled. When the text turns out unreadable, only
the settled tokens count.
-/

namespace PageRecipe.Yaml

/-- A token that may turn out to be a key. -/
structure KeyCandidate where
  /-- The number of the token. -/
  number : Nat
  mark : Mark
  /-- Nothing but a key may stand in its place. -/
  isRequired : Bool
  deriving Repr

/-- What has been read of a text. -/
structure Lexer where
  cursor : Cursor
  tokens : Array Token
  /-- The column of the innermost open block collection, less than zero outside of all. -/
  indent : Int
  /-- The columns of the block collections around it. -/
  outer : List Int
  /-- The candidate of the innermost flow collection. -/
  candidate : Option KeyCandidate
  /-- The candidates around it, one for each open flow collection. -/
  outerCandidates : List (Option KeyCandidate)
  /-- A key may start at the cursor. -/
  keyAllowed : Bool

namespace Lexer

/-- The lexer in front of a text. -/
def start (s : List Char) : Lexer :=
  { cursor := ⟨s, .start⟩, tokens := #[], indent := -1, outer := [], candidate := none,
    outerCandidates := [], keyAllowed := true }

/-- The cursor is inside a flow collection. -/
def inFlow (lexer : Lexer) : Bool := !lexer.outerCandidates.isEmpty

/-- The place of the lexer. -/
def mark (lexer : Lexer) : Mark := lexer.cursor.mark

/-- Appends a token that takes no characters. -/
def append (lexer : Lexer) (kind : TokenKind) (mark : Mark) : Lexer :=
  { lexer with tokens := lexer.tokens.push ⟨kind, mark, mark⟩ }

/-- Appends a token that reaches up to `behind`, and moves there. -/
def appendTo (lexer : Lexer) (kind : TokenKind) (behind : Cursor) : Lexer :=
  { lexer with tokens := lexer.tokens.push ⟨kind, lexer.mark, behind.mark⟩, cursor := behind }

/-- Puts a token in front of the token of a number. -/
def insert (lexer : Lexer) (number : Nat) (kind : TokenKind) (mark : Mark) : Lexer :=
  { lexer with tokens := lexer.tokens.insertIdxIfInBounds number ⟨kind, mark, mark⟩ }

/-! ## Keys -/

/-- How far a key may reach. -/
def maxKeyLength : Nat := 1024

/-- The candidate cannot be a key any more : the line or the length of a key is exceeded. -/
def isStale (mark : Mark) (candidate : KeyCandidate) : Bool :=
  decide (candidate.mark.line < mark.line) ||
    decide (candidate.mark.index + maxKeyLength < mark.index)

/-- The fault of a candidate that had to be a key and is not. -/
def missingColon (candidate : KeyCandidate) (mark : Mark) : Fault :=
  .within .simpleKey candidate.mark .missingColon mark

/-- The candidate, unless it is stale. -/
def freshCandidate (mark : Mark) :
    Option KeyCandidate → Except Fault (Option KeyCandidate)
  | none => .ok none
  | some candidate =>
    if isStale mark candidate then
      if candidate.isRequired then .error (missingColon candidate mark) else .ok none
    else .ok (some candidate)

/-- Gives up the candidates that are stale. -/
def dropStale (lexer : Lexer) : Except Fault Lexer := do
  let outer ← lexer.outerCandidates.reverse.mapM (freshCandidate lexer.mark)
  let candidate ← freshCandidate lexer.mark lexer.candidate
  return { lexer with candidate := candidate, outerCandidates := outer.reverse }

/-- Gives up the innermost candidate. -/
def dropCandidate (lexer : Lexer) : Except Fault Lexer :=
  match lexer.candidate with
  | some candidate =>
    if candidate.isRequired then .error (missingColon candidate lexer.mark)
    else .ok { lexer with candidate := none }
  | none => .ok lexer

/-- Notes that the next token may be a key, if a key is allowed. -/
def noteCandidate (lexer : Lexer) : Except Fault Lexer := do
  if lexer.keyAllowed then
    let required := !lexer.inFlow && lexer.indent == lexer.mark.column
    let lexer ← lexer.dropCandidate
    return { lexer with candidate := some ⟨lexer.tokens.size, lexer.mark, required⟩ }
  else return lexer

/-- The lexer with a key allowed or not. -/
def allowKey (lexer : Lexer) (allowed : Bool) : Lexer := { lexer with keyAllowed := allowed }

/-! ## Indentation -/

/-- Opens a block collection at a column, if it is further in. Its token stands in front of
the token of the given number. -/
def openBlock (lexer : Lexer) (column number : Nat) (kind : TokenKind) (mark : Mark) : Lexer :=
  if lexer.inFlow || decide ((column : Int) ≤ lexer.indent) then lexer
  else
    let lexer :=
      if number < lexer.tokens.size then lexer.insert number kind mark
      else lexer.append kind mark
    { lexer with indent := column, outer := lexer.indent :: lexer.outer }

/-- Closes block collections, as many as `outer`, as long as they are further in than the
column. -/
def closeBlocks (column : Int) (mark : Mark) : Int → List Int → Array Token →
    Int × List Int × Array Token
  | indent, next :: outer, tokens =>
    if column < indent then
      closeBlocks column mark next outer (tokens.push ⟨.blockEnd, mark, mark⟩)
    else (indent, next :: outer, tokens)
  | indent, [], tokens => (indent, [], tokens)

/-- Closes the block collections that are further in than the column. -/
def closeTo (lexer : Lexer) (column : Int) : Lexer :=
  if lexer.inFlow then lexer
  else
    let (indent, outer, tokens) :=
      closeBlocks column lexer.mark lexer.indent lexer.outer lexer.tokens
    { lexer with indent := indent, outer := outer, tokens := tokens }

/-! ## Single tokens -/

/-- Skips blanks, comments and line breaks, at most `fuel` lines. -/
def skipGaps : Nat → Lexer → Lexer
  | 0, lexer => lexer
  | fuel + 1, lexer =>
    let cursor :=
      if lexer.mark.index == 0 && lexer.cursor.isAt '\uFEFF' then lexer.cursor.next
      else lexer.cursor
    let tabs := lexer.inFlow || !lexer.keyAllowed
    let cursor := cursor.skipWhile fun c => c == ' ' || (tabs && c == '\t')
    let cursor := if cursor.isAt '#' then cursor.toLineEnd else cursor
    if cursor.isAtSome isBreak then
      skipGaps fuel
        { lexer with cursor := cursor.nextLine, keyAllowed := lexer.keyAllowed || !lexer.inFlow }
    else { lexer with cursor := cursor }

/-- Reads the end of the text. -/
def readEnd (lexer : Lexer) : Except Fault Lexer := do
  let mark := lexer.mark.lineStart
  let lexer := { lexer with cursor := ⟨lexer.cursor.rest, mark⟩ }.closeTo (-1)
  let lexer ← lexer.dropCandidate
  return (lexer.allowKey false).append .streamEnd mark

/-- Reads a directive. -/
def readDirective (lexer : Lexer) : Except Fault Lexer := do
  let lexer ← (lexer.closeTo (-1)).dropCandidate
  let (kind, behind, next) ← Label.readDirective lexer.cursor
  return { (lexer.allowKey false).appendTo kind behind with cursor := next }

/-- Reads a mark that starts or ends a document. -/
def readDocumentMarker (lexer : Lexer) (kind : TokenKind) : Except Fault Lexer := do
  let lexer ← (lexer.closeTo (-1)).dropCandidate
  return (lexer.allowKey false).appendTo kind (lexer.cursor.advance 3)

/-- Reads the bracket that opens a flow collection. -/
def readFlowStart (lexer : Lexer) (kind : TokenKind) : Except Fault Lexer := do
  let lexer ← lexer.noteCandidate
  let lexer :=
    { lexer with candidate := none, outerCandidates := lexer.candidate :: lexer.outerCandidates }
  return (lexer.allowKey true).appendTo kind lexer.cursor.next

/-- Reads the bracket that closes a flow collection. -/
def readFlowEnd (lexer : Lexer) (kind : TokenKind) : Except Fault Lexer := do
  let lexer ← lexer.dropCandidate
  let lexer :=
    match lexer.outerCandidates with
    | candidate :: outer => { lexer with candidate := candidate, outerCandidates := outer }
    | [] => lexer
  return (lexer.allowKey false).appendTo kind lexer.cursor.next

/-- Reads the comma of a flow collection. -/
def readFlowEntry (lexer : Lexer) : Except Fault Lexer := do
  let lexer ← lexer.dropCandidate
  return (lexer.allowKey true).appendTo .flowEntry lexer.cursor.next

/-- Reads a dash. -/
def readBlockEntry (lexer : Lexer) : Except Fault Lexer := do
  if !lexer.inFlow && !lexer.keyAllowed then
    throw (.plain .sequenceEntryNotAllowed lexer.mark)
  let lexer :=
    lexer.openBlock lexer.mark.column lexer.tokens.size .blockSequenceStart lexer.mark
  let lexer ← lexer.dropCandidate
  return (lexer.allowKey true).appendTo .blockEntry lexer.cursor.next

/-- Reads a question mark. -/
def readKey (lexer : Lexer) : Except Fault Lexer := do
  if !lexer.inFlow && !lexer.keyAllowed then throw (.plain .keyNotAllowed lexer.mark)
  let lexer :=
    lexer.openBlock lexer.mark.column lexer.tokens.size .blockMappingStart lexer.mark
  let lexer ← lexer.dropCandidate
  return (lexer.allowKey !lexer.inFlow).appendTo .key lexer.cursor.next

/-- Reads a colon. If there is a candidate, it turns out to be a key. -/
def readValue (lexer : Lexer) : Except Fault Lexer := do
  match lexer.candidate with
  | some candidate =>
    let lexer := lexer.insert candidate.number .key candidate.mark
    let lexer := lexer.openBlock candidate.mark.column candidate.number .blockMappingStart
      candidate.mark
    let lexer := { lexer with candidate := none }
    return (lexer.allowKey false).appendTo .value lexer.cursor.next
  | none =>
    if !lexer.inFlow && !lexer.keyAllowed then throw (.plain .valueNotAllowed lexer.mark)
    let lexer :=
      lexer.openBlock lexer.mark.column lexer.tokens.size .blockMappingStart lexer.mark
    return (lexer.allowKey !lexer.inFlow).appendTo .value lexer.cursor.next

/-- Reads an anchor or an alias. -/
def readName (lexer : Lexer) (activity : Activity) (kind : String → TokenKind) :
    Except Fault Lexer := do
  let lexer ← lexer.noteCandidate
  let (name, behind) ← Label.readName activity lexer.cursor
  return (lexer.allowKey false).appendTo (kind name) behind

/-- Reads a tag. -/
def readTag (lexer : Lexer) : Except Fault Lexer := do
  let lexer ← lexer.noteCandidate
  let (name, behind) ← Label.readTag lexer.inFlow lexer.cursor
  return (lexer.allowKey false).appendTo (.tag name) behind

/-- Reads a block scalar. -/
def readBlockScalar (lexer : Lexer) : Except Fault Lexer := do
  let lexer ← lexer.dropCandidate
  let (text, behind) ← BlockScalar.read lexer.indent lexer.cursor
  return (lexer.allowKey true).appendTo (.scalar false (String.ofList text)) behind

/-- Reads a quoted scalar. -/
def readQuotedScalar (lexer : Lexer) : Except Fault Lexer := do
  let lexer ← lexer.noteCandidate
  let (text, behind) ← QuotedScalar.read lexer.cursor
  return (lexer.allowKey false).appendTo (.scalar false (String.ofList text)) behind

/-- Reads a plain scalar. -/
def readPlainScalar (lexer : Lexer) : Except Fault Lexer := do
  let lexer ← lexer.noteCandidate
  let reading ← PlainScalar.read lexer.inFlow (lexer.indent + 1).toNat lexer.cursor
  return (lexer.allowKey reading.endsLine).appendTo (.scalar true (String.ofList reading.text))
    reading.cursor

/-- Reads the token at the cursor. -/
def readToken (lexer : Lexer) : Except Fault Lexer :=
  let cursor := lexer.cursor
  let free := !lexer.inFlow
  match cursor.rest with
  | [] => lexer.readEnd
  | c :: rest =>
    let startsGap := atGap rest
    if cursor.mark.column == 0 && c == '%' then lexer.readDirective
    else if cursor.isAtMarker '-' then lexer.readDocumentMarker .documentStart
    else if cursor.isAtMarker '.' then lexer.readDocumentMarker .documentEnd
    else if c == '[' then lexer.readFlowStart .flowSequenceStart
    else if c == '{' then lexer.readFlowStart .flowMappingStart
    else if c == ']' then lexer.readFlowEnd .flowSequenceEnd
    else if c == '\x7d' then lexer.readFlowEnd .flowMappingEnd
    else if c == ',' then lexer.readFlowEntry
    else if c == '-' && startsGap then lexer.readBlockEntry
    else if c == '?' && (!free || startsGap) then lexer.readKey
    else if c == ':' && (!free || startsGap) then lexer.readValue
    else if c == '*' then lexer.readName .aliasName .aliasTo
    else if c == '&' then lexer.readName .anchor .anchor
    else if c == '!' then lexer.readTag
    else if (c == '|' || c == '>') && free then lexer.readBlockScalar
    else if c == '\'' || c == '"' then lexer.readQuotedScalar
    else if PlainScalar.startsAt lexer.inFlow cursor.rest then lexer.readPlainScalar
    else .error (.within .nextToken cursor.mark .strayCharacter cursor.mark)

/-- Reads the next token. -/
def next (lexer : Lexer) : Except Fault Lexer := do
  let lexer := skipGaps (lexer.cursor.rest.length + 1) lexer
  let lexer ← lexer.dropStale
  let lexer ← (lexer.closeTo lexer.mark.column).readToken
  lexer.dropStale

/-- The tokens that are settled : those in front of the first that may still become a key. -/
def settled (lexer : Lexer) : List Token :=
  let numbers := (lexer.candidate :: lexer.outerCandidates).filterMap
    fun candidate => candidate.map (·.number)
  lexer.tokens.toList.take (numbers.foldl min lexer.tokens.size)

/-- The last token read ends the text. -/
def isDone (lexer : Lexer) : Bool := lexer.tokens.back?.any (·.kind == .streamEnd)

/-- Reads all tokens, at most `fuel` steps. -/
def readAll : Nat → Lexer → List Token
  | 0, lexer => lexer.tokens.toList
  | fuel + 1, lexer =>
    if lexer.isDone then lexer.tokens.toList
    else
      match lexer.next with
      | .ok lexer => readAll fuel lexer
      | .error fault => lexer.settled ++ [⟨.unreadable fault, fault.mark, fault.mark⟩]

end Lexer

/-- The tokens of a text. -/
def tokens (s : List Char) : List Token := (Lexer.start s).readAll (s.length + 2)

end PageRecipe.Yaml

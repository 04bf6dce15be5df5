import PageRecipe.Numeric.Literal
import PageRecipe.Yaml.Token

/-!
# Anchors, tags and directives

The labels that stand in front of a node, and the directives that stand in front of a
document.
-/

namespace PageRecipe.Yaml.Label

/-- The characters at the cursor that satisfy `p`, and the cursor behind them. -/
def span (p : Char → Bool) (cursor : Cursor) : List Char × Cursor :=
  (cursor.rest.takeWhile p, cursor.skipWhile p)

/-- A name may be followed by the text. -/
def endsName (s : List Char) : Bool := atGap s || s.head?.any "?:,]\x7d%@\x60".toList.contains

/-- Reads the name behind `&` or `*`. -/
def readName (activity : Activity) (cursor : Cursor) : Except Fault (String × Cursor) :=
  let (name, behind) := span isNameChar cursor.next
  if name.isEmpty || !endsName behind.rest then
    .error (.within activity cursor.mark .missingName behind.mark)
  else .ok (String.ofList name, behind)

/-! ## Tags -/

/-- A character of the text of a tag that is no comma and no bracket. -/
def isTagChar (c : Char) : Bool := isNameChar c || ";/?:@&=+$.%!~*'()".toList.contains c

/-- How many octets a character has that starts with an octet. -/
def octetCount? (n : Nat) : Option Nat :=
  if n < 0x80 then some 1
  else if 0xC0 ≤ n ∧ n < 0xE0 then some 2
  else if 0xE0 ≤ n ∧ n < 0xF0 then some 3
  else if 0xF0 ≤ n ∧ n < 0xF8 then some 4
  else none

/-- The octet that `%` and two hexadecimal digits spell. -/
def octet? : List Char → Option Nat
  | '%' :: a :: b :: _ => natOfDigits? 16 [a, b]
  | _ => none

/-- Reads the further octets of a character that is spelled by escapes. -/
def readOctets (fault : Problem → Cursor → Fault) :
    Nat → Cursor → Except Fault (List Nat × Cursor)
  | 0, cursor => .ok ([], cursor)
  | count + 1, cursor =>
    match octet? cursor.rest with
    | none => .error (fault .badTagEscape cursor)
    | some n =>
      if n < 0x80 ∨ 0xC0 ≤ n then .error (fault .badTagNextOctet cursor)
      else do
        let (octets, cursor) ← readOctets fault count (cursor.advance 3)
        return (n :: octets, cursor)

/-- Reads the octets of one character that is spelled by escapes. -/
def readEscape (fault : Problem → Cursor → Fault) (cursor : Cursor) :
    Except Fault (List Nat × Cursor) :=
  match octet? cursor.rest with
  | none => .error (fault .badTagEscape cursor)
  | some n =>
    match octetCount? n with
    | none => .error (fault .badTagFirstOctet cursor)
    | some count => do
      let (octets, cursor) ← readOctets fault (count - 1) (cursor.advance 3)
      return (n :: octets, cursor)

/-- The character that octets encode, if they encode one. -/
def decodeOctets (octets : List Nat) : List Char :=
  match String.fromUTF8? ⟨(octets.map UInt8.ofNat).toArray⟩ with
  | some s => s.toList
  | none => ['\uFFFD']

/-- Reads the text of a tag, at most `fuel` characters. -/
def readTagText (allowed : Char → Bool) (fault : Problem → Cursor → Fault) :
    Nat → Cursor → Except Fault (List Char × Cursor)
  | 0, cursor => .ok ([], cursor)
  | fuel + 1, cursor =>
    match cursor.rest with
    | [] => .ok ([], cursor)
    | c :: _ =>
      if !allowed c then .ok ([], cursor)
      else do
        let (first, cursor) ←
          if c == '%' then
            (readEscape fault cursor).map fun (octets, next) => (decodeOctets octets, next)
          else .ok ([c], cursor.next)
        let (others, cursor) ← readTagText allowed fault fuel cursor
        return (first ++ others, cursor)

/-- Reads a tag text behind the characters `head`, which count as its start. -/
def readTagUri (withMarks inDirective : Bool) (start : Mark) (head : List Char)
    (cursor : Cursor) : Except Fault (List Char × Cursor) := do
  let activity : Activity := if inDirective then .tagDirectiveText else .tagText
  let fault (problem : Problem) (place : Cursor) : Fault :=
    .within activity start problem place.mark
  let allowed (c : Char) : Bool := isTagChar c || (withMarks && ",[]".toList.contains c)
  let (text, behind) ← readTagText allowed fault cursor.rest.length cursor
  if text.isEmpty && head.isEmpty then throw (fault .missingTagText behind)
  return (head.tail ++ text, behind)

/-- Reads a tag handle : an exclamation mark, or a name between two of them. -/
def readHandle (inDirective : Bool) (start : Mark) (cursor : Cursor) :
    Except Fault (List Char × Cursor) :=
  if !cursor.isAt '!' then
    .error (.within (if inDirective then .tagDirective else .tag) start .missingExclamationMark
      cursor.mark)
  else
    let (name, behind) := span isNameChar cursor.next
    if behind.isAt '!' then .ok ('!' :: name ++ ['!'], behind.next)
    else if inDirective && !name.isEmpty then
      .error (.within .tagDirectiveHandle start .missingExclamationMark behind.mark)
    else .ok ('!' :: name, behind)

/-- Reads a tag : its whole text in angle brackets, or a handle and what follows it. -/
def readTag (inFlow : Bool) (cursor : Cursor) : Except Fault (TagName × Cursor) := do
  let start := cursor.mark
  let (name, behind) ←
    if cursor.next.isAt '<' then do
      let (text, behind) ← readTagUri true false start [] (cursor.advance 2)
      if !behind.isAt '>' then throw (.within .tag start .missingTagEnd behind.mark)
      pure ((⟨"", String.ofList text⟩ : TagName), behind.next)
    else do
      let (handle, behind) ← readHandle false start cursor
      if 1 < handle.length && handle.getLast? == some '!' then do
        let (text, behind) ← readTagUri false false start [] behind
        pure (⟨String.ofList handle, String.ofList text⟩, behind)
      else do
        let (text, behind) ← readTagUri false false start handle behind
        pure (if text.isEmpty then (⟨"", "!"⟩, behind) else (⟨"!", String.ofList text⟩, behind))
  if !atGap behind.rest && !(inFlow && behind.isAt ',') then
    throw (.within .tag start .missingBlankOrBreak behind.mark)
  return (name, behind)

/-! ## Directives -/

/-- Reads a number of a version. -/
def readVersionNumber (start : Mark) (cursor : Cursor) : Except Fault (Nat × Cursor) :=
  let (digits, behind) := span Char.isDigit cursor
  if 9 < digits.length then
    .error (.within .versionDirective start .longVersionNumber (cursor.advance 9).mark)
  else if digits.isEmpty then
    .error (.within .versionDirective start .missingVersionNumber cursor.mark)
  else .ok (digits.foldl (fun n c => 10 * n + (c.toNat - '0'.toNat)) 0, behind)

/-- Reads a version. -/
def readVersion (start : Mark) (cursor : Cursor) : Except Fault (TokenKind × Cursor) := do
  let (major, cursor) ← readVersionNumber start (cursor.skipWhile isBlank)
  if !cursor.isAt '.' then
    throw (.within .versionDirective start .missingVersionPoint cursor.mark)
  let (minor, cursor) ← readVersionNumber start cursor.next
  return (.version major minor, cursor)

/-- Reads a tag handle and what it stands for. -/
def readTagHandle (start : Mark) (cursor : Cursor) : Except Fault (TokenKind × Cursor) := do
  let (handle, cursor) ← readHandle true start (cursor.skipWhile isBlank)
  if !cursor.isAtSome isBlank then
    throw (.within .tagDirectiveEnd start .missingBlank cursor.mark)
  let (text, cursor) ← readTagUri true true start [] (cursor.skipWhile isBlank)
  if !atGap cursor.rest then
    throw (.within .tagDirectiveEnd start .missingBlankOrBreak cursor.mark)
  return (.tagHandle (String.ofList handle) (String.ofList text), cursor)

/-- Reads the directive at the cursor : the token, the cursor behind it, and the cursor in the
next line. -/
def readDirective (cursor : Cursor) : Except Fault (TokenKind × Cursor × Cursor) := do
  let start := cursor.mark
  let (name, behind) := span isNameChar cursor.next
  if name.isEmpty then throw (.within .directive start .missingDirectiveName behind.mark)
  if !atGap behind.rest then throw (.within .directive start .badDirectiveName behind.mark)
  let (kind, behind) ←
    if name = "YAML".toList then readVersion start behind
    else if name = "TAG".toList then readTagHandle start behind
    else throw (.within .directive start .unknownDirective behind.mark)
  let atEnd := behind.skipWhile isBlank
  let atEnd := if atEnd.isAt '#' then atEnd.toLineEnd else atEnd
  if !atBreak atEnd.rest then
    throw (.within .directive start .missingCommentOrBreak atEnd.mark)
  return (kind, behind, atEnd.nextLine)

end PageRecipe.Yaml.Label

import PageRecipe.Yaml.Lexing

/-!
# Nodes as they are written

The nodes of a YAML document with their places, anchors, tags and aliases. A document that
cannot be read to its end has a broken node where the reading stops, and nothing behind it
(`Written.broken`). `Document.ofTokens` reads the first document of a text.
-/

namespace PageRecipe.Yaml

/-- What stands in front of a node. -/
structure Label where
  mark : Mark
  anchor : Option String
  tag : Option String
  deriving DecidableEq, Repr, Inhabited

/-- A node as it is written. -/
inductive Written where
  | scalar (label : Label) (isPlain : Bool) (text : String)
  | sequence (label : Label) (items : List Written)
  | mapping (label : Label) (entries : List (Written × Written))
  | aliasTo (mark : Mark) (name : String)
  /-- The document cannot be read any further. -/
  | broken (fault : Fault)
  deriving Repr, Inhabited

/-- The scalar without text and without marks. -/
def Written.empty (mark : Mark) : Written := .scalar ⟨mark, none, none⟩ true ""

/-- The first document of a text. -/
structure Document where
  root : Written
  /-- The document cannot be read to its end, although its root can. -/
  fault : Option Fault
  /-- Something follows the document. -/
  hasMore : Bool
  deriving Repr

namespace Reading

/-- What is left to read, or why nothing can be read any more. -/
abbrev Rest := Except Fault (List Token)

/-- The next token. -/
def peek : List Token → Except Fault Token
  | [] => .error (.plain .missingDocumentStart .start)
  | token :: _ =>
    match token.kind with
    | .unreadable fault => .error fault
    | _ => .ok token

/-- The kind of the next token, if one can be read. -/
def peekKind? (tokens : List Token) : Option TokenKind := (peek tokens).toOption.map (·.kind)

/-! ## Labels -/

/-- What tag handles stand for. -/
abbrev Handles := List (String × String)

/-- The handles that need no declaration. -/
def defaultHandles : Handles := [("!", "!"), ("!!", "tag:yaml.org,2002:")]

/-- A tag in full. -/
def fullTag? (handles : Handles) (name : TagName) : Option String :=
  if name.handle.isEmpty then some name.suffix
  else (handles.lookup name.handle).map (· ++ name.suffix)

/-- Reads an anchor, if there is one. -/
def readAnchor (tokens : List Token) : Except Fault (Option String × List Token) := do
  let token ← peek tokens
  match token.kind with
  | .anchor name => return (some name, tokens.tail)
  | _ => return (none, tokens)

/-- Reads a tag, if there is one. -/
def readTag (tokens : List Token) : Except Fault (Option (TagName × Mark) × List Token) := do
  let token ← peek tokens
  match token.kind with
  | .tag name => return (some (name, token.start), tokens.tail)
  | _ => return (none, tokens)

/-- Reads an anchor and a tag, in either order. -/
def readLabel (handles : Handles) (tokens : List Token) : Except Fault (Label × List Token) := do
  let start := (← peek tokens).start
  let (anchor, tokens) ← readAnchor tokens
  let (tag, tokens) ← readTag tokens
  let (anchor, tokens) ←
    if anchor.isNone && tag.isSome then readAnchor tokens else pure (anchor, tokens)
  discard (peek tokens)
  match tag with
  | none => return (⟨start, anchor, none⟩, tokens)
  | some (name, mark) =>
    match fullTag? handles name with
    | some full => return (⟨start, anchor, some full⟩, tokens)
    | none => throw (.within .node start .unknownTagHandle mark)

/-! ## Nodes -/

/-- A node or a part of one that ends in a fault. -/
def stop (fault : Fault) : Written × Rest := (.broken fault, .error fault)

/-- Puts a node in front of the items behind it, which are read only if the node is whole. -/
def followedBy (item : Written × Rest) (others : List Token → List Written × Rest) :
    List Written × Rest :=
  match item.2 with
  | .error fault => ([item.1], .error fault)
  | .ok tokens =>
    let (items, rest) := others tokens
    (item.1 :: items, rest)

/-- Puts a key and its value in front of the entries behind them. -/
def entryFollowedBy (key : Written × Rest) (value : List Token → Written × Rest)
    (others : List Token → List (Written × Written) × Rest) :
    List (Written × Written) × Rest :=
  match key.2 with
  | .error fault => ([(key.1, .broken fault)], .error fault)
  | .ok tokens =>
    let (value, rest) := value tokens
    match rest with
    | .error fault => ([(key.1, value)], .error fault)
    | .ok tokens =>
      let (entries, rest) := others tokens
      ((key.1, value) :: entries, rest)

/-- The empty scalar, behind which the reading goes on. -/
def missing (mark : Mark) (tokens : List Token) : Written × Rest := (.empty mark, .ok tokens)

/-- A node is missing in front of the token. -/
def isAbsent (closing : List TokenKind) (tokens : List Token) : Bool :=
  (peekKind? tokens).any closing.contains

/-- Where a node stands. -/
inductive Position where
  /-- Inside a flow collection. -/
  | flow
  /-- In a block. -/
  | block
  /-- In a block mapping, where a sequence need not be indented. -/
  | mappingBlock
  deriving DecidableEq, Repr

/-- A node without content, which only a label allows. -/
def noContent (position : Position) (label : Label) (token : Token) (tokens : List Token) :
    Written × Rest :=
  if label.anchor.isSome || label.tag.isSome then (.scalar label true "", .ok tokens)
  else
    stop (.within (if position = .flow then .flowNode else .blockNode) label.mark
      .missingNodeContent token.start)

/-- The value of a flow mapping that has none. -/
def emptyValue (tokens : List Token) : Written × Rest :=
  match peek tokens with
  | .error fault => stop fault
  | .ok token => missing token.start tokens

mutual

/-- Reads a node. -/
def readNode (handles : Handles) : Nat → Position → List Token → Written × Rest
  | 0, _, _ => stop default
  | fuel + 1, position, tokens =>
    match peek tokens with
    | .error fault => stop fault
    | .ok first =>
      match first.kind with
      | .aliasTo name => (.aliasTo first.start name, .ok tokens.tail)
      | _ =>
        match readLabel handles tokens with
        | .error fault => stop fault
        | .ok (label, tokens) => readContent handles fuel position label tokens

/-- Reads a node behind its label. -/
def readContent (handles : Handles) :
    Nat → Position → Label → List Token → Written × Rest
  | 0, _, _, _ => stop default
  | fuel + 1, position, label, tokens =>
    match peek tokens with
    | .error fault => stop fault
    | .ok token =>
      let behind := tokens.tail
      let sequence (read : List Written × Rest) : Written × Rest :=
        (.sequence label read.1, read.2)
      let mapping (read : List (Written × Written) × Rest) : Written × Rest :=
        (.mapping label read.1, read.2)
      let isBlock := position != .flow
      match token.kind with
      | .scalar isPlain text =>
        if label.tag == some "!" then
          (.scalar { label with tag := none } isPlain text, .ok behind)
        else (.scalar label isPlain text, .ok behind)
      | .flowSequenceStart => sequence (readFlowSequence handles fuel token.start true behind)
      | .flowMappingStart => mapping (readFlowMapping handles fuel token.start true behind)
      | .blockEntry =>
        if position == .mappingBlock then sequence (readDashes handles fuel tokens)
        else noContent position label token tokens
      | .blockSequenceStart =>
        if isBlock then sequence (readBlockSequence handles fuel token.start behind)
        else noContent position label token tokens
      | .blockMappingStart =>
        if isBlock then mapping (readBlockMapping handles fuel token.start behind)
        else noContent position label token tokens
      | _ => noContent position label token tokens

/-- Reads the entries of an indented sequence. -/
def readBlockSequence (handles : Handles) : Nat → Mark → List Token → List Written × Rest
  | 0, _, _ => ([], .error default)
  | fuel + 1, start, tokens =>
    match peek tokens with
    | .error fault => ([.broken fault], .error fault)
    | .ok token =>
      let behind := tokens.tail
      match token.kind with
      | .blockEntry =>
        let item :=
          if isAbsent [.blockEntry, .blockEnd] behind then missing token.stop behind
          else readNode handles fuel .block behind
        followedBy item (readBlockSequence handles fuel start)
      | .blockEnd => ([], .ok behind)
      | _ =>
        let fault := .within .blockCollection start .missingDash token.start
        ([.broken fault], .error fault)

/-- Reads the entries of a sequence that is not indented in its mapping. -/
def readDashes (handles : Handles) : Nat → List Token → List Written × Rest
  | 0, _ => ([], .error default)
  | fuel + 1, tokens =>
    match peek tokens with
    | .error fault => ([.broken fault], .error fault)
    | .ok token =>
      let behind := tokens.tail
      match token.kind with
      | .blockEntry =>
        let item :=
          if isAbsent [.blockEntry, .key, .value, .blockEnd] behind then
            missing token.stop behind
          else readNode handles fuel .block behind
        followedBy item (readDashes handles fuel)
      | _ => ([], .ok tokens)

/-- Reads the value of a block mapping. -/
def readBlockValue (handles : Handles) : Nat → List Token → Written × Rest
  | 0, _ => stop default
  | fuel + 1, tokens =>
    match peek tokens with
    | .error fault => stop fault
    | .ok token =>
      let behind := tokens.tail
      if token.kind == .value then
        if isAbsent [.key, .value, .blockEnd] behind then missing token.stop behind
        else readNode handles fuel .mappingBlock behind
      else missing token.start tokens

/-- Reads the entries of a block mapping. -/
def readBlockMapping (handles : Handles) :
    Nat → Mark → List Token → List (Written × Written) × Rest
  | 0, _, _ => ([], .error default)
  | fuel + 1, start, tokens =>
    match peek tokens with
    | .error fault => ([(.broken fault, .broken fault)], .error fault)
    | .ok token =>
      let behind := tokens.tail
      match token.kind with
      | .key =>
        let key :=
          if isAbsent [.key, .value, .blockEnd] behind then missing token.stop behind
          else readNode handles fuel .mappingBlock behind
        entryFollowedBy key (readBlockValue handles fuel) (readBlockMapping handles fuel start)
      | .blockEnd => ([], .ok behind)
      | _ =>
        let fault := .within .blockMapping start .missingKey token.start
        ([(.broken fault, .broken fault)], .error fault)

/-- Reads the value of a flow mapping, in front of one of the closing marks. -/
def readFlowValue (handles : Handles) :
    Nat → TokenKind → List Token → Written × Rest
  | 0, _, _ => stop default
  | fuel + 1, closing, tokens =>
    match peek tokens with
    | .error fault => stop fault
    | .ok token =>
      if token.kind == .value then
        let behind := tokens.tail
        match peek behind with
        | .error fault => stop fault
        | .ok next =>
          if next.kind == .flowEntry || next.kind == closing then missing next.start behind
          else readNode handles fuel .flow behind
      else missing token.start tokens

/-- Reads the mapping of one entry that a key inside a flow sequence starts. -/
def readPair (handles : Handles) : Nat → List Token → List (Written × Written) × Rest
  | 0, _ => ([], .error default)
  | fuel + 1, tokens =>
    let key :=
      match peek tokens with
      | .error fault => stop fault
      | .ok token =>
        if isAbsent [.value, .flowEntry, .flowSequenceEnd] tokens then
          missing token.stop tokens.tail
        else readNode handles fuel .flow tokens
    entryFollowedBy key (readFlowValue handles fuel .flowSequenceEnd) fun tokens => ([], .ok tokens)

/-- Reads the entries of a flow sequence. -/
def readFlowSequence (handles : Handles) :
    Nat → Mark → Bool → List Token → List Written × Rest
  | 0, _, _, _ => ([], .error default)
  | fuel + 1, start, isFirst, tokens =>
    match peek tokens with
    | .error fault => ([.broken fault], .error fault)
    | .ok token =>
      if token.kind == .flowSequenceEnd then ([], .ok tokens.tail)
      else if !isFirst && token.kind != .flowEntry then
        let fault := .within .flowSequence start .missingCommaOrBracket token.start
        ([.broken fault], .error fault)
      else
        let tokens := if isFirst then tokens else tokens.tail
        match peek tokens with
        | .error fault => ([.broken fault], .error fault)
        | .ok token =>
          if token.kind == .flowSequenceEnd then ([], .ok tokens.tail)
          else
            let item :=
              if token.kind == .key then
                let (entries, rest) := readPair handles fuel tokens.tail
                (.mapping ⟨token.start, none, none⟩ entries, rest)
              else readNode handles fuel .flow tokens
            followedBy item (readFlowSequence handles fuel start false)

/-- Reads the entries of a flow mapping. -/
def readFlowMapping (handles : Handles) :
    Nat → Mark → Bool → List Token → List (Written × Written) × Rest
  | 0, _, _, _ => ([], .error default)
  | fuel + 1, start, isFirst, tokens =>
    match peek tokens with
    | .error fault => ([(.broken fault, .broken fault)], .error fault)
    | .ok token =>
      if token.kind == .flowMappingEnd then ([], .ok tokens.tail)
      else if !isFirst && token.kind != .flowEntry then
        let fault := .within .flowMapping start .missingCommaOrBrace token.start
        ([(.broken fault, .broken fault)], .error fault)
      else
        let tokens := if isFirst then tokens else tokens.tail
        match peek tokens with
        | .error fault => ([(.broken fault, .broken fault)], .error fault)
        | .ok token =>
          if token.kind == .flowMappingEnd then ([], .ok tokens.tail)
          else if token.kind == .key then
            let behind := tokens.tail
            let key :=
              match peek behind with
              | .error fault => stop fault
              | .ok next =>
                if isAbsent [.value, .flowEntry, .flowMappingEnd] behind then
                  missing next.start behind
                else readNode handles fuel .flow behind
            entryFollowedBy key (readFlowValue handles fuel .flowMappingEnd)
              (readFlowMapping handles fuel start false)
          else
            entryFollowedBy (readNode handles fuel .flow tokens) emptyValue
              (readFlowMapping handles fuel start false)

end

/-! ## Documents -/

/-- Reads the directives in front of a document. -/
def readDirectives : List Token → Bool → Handles → Except Fault (Handles × List Token)
  | [], _, handles => .ok (handles, [])
  | token :: rest, hasVersion, handles =>
    match token.kind with
    | .unreadable fault => .error fault
    | .version major minor =>
      if hasVersion then .error (.plain .repeatedVersion token.start)
      else if major ≠ 1 ∨ (minor ≠ 1 ∧ minor ≠ 2) then
        .error (.plain .foreignVersion token.start)
      else readDirectives rest true handles
    | .tagHandle handle start =>
      if (handles.lookup handle).isSome then
        .error (.plain .repeatedTagDirective token.start)
      else readDirectives rest hasVersion (handles ++ [(handle, start)])
    | _ => .ok (handles, token :: rest)

/-- Something follows in a text behind its first document. -/
def hasMore (tokens : List Token) : Bool :=
  let rest := tokens.dropWhile (·.kind == .documentEnd)
  peekKind? rest != some .streamEnd

/-- The first document, whose root was read. -/
def endDocument (root : Written) (rest : Rest) : Document :=
  match rest with
  | .error fault => ⟨root, some fault, true⟩
  | .ok tokens =>
    match peek tokens with
    | .error fault => ⟨root, some fault, true⟩
    | .ok _ => ⟨root, none, hasMore tokens⟩

/-- A document that cannot be read at all. -/
def unreadable (fault : Fault) : Document := ⟨.broken fault, some fault, true⟩

/-- Reads the root of a document. -/
def readRoot (handles : Handles) (tokens : List Token) : Document :=
  let (root, rest) := readNode handles (4 * tokens.length + 8) .block tokens
  endDocument root rest

/-- A token behind the start of a document says that the document is empty. -/
def isEmptyBefore : TokenKind → Bool
  | .version .. | .tagHandle .. | .documentStart | .documentEnd | .streamEnd => true
  | _ => false

/-- Reads a document that may have directives and a mark in front of it. -/
def readExplicit (tokens : List Token) : Document :=
  match readDirectives tokens false [] with
  | .error fault => unreadable fault
  | .ok (handles, tokens) =>
    match peek tokens with
    | .error fault => unreadable fault
    | .ok token =>
      if token.kind != .documentStart then
        unreadable (.plain .missingDocumentStart token.start)
      else
        let behind := tokens.tail
        match peek behind with
        | .error fault => unreadable fault
        | .ok token =>
          if isEmptyBefore token.kind then endDocument (.empty token.start) (.ok behind)
          else readRoot (handles ++ defaultHandles) behind

end Reading

/-- The first document of a text that has the tokens. -/
def Document.ofTokens (tokens : List Token) : Document :=
  match Reading.peek tokens with
  | .error fault => Reading.unreadable fault
  | .ok token =>
    match token.kind with
    | .streamEnd => ⟨.empty token.start, none, false⟩
    | .version .. | .tagHandle .. | .documentStart => Reading.readExplicit tokens
    | _ => Reading.readRoot Reading.defaultHandles tokens

end PageRecipe.Yaml

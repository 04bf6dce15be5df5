import PageRecipe.Yaml.Mark

/-!
# Faults in the text of a YAML document

A fault says what is wrong at a place, and in which context. `Fault.message` words it : the
problem with its place, then the context with its place where that is a different one.
-/

namespace PageRecipe.Yaml

/-- What is wrong at a place. -/
inductive Problem where
  | strayCharacter
  | sequenceEntryNotAllowed
  | keyNotAllowed
  | valueNotAllowed
  | missingColon
  | unknownDirective
  | missingDirectiveName
  | badDirectiveName
  | missingCommentOrBreak
  | missingVersionPoint
  | missingVersionNumber
  | longVersionNumber
  | missingExclamationMark
  | missingBlank
  | missingBlankOrBreak
  | missingTagEnd
  | missingTagText
  | badTagEscape
  | badTagFirstOctet
  | badTagNextOctet
  | missingName
  | zeroIndentation
  | tabInIndentation
  | tabBreaksIndentation
  | documentMarkerInScalar
  | unclosedScalar
  | unknownEscape
  | badHexadecimal
  | badCodePoint
  | colonInPlainScalar
  | missingDocumentStart
  | missingNodeContent
  | missingDash
  | missingKey
  | missingCommaOrBracket
  | missingCommaOrBrace
  | unknownTagHandle
  | repeatedVersion
  | foreignVersion
  | repeatedTagDirective
  deriving DecidableEq, Repr, Inhabited

/-- A problem in words. -/
def Problem.text : Problem → String
  | strayCharacter => "found character that cannot start any token"
  | sequenceEntryNotAllowed => "block sequence entries are not allowed in this context"
  | keyNotAllowed => "mapping keys are not allowed in this context"
  | valueNotAllowed => "mapping values are not allowed in this context"
  | missingColon => "could not find expected ':'"
  | unknownDirective => "found unknown directive name"
  | missingDirectiveName => "could not find expected directive name"
  | badDirectiveName => "found unexpected non-alphabetical character"
  | missingCommentOrBreak => "did not find expected comment or line break"
  | missingVersionPoint => "did not find expected digit or '.' character"
  | missingVersionNumber => "did not find expected version number"
  | longVersionNumber => "found extremely long version number"
  | missingExclamationMark => "did not find expected '!'"
  | missingBlank => "did not find expected whitespace"
  | missingBlankOrBreak => "did not find expected whitespace or line break"
  | missingTagEnd => "did not find the expected '>'"
  | missingTagText => "did not find expected tag URI"
  | badTagEscape => "did not find URI escaped octet"
  | badTagFirstOctet => "found an incorrect leading UTF-8 octet"
  | badTagNextOctet => "found an incorrect trailing UTF-8 octet"
  | missingName => "did not find expected alphabetic or numeric character"
  | zeroIndentation => "found an indentation indicator equal to 0"
  | tabInIndentation => "found a tab character where an indentation space is expected"
  | tabBreaksIndentation => "found a tab character that violates indentation"
  | documentMarkerInScalar => "found unexpected document indicator"
  | unclosedScalar => "found unexpected end of stream"
  | unknownEscape => "found unknown escape character"
  | badHexadecimal => "did not find expected hexdecimal number"
  | badCodePoint => "found invalid Unicode character escape code"
  | colonInPlainScalar => "found unexpected ':'"
  | missingDocumentStart => "did not find expected <document start>"
  | missingNodeContent => "did not find expected node content"
  | missingDash => "did not find expected '-' indicator"
  | missingKey => "did not find expected key"
  | missingCommaOrBracket => "did not find expected ',' or ']'"
  | missingCommaOrBrace => "did not find expected ',' or '\x7d'"
  | unknownTagHandle => "found undefined tag handle"
  | repeatedVersion => "found duplicate %YAML directive"
  | foreignVersion => "found incompatible YAML document"
  | repeatedTagDirective => "found duplicate %TAG directive"

/-- What was being read when a problem was found. -/
inductive Activity where
  | nextToken
  | simpleKey
  | directive
  | versionDirective
  | tagDirective
  | tagDirectiveHandle
  | tagDirectiveEnd
  | tag
  | tagText
  | tagDirectiveText
  | anchor
  | aliasName
  | blockScalar
  | quotedScalar
  | quotedScalarEscape
  | plainScalar
  | node
  | blockNode
  | flowNode
  | blockCollection
  | blockMapping
  | flowSequence
  | flowMapping
  deriving DecidableEq, Repr, Inhabited

/-- An activity in words. -/
def Activity.text : Activity → String
  | nextToken => "while scanning for the next token"
  | simpleKey => "while scanning a simple key"
  | directive => "while scanning a directive"
  | versionDirective => "while scanning a %YAML directive"
  | tagDirective => "while scanning a tag directive"
  | tagDirectiveHandle => "while parsing a tag directive"
  | tagDirectiveEnd => "while scanning a %TAG directive"
  | tag => "while scanning a tag"
  | tagText => "while parsing a tag"
  | tagDirectiveText => "while parsing a %TAG directive"
  | anchor => "while scanning an anchor"
  | aliasName => "while scanning an alias"
  | blockScalar => "while scanning a block scalar"
  | quotedScalar => "while scanning a quoted scalar"
  | quotedScalarEscape => "while parsing a quoted scalar"
  | plainScalar => "while scanning a plain scalar"
  | node => "while parsing a node"
  | blockNode => "while parsing a block node"
  | flowNode => "while parsing a flow node"
  | blockCollection => "while parsing a block collection"
  | blockMapping => "while parsing a block mapping"
  | flowSequence => "while parsing a flow sequence"
  | flowMapping => "while parsing a flow mapping"

/-- A problem at a place, with what was being read and where that started. -/
structure Fault where
  problem : Problem
  mark : Mark
  context : Option (Activity × Mark)
  deriving DecidableEq, Repr, Inhabited

namespace Fault

/-- A problem that was found while something that started at `start` was read. -/
def within (activity : Activity) (start : Mark) (problem : Problem) (mark : Mark) : Fault :=
  ⟨problem, mark, some (activity, start)⟩

/-- A problem without a context. -/
def plain (problem : Problem) (mark : Mark) : Fault := ⟨problem, mark, none⟩

/-- A place as it stands behind a text, nothing for the start of the document. -/
def atPlace (mark : Mark) : String := if mark.isStart then "" else " at " ++ mark.display

/-- A fault in words. -/
def message (fault : Fault) : String :=
  let problem := fault.problem.text ++ atPlace fault.mark
  match fault.context with
  | none => problem
  | some (activity, start) =>
    let same := start.line == fault.mark.line && start.column == fault.mark.column
    problem ++ ", " ++ activity.text ++ (if same then "" else atPlace start)

end Fault

end PageRecipe.Yaml

import MessageContract.Yaml.Source

/-!
# Faults of YAML texts

What is wrong with a text, where, and what was being read at the time.
-/

namespace MessageContract.Yaml

/-- What is wrong. -/
inductive Cause
  | controlCharacter
  | expectedColon
  | entryNotAllowed
  | keyNotAllowed
  | valueNotAllowed
  | noTokenStart
  | unknownDirective
  | expectedLineEnd
  | expectedDirectiveName
  | strangeDirectiveName
  | expectedVersionPoint
  | longVersion
  | expectedVersion
  | expectedGap
  | expectedGapOrBreak
  | expectedAnchorName
  | expectedBang
  | expectedTagUri
  | expectedOctet
  | badLeadingOctet
  | badTrailingOctet
  | expectedTagEnd
  | zeroIndentation
  | tabForIndentation
  | indicatorInScalar
  | endInScalar
  | unknownEscape
  | expectedHexadecimal
  | badCharacterCode
  | unexpectedColon
  | tabViolatesIndentation
  | expectedDocumentStart
  | undefinedTagHandle
  | expectedNode
  | expectedEntry
  | expectedKey
  | expectedSequenceEnd
  | expectedMappingEnd
  | duplicateVersion
  | incompatibleVersion
  | duplicateTagDirective
  deriving DecidableEq, Repr

def Cause.message : Cause → String
  | controlCharacter => "control characters are not allowed"
  | expectedColon => "could not find expected ':'"
  | entryNotAllowed => "block sequence entries are not allowed in this context"
  | keyNotAllowed => "mapping keys are not allowed in this context"
  | valueNotAllowed => "mapping values are not allowed in this context"
  | noTokenStart => "found character that cannot start any token"
  | unknownDirective => "found unknown directive name"
  | expectedLineEnd => "did not find expected comment or line break"
  | expectedDirectiveName => "could not find expected directive name"
  | strangeDirectiveName => "found unexpected non-alphabetical character"
  | expectedVersionPoint => "did not find expected digit or '.' character"
  | longVersion => "found extremely long version number"
  | expectedVersion => "did not find expected version number"
  | expectedGap => "did not find expected whitespace"
  | expectedGapOrBreak => "did not find expected whitespace or line break"
  | expectedAnchorName => "did not find expected alphabetic or numeric character"
  | expectedBang => "did not find expected '!'"
  | expectedTagUri => "did not find expected tag URI"
  | expectedOctet => "did not find URI escaped octet"
  | badLeadingOctet => "found an incorrect leading UTF-8 octet"
  | badTrailingOctet => "found an incorrect trailing UTF-8 octet"
  | expectedTagEnd => "did not find the expected '>'"
  | zeroIndentation => "found an indentation indicator equal to 0"
  | tabForIndentation => "found a tab character where an indentation space is expected"
  | indicatorInScalar => "found unexpected document indicator"
  | endInScalar => "found unexpected end of stream"
  | unknownEscape => "found unknown escape character"
  | expectedHexadecimal => "did not find expected hexadecimal number"
  | badCharacterCode => "found invalid Unicode character escape code"
  | unexpectedColon => "found unexpected ':'"
  | tabViolatesIndentation => "found a tab character that violates indentation"
  | expectedDocumentStart => "did not find expected <document start>"
  | undefinedTagHandle => "found undefined tag handle"
  | expectedNode => "did not find expected node content"
  | expectedEntry => "did not find expected '-' indicator"
  | expectedKey => "did not find expected key"
  | expectedSequenceEnd => "did not find expected ',' or ']'"
  | expectedMappingEnd => "did not find expected ',' or '\x7d'"
  | duplicateVersion => "found duplicate %YAML directive"
  | incompatibleVersion => "found incompatible YAML document"
  | duplicateTagDirective => "found duplicate %TAG directive"

/-- What was being read. -/
inductive Context
  | simpleKey
  | nextToken
  | directive
  | versionDirective
  | tagDirective
  | tagDirectiveHandle
  | tagDirectiveName
  | tagDirectiveUri
  | anchorName
  | aliasName
  | tag
  | tagUri
  | blockScalar
  | quotedScalar
  | quotedEscape
  | plainScalar
  | node
  | blockNode
  | flowNode
  | blockCollection
  | blockMapping
  | flowSequence
  | flowMapping
  deriving DecidableEq, Repr

def Context.message : Context → String
  | simpleKey => "while scanning a simple key"
  | nextToken => "while scanning for the next token"
  | directive => "while scanning a directive"
  | versionDirective => "while scanning a %YAML directive"
  | tagDirective => "while scanning a %TAG directive"
  | tagDirectiveHandle => "while scanning a tag directive"
  | tagDirectiveName => "while parsing a tag directive"
  | tagDirectiveUri => "while parsing a %TAG directive"
  | anchorName => "while scanning an anchor"
  | aliasName => "while scanning an alias"
  | tag => "while scanning a tag"
  | tagUri => "while parsing a tag"
  | blockScalar => "while scanning a block scalar"
  | quotedScalar => "while scanning a quoted scalar"
  | quotedEscape => "while parsing a quoted scalar"
  | plainScalar => "while scanning a plain scalar"
  | node => "while parsing a node"
  | blockNode => "while parsing a block node"
  | flowNode => "while parsing a flow node"
  | blockCollection => "while parsing a block collection"
  | blockMapping => "while parsing a block mapping"
  | flowSequence => "while parsing a flow sequence"
  | flowMapping => "while parsing a flow mapping"

/-- A fault with its place, and what was being read with the place where that began. For a
character that may not stand in a text the place is a byte offset. -/
structure Fault where
  cause : Cause
  mark : Mark
  context : Option (Context × Mark)
  deriving DecidableEq, Repr

/-- The place of the fault is left out at the very start; that of the context also where the two
are one. -/
def Fault.message (f : Fault) : String :=
  let place :=
    if !f.mark.isStart then " at " ++ f.mark.write
    else if f.mark.index != 0 && f.cause == .controlCharacter then " at " ++ f.mark.write
    else ""
  let setting :=
    match f.context with
    | none => ""
    | some (c, m) =>
      ", " ++ c.message ++
        (if !m.isStart && (m.line != f.mark.line || m.column != f.mark.column) then
          " at " ++ m.write
        else "")
  f.cause.message ++ place ++ setting

end MessageContract.Yaml

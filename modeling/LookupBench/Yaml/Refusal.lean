import LookupBench.Yaml.Cursor

/-!
# Why a text is no YAML

A refusal names what is wrong and where, and what was being read, with the place where that began.
-/

namespace LookupBench.Yaml

/-- What was being read. -/
inductive Activity where
  | nextToken
  | simpleKey
  | directive
  | versionDirective
  | tagDirective
  | handleDirective
  | handleOfDirective
  | anchor
  | alias
  | tag
  | tagText
  | blockScalar
  | quotedScalar
  | quotedCharacter
  | plainScalar
  | node
  | blockNode
  | flowNode
  | blockSequence
  | blockMapping
  | flowSequence
  | flowMapping
  deriving DecidableEq, Repr

def Activity.text : Activity → String
  | .nextToken => "while scanning for the next token"
  | .simpleKey => "while scanning a simple key"
  | .directive => "while scanning a directive"
  | .versionDirective => "while scanning a %YAML directive"
  | .tagDirective => "while scanning a %TAG directive"
  | .handleDirective => "while scanning a tag directive"
  | .handleOfDirective => "while parsing a tag directive"
  | .anchor => "while scanning an anchor"
  | .alias => "while scanning an alias"
  | .tag => "while scanning a tag"
  | .tagText => "while parsing a tag"
  | .blockScalar => "while scanning a block scalar"
  | .quotedScalar => "while scanning a quoted scalar"
  | .quotedCharacter => "while parsing a quoted scalar"
  | .plainScalar => "while scanning a plain scalar"
  | .node => "while parsing a node"
  | .blockNode => "while parsing a block node"
  | .flowNode => "while parsing a flow node"
  | .blockSequence => "while parsing a block collection"
  | .blockMapping => "while parsing a block mapping"
  | .flowSequence => "while parsing a flow sequence"
  | .flowMapping => "while parsing a flow mapping"

inductive Problem where
  | noTokenStart
  | noColon
  | entryNotAllowed
  | keyNotAllowed
  | valueNotAllowed
  | unknownDirective
  | noDirectiveName
  | oddDirectiveName
  | noCommentOrBreak
  | noVersionPoint
  | noVersionNumber
  | longVersionNumber
  | noBlank
  | noBlankOrBreak
  | noNameChar
  | noTagEnd
  | noHandleMark
  | noTagText
  | noOctet
  | wrongLeadingOctet
  | wrongTrailingOctet
  | zeroIndentation
  | tabInIndentation
  | tabAgainstIndentation
  | marker
  | endOfText
  | unknownEscape
  | noHexDigit
  | badCodePoint
  | oddColon
  | duplicateVersion
  | duplicateHandle
  | incompatible
  | noDocumentStart
  | unknownHandle
  | noContent
  | noSequenceEntry
  | noKey
  | noCommaOrBracket
  | noCommaOrBrace
  deriving DecidableEq, Repr

def Problem.text : Problem → String
  | .noTokenStart => "found character that cannot start any token"
  | .noColon => "could not find expected ':'"
  | .entryNotAllowed => "block sequence entries are not allowed in this context"
  | .keyNotAllowed => "mapping keys are not allowed in this context"
  | .valueNotAllowed => "mapping values are not allowed in this context"
  | .unknownDirective => "found unknown directive name"
  | .noDirectiveName => "could not find expected directive name"
  | .oddDirectiveName => "found unexpected non-alphabetical character"
  | .noCommentOrBreak => "did not find expected comment or line break"
  | .noVersionPoint => "did not find expected digit or '.' character"
  | .noVersionNumber => "did not find expected version number"
  | .longVersionNumber => "found extremely long version number"
  | .noBlank => "did not find expected whitespace"
  | .noBlankOrBreak => "did not find expected whitespace or line break"
  | .noNameChar => "did not find expected alphabetic or numeric character"
  | .noTagEnd => "did not find the expected '>'"
  | .noHandleMark => "did not find expected '!'"
  | .noTagText => "did not find expected tag URI"
  | .noOctet => "did not find URI escaped octet"
  | .wrongLeadingOctet => "found an incorrect leading UTF-8 octet"
  | .wrongTrailingOctet => "found an incorrect trailing UTF-8 octet"
  | .zeroIndentation => "found an indentation indicator equal to 0"
  | .tabInIndentation => "found a tab character where an indentation space is expected"
  | .tabAgainstIndentation => "found a tab character that violates indentation"
  | .marker => "found unexpected document indicator"
  | .endOfText => "found unexpected end of stream"
  | .unknownEscape => "found unknown escape character"
  | .noHexDigit => "did not find expected hexdecimal number"
  | .badCodePoint => "found invalid Unicode character escape code"
  | .oddColon => "found unexpected ':'"
  | .duplicateVersion => "found duplicate %YAML directive"
  | .duplicateHandle => "found duplicate %TAG directive"
  | .incompatible => "found incompatible YAML document"
  | .noDocumentStart => "did not find expected <document start>"
  | .unknownHandle => "found undefined tag handle"
  | .noContent => "did not find expected node content"
  | .noSequenceEntry => "did not find expected '-' indicator"
  | .noKey => "did not find expected key"
  | .noCommaOrBracket => "did not find expected ',' or ']'"
  | .noCommaOrBrace => "did not find expected ',' or '\x7d'"

inductive Refusal where
  /-- A character that stands nowhere, after so many octets. -/
  | control (octets : Nat)
  | text (problem : Problem) (mark : Mark) (context : Option (Activity × Mark))
  deriving Repr

def Refusal.message : Refusal → String
  | .control octets =>
    "control characters are not allowed"
      ++ (if octets = 0 then "" else " at position " ++ Decimal.natText octets)
  | .text problem mark context =>
    problem.text ++ mark.note ++
      match context with
      | none => ""
      | some (activity, start) =>
        ", " ++ activity.text ++ (if start.sameSpot mark then "" else start.note)

end LookupBench.Yaml

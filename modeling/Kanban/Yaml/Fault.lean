namespace Kanban.Yaml

structure Place where
  line : Nat
  column : Nat
  deriving DecidableEq, Repr

inductive Flaw where
  | controlCharacter
  | undecodable
  | strayCharacter
  | directive
  | strayEntry
  | strayKey
  | strayValue
  | keyWithoutValue
  | unopened
  | unfinishedQuotation
  | markerInQuotation
  | unknownEscape
  | escapeDigits
  | beyondCharacters (code : Nat)
  | blockHeader
  | nameExpected
  | malformedTag
  | unknownHandle
  | contentExpected
  | blockUnfinished
  | separatorExpected
  | secondDocument
  | unknownAnchor (name : String)
  | anchorTwice (name : String)
  | unknownType
  | wrongContent
  | mergeValue
  | unusableKey
  | nestedTooDeep
  deriving DecidableEq, Repr

def Flaw.message : Flaw → String
  | controlCharacter => "a control character is not allowed"
  | undecodable => "the bytes encode no characters"
  | strayCharacter => "no token starts with this character"
  | directive => "a directive is not allowed"
  | strayEntry => "a list item is not allowed here"
  | strayKey => "a key is not allowed here"
  | strayValue => "a value is not allowed here"
  | keyWithoutValue => "a key needs a colon behind it on its line"
  | unopened => "nothing is open that this could close"
  | unfinishedQuotation => "the quotation does not end"
  | markerInQuotation => "a document marker stands within a quotation"
  | unknownEscape => "this character cannot be escaped"
  | escapeDigits => "the escape needs the digits of a character"
  | beyondCharacters code => s!"there is no character {code}"
  | blockHeader => "a block scalar has at most one chomping sign and one digit in its header"
  | nameExpected => "a name of letters and digits is expected"
  | malformedTag => "the tag is malformed"
  | unknownHandle => "the handle of the tag is unknown"
  | contentExpected => "a value is expected"
  | blockUnfinished => "the block should go on or end here"
  | separatorExpected => "a comma or a closing bracket is expected"
  | secondDocument => "only one document is allowed"
  | unknownAnchor name => s!"the anchor {name} is unknown"
  | anchorTwice name => s!"the anchor {name} is defined twice"
  | unknownType => "the type of a value is unknown"
  | wrongContent => "a value does not fit its type"
  | mergeValue => "only mappings can be merged"
  | unusableKey => "a mapping or a list cannot be a key"
  | nestedTooDeep => "lists and mappings lie too deep within each other"

/-- Flaws of a value that has been read have no place. -/
structure Fault where
  flaw : Flaw
  place : Option Place := none
  deriving DecidableEq, Repr

def Fault.message (fault : Fault) : String :=
  match fault.place with
  | some place => s!"line {place.line + 1}, column {place.column + 1}: {fault.flaw.message}"
  | none => fault.flaw.message

end Kanban.Yaml

import Kanban.Yaml.Scalar.Block
import Kanban.Yaml.Scalar.Plain
import Kanban.Yaml.Scalar.Quoted
import Kanban.Yaml.Source
import Kanban.Yaml.Token
import Kanban.Yaml.Token.Property

/-!
The tokens of a text, in order, read only as far as they are asked for.  Outside of brackets a block
starts where a list item or a key stands further to the right than the block around it, and ends
before what stands further to the left.  That something was a key shows only at the colon behind it,
so the tokens that may turn out to be keys are remembered, one for each open bracket, and none of
them is given away before that is settled.
-/
namespace Kanban.Yaml

/-- A token that may turn out to be a key, by its number in the stream.  At the column of a block
it has to. -/
structure Candidate where
  number : Nat
  required : Bool
  index : Nat
  place : Place

/-- `taken` counts the tokens that have been given away, `finished` tells whether the text is read
to its end; `blocks` are the columns of the open blocks, the innermost first; `candidate` is that
of the innermost bracket, `outer` are those of the brackets around it; `keysAllowed` tells whether
a key may start here. -/
structure Stream where
  cursor : Cursor
  tokens : Array Token.Located := #[]
  taken : Nat := 0
  finished : Bool := false
  blocks : List Nat := []
  candidate : Option Candidate := none
  outer : List (Option Candidate) := []
  keysAllowed : Bool := true

namespace Stream

abbrev Step := StateT Stream (Except Fault)

def inFlow (stream : Stream) : Bool :=
  !stream.outer.isEmpty

def least (stream : Stream) : Nat :=
  match stream.blocks with
  | [] => 0
  | column :: _ => column + 1

/-- A key lies on one line and is not longer than this. -/
def longestKey : Nat :=
  1024

def scan {α : Type} (read : Scan α) : Step α := fun stream => do
  let (found, cursor) ← read stream.cursor
  return (found, { stream with cursor })

def fail {α : Type} (flaw : Flaw) : Step α :=
  scan (Scan.fail flaw)

def emitAt (place : Place) (token : Token) : Step Unit :=
  modify fun stream => { stream with tokens := stream.tokens.push ⟨token, place⟩ }

def emit (token : Token) : Step Unit := do
  emitAt (← get).cursor.place token

def allowKeys (allowed : Bool) : Step Unit :=
  modify fun stream => { stream with keysAllowed := allowed }

/-- A candidate that had to be a key must not be given up. -/
def checkDropped (candidate : Option Candidate) : Step Unit := do
  if candidate.any (·.required) then
    fail .keyWithoutValue

def dropCandidate : Step Unit := do
  checkDropped (← get).candidate
  modify fun stream => { stream with candidate := none }

def isStale (cursor : Cursor) (candidate : Candidate) : Bool :=
  candidate.place.line != cursor.line || longestKey < cursor.index - candidate.index

def dropStale : Step Unit := do
  let stream ← get
  let stale := stream.candidate :: stream.outer |>.filterMap fun candidate =>
    candidate.filter (isStale stream.cursor)
  if stale.any (·.required) then
    fail .keyWithoutValue
  let fresh := fun candidate : Option Candidate => candidate.filter (!isStale stream.cursor ·)
  set { stream with candidate := fresh stream.candidate, outer := stream.outer.map fresh }

def expectKey : Step Unit := do
  let stream ← get
  if stream.keysAllowed then
    dropCandidate
    let cursor := stream.cursor
    let required := !stream.inFlow && stream.blocks.head? == some cursor.column
    let candidate : Candidate := ⟨stream.tokens.size, required, cursor.index, cursor.place⟩
    modify fun stream => { stream with candidate := some candidate }

/-- Ends the blocks that stand further to the right than a column; within brackets indentation
does not matter. -/
def endBlocks (column : Nat) : Step Unit := do
  let stream ← get
  if !stream.inFlow then
    let ended := stream.blocks.takeWhile (column < ·)
    set { stream with blocks := stream.blocks.dropWhile (column < ·) }
    ended.forM fun _ => emit .blockEnd

def endAllBlocks : Step Unit := do
  let stream ← get
  if !stream.inFlow then
    set { stream with blocks := [] }
    stream.blocks.forM fun _ => emit .blockEnd

/-- Opens a block at a column unless the innermost one already reaches it. -/
def opensBlock (column : Nat) : Step Bool := do
  let stream ← get
  if stream.blocks.head?.all (· < column) then
    set { stream with blocks := column :: stream.blocks }
    return true
  else
    return false

/-- Skips spaces, comments and line breaks; a new line may start with a key. -/
def skipToToken : Nat → Step Unit
  | 0 => return
  | fuel + 1 => do
      scan Scan.skipSpaces
      if (← scan Scan.peek) == some '#' then
        scan (Scan.skipWhile (!isBreak ·))
      if (← scan Scan.lineBreak?).isSome then
        if !(← get).inFlow then
          allowKeys true
        skipToToken fuel

def marker (token : Token) : Step Unit := do
  endAllBlocks
  dropCandidate
  allowKeys false
  emit token
  scan (Scan.skip 3)

def openBracket (token : Token) : Step Unit := do
  expectKey
  modify fun stream =>
    { stream with outer := stream.candidate :: stream.outer, candidate := none }
  allowKeys true
  emit token
  scan Scan.skip

def closeBracket (token : Token) : Step Unit := do
  dropCandidate
  match (← get).outer with
  | [] => fail .unopened
  | candidate :: outer => modify fun stream => { stream with candidate, outer }
  allowKeys false
  emit token
  scan Scan.skip

def comma : Step Unit := do
  allowKeys true
  dropCandidate
  emit .comma
  scan Scan.skip

def item : Step Unit := do
  let stream ← get
  if !stream.inFlow then
    if !stream.keysAllowed then
      fail .strayEntry
    if ← opensBlock stream.cursor.column then
      emit .listStart
  allowKeys true
  dropCandidate
  emit .item
  scan Scan.skip

def markedKey : Step Unit := do
  let stream ← get
  if !stream.inFlow then
    if !stream.keysAllowed then
      fail .strayKey
    if ← opensBlock stream.cursor.column then
      emit .mapStart
  allowKeys (!stream.inFlow)
  dropCandidate
  emit .key
  scan Scan.skip

/-- Puts the token for a key in front of the candidate, which is one. -/
def confirmKey (candidate : Candidate) : Step Unit := do
  let inFlow := (← get).inFlow
  let opens ← if inFlow then pure false else opensBlock candidate.place.column
  let insert := fun (tokens : Array Token.Located) token =>
    tokens.insertIdxIfInBounds candidate.number ⟨token, candidate.place⟩
  modify fun stream =>
    let tokens := insert stream.tokens .key
    { stream with tokens := if opens then insert tokens .mapStart else tokens, candidate := none }
  allowKeys false

def value : Step Unit := do
  let stream ← get
  match stream.candidate with
  | some candidate => confirmKey candidate
  | none =>
      if !stream.inFlow then
        if !stream.keysAllowed then
          fail .strayValue
        if ← opensBlock stream.cursor.column then
          emit .mapStart
      allowKeys (!stream.inFlow)
  emit .value
  scan Scan.skip

def content (read : Scan Token) : Step Unit := do
  expectKey
  allowKeys false
  let place := (← get).cursor.place
  emitAt place (← scan read)

def plainScalar : Step Unit := do
  expectKey
  let stream ← get
  let (text, crossesLine) ← scan (PlainScalar.scan stream.inFlow stream.least)
  allowKeys crossesLine
  emitAt stream.cursor.place (.scalar text true)

def blockScalar (folded : Bool) : Step Unit := do
  allowKeys true
  dropCandidate
  let stream ← get
  let text ← scan (BlockScalar.scan folded (max 1 stream.least))
  emitAt stream.cursor.place (.scalar text false)

def tokenAt (c : Char) : Step Unit := do
  let stream ← get
  let cursor := stream.cursor
  let next := cursor.rest[1]?
  let isWord := endsWord next
  if cursor.column = 0 ∧ c = '%' then
    fail .directive
  else if cursor.column = 0 ∧ cursor.atMarker Cursor.startMarker then
    marker .documentStart
  else if cursor.column = 0 ∧ cursor.atMarker Cursor.endMarker then
    marker .documentEnd
  else if c = '[' then
    openBracket .flowListStart
  else if c = '\x7b' then
    openBracket .flowMapStart
  else if c = ']' then
    closeBracket .flowListEnd
  else if c = '\x7d' then
    closeBracket .flowMapEnd
  else if c = ',' then
    comma
  else if c = '-' ∧ isWord then
    item
  else if c = '?' ∧ (stream.inFlow ∨ isWord) then
    markedKey
  else if c = ':' ∧ (stream.inFlow ∨ isWord) then
    value
  else if c = '*' then
    content (Token.alias <$> anchorName)
  else if c = '&' then
    content (Token.anchor <$> anchorName)
  else if c = '!' then
    content (Token.tag <$> TagName.scan)
  else if (c = '|' ∨ c = '>') ∧ !stream.inFlow then
    blockScalar (c = '>')
  else if c = Quotation.single.mark then
    content ((Token.scalar · false) <$> Quotation.single.scan)
  else if c = Quotation.double.mark then
    content ((Token.scalar · false) <$> Quotation.double.scan)
  else if PlainScalar.startsHere stream.inFlow (some c) next then
    plainScalar
  else
    fail .strayCharacter

def finish : Step Unit := do
  endAllBlocks
  dropCandidate
  allowKeys false
  modify fun stream =>
    { stream with candidate := none, outer := stream.outer.map fun _ => none, finished := true }

/-- Reads up to the next token and that token, or ends the text. -/
def fetch : Step Unit := do
  skipToToken (← get).cursor.room
  dropStale
  endBlocks (← get).cursor.column
  match (← get).cursor.rest with
  | [] => finish
  | c :: _ => tokenAt c

def oldestCandidate? (stream : Stream) : Option Nat :=
  (stream.candidate :: stream.outer).foldl
    (fun oldest candidate => (candidate.map (·.number)).or oldest) none

/-- Whether more has to be read before the next token can be given away. -/
def isUnsettled : Step Bool := do
  let stream ← get
  if stream.finished then
    return false
  else if stream.tokens.size ≤ stream.taken then
    return true
  else
    dropStale
    return (← get).oldestCandidate? == some stream.taken

def settle : Nat → Step Unit
  | 0 => return
  | fuel + 1 => do
      if ← isUnsettled then
        fetch
        settle fuel

def next? : Step (Option Token.Located) := do
  settle ((← get).cursor.room + 1)
  let stream ← get
  return stream.tokens[stream.taken]?

def take : Step Unit :=
  modify fun stream => { stream with taken := stream.taken + 1 }

/-- No character makes more than four tokens. -/
def mostTokens (stream : Stream) : Nat :=
  4 * stream.cursor.size + 4

end Stream

def Stream.ofSource (source : Source) : Except Fault Stream := do
  return { cursor := ← source.start }

end Kanban.Yaml

import Kanban.Text.Encoding
import Kanban.Yaml.Cursor

/-!
What a document is read from.  A text is looked over as a whole before it is read.  A file comes in
portions, and a portion is asked for only when the characters before it do not suffice, so what is
wrong with it shows only then: bytes that encode no characters, or characters that no document may
hold.
-/
namespace Kanban.Yaml

/-- The characters that can be read, and what is wrong behind them. -/
structure Source where
  chars : List Char
  obstacle : Option Fault := none

namespace Source

/-- The fault of a character that a document must not hold, which stands behind so many others. -/
def forbiddenAfter (chars : List Char) (count : Nat) : Fault :=
  { flaw := .controlCharacter, place := some ((Cursor.ofChars chars).advance count).place }

def forbiddenAt? (chars : List Char) : Option Nat :=
  chars.findIdx? (!isAllowed ·)

def ofText (text : String) : Source :=
  let chars := text.toList
  match forbiddenAt? chars with
  | some count => { chars := [], obstacle := some (forbiddenAfter chars count) }
  | none => { chars }

def portion : Nat :=
  4096

def leastFetch : Nat :=
  8192

/-- A file whose characters are known up to the byte `fetched` and handed over up to the character
`given`.  `lastBytes` and `lastChars` tell how far the last fetch went. -/
structure File where
  chars : List Text.Placed
  broken : Option Nat
  size : Nat
  fetched : Nat := 0
  given : Nat := 0
  lastBytes : Nat := 0
  lastChars : Nat := 0

namespace File

/-- Each way to end a line counts as one line feed; a carriage return is known to be alone once the
byte behind it is known. -/
def withLineFeeds : List Text.Placed → List Text.Placed
  | ⟨'\r', stop⟩ :: ⟨'\n', next⟩ :: rest => ⟨'\n', max stop next⟩ :: withLineFeeds rest
  | ⟨'\r', stop⟩ :: rest => ⟨'\n', stop + 1⟩ :: withLineFeeds rest
  | placed :: rest => placed :: withLineFeeds rest
  | [] => []

def ofBytes (bytes : ByteArray) : File :=
  let (chars, broken) := Text.decode bytes
  { chars := withLineFeeds chars, broken, size := bytes.size }

def knownAt (file : File) (place : Nat) : Nat :=
  (file.chars.takeWhile (·.stop ≤ place)).length

/-- The bytes to fetch for so many characters, if these are as wide as those of the last fetch. -/
def fetchSize (file : File) (missing : Nat) : Nat :=
  max leastFetch (file.lastBytes * missing / file.lastChars)

/-- Fetches bytes until so many characters are known or there are no more; none if they encode no
characters. -/
def fetch (wanted : Nat) : (fuel : Nat) → File → Option File
  | 0, file => some file
  | fuel + 1, file =>
      let known := file.knownAt file.fetched
      if wanted ≤ known then
        some { file with given := wanted }
      else if file.size ≤ file.fetched then
        if file.broken.isSome then none else some { file with given := file.chars.length }
      else
        let reached := min file.size (file.fetched + file.fetchSize (wanted - known))
        if file.broken.any (· < reached) then
          none
        else
          fetch wanted fuel { file with
            fetched := reached
            lastBytes := reached - file.fetched
            lastChars := file.knownAt reached - known }

def next? (file : File) : Option File :=
  file.fetch (file.given + portion) (file.size + 2)

def upTo (file : File) (count : Nat) : List Char :=
  (file.chars.take count).map (·.char)

def source (held : Nat) : (fuel : Nat) → (next : Option File) → File → Source
  | 0, _, file => { chars := file.upTo held }
  | _, none, file => { chars := file.upTo held, obstacle := some { flaw := .undecodable } }
  | fuel + 1, some next, file =>
      let chars := next.upTo next.given
      match forbiddenAt? (chars.drop held) with
      | some count =>
          { chars := file.upTo held, obstacle := some (forbiddenAfter chars (held + count)) }
      | none =>
          if next.given ≤ held then
            { chars }
          else
            source next.given fuel next.next? next

end File

/-- At first two portions are handed over at once. -/
def ofFile (bytes : ByteArray) : Source :=
  let file := File.ofBytes bytes
  file.source 0 (bytes.size + 1) (file.next?.bind File.next?)

/-- A byte order mark at the start is passed over. -/
def start (source : Source) : Except Fault Cursor :=
  match source.chars, source.obstacle with
  | [], some fault => .error fault
  | chars, obstacle =>
      let cursor := { Cursor.ofChars chars with obstacle }
      .ok (if chars.head? = some byteOrderMark then cursor.next else cursor)

end Source

end Kanban.Yaml

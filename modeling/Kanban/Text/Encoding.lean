namespace Kanban.Text

/-- What a first byte announces: how many bytes follow, and from where to where the first of them
may be. -/
structure Announced where
  following : Nat
  least : UInt8 := 0x80
  greatest : UInt8 := 0xbf
  deriving DecidableEq, Repr

def announced? (first : UInt8) : Option Announced :=
  if first < 0x80 then some { following := 0 }
  else if first < 0xc2 then none
  else if first < 0xe0 then some { following := 1 }
  else if first = 0xe0 then some { following := 2, least := 0xa0 }
  else if first = 0xed then some { following := 2, greatest := 0x9f }
  else if first < 0xf0 then some { following := 2 }
  else if first = 0xf0 then some { following := 3, least := 0x90 }
  else if first < 0xf4 then some { following := 3 }
  else if first = 0xf4 then some { following := 3, greatest := 0x8f }
  else none

/-- The number of bytes at the front that can stand in a character behind its first byte; only the
first of them is bound by what was announced. -/
def fitting (expected : Announced) (bytes : List UInt8) : Nat :=
  match bytes.take expected.following with
  | [] => 0
  | second :: others =>
      if expected.least ≤ second ∧ second ≤ expected.greatest then
        (others.takeWhile fun byte => 0x80 ≤ byte && byte ≤ 0xbf).length + 1
      else
        0

/-- A character with the number of bytes up to its end. -/
structure Placed where
  char : Char
  stop : Nat
  deriving DecidableEq, Repr

/-- The characters that bytes encode from a place on, and the place of the byte where they cease to
encode any, which may be the end of the bytes. -/
def decodeFrom : (fuel place : Nat) → List UInt8 → List Placed × Option Nat
  | 0, _, _ => ([], none)
  | _, _, [] => ([], none)
  | fuel + 1, place, first :: rest =>
      match announced? first with
      | none => ([], some place)
      | some expected =>
          let count := fitting expected rest
          if count < expected.following then
            ([], some (place + 1 + count))
          else
            let front := if count = 0 then first.toNat else first.toNat % Nat.pow 2 (6 - count)
            let code := (rest.take count).foldl (fun sum byte => 64 * sum + byte.toNat % 64) front
            let (others, broken) := decodeFrom fuel (place + 1 + count) (rest.drop count)
            (⟨Char.ofNat code, place + 1 + count⟩ :: others, broken)

def decode (bytes : ByteArray) : List Placed × Option Nat :=
  decodeFrom bytes.size 0 bytes.toList

end Kanban.Text

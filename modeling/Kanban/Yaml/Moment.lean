import Kanban.Text.Digit
import Kanban.Tree.Written

namespace Kanban.Yaml

def isLeapYear (year : Nat) : Bool :=
  year % 4 == 0 && (year % 100 != 0 || year % 400 == 0)

def daysIn (year month : Nat) : Nat :=
  if month = 2 then (if isLeapYear year then 29 else 28)
  else if month = 4 ∨ month = 6 ∨ month = 9 ∨ month = 11 then 30
  else 31

def isDayOfCalendar (year month day : Nat) : Bool :=
  1 ≤ year && 1 ≤ month && month ≤ 12 && 1 ≤ day && day ≤ daysIn year month

/-- The number of a day, counted from the first day of the first year. -/
def dayNumber (year month day : Nat) : Nat :=
  let past := year - 1
  let inMonths := ((List.range month).drop 1).foldl (fun days month => days + daysIn year month) 0
  365 * past + past / 4 - past / 100 + past / 400 + inMonths + day

/-- A moment as its clock tells it.  `ahead` are the minutes by which that clock is ahead, if it is
known whose clock it is. -/
structure Moment where
  year : Nat
  month : Nat
  day : Nat
  hour : Nat
  minute : Nat
  second : Nat
  micros : Nat
  ahead : Option Int

namespace Moment

/-- Takes a row of digits, of which no more are looked for than `most`. -/
def digits? (least most : Nat) (chars : List Char) : Option (Nat × List Char) :=
  let row := (chars.take most).takeWhile Char.isDigit
  if row.length < least then none else some (Text.digitsValue row, chars.drop row.length)

def mark? (mark : Char) : List Char → Option (List Char)
  | [] => none
  | c :: rest => if c == mark then some rest else none

def isSpace (c : Char) : Bool :=
  c == ' ' || c == '\t'

/-- Takes what parts the day from the time: a letter, or spaces. -/
def gap? : List Char → Option (List Char)
  | [] => none
  | c :: rest =>
      if c == 'T' || c == 't' then some rest
      else if isSpace c then some (rest.dropWhile isSpace)
      else none

/-- Takes the fraction of a second, of which six digits count. -/
def takeMicros : List Char → Nat × List Char
  | '.' :: rest =>
      let row := rest.takeWhile Char.isDigit
      let counted := row.take 6
      (Text.digitsValue (counted ++ List.replicate (6 - counted.length) '0'), rest.drop row.length)
  | chars => (0, chars)

/-- The minutes behind the hours of a clock, of which there need not be any. -/
def clockMinutes? : List Char → Option Nat
  | [] => some 0
  | c :: rest =>
      if c == ':' then
        (digits? 2 2 rest).bind fun (minutes, rest) => if rest.isEmpty then some minutes else none
      else
        none

/-- What is left of a time names the clock or is nothing at all. -/
def ahead? (chars : List Char) : Option (Option Int) :=
  match chars.dropWhile isSpace with
  | [] => if chars.isEmpty then some none else none
  | ['Z'] => some (some 0)
  | sign :: rest =>
      if sign == '+' || sign == '-' then do
        let (hours, rest) ← digits? 1 2 rest
        let minutes : Int := 60 * hours + (← clockMinutes? rest)
        return some (if sign == '-' then -minutes else minutes)
      else
        none

def ofChars? (chars : List Char) : Option Moment := do
  let (year, rest) ← digits? 4 4 chars
  let (month, rest) ← digits? 1 2 (← mark? '-' rest)
  let (day, rest) ← digits? 1 2 (← mark? '-' rest)
  let (hour, rest) ← digits? 1 2 (← gap? rest)
  let (minute, rest) ← digits? 2 2 (← mark? ':' rest)
  let (second, rest) ← digits? 2 2 (← mark? ':' rest)
  let (micros, rest) := takeMicros rest
  return { year, month, day, hour, minute, second, micros, ahead := ← ahead? rest }

/-- No clock is ahead or behind by a whole day. -/
def isValid (moment : Moment) : Bool :=
  isDayOfCalendar moment.year moment.month moment.day && moment.hour < 24 && moment.minute < 60 &&
    moment.second < 60 && moment.ahead.all fun minutes => minutes.natAbs < 24 * 60

def padded (width n : Nat) : String :=
  let digits := Nat.toDigits 10 n
  String.ofList (List.replicate (width - digits.length) '0' ++ digits)

def clockShown (minutes : Int) : String :=
  let size := minutes.natAbs
  (if minutes < 0 then "-" else "+") ++ padded 2 (size / 60) ++ ":" ++ padded 2 (size % 60)

def shown (moment : Moment) : String :=
  let day := Tree.dateText moment.year moment.month moment.day
  let time := ":".intercalate ([moment.hour, moment.minute, moment.second].map (padded 2))
  let fraction := if moment.micros = 0 then "" else "." ++ padded 6 moment.micros
  day ++ " " ++ time ++ fraction ++ (moment.ahead.map clockShown).getD ""

def clockLiteral (minutes : Int) : String :=
  if minutes = 0 then
    "datetime.timezone.utc"
  else
    let days := if minutes < 0 then "days=-1, " else ""
    s!"datetime.timezone(datetime.timedelta({days}seconds={(60 * minutes) % 86400}))"

/-- Seconds are left out where they and what is behind them is zero. -/
def literal (moment : Moment) : String :=
  let behind :=
    if moment.micros = 0 then (if moment.second = 0 then [] else [moment.second])
    else [moment.second, moment.micros]
  let numbers := [moment.year, moment.month, moment.day, moment.hour, moment.minute] ++ behind
  let clock := moment.ahead.map fun minutes => ", tzinfo=" ++ clockLiteral minutes
  "datetime.datetime(" ++ ", ".intercalate (numbers.map toString) ++ clock.getD "" ++ ")"

/-- The microseconds from the first day of the first year, as the clock tells them that is not
ahead. -/
def instant (moment : Moment) (ahead : Int) : Int :=
  let hours := 24 * dayNumber moment.year moment.month moment.day + moment.hour
  let seconds := 60 * (60 * (hours : Int) + moment.minute - ahead) + moment.second
  1000000 * seconds + moment.micros

/-- Moments are the same if their clocks are known and they are one instant, or if neither clock is
known and both tell the same. -/
def identity (moment : Moment) : String :=
  match moment.ahead with
  | some ahead => s!"instant {moment.instant ahead}"
  | none => s!"moment {moment.shown}"

def toTree (moment : Moment) : Tree :=
  let value : Foreign :=
    { literal := moment.literal, shown := moment.shown, identity := moment.identity
      canBeKey := true, yieldsItems := false }
  .foreign value []

end Moment

end Kanban.Yaml

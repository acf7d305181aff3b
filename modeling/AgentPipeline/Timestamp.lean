import AgentPipeline.Text.Blank
import AgentPipeline.Text.Decimal

/-!
# Timestamps

A moment of the UTC time scale, to the nanosecond, on the proleptic Gregorian
calendar.  A leap second is kept as more than a whole second of fraction after
the fifty-ninth second of a minute.  Printed timestamps are RFC 3339 in UTC;
on reading, any offset and blanks between the parts are accepted.
-/

namespace AgentPipeline

/-- A moment in time. -/
structure Timestamp where
  /-- Whole seconds since the beginning of 1970. -/
  seconds : Int
  /-- The fraction; from one second on, the second before is a leap second. -/
  nanoseconds : Nat
deriving DecidableEq, Inhabited, Repr

structure CalendarDate where
  year : Int
  month : Nat
  day : Nat
deriving DecidableEq, Repr

namespace CalendarDate

def isLeapYear (year : Int) : Bool :=
  year % 4 = 0 && (year % 100 ≠ 0 || year % 400 = 0)

def daysInMonth (year : Int) (month : Nat) : Nat :=
  if month = 2 then if isLeapYear year then 29 else 28
  else if month = 4 ∨ month = 6 ∨ month = 9 ∨ month = 11 then 30
  else 31

/-- Whether the month and the day exist. -/
def isValid (date : CalendarDate) : Bool :=
  1 ≤ date.month && date.month ≤ 12 && 1 ≤ date.day
    && date.day ≤ daysInMonth date.year date.month

/-- The number of days since the beginning of 1970.  Years are counted from
March, so that a leap day ends its year, in cycles of 400 years. -/
def toDays (date : CalendarDate) : Int :=
  let year := if date.month ≤ 2 then date.year - 1 else date.year
  let cycle := year / 400
  let yearOfCycle := year % 400
  let monthFromMarch : Int := (date.month + 9) % 12
  let dayOfYear := (153 * monthFromMarch + 2) / 5 + date.day - 1
  let dayOfCycle :=
    yearOfCycle * 365 + yearOfCycle / 4 - yearOfCycle / 100 + dayOfYear
  cycle * 146097 + dayOfCycle - 719468

/-- The calendar day of a number of days since the beginning of 1970. -/
def ofDays (days : Int) : CalendarDate :=
  let shifted := days + 719468
  let cycle := shifted / 146097
  let dayOfCycle := shifted % 146097
  let yearOfCycle :=
    (dayOfCycle - dayOfCycle / 1460 + dayOfCycle / 36524
      - dayOfCycle / 146096) / 365
  let dayOfYear :=
    dayOfCycle - (365 * yearOfCycle + yearOfCycle / 4 - yearOfCycle / 100)
  let monthFromMarch := (5 * dayOfYear + 2) / 153
  let day := dayOfYear - (153 * monthFromMarch + 2) / 5 + 1
  let month := if monthFromMarch < 10 then monthFromMarch + 3
    else monthFromMarch - 9
  let year := yearOfCycle + cycle * 400
  { year := if month ≤ 2 then year + 1 else year
    month := month.toNat
    day := day.toNat }

/-- The text of the year: four digits, and with a sign outside of them. -/
def yearText (year : Int) : List Char :=
  if 0 ≤ year ∧ year ≤ 9999 then Text.zeroPadded 4 year.toNat
  else (if year < 0 then '-' else '+') :: Text.zeroPadded 4 year.natAbs

end CalendarDate

namespace Timestamp

/-- The number of nanoseconds in a second. -/
def billion : Nat := 1000000000

/-- Earlier in time; within a leap second the fraction decides. -/
def isBefore (earlier later : Timestamp) : Bool :=
  earlier.seconds < later.seconds
    || (earlier.seconds = later.seconds
      && earlier.nanoseconds < later.nanoseconds)

def date (moment : Timestamp) : CalendarDate :=
  CalendarDate.ofDays (moment.seconds / 86400)

def hour (moment : Timestamp) : Nat :=
  (moment.seconds % 86400 / 3600).toNat

def minute (moment : Timestamp) : Nat :=
  (moment.seconds % 3600 / 60).toNat

/-- The second of the minute, sixty in a leap second. -/
def second (moment : Timestamp) : Nat :=
  (moment.seconds % 60).toNat + moment.nanoseconds / billion

/-- The fraction with no, three, six or nine digits, whichever is enough. -/
def fractionText (moment : Timestamp) : List Char :=
  let fraction := moment.nanoseconds % billion
  if fraction = 0 then []
  else if fraction % 1000000 = 0 then
    '.' :: Text.zeroPadded 3 (fraction / 1000000)
  else if fraction % 1000 = 0 then '.' :: Text.zeroPadded 6 (fraction / 1000)
  else '.' :: Text.zeroPadded 9 fraction

def dateText (moment : Timestamp) : List Char :=
  let date := moment.date
  CalendarDate.yearText date.year ++ '-' :: Text.zeroPadded 2 date.month
    ++ '-' :: Text.zeroPadded 2 date.day

def timeText (moment : Timestamp) : List Char :=
  Text.zeroPadded 2 moment.hour ++ ':' :: Text.zeroPadded 2 moment.minute
    ++ ':' :: Text.zeroPadded 2 moment.second

/-- The moment as RFC 3339 in UTC. -/
def print (moment : Timestamp) : String :=
  String.ofList (moment.dateText ++ 'T' :: moment.timeText
    ++ moment.fractionText ++ ['Z'])

/-- The moment to the second, as it is shown in listings. -/
def listed (moment : Timestamp) : String :=
  String.ofList (moment.dateText ++ ' ' :: moment.timeText)

/-! ## Reading -/

/-- At least one and at most `width` digits, after blanks. -/
def readDigits (width : Nat) (characters : List Char) :
    Option (Nat × List Char) :=
  let start := Text.trimStart characters
  match (start.take width).takeWhile Char.isDigit with
  | [] => none
  | digits => some (Text.ofDecimalDigits digits, start.drop digits.length)

/-- A year: four digits, or a sign and any number of them. -/
def readYear (characters : List Char) : Option (Int × List Char) :=
  match Text.trimStart characters with
  | '-' :: rest => signed (-1) rest
  | '+' :: rest => signed 1 rest
  | rest => (readDigits 4 rest).map fun (year, rest) => ((year : Int), rest)
where
  signed (sign : Int) (characters : List Char) : Option (Int × List Char) :=
    match Text.spanDigits characters with
    | ([], _) => none
    | (digits, rest) => some (sign * (Text.ofDecimalDigits digits : Int), rest)

/-- One given character, after blanks. -/
def readMark (mark : Char) (characters : List Char) : Option (List Char) :=
  match Text.trimStart characters with
  | first :: rest => if first = mark then some rest else none
  | [] => none

/-- The nanoseconds behind a point; digits past the ninth are passed over. -/
def readFraction : List Char → Option (Nat × List Char)
  | '.' :: rest =>
      match Text.spanDigits rest with
      | ([], _) => none
      | (digits, rest) =>
          let kept := digits.take 9
          some (Text.ofDecimalDigits kept * Nat.pow 10 (9 - kept.length),
            rest)
  | rest => some (0, rest)

/-- Two digits, the first of which is below `first`. -/
def readTwoDigits (first : Char) : List Char → Option (Nat × List Char)
  | tens :: ones :: rest =>
      if tens.isDigit ∧ ones.isDigit ∧ tens < first then
        some (10 * Text.digitValue tens + Text.digitValue ones, rest)
      else none
  | _ => none

/-- An offset from UTC in seconds: `Z`, `UTC`, or a sign, hours and minutes
with colons or blanks between them. -/
def readOffset : List Char → Option (Int × List Char)
  | 'Z' :: rest | 'z' :: rest => some (0, rest)
  | a :: b :: c :: rest =>
      if Text.lowerAscii (String.ofList [a, b, c]) = "utc" then some (0, rest)
      else if a = '+' then hoursAndMinutes 1 (b :: c :: rest)
      else if a = '-' ∨ a = '−' then hoursAndMinutes (-1) (b :: c :: rest)
      else none
  | _ => none
where
  hoursAndMinutes (sign : Int) (characters : List Char) :
      Option (Int × List Char) := do
    let (hours, rest) ← readTwoDigits ':' characters
    let rest := rest.dropWhile fun character =>
      character == ':' || Text.isBlank character
    let (minutes, rest) ← readTwoDigits '6' rest
    let total := 3600 * hours + 60 * minutes
    if total < 86400 then some (sign * (total : Int), rest) else none

def yearInRange (year : Int) : Bool :=
  -262143 ≤ year && year ≤ 262142

/-- The moment that a text names. -/
def parse? (text : String) : Option Timestamp := do
  let (year, rest) ← readYear text.toList
  let rest ← readMark '-' rest
  let (month, rest) ← readDigits 2 rest
  let rest ← readMark '-' rest
  let (day, rest) ← readDigits 2 rest
  let rest ← match rest with
    | 'T' :: rest | 't' :: rest | ' ' :: rest => some rest
    | _ => none
  let (hour, rest) ← readDigits 2 rest
  let rest ← readMark ':' rest
  let (minute, rest) ← readDigits 2 rest
  let rest ← readMark ':' rest
  let (second, rest) ← readDigits 2 rest
  let (fraction, rest) ← readFraction rest
  let (offset, rest) ← readOffset (Text.trimStart rest)
  let date : CalendarDate := ⟨year, month, day⟩
  if rest = [] ∧ yearInRange year ∧ date.isValid ∧ hour < 24 ∧ minute < 60
      ∧ second ≤ 60 then
    let timeOfDay : Int := 3600 * hour + 60 * minute + min second 59
    let moment : Timestamp :=
      { seconds := date.toDays * 86400 + timeOfDay - offset
        nanoseconds := fraction + if second = 60 then billion else 0 }
    if yearInRange moment.date.year then some moment else none
  else none

end Timestamp

end AgentPipeline

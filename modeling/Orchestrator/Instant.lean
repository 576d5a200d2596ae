import Orchestrator.Text.Blank
import Orchestrator.Text.Number

/-!
Points in time, in UTC, to the nanosecond, with leap seconds. A day is counted in the proleptic
Gregorian calendar; a leap second is the sixtieth second of a minute and is kept apart from the
first second of the next one.

The written form is an RFC 3339 time with `Z`; years that do not fit in four digits carry a sign.
Reading is lenient (`ofText?`) for times that come with records, and strict (`ofTimestamp?`) for
times that an engine reports.
-/
namespace Orchestrator

/-! ## The calendar -/

namespace Calendar

/-- Is the year a leap year? -/
def isLeap (year : Int) : Bool := year % 4 = 0 && (year % 100 ≠ 0 || year % 400 = 0)

/-- The number of days of a month. -/
def monthDays (year : Int) (month : Nat) : Nat :=
  match month with
  | 2 => if isLeap year then 29 else 28
  | 4 | 6 | 9 | 11 => 30
  | _ => 31

/-- A day of the calendar. -/
structure Date where
  year : Int
  month : Nat
  day : Nat
  deriving DecidableEq, Repr

/-- The number of days from the first of March of year 0 to the first of March of a year. -/
def marchDays (year : Int) : Int :=
  365 * year + Int.fdiv year 4 - Int.fdiv year 100 + Int.fdiv year 400

/-- The number of days from the first of March to the first of a month, where March is month 0. -/
def monthOffset (month : Nat) : Nat := (153 * month + 2) / 5

/-- The number of days from 1970-01-01 to a date. Years are taken to start in March, so that the
leap day is their last. -/
def Date.toDays (d : Date) : Int :=
  let year := if d.month ≤ 2 then d.year - 1 else d.year
  let month := (d.month + 9) % 12
  marchDays year + monthOffset month + d.day - 1 - 719468

/-- The date that lies a number of days after 1970-01-01. -/
def Date.ofDays (days : Int) : Date :=
  let shifted := days + 719468
  let era := Int.fdiv shifted 146097
  let dayOfEra := (shifted - era * 146097).toNat
  let yearOfEra :=
    (dayOfEra - dayOfEra / 1460 + dayOfEra / 36524 - dayOfEra / 146096) / 365
  let dayOfYear := dayOfEra - (365 * yearOfEra + yearOfEra / 4 - yearOfEra / 100)
  let month := (5 * dayOfYear + 2) / 153
  let day := dayOfYear - monthOffset month + 1
  let year : Int := yearOfEra + era * 400
  ⟨if month ≥ 10 then year + 1 else year, if month ≥ 10 then month - 9 else month + 3, day⟩

/-- The first year there is. -/
def minYear : Int := -262143

/-- The last year there is. -/
def maxYear : Int := 262142

/-- The first day there is. -/
def minDays : Int := Date.toDays ⟨minYear, 1, 1⟩

/-- The last day there is. -/
def maxDays : Int := Date.toDays ⟨maxYear, 12, 31⟩

end Calendar

open Calendar

/-- A point in time: a day, a second of the day and a nanosecond. In a leap second the nanosecond
counts on from the start of the second before it. -/
structure Instant where
  days : Int
  second : Nat
  nano : Nat
  minDays_le : Calendar.minDays ≤ days
  le_maxDays : days ≤ Calendar.maxDays
  second_lt : second < 86400
  nano_lt : nano < 2000000000
  leap_last : 1000000000 ≤ nano → second % 60 = 59
  deriving DecidableEq

namespace Instant

/-- The instant with the given parts, if there is one. -/
def ofParts? (days : Int) (second nano : Nat) : Option Instant :=
  if h : minDays ≤ days ∧ days ≤ maxDays ∧ second < 86400 ∧ nano < 2000000000 ∧
      (1000000000 ≤ nano → second % 60 = 59) then
    some ⟨days, second, nano, h.1, h.2.1, h.2.2.1, h.2.2.2.1, h.2.2.2.2⟩
  else none

/-- The start of 1970. -/
def epoch : Instant :=
  ⟨0, 0, 0, by decide, by decide, by decide, by decide, by decide⟩

instance : Inhabited Instant := ⟨epoch⟩

/-- The instant a number of seconds later or earlier, if it lies in the calendar. A leap second
counts as the second after it when time runs back from it. -/
def addSeconds? (t : Instant) (seconds : Int) : Option Instant :=
  let isLeap := 1000000000 ≤ t.nano
  if seconds = 0 then some t
  else
    let nano := if isLeap then t.nano - 1000000000 else t.nano
    let start : Int := if isLeap ∧ seconds < 0 then t.second + 1 else t.second
    let total := start + seconds
    let day := Int.fdiv total 86400
    ofParts? (t.days + day) (total - day * 86400).toNat nano

/-! ## Writing -/

/-- The year: four digits, or a sign and at least four digits. -/
def renderYear (year : Int) : List Char :=
  if 0 ≤ year ∧ year ≤ 9999 then Text.padded 4 year.toNat
  else (if year < 0 then '-' else '+') :: Text.padded 4 year.natAbs

/-- Date and time of day up to the whole second. -/
def renderSeconds (t : Instant) : List Char :=
  let d := Date.ofDays t.days
  let second := t.second % 60 + t.nano / 1000000000
  renderYear d.year ++ '-' :: Text.padded 2 d.month ++ '-' :: Text.padded 2 d.day
    ++ 'T' :: Text.padded 2 (t.second / 3600) ++ ':' :: Text.padded 2 (t.second / 60 % 60)
    ++ ':' :: Text.padded 2 second

/-- The fraction of the second: none, or the fewest of three, six and nine digits that are
exact. -/
def renderFraction (nano : Nat) : List Char :=
  if nano = 0 then []
  else if nano % 1000000 = 0 then '.' :: Text.padded 3 (nano / 1000000)
  else if nano % 1000 = 0 then '.' :: Text.padded 6 (nano / 1000)
  else '.' :: Text.padded 9 nano

/-- The written form. -/
def render (t : Instant) : String :=
  String.ofList (t.renderSeconds ++ renderFraction (t.nano % 1000000000) ++ ['Z'])

/-- The written form with nine digits after the point. -/
def renderNanos (t : Instant) : String :=
  String.ofList (t.renderSeconds ++ '.' :: Text.padded 9 (t.nano % 1000000000) ++ ['Z'])

/-! ## Reading -/

/-- The text without the blanks in front of it. -/
def skipBlank (s : List Char) : List Char := s.dropWhile Text.isBlank

/-- A number of `low` to `high` digits at the front of a text. -/
def readDigits (low high : Nat) (s : List Char) : Option (Nat × List Char) :=
  let digits := (s.take high).takeWhile Char.isDigit
  if digits.length < low then none
  else some (Text.ofDecimal digits, s.drop digits.length)

/-- The rest of a text after a character. -/
def readChar (c : Char) : List Char → Option (List Char)
  | c' :: rest => if c = c' then some rest else none
  | [] => none

/-- A year: up to four digits, or any number of digits after a sign. -/
def readYear (s : List Char) : Option (Int × List Char) :=
  match s with
  | '-' :: rest =>
    (readDigits 1 rest.length rest).map fun r => (-(r.1 : Int), r.2)
  | '+' :: rest => (readDigits 1 rest.length rest).map fun r => ((r.1 : Int), r.2)
  | _ => (readDigits 1 4 s).map fun r => ((r.1 : Int), r.2)

/-- The fraction of a second in nanoseconds; digits after the ninth are dropped. -/
def readFraction : List Char → Option (Nat × List Char)
  | '.' :: rest =>
    let digits := (rest.take 9).takeWhile Char.isDigit
    if digits.isEmpty then none
    else
      some (Text.ofDecimal digits * Nat.pow 10 (9 - digits.length), rest.dropWhile Char.isDigit)
  | s => some (0, s)

/-- An offset from UTC in minutes, where `separator` reads what stands between hours and
minutes. -/
def readOffset (separator : List Char → Option (List Char)) (s : List Char) :
    Option (Int × List Char) :=
  match s with
  | 'Z' :: rest | 'z' :: rest => some (0, rest)
  | sign :: rest =>
    if sign = '+' ∨ sign = '-' ∨ sign = '−' then do
      let (hours, rest) ← readDigits 2 2 rest
      let rest ← separator rest
      let (minutes, rest) ← readDigits 2 2 rest
      if minutes < 60 then
        let total : Int := hours * 60 + minutes
        return (if sign = '+' then total else -total, rest)
      else none
    else none
  | [] => none

/-- A date and time as read, before it is known to exist. -/
structure Reading where
  date : Date
  hour : Nat
  minute : Nat
  second : Nat
  nano : Nat
  /-- Minutes ahead of UTC. -/
  offset : Int

/-- The instant of a reading, if there is one. -/
def Reading.toInstant? (r : Reading) : Option Instant :=
  let d := r.date
  if minYear ≤ d.year ∧ d.year ≤ maxYear ∧ 1 ≤ d.month ∧ d.month ≤ 12 ∧ 1 ≤ d.day ∧
      d.day ≤ monthDays d.year d.month ∧ r.hour < 24 ∧ r.minute < 60 ∧ r.second ≤ 60 ∧
      r.offset.natAbs < 1440 then
    let isLeap := r.second = 60
    let second : Int := r.hour * 3600 + r.minute * 60 + (if isLeap then 59 else r.second)
    let total := second - r.offset * 60
    let day := Int.fdiv total 86400
    ofParts? (d.toDays + day) (total - day * 86400).toNat
      (if isLeap then r.nano + 1000000000 else r.nano)
  else none

/-- Reads a time leniently: digits need no filling, blanks may stand around the signs between the
parts, a blank or lower-case `t` may stand for `T` and `UTC` for `Z`. -/
def ofText? (text : String) : Option Instant := do
  let s := text.toList
  let (year, s) ← readYear (skipBlank s)
  let s ← readChar '-' (skipBlank s)
  let (month, s) ← readDigits 1 2 (skipBlank s)
  let s ← readChar '-' (skipBlank s)
  let (day, s) ← readDigits 1 2 (skipBlank s)
  let s ← (readChar 'T' s <|> readChar 't' s <|> readChar ' ' s)
  let (hour, s) ← readDigits 1 2 (skipBlank s)
  let s ← readChar ':' (skipBlank s)
  let (minute, s) ← readDigits 1 2 (skipBlank s)
  let s ← readChar ':' (skipBlank s)
  let (second, s) ← readDigits 1 2 (skipBlank s)
  let (nano, s) ← readFraction s
  let s := skipBlank s
  let (offset, s) ←
    if (s.take 3).map Char.toUpper = ['U', 'T', 'C'] then some (0, s.drop 3)
    else readOffset (fun s => some (s.dropWhile fun c => c = ':' || Text.isBlank c)) s
  if (skipBlank s).isEmpty then
    Reading.toInstant? ⟨⟨year, month, day⟩, hour, minute, second, nano, offset⟩
  else none

/-- Reads a time strictly: all parts have their full width. -/
def ofTimestamp? (text : String) : Option Instant := do
  let s := text.toList
  let (year, s) ← readDigits 4 4 s
  let s ← readChar '-' s
  let (month, s) ← readDigits 2 2 s
  let s ← readChar '-' s
  let (day, s) ← readDigits 2 2 s
  let s ← (readChar 'T' s <|> readChar 't' s <|> readChar ' ' s)
  let (hour, s) ← readDigits 2 2 s
  let s ← readChar ':' s
  let (minute, s) ← readDigits 2 2 s
  let s ← readChar ':' s
  let (second, s) ← readDigits 2 2 s
  let (nano, s) ← readFraction s
  let (offset, s) ← readOffset (readChar ':') s
  if s.isEmpty then
    Reading.toInstant? ⟨⟨year, month, day⟩, hour, minute, second, nano, offset⟩
  else none

end Instant

end Orchestrator

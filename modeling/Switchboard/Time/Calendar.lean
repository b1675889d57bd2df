import Switchboard.Number.Integer
/-!
Dates as HTTP writes them.

A moment is a whole number of seconds since the start of 1970; days run by the Gregorian calendar
without leap seconds. There are three written forms: the fixed form, which is also the only one
written, the older form with a full weekday and two digits for the year, and the form of the C
library. All are case-sensitive, and a date is refused if its weekday is not the one of its day.
-/

namespace Switchboard.Calendar

/-- The fields of a date and time of day; `weekday` counts from Monday as one. -/
structure Date where
  second : Nat
  minute : Nat
  hour : Nat
  day : Nat
  month : Nat
  year : Nat
  weekday : Nat
  deriving DecidableEq, Repr

/-- The weekdays from Monday on. -/
def weekdays : List String :=
  ["Monday", "Tuesday", "Wednesday", "Thursday", "Friday", "Saturday", "Sunday"]

/-- The months from January on, by their first three letters. -/
def months : List String :=
  ["Jan", "Feb", "Mar", "Apr", "May", "Jun", "Jul", "Aug", "Sep", "Oct", "Nov", "Dec"]

/-! ### Days -/

/-- The day of the first of March of a year that starts in March, counted from 0000-03-01. -/
def marchDay (year : Int) : Int := 365 * year + year / 4 - year / 100 + year / 400

/-- Days from the start of 1970 to a date. -/
def dayNumber (year month day : Nat) : Int :=
  let shifted : Int := if month ≤ 2 then (year : Int) - 1 else year
  let index : Int := if month ≤ 2 then (month : Int) + 9 else (month : Int) - 3
  marchDay shifted + (153 * index + 2) / 5 + day - 1 - 719468

/-- Year, month and day of a day counted from the start of 1970. -/
def ofDayNumber (number : Int) : Nat × Nat × Nat :=
  let shifted := number + 719468
  let era := shifted / 146097
  let dayOfEra := shifted % 146097
  let yearOfEra := (dayOfEra - dayOfEra / 1460 + dayOfEra / 36524 - dayOfEra / 146096) / 365
  let dayOfYear := dayOfEra - (365 * yearOfEra + yearOfEra / 4 - yearOfEra / 100)
  let index := (5 * dayOfYear + 2) / 153
  let day := dayOfYear - (153 * index + 2) / 5 + 1
  let month := if index < 10 then index + 3 else index - 9
  let year := yearOfEra + era * 400 + (if month ≤ 2 then 1 else 0)
  (year.toNat, month.toNat, day.toNat)

/-- The weekday of a day counted from the start of 1970, which was a Thursday. -/
def weekdayOf (number : Int) : Nat := ((number + 3) % 7).toNat + 1

/-- The moment of a date. -/
def Date.moment (date : Date) : Int :=
  dayNumber date.year date.month date.day * 86400
    + date.hour * 3600 + date.minute * 60 + date.second

/-- The date of a moment. -/
def Date.ofMoment (moment : Int) : Date :=
  let number := moment / 86400
  let rest := (moment % 86400).toNat
  let (year, month, day) := ofDayNumber number
  { second := rest % 60, minute := rest / 60 % 60, hour := rest / 3600, day, month, year,
    weekday := weekdayOf number }

/-- Says whether the fields name a moment from 1970 to 9999, and its own weekday. -/
def Date.isValid (date : Date) : Bool :=
  date.second < 60 && date.minute < 60 && date.hour < 24 && 0 < date.day && date.day < 32
    && 0 < date.month && date.month ≤ 12 && 1970 ≤ date.year && date.year ≤ 9999
    && Date.ofMoment date.moment == date

/-! ### Writing -/

/-- A number with at least `width` digits. -/
def padded (width n : Nat) : String :=
  let digits := Nat.toDigits 10 n
  String.ofList (List.replicate (width - digits.length) '0' ++ digits)

/-- The first three letters of a weekday. -/
def weekdayShort (weekday : Nat) : String :=
  String.ofList (((weekdays[weekday - 1]?).getD "").toList.take 3)

/-- The fixed form of a date. -/
def Date.text (date : Date) : String :=
  weekdayShort date.weekday ++ ", " ++ padded 2 date.day ++ " "
    ++ (months[date.month - 1]?).getD "" ++ " " ++ padded 4 date.year ++ " "
    ++ padded 2 date.hour ++ ":" ++ padded 2 date.minute ++ ":" ++ padded 2 date.second ++ " GMT"

/-- The first moment that is too late to be written. -/
def tooLate : Int := 253402300800

/-- The fixed form of a moment, if its year has four digits and is not before 1970. -/
def render? (moment : Int) : Option String :=
  if moment < 0 ∨ tooLate ≤ moment then none else some (Date.ofMoment moment).text

/-! ### Reading -/

/-- A number written with exactly the given characters, all digits. -/
def number? (text : List Char) : Option Nat :=
  if text.isEmpty then none else Number.readDigits 0 text

/-- The position of a name, counted from one. -/
def indexOf? (name : List Char) (names : List String) : Option Nat :=
  (names.findIdx? fun known => known.toList == name).map (· + 1)

/-- Reads `hh:mm:ss`. -/
def clock? : List Char → Option (Nat × Nat × Nat)
  | [h, i, ':', m, n, ':', s, t] => do
    let hour ← number? [h, i]
    let minute ← number? [m, n]
    let second ← number? [s, t]
    return (hour, minute, second)
  | _ => none

/-- Reads the fixed form. -/
def fixed? (text : List Char) : Option Date := do
  guard (text.length = 29 ∧ text.drop 25 = " GMT".toList)
  let weekday ← indexOf? (text.take 5) (weekdays.map fun name =>
    String.ofList (name.toList.take 3) ++ ", ")
  let day ← number? ((text.drop 5).take 2)
  let month ← indexOf? ((text.drop 7).take 5) (months.map fun name => " " ++ name ++ " ")
  let year ← number? ((text.drop 12).take 4)
  guard ((text.drop 16).take 1 = [' '])
  let (hour, minute, second) ← clock? ((text.drop 17).take 8)
  return { second, minute, hour, day, month, year, weekday }

/-- Splits off a full weekday and the comma after it. -/
def weekdayPrefix? (text : List Char) : Option (Nat × List Char) :=
  let candidates := weekdays.mapIdx fun index name =>
    (Text.dropStart? (name ++ ", ").toList text).map fun rest => (index + 1, rest)
  candidates.findSome? id

/-- Reads the form with a full weekday. -/
def withWeekday? (text : List Char) : Option Date := do
  guard (23 ≤ text.length)
  let (weekday, rest) ← weekdayPrefix? text
  guard (rest.length = 22 ∧ rest.drop 18 = " GMT".toList)
  let day ← number? (rest.take 2)
  let month ← indexOf? ((rest.drop 2).take 5) (months.map fun name => "-" ++ name ++ "-")
  let short ← number? ((rest.drop 7).take 2)
  let (hour, minute, second) ← clock? ((rest.drop 10).take 8)
  return { second, minute, hour, day, month, weekday,
           year := if short < 70 then short + 2000 else short + 1900 }

/-- Reads the form of the C library, where a day below ten has a blank before it. -/
def plain? (text : List Char) : Option Date := do
  guard (text.length = 24)
  let weekday ← indexOf? (text.take 4) (weekdays.map fun name =>
    String.ofList (name.toList.take 3) ++ " ")
  let month ← indexOf? ((text.drop 4).take 4) (months.map fun name => name ++ " ")
  let day ← match (text.drop 8).take 2 with
    | [' ', digit] => number? [digit]
    | digits => number? digits
  guard ((text.drop 10).take 1 = [' '])
  let (hour, minute, second) ← clock? ((text.drop 11).take 8)
  guard ((text.drop 19).take 1 = [' '])
  let year ← number? (text.drop 20)
  return { second, minute, hour, day, month, year, weekday }

/-- Reads a date in any of the three forms. -/
def read? (text : String) : Option Int := do
  guard (text.toList.all fun c => c.toNat < 0x80)
  let chars := Text.trimChars text.toList
  let date ← fixed? chars <|> withWeekday? chars <|> plain? chars
  guard date.isValid
  return date.moment

end Switchboard.Calendar

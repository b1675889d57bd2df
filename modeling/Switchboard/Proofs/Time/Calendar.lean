import Mathlib.Data.Bool.AllAny
import Mathlib.Data.List.Basic
import Mathlib.Data.Option.Basic
import Mathlib.Tactic.SplitIfs
import Switchboard.Proofs.Text.Trim
import Switchboard.Time.Calendar
/-!
Dates that are written and read again.

Days are counted by eras of 400 years that start in March, so that the leap day is the last day of a
year. In an era the number of leap days before a day is known from the day alone.

* `Calendar.ofDayNumber_spec`: the date of a day is a date, and its day is this day.
* `Calendar.read?_of_render?`: a moment that can be written is read again.
-/

namespace Switchboard.Calendar

/-! ### Days -/

/-- The days of an era before a year of it, counted from the start of the era. -/
theorem dayOfYear_bounds {day fours centuries whole year leaps skipped : Int} (first : 0 ≤ day)
    (last : day < 146097) (isFours : fours = day / 1460) (isCenturies : centuries = day / 36524)
    (isWhole : whole = day / 146096) (isYear : year = (day - fours + centuries - whole) / 365)
    (isLeaps : leaps = year / 4) (isSkipped : skipped = year / 100) :
    0 ≤ day - (365 * year + leaps - skipped) ∧ day - (365 * year + leaps - skipped) ≤ 365 := by
  -- Once the century is known, all that is left is linear.
  have century : centuries = 0 ∨ centuries = 1 ∨ centuries = 2 ∨ centuries = 3 ∨ centuries = 4 := by
    omega
  have lastDay : whole = 0 ∨ whole = 1 := by omega
  have skips : skipped = 0 ∨ skipped = 1 ∨ skipped = 2 ∨ skipped = 3 := by omega
  rcases century with rfl | rfl | rfl | rfl | rfl <;> rcases lastDay with rfl | rfl <;>
    rcases skips with rfl | rfl | rfl | rfl <;> omega

/-- Eras are alike. -/
theorem marchDay_add_eras (year era : Int) :
    marchDay (year + era * 400) = marchDay year + 146097 * era := by
  have fours : (year + era * 400) / 4 = year / 4 + era * 100 := by omega
  have hundreds : (year + era * 400) / 100 = year / 100 + era * 4 := by omega
  have eras : (year + era * 400) / 400 = year / 400 + era := by omega
  rw [marchDay, marchDay, fours, hundreds, eras]
  omega

/-- The day of a date of which year and month start in March. -/
theorem dayNumber_of_march {start index : Int} {year month day : Nat}
    (isIndex : 0 ≤ index ∧ index ≤ 11)
    (isMonth : (month : Int) = if index < 10 then index + 3 else index - 9)
    (isYear : (year : Int) = start + if index < 10 then 0 else 1) :
    dayNumber year month day = marchDay start + (153 * index + 2) / 5 + day - 1 - 719468 := by
  have isStart : (if month ≤ 2 then (year : Int) - 1 else year) = start := by
    split_ifs at isMonth isYear ⊢ <;> omega
  have sameIndex : (if month ≤ 2 then (month : Int) + 9 else (month : Int) - 3) = index := by
    split_ifs at isMonth ⊢ <;> omega
  unfold dayNumber
  rw [isStart, sameIndex]

/-- **The date of a day** from 1970 to 9999 is one of a year in this time, and its day is this
day. -/
theorem ofDayNumber_spec (number : Int) (early : 0 ≤ number) (late : number < 2932897) :
    ∃ year month day : Nat, ofDayNumber number = (year, month, day) ∧
      dayNumber year month day = number ∧ (1970 ≤ year ∧ year ≤ 9999) ∧
      (1 ≤ month ∧ month ≤ 12) ∧ 1 ≤ day ∧ day ≤ 31 := by
  obtain ⟨era, isEra⟩ : ∃ era, era = (number + 719468) / 146097 := ⟨_, rfl⟩
  obtain ⟨inEra, isInEra⟩ : ∃ inEra, inEra = (number + 719468) % 146097 := ⟨_, rfl⟩
  obtain ⟨start, isStart⟩ : ∃ start,
    start = (inEra - inEra / 1460 + inEra / 36524 - inEra / 146096) / 365 := ⟨_, rfl⟩
  obtain ⟨inYear, isInYear⟩ : ∃ inYear,
    inYear = inEra - (365 * start + start / 4 - start / 100) := ⟨_, rfl⟩
  obtain ⟨index, isIndex⟩ : ∃ index, index = (5 * inYear + 2) / 153 := ⟨_, rfl⟩
  obtain ⟨month, isMonth⟩ : ∃ month, month = if index < 10 then index + 3 else index - 9 := ⟨_, rfl⟩
  have date : ofDayNumber number = ((start + era * 400 + if month ≤ 2 then 1 else 0).toNat,
      month.toNat, (inYear - (153 * index + 2) / 5 + 1).toNat) := by
    rw [isMonth, isIndex, isInYear, isStart, isInEra, isEra]
    rfl
  have firstDay : 0 ≤ inEra := by omega
  have lastDay : inEra < 146097 := by omega
  have inBounds := dayOfYear_bounds firstDay lastDay rfl rfl rfl isStart rfl rfl
  rw [← isInYear] at inBounds
  have years : 0 ≤ start ∧ start < 400 := by omega
  have indices : 0 ≤ index ∧ index ≤ 11 := by omega
  have eras : 4 ≤ era ∧ era ≤ 24 := by omega
  have months : 1 ≤ month ∧ month ≤ 12 := by
    rw [isMonth]
    split_ifs <;> omega
  have turns : month ≤ 2 ↔ ¬ index < 10 := by
    rw [isMonth]
    split_ifs <;> omega
  have days : 1 ≤ inYear - (153 * index + 2) / 5 + 1 ∧ inYear - (153 * index + 2) / 5 + 1 ≤ 31 := by
    omega
  refine ⟨_, _, _, date, ?_, ?_, by omega, by omega⟩
  · have isYear : ((start + era * 400 + if month ≤ 2 then 1 else 0).toNat : Int)
        = start + era * 400 + if index < 10 then 0 else 1 := by
      split_ifs <;> omega
    have inFirst : start / 400 = 0 := by omega
    rw [dayNumber_of_march indices (by omega) isYear, marchDay_add_eras, marchDay, inFirst]
    omega
  · split_ifs <;> omega

/-! ### Moments -/

/-- Says that the fields of a date are in their ranges. -/
structure Date.InRange (date : Date) : Prop where
  clock : date.second < 60 ∧ date.minute < 60 ∧ date.hour < 24
  day : 0 < date.day ∧ date.day < 32
  month : 0 < date.month ∧ date.month ≤ 12
  year : 1970 ≤ date.year ∧ date.year ≤ 9999
  weekday : 0 < date.weekday ∧ date.weekday ≤ 7

section Moments

variable {moment : Int} (early : 0 ≤ moment) (late : moment < tooLate)
include early late

/-- The moment of the date of a moment is this moment. -/
theorem moment_ofMoment : (Date.ofMoment moment).moment = moment := by
  unfold tooLate at late
  obtain ⟨year, month, day, date, same, -⟩ :=
    ofDayNumber_spec (moment / 86400) (by omega) (by omega)
  simp only [Date.moment, Date.ofMoment, date, same]
  omega

theorem inRange_ofMoment : (Date.ofMoment moment).InRange := by
  unfold tooLate at late
  obtain ⟨year, month, day, date, -, years, months, days⟩ :=
    ofDayNumber_spec (moment / 86400) (by omega) (by omega)
  constructor <;> simp only [Date.ofMoment, date, weekdayOf] <;> omega

theorem isValid_ofMoment : (Date.ofMoment moment).isValid = true := by
  have inRange := inRange_ofMoment early late
  simp [Date.isValid, moment_ofMoment early late, inRange.clock, inRange.day, inRange.month,
    inRange.year]

end Moments

/-! ### Digits -/

/-- Two digits are read as the number that they were written for. -/
theorem padded_two {n : Nat} (small : n < 100) : (padded 2 n).toList.length = 2 ∧
    number? (padded 2 n).toList = some n ∧ ∀ c ∈ (padded 2 n).toList, c.isDigit = true := by
  have all : ∀ m ∈ List.range 100, (padded 2 m).toList.length = 2 ∧
      number? (padded 2 m).toList = some m ∧ (padded 2 m).toList.all Char.isDigit = true := by
    decide +kernel
  obtain ⟨two, value, digits⟩ := all n (List.mem_range.mpr small)
  exact ⟨two, value, List.all_eq_true.mp digits⟩

theorem toDigits_of_le {n : Nat} (more : 10 ≤ n) :
    Nat.toDigits 10 n = Nat.toDigits 10 (n / 10) ++ [Nat.digitChar (n % 10)] := by
  have less : n % 10 < 10 := Nat.mod_lt n (by decide)
  have appended := Nat.toDigits_append_toDigits (by decide : 1 < 10) (by omega : 0 < n / 10) less
  rw [Nat.div_add_mod, Nat.toDigits_of_lt_base less] at appended
  exact appended.symm

theorem toDigits_four {n : Nat} (least : 1000 ≤ n) (small : n < 10000) : Nat.toDigits 10 n
    = [n / 10 / 10 / 10, n / 10 / 10 % 10, n / 10 % 10, n % 10].map Nat.digitChar := by
  rw [toDigits_of_le (by omega), toDigits_of_le (by omega), toDigits_of_le (by omega),
    Nat.toDigits_of_lt_base (by omega : n / 10 / 10 / 10 < 10)]
  rfl

theorem digitValue?_digitChar {n : Nat} (small : n < 10) :
    Number.digitValue? (Nat.digitChar n) = some n := by
  have all : ∀ m ∈ List.range 10, Number.digitValue? (Nat.digitChar m) = some m := by decide
  exact all n (List.mem_range.mpr small)

/-- A year of four digits is read as the number that it was written for. -/
theorem padded_four {n : Nat} (least : 1000 ≤ n) (small : n < 10000) :
    (padded 4 n).toList.length = 4 ∧ number? (padded 4 n).toList = some n ∧
      ∀ c ∈ (padded 4 n).toList, c.isDigit = true := by
  have isDigits : (padded 4 n).toList = Nat.toDigits 10 n := by
    simp [padded, toDigits_four least small]
  refine ⟨?_, ?_, ?_⟩
  · rw [isDigits, toDigits_four least small]
    rfl
  · have worth : (((n / 10 / 10 / 10) * 10 + n / 10 / 10 % 10) * 10 + n / 10 % 10) * 10 + n % 10
        = n := by omega
    rw [isDigits, toDigits_four least small]
    simp [number?, Number.readDigits, digitValue?_digitChar (by omega : n / 10 / 10 / 10 < 10),
      digitValue?_digitChar (Nat.mod_lt _ (by decide : 0 < 10)), worth]
  · intro c member
    rw [isDigits] at member
    exact Nat.isDigit_of_mem_toDigits (by decide) (by decide) member

/-! ### The fixed form -/

/-- Says that a character can stand in a written date: it is in ASCII and separates no attributes. -/
def Written (c : Char) : Prop := c.toNat < 0x80 ∧ c ≠ ';'

instance (c : Char) : Decidable (Written c) := inferInstanceAs (Decidable (_ ∧ _))

theorem written_of_isDigit {c : Char} (digit : c.isDigit = true) : Written c := by
  obtain ⟨least, greatest⟩ := Char.isDigit_iff_toNat.mp digit
  have small : c.toNat ≤ 57 := greatest
  refine ⟨by omega, ?_⟩
  rintro rfl
  exact absurd digit (by decide)

theorem written_weekday {n : Nat} (least : 0 < n) (greatest : n ≤ 7) :
    (∀ c ∈ (weekdayShort n ++ ", ").toList.head?, Text.isBlank c = false) ∧
    ∀ c ∈ (weekdayShort n ++ ", ").toList, Written c := by
  have all : ∀ m ∈ List.range 8, 0 < m →
      ((weekdayShort m ++ ", ").toList.head?.all fun c => decide (Text.isBlank c = false)) = true ∧
      ((weekdayShort m ++ ", ").toList.all fun c => decide (Written c)) = true := by
    decide +kernel
  obtain ⟨solid, written⟩ := all n (List.mem_range.mpr (by omega)) least
  refine ⟨fun c isHead => ?_, List.all_iff_forall_prop.mp written⟩
  rw [isHead] at solid
  exact of_decide_eq_true solid

theorem written_month {n : Nat} (greatest : n ≤ 12) :
    ∀ c ∈ (" " ++ (months[n - 1]?).getD "" ++ " ").toList, Written c := by
  have all : ∀ m ∈ List.range 13,
      ((" " ++ (months[m - 1]?).getD "" ++ " ").toList.all fun c => decide (Written c)) = true := by
    decide +kernel
  exact List.all_iff_forall_prop.mp (all n (List.mem_range.mpr (by omega)))

theorem indexOf?_weekday {n : Nat} (least : 0 < n) (greatest : n ≤ 7) :
    (weekdayShort n ++ ", ").toList.length = 5 ∧
    indexOf? (weekdayShort n ++ ", ").toList
      (weekdays.map fun name => String.ofList (name.toList.take 3) ++ ", ") = some n := by
  have all : ∀ m ∈ List.range 8, 0 < m → (weekdayShort m ++ ", ").toList.length = 5 ∧
      indexOf? (weekdayShort m ++ ", ").toList
        (weekdays.map fun name => String.ofList (name.toList.take 3) ++ ", ") = some m := by
    decide +kernel
  exact all n (List.mem_range.mpr (by omega)) least

theorem indexOf?_month {n : Nat} (least : 0 < n) (greatest : n ≤ 12) :
    (" " ++ (months[n - 1]?).getD "" ++ " ").toList.length = 5 ∧
    indexOf? (" " ++ (months[n - 1]?).getD "" ++ " ").toList
      (months.map fun name => " " ++ name ++ " ") = some n := by
  have all : ∀ m ∈ List.range 13, 0 < m →
      (" " ++ (months[m - 1]?).getD "" ++ " ").toList.length = 5 ∧
      indexOf? (" " ++ (months[m - 1]?).getD "" ++ " ").toList
        (months.map fun name => " " ++ name ++ " ") = some m := by
    decide +kernel
  exact all n (List.mem_range.mpr (by omega)) least

/-- The parts of the fixed form are told by their lengths. -/
theorem fixed?_append {weekday day month year clock : List Char} (five : weekday.length = 5)
    (two : day.length = 2) (fiveToo : month.length = 5) (four : year.length = 4)
    (eight : clock.length = 8) :
    fixed? (weekday ++ (day ++ (month ++ (year ++ (' ' :: (clock ++ " GMT".toList)))))) = do
      let weekday ← indexOf? weekday (weekdays.map fun name =>
        String.ofList (name.toList.take 3) ++ ", ")
      let day ← number? day
      let month ← indexOf? month (months.map fun name => " " ++ name ++ " ")
      let year ← number? year
      let (hour, minute, second) ← clock? clock
      return { second, minute, hour, day, month, year, weekday } := by
  match weekday, day, month, year, clock, five, two, fiveToo, four, eight with
  | [_, _, _, _, _], [_, _], [_, _, _, _, _], [_, _, _, _], [_, _, _, _, _, _, _, _],
      _, _, _, _, _ => rfl

theorem clock?_append {hour minute second : List Char} (twoHour : hour.length = 2)
    (twoMinute : minute.length = 2) (twoSecond : second.length = 2) :
    clock? (hour ++ ':' :: (minute ++ ':' :: second)) = do
      let hour ← number? hour
      let minute ← number? minute
      let second ← number? second
      return (hour, minute, second) := by
  obtain ⟨h, i, rfl⟩ := List.length_eq_two.mp twoHour
  obtain ⟨m, n, rfl⟩ := List.length_eq_two.mp twoMinute
  obtain ⟨s, t, rfl⟩ := List.length_eq_two.mp twoSecond
  rfl

/-! ### Dates -/

section Dates

variable {date : Date}

/-- The text of a date, in the parts that are read. -/
theorem toList_text (date : Date) : date.text.toList
    = (weekdayShort date.weekday ++ ", ").toList ++ ((padded 2 date.day).toList
      ++ ((" " ++ (months[date.month - 1]?).getD "" ++ " ").toList ++ ((padded 4 date.year).toList
      ++ (' ' :: (((padded 2 date.hour).toList ++ ':' :: ((padded 2 date.minute).toList
        ++ ':' :: (padded 2 date.second).toList)) ++ " GMT".toList))))) := by
  simp [Date.text]

/-- The fixed form of a date is read as this date. -/
theorem fixed?_text (inRange : date.InRange) : fixed? date.text.toList = some date := by
  obtain ⟨five, weekday⟩ := indexOf?_weekday inRange.weekday.1 inRange.weekday.2
  obtain ⟨fiveToo, month⟩ := indexOf?_month inRange.month.1 inRange.month.2
  obtain ⟨four, year, -⟩ := padded_four (by have := inRange.year; omega : 1000 ≤ date.year)
    (by have := inRange.year; omega)
  obtain ⟨two, day, -⟩ := padded_two (by have := inRange.day; omega : date.day < 100)
  obtain ⟨twoHour, hour, -⟩ := padded_two (by have := inRange.clock; omega : date.hour < 100)
  obtain ⟨twoMinute, minute, -⟩ := padded_two (by have := inRange.clock; omega : date.minute < 100)
  obtain ⟨twoSecond, second, -⟩ := padded_two (by have := inRange.clock; omega : date.second < 100)
  rw [toList_text, fixed?_append five two fiveToo four (by simp [twoHour, twoMinute, twoSecond]),
    weekday, day, month, year, clock?_append twoHour twoMinute twoSecond, hour, minute, second]
  rfl

/-- The characters of a written date. -/
theorem written_of_mem_text (inRange : date.InRange) : ∀ c ∈ date.text.toList, Written c := by
  obtain ⟨-, -, day⟩ := padded_two (by have := inRange.day; omega : date.day < 100)
  obtain ⟨-, -, year⟩ := padded_four (by have := inRange.year; omega : 1000 ≤ date.year)
    (by have := inRange.year; omega)
  obtain ⟨-, -, hour⟩ := padded_two (by have := inRange.clock; omega : date.hour < 100)
  obtain ⟨-, -, minute⟩ := padded_two (by have := inRange.clock; omega : date.minute < 100)
  obtain ⟨-, -, second⟩ := padded_two (by have := inRange.clock; omega : date.second < 100)
  have weekday := (written_weekday inRange.weekday.1 inRange.weekday.2).2
  have month := written_month inRange.month.2
  have zone : ∀ c ∈ " GMT".toList, Written c := List.all_iff_forall_prop.mp (by decide)
  have blank : Written ' ' := by decide
  have colon : Written ':' := by decide
  rw [toList_text]
  simp only [List.forall_mem_append, List.forall_mem_cons]
  exact ⟨weekday, fun c isDay => written_of_isDigit (day c isDay), month,
    fun c isYear => written_of_isDigit (year c isYear), blank,
    ⟨fun c isHour => written_of_isDigit (hour c isHour), colon,
      fun c isMinute => written_of_isDigit (minute c isMinute), colon,
      fun c isSecond => written_of_isDigit (second c isSecond)⟩, zone⟩

/-- A written date is not trimmed. -/
theorem trimChars_text (inRange : date.InRange) :
    Text.trimChars date.text.toList = date.text.toList := by
  obtain ⟨five, -⟩ := indexOf?_weekday inRange.weekday.1 inRange.weekday.2
  apply Text.trimChars_of_ends
  · rw [toList_text, List.head?_append_of_ne_nil _ (by intro none; simp [none] at five)]
    exact (written_weekday inRange.weekday.1 inRange.weekday.2).1
  · have ends : date.text.toList.getLast? = some 'T' := by
      rw [Date.text, String.toList_append, List.getLast?_append]
      rfl
    rw [ends]
    rintro c ⟨⟩
    decide

end Dates

/-- **A moment that can be written is read again**, and its written form has no outer blanks and no
separator of attributes. -/
theorem read?_of_render? {moment : Int} {text : String} (rendered : render? moment = some text) :
    read? text = some moment ∧ Text.trim text = text ∧ ';' ∉ text.toList := by
  unfold render? at rendered
  split at rendered
  · cases rendered
  · rename_i within
    obtain ⟨early, late⟩ : 0 ≤ moment ∧ moment < tooLate := by omega
    obtain rfl := Option.some.inj rendered
    have inRange := inRange_ofMoment early late
    have written := written_of_mem_text inRange
    have trimmed := trimChars_text inRange
    have ascii : ((Date.ofMoment moment).text.toList.all fun c => c.toNat < 0x80) = true :=
      List.all_eq_true.mpr fun c member => decide_eq_true (written c member).1
    refine ⟨?_, ?_, fun member => (written ';' member).2 rfl⟩
    · simp [read?, ascii, trimmed, fixed?_text inRange, isValid_ofMoment early late,
        moment_ofMoment early late]
    · rw [Text.trim, trimmed, String.ofList_toList]

end Switchboard.Calendar

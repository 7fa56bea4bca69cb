import BuildRules.Host

/-! The calendar: days and times of day as counts of seconds since 1970, without time zones. -/
namespace BuildRules.Shell

/-- A day and a time of day. Months and days count from one. -/
structure Civil where
  year : Int
  month : Int
  day : Int
  hour : Int := 0
  minute : Int := 0
  second : Int := 0
deriving DecidableEq, Repr

namespace Civil

/-- The days from the first of March of year zero to the first of a month. Years start in March,
so that the day that only some have is their last one. -/
def daysToMonth (year month : Int) : Int :=
  let months := year * 12 + month - 3
  let start := months.fdiv 12
  let within := months.fmod 12
  365 * start + start.fdiv 4 - start.fdiv 100 + start.fdiv 400 + (153 * within + 2).fdiv 5

/-- The days from the first of January 1970. A month or a day out of range leads into a later or
earlier year or month. -/
def days (date : Civil) : Int := daysToMonth date.year date.month + date.day - 1 - 719468

/-- The seconds since 1970. -/
def seconds (date : Civil) : Int :=
  date.days * 86400 + date.hour * 3600 + date.minute * 60 + date.second

/-- The day with a count. -/
def ofDays (days : Int) : Civil :=
  let shifted := days + 719468
  let era := shifted.fdiv 146097
  let within := shifted.fmod 146097
  let yearOfEra := (within - within.fdiv 1460 + within.fdiv 36524 - within.fdiv 146096).fdiv 365
  let dayOfYear := within - (365 * yearOfEra + yearOfEra.fdiv 4 - yearOfEra.fdiv 100)
  let shiftedMonth := (5 * dayOfYear + 2).fdiv 153
  let month := if shiftedMonth < 10 then shiftedMonth + 3 else shiftedMonth - 9
  let year := yearOfEra + era * 400 + (if month ≤ 2 then 1 else 0)
  { year := year, month := month, day := dayOfYear - (153 * shiftedMonth + 2).fdiv 5 + 1 }

def ofSeconds (seconds : Int) : Civil :=
  let rest := seconds.fmod 86400
  { ofDays (seconds.fdiv 86400) with
    hour := rest.fdiv 3600, minute := rest.fdiv 60 % 60, second := rest % 60 }

/-- The day of the week; Sunday is zero. -/
def weekDay (date : Civil) : Int := (date.days + 4).fmod 7

/-- How many days of the year are over. -/
def dayOfYear (date : Civil) : Int := date.days - days { date with month := 1, day := 1 }

/-- Whether there is such a day and such a time of day. -/
def isValid (date : Civil) : Bool := ofSeconds date.seconds == date

example : ofSeconds 1265169906 = ⟨2010, 2, 3, 4, 5, 6⟩ := by decide
example : isValid ⟨2010, 2, 30, 0, 0, 0⟩ = false := by decide
example : (Civil.mk 1969 12 31 23 59 59).seconds = -1 := by decide

end Civil

end BuildRules.Shell

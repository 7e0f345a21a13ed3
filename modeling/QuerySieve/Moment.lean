/-!
# Moment — dates with a time of day, and how they are written

A `Moment` is a date and a time of day to the microsecond, with or without a distance from universal
time. `Moment.ofSeconds?` finds the one that lies some time after the beginning of 1970, and
`Moment.text` writes a moment in the international notation.
-/

namespace QuerySieve

/-- A date and a time of day. The offset is the distance from universal time in minutes, if known. -/
structure Moment where
  year : Nat
  month : Nat
  day : Nat
  hour : Nat
  minute : Nat
  second : Nat
  micro : Nat
  offset : Option Int
  deriving DecidableEq, Repr, Inhabited

namespace Moment

/-- The year has a 29th of February. -/
def isLeap (year : Nat) : Bool := year % 4 == 0 && (year % 100 != 0 || year % 400 == 0)

/-- The days of a month. -/
def daysIn (year month : Nat) : Nat :=
  if month = 2 then (if isLeap year then 29 else 28)
  else if month = 4 ∨ month = 6 ∨ month = 9 ∨ month = 11 then 30 else 31

/-- There is such a date, in the years 0 to 9999. -/
def isDate (year month day : Nat) : Bool :=
  year ≤ 9999 && 1 ≤ month && month ≤ 12 && 1 ≤ day && day ≤ daysIn year month

/-- The date and the time of day exist, and the offset is less than a day. -/
def isValid (m : Moment) : Bool :=
  isDate m.year m.month m.day && m.hour < 24 && m.minute < 60 && m.second < 60 &&
    m.micro < 1000000 && (m.offset.all fun o => o.natAbs < 24 * 60)

/-- The midnight that a date begins with. -/
def midnight (year month day : Nat) : Moment := ⟨year, month, day, 0, 0, 0, 0, none⟩

/-- The days before a year of an era. An era has four hundred years, and each begins with March, so
that the day that is at times missing stands at the end of a year. -/
def daysBefore (year : Nat) : Nat := 365 * year + year / 4 - year / 100 + year / 400

/-- The year that a day of an era lies in. -/
def yearOfDay (day : Nat) : Nat := (day - day / 1460 + day / 36524 - day / 146096) / 365

/-- The month that a day of such a year lies in, and the day of the month. -/
def monthOfDay (day : Nat) : Nat × Nat :=
  let shifted := (5 * day + 2) / 153
  (if shifted < 10 then shifted + 3 else shifted - 9, day - (153 * shifted + 2) / 5 + 1)

/-- The date that lies the given number of days after a first of March, four hundred years before that
of the year zero. -/
def dateOfDays (days : Nat) : Nat × Nat × Nat :=
  let era := days / 146097
  let year := yearOfDay (days % 146097)
  let (month, day) := monthOfDay (days % 146097 - daysBefore year)
  (400 * era + year + (if month ≤ 2 then 1 else 0) - 400, month, day)

/-- The days from that first of March to a date. -/
def daysOfDate (year month day : Nat) : Nat :=
  let (year, month) := if month ≤ 2 then (year + 399, month + 9) else (year + 400, month - 3)
  daysBefore year + (153 * month + 2) / 5 + (day - 1)

/-- The days from that first of March to the beginning of 1970. -/
def daysTo1970 : Nat := 865565

/-- **The moment that lies some seconds and microseconds after the beginning of 1970**, in universal
time; nothing outside the years 0 to 9999. -/
def ofSeconds? (seconds : Int) (micros : Nat) : Option Moment :=
  let seconds := seconds + (micros / 1000000 : Nat)
  if -62167219200 ≤ seconds ∧ seconds ≤ 253402300799 then
    let fromMarch := (seconds + (daysTo1970 * 86400 : Nat)).toNat
    let (year, month, day) := dateOfDays (fromMarch / 86400)
    let rest := fromMarch % 86400
    some ⟨year, month, day, rest / 3600, rest % 3600 / 60, rest % 60, micros % 1000000, some 0⟩
  else none

/-- **The microseconds from that first of March to a moment**, in universal time; nothing if the distance
from it is not known. -/
def instant? (m : Moment) : Option Int :=
  m.offset.map fun o =>
    let minutes := (daysOfDate m.year m.month m.day * 24 + m.hour) * 60 + m.minute
    ((minutes - o : Int) * 60 + m.second) * 1000000 + m.micro

/-! ## Writing -/

/-- A number with at least `width` digits. -/
def padded (width n : Nat) : String :=
  let digits := Nat.toDigits 10 n
  String.ofList (List.replicate (width - digits.length) '0' ++ digits)

/-- The offset as sign, hours and minutes. -/
def offsetText (o : Int) : String :=
  (if o < 0 then "-" else "+") ++ padded 2 (o.natAbs / 60) ++ ":" ++ padded 2 (o.natAbs % 60)

/-- A date in the international notation. -/
def dateText (year month day : Nat) : String :=
  padded 4 year ++ "-" ++ padded 2 month ++ "-" ++ padded 2 day

/-- A time of day in the international notation — microseconds only if there are any. -/
def timeText (hour minute second micro : Nat) : String :=
  padded 2 hour ++ ":" ++ padded 2 minute ++ ":" ++ padded 2 second ++
    if micro = 0 then "" else "." ++ padded 6 micro

/-- **The moment in the international notation**, with a notation for the offset if it is known. -/
def textWith (zone : Int → String) (m : Moment) : String :=
  dateText m.year m.month m.day ++ "T" ++ timeText m.hour m.minute m.second m.micro ++
    m.offset.elim "" zone

/-- The moment with its offset as sign, hours and minutes. -/
def text (m : Moment) : String := m.textWith offsetText

/-- The offset with a letter for universal time itself. -/
def zoneText (o : Int) : String := if o = 0 then "Z" else offsetText o

/-- The moment as settings have it, with a letter for universal time itself. -/
def zonedText (m : Moment) : String := m.textWith zoneText

end Moment

end QuerySieve

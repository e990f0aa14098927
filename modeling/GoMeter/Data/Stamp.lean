import GoMeter.Number.Decimal

/-!
# Dates and times

A date, with a time of day and an offset from universal time if it has them.

* `Stamp.fault?`: what is wrong with a date that does not exist.
* `Stamp.ofSeconds`: the date and the time of a count of seconds.
* `Stamp.universal`: the text of a time that is universal time.
* `Stamp.plain`, `Stamp.shown`: the text of a date on its own and inside a list.
-/

namespace GoMeter

/-- A time of day; `zone` is the offset from universal time in minutes. -/
structure Clock where
  hour : Nat
  minute : Nat
  second : Nat
  micro : Nat
  zone : Option Int
  deriving DecidableEq, Repr

/-- A date, possibly with a time of day. -/
structure Stamp where
  year : Nat
  month : Nat
  day : Nat
  clock : Option Clock
  deriving DecidableEq, Repr

namespace Stamp

/-- Whether a year has a leap day. -/
def isLeap (year : Nat) : Bool := year % 4 = 0 && (year % 100 != 0 || year % 400 = 0)

/-- The number of days of a month. -/
def daysIn (year month : Nat) : Nat :=
  if month = 2 then if isLeap year then 29 else 28
  else if month = 4 ∨ month = 6 ∨ month = 9 ∨ month = 11 then 30
  else 31

/-- What is wrong with a time of day that does not exist. -/
def clockFault? (c : Clock) : Option String :=
  if 23 < c.hour then some "hour must be in 0..23"
  else if 59 < c.minute then some "minute must be in 0..59"
  else if 59 < c.second then some "second must be in 0..59"
  else none

/-- What is wrong with a date that does not exist. -/
def fault? (s : Stamp) : Option String :=
  if s.year = 0 then some "year 0 is out of range"
  else if s.month = 0 ∨ 12 < s.month then some "month must be in 1..12"
  else if s.day = 0 ∨ daysIn s.year s.month < s.day then some "day is out of range for month"
  else s.clock.bind clockFault?

/-- The date of a day, counted from the first day of the year 1970. Years are counted from March on, in
cycles of four hundred years, so that a leap day is the last day of its year. -/
def ofDay (day : Nat) : Stamp :=
  let shifted := day + 719468
  let cycle := shifted / 146097
  let inCycle := shifted % 146097
  let year := (inCycle - inCycle / 1460 + inCycle / 36524 - inCycle / 146096) / 365
  let inYear := inCycle - (365 * year + year / 4 - year / 100)
  let month := (5 * inYear + 2) / 153
  let inMonth := inYear - (153 * month + 2) / 5
  let civil := if month < 10 then month + 3 else month - 9
  ⟨400 * cycle + year + (if civil ≤ 2 then 1 else 0), civil, inMonth + 1, none⟩

/-- The time some seconds and millionths of a second after the start of the year 1970. -/
def ofSeconds (seconds micros : Nat) : Stamp :=
  let rest := seconds % 86400
  { ofDay (seconds / 86400) with
    clock := some ⟨rest / 3600, rest / 60 % 60, rest % 60, micros, none⟩ }

/-- A number with at least `width` digits. -/
def padded (width n : Nat) : List Char :=
  let ds := Decimal.digits n
  List.replicate (width - ds.length) '0' ++ ds

/-- An offset from universal time. -/
def zonePlain (minutes : Int) : List Char :=
  (if minutes < 0 then '-' else '+') :: padded 2 (minutes.natAbs / 60) ++
    ':' :: padded 2 (minutes.natAbs % 60)

/-- The text of a date on its own. -/
def plain (s : Stamp) : List Char :=
  let date := padded 4 s.year ++ '-' :: padded 2 s.month ++ '-' :: padded 2 s.day
  match s.clock with
  | none => date
  | some c =>
    date ++ ' ' :: padded 2 c.hour ++ ':' :: padded 2 c.minute ++ ':' :: padded 2 c.second ++
      (if c.micro = 0 then [] else '.' :: padded 6 c.micro) ++ (c.zone.map zonePlain).getD []

/-- The text of a time that is universal time. -/
def universal (s : Stamp) : String :=
  String.ofList ((s.plain.map fun c => if c = ' ' then 'T' else c) ++ ['Z'])

/-- Numbers with commas between them. -/
def commas (ns : List Nat) : List Char :=
  ((ns.map Decimal.digits).intersperse [',', ' ']).flatten

/-- An offset from universal time inside a list: days and seconds that are not negative. -/
def zoneShown (minutes : Int) : List Char :=
  if minutes = 0 then "datetime.timezone.utc".toList
  else
    let seconds := minutes * 60
    let days := Int.fdiv seconds 86400
    let rest := Int.fmod seconds 86400
    "datetime.timezone(datetime.timedelta(".toList ++
      (if days = 0 then [] else "days=".toList ++ Decimal.chars days ++ ", ".toList) ++
      "seconds=".toList ++ Decimal.chars rest ++ "))".toList

/-- The name of the type of a date in messages. -/
def typeName (s : Stamp) : String :=
  if s.clock.isSome then "datetime.datetime" else "datetime.date"

/-- The text of a date inside a list. -/
def shown (s : Stamp) : List Char :=
  let parts := match s.clock with
    | none => []
    | some c =>
      [c.hour, c.minute] ++ (if c.micro = 0 ∧ c.second = 0 then [] else [c.second]) ++
        (if c.micro = 0 then [] else [c.micro])
  let zone := match s.clock.bind (·.zone) with
    | none => []
    | some z => ", tzinfo=".toList ++ zoneShown z
  s.typeName.toList ++ '(' :: commas ([s.year, s.month, s.day] ++ parts) ++ zone ++ [')']

end Stamp

end GoMeter

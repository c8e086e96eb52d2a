import Sift.Text.Character

/-!
# Dates and timestamps

A date is a day number and a timestamp a second number, both counted from
1970-01-01 UTC in the proleptic Gregorian calendar, within the years -262143 to
262142. The nanoseconds of a timestamp exceed one second during a leap second.
-/
namespace Sift

namespace Calendar

/-- The day number of a civil date; months count from 1. -/
def dayOf (year : Int) (month day : Nat) : Int :=
  let y := if month ≤ 2 then year - 1 else year
  let era := y / 400
  let yearOfEra := y % 400
  let monthFromMarch : Int := ((month + 9) % 12 : Nat)
  let dayOfYear := (153 * monthFromMarch + 2) / 5 + day - 1
  era * 146097 + (yearOfEra * 365 + yearOfEra / 4 - yearOfEra / 100 + dayOfYear) - 719468

/-- Year, month and day of a day number. -/
def civil (n : Int) : Int × Nat × Nat :=
  let z := n + 719468
  let era := z / 146097
  let doe := z % 146097
  let yoe := (doe - doe / 1460 + doe / 36524 - doe / 146096) / 365
  let doy := doe - (365 * yoe + yoe / 4 - yoe / 100)
  let mp := (5 * doy + 2) / 153
  let day := doy - (153 * mp + 2) / 5 + 1
  let month := if mp < 10 then mp + 3 else mp - 9
  (yoe + era * 400 + (if month ≤ 2 then 1 else 0), month.toNat, day.toNat)

def isLeap (year : Int) : Bool := year % 4 == 0 && (year % 100 != 0 || year % 400 == 0)

def daysIn (year : Int) (month : Nat) : Nat :=
  if month = 2 then (if isLeap year then 29 else 28)
  else if month = 4 ∨ month = 6 ∨ month = 9 ∨ month = 11 then 30
  else 31

/-- The first and the last day, -262143-01-01 and 262142-12-31. -/
def firstDay : Int := -96465292

def lastDay : Int := 95026236

end Calendar

open Calendar in
/-- A calendar date by its day number. -/
structure Date where
  day : Int
  inRange : firstDay ≤ day ∧ day ≤ lastDay
deriving DecidableEq

open Calendar in
/-- A point in time by its second number and the nanoseconds since then. -/
structure Timestamp where
  second : Int
  nano : Nat
  inRange : firstDay * 86400 ≤ second ∧ second < (lastDay + 1) * 86400
  nano_lt : nano < 2000000000
deriving DecidableEq

namespace Calendar

/-- A number in decimal, padded with zeros. -/
def padded (width n : Nat) : String :=
  let ds := Nat.toDigits 10 n
  String.ofList (List.replicate (width - ds.length) '0' ++ ds)

/-- Four digits for the years 0 to 9999, else a sign and at least four. -/
def yearText (year : Int) : String :=
  if 0 ≤ year ∧ year ≤ 9999 then padded 4 year.toNat
  else (if year < 0 then "-" else "+") ++ padded 4 year.natAbs

/-- The fewest of 0, 3, 6 or 9 fraction digits that are exact. -/
def fractionText (nano : Nat) : String :=
  if nano = 0 then ""
  else if nano % 1000000 = 0 then "." ++ padded 3 (nano / 1000000)
  else if nano % 1000 = 0 then "." ++ padded 6 (nano / 1000)
  else "." ++ padded 9 nano

def dateText (day : Int) : String :=
  let (y, m, d) := civil day
  yearText y ++ "-" ++ padded 2 m ++ "-" ++ padded 2 d

end Calendar

namespace Date

open Calendar

def ofDay? (day : Int) : Option Date :=
  if h : firstDay ≤ day ∧ day ≤ lastDay then some ⟨day, h⟩ else none

/-- The date of a civil year, month and day, if there is one. -/
def ofCivil? (year : Int) (month day : Nat) : Option Date :=
  if 1 ≤ month ∧ month ≤ 12 ∧ 1 ≤ day ∧ day ≤ daysIn year month then
    ofDay? (dayOf year month day)
  else none

/-- Year, month and day joined by hyphens. -/
def text (d : Date) : String := dateText d.day

end Date

namespace Timestamp

open Calendar

def ofSecond? (second : Int) (nano : Nat) : Option Timestamp :=
  if h : (firstDay * 86400 ≤ second ∧ second < (lastDay + 1) * 86400) ∧ nano < 2000000000 then
    some ⟨second, nano, h.1, h.2⟩
  else none

/-- Earlier seconds first, then fewer nanoseconds. -/
def compare (s t : Timestamp) : Ordering :=
  (Ord.compare s.second t.second).then (Ord.compare s.nano t.nano)

/-- The RFC 3339 text in UTC. A leap second is the sixtieth of its minute. -/
def text (t : Timestamp) : String :=
  let s := (t.second % 86400).toNat
  let leap := t.nano / 1000000000
  dateText (t.second / 86400) ++ "T" ++ padded 2 (s / 3600) ++ ":" ++ padded 2 (s / 60 % 60)
    ++ ":" ++ padded 2 (s % 60 + leap) ++ fractionText (t.nano % 1000000000) ++ "Z"

end Timestamp
end Sift

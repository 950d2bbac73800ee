/-!
This module contains the civil calendar: dates of the years 1 to 9999, their order number, and the
date of an order number.
-/

namespace Datebook

/--
A date by year, month and day. Whether the date exists is `Date.isReal`.
-/
structure Date where
  year : Nat
  month : Nat
  day : Nat
  deriving DecidableEq, Repr, Inhabited

namespace Date

def isLeap (year : Nat) : Bool :=
  year % 4 = 0 && (year % 100 ≠ 0 || year % 400 = 0)

def monthLengths (leap : Bool) : List Nat :=
  [31, if leap then 29 else 28, 31, 30, 31, 30, 31, 31, 30, 31, 30, 31]

/--
The length of a month, counted from one; `0` for a month that does not exist.
-/
def monthLength (leap : Bool) (month : Nat) : Nat :=
  match month with
  | 0 => 0
  | month + 1 => (monthLengths leap).getD month 0

def isReal (d : Date) : Bool :=
  1 ≤ d.year && d.year ≤ 9999 && 1 ≤ d.day && d.day ≤ monthLength (isLeap d.year) d.month

def daysBeforeYear (year : Nat) : Nat :=
  let past := year - 1
  past * 365 + past / 4 - past / 100 + past / 400

def daysBeforeMonth (leap : Bool) (month : Nat) : Nat :=
  ((monthLengths leap).take (month - 1)).foldl (fun n length => n + length) 0

/--
The order number of a date; the first day of the year 1 has the number `0`.
-/
def toDays (d : Date) : Nat :=
  daysBeforeYear d.year + daysBeforeMonth (isLeap d.year) d.month + (d.day - 1)

/--
The month and the day, both counted from one, of the day with number `n` in a list of months.
-/
def monthAndDay (month n : Nat) : List Nat → Nat × Nat
  | [] => (month, n + 1)
  | length :: rest => if n < length then (month, n + 1) else monthAndDay (month + 1) (n - length) rest

/--
The date with order number `n`. Four hundred years, a century, four years and a year are taken off
in turn; the last day of a leap cycle belongs to its last year.
-/
def ofDays (n : Nat) : Date :=
  let inCycle := n % 146097
  let century := min 3 (inCycle / 36524)
  let inCentury := inCycle - century * 36524
  let inFour := inCentury % 1461
  let single := min 3 (inFour / 365)
  let year := n / 146097 * 400 + century * 100 + inCentury / 1461 * 4 + single + 1
  let place := monthAndDay 1 (inFour - single * 365) (monthLengths (isLeap year))
  ⟨year, place.1, place.2⟩

/--
The number of days from the first day of the year 1 to the last of the year 9999.
-/
def count : Nat := 3652059

/--
The day of the week, counted from Monday as `0`.
-/
def weekday (d : Date) : Nat :=
  d.toDays % 7

def weekdayNames : List String :=
  ["Monday", "Tuesday", "Wednesday", "Thursday", "Friday", "Saturday", "Sunday"]

end Date

end Datebook

import Datebook.Time.Zone

/-!
This module contains the histories of zones: the changes of an offset that are known one by one, and
the rules by which it changes every year after them, up to the end of the supported years.
-/

namespace Datebook.Zone

/--
A change that recurs every year: the `week`-th day of a weekday in a month, the fifth meaning the
last, and the minutes from that day's start in universal time. Weekdays count from Monday as `0`.
-/
structure Yearly where
  month : Nat
  week : Nat
  weekday : Nat
  minutes : Int
  offset : Int
  deriving DecidableEq, Repr

def Yearly.dayIn (rule : Yearly) (year : Nat) : Nat :=
  let first := (Date.mk year rule.month 1).toDays
  let length := Date.monthLength (Date.isLeap year) rule.month
  if rule.week = 5 then
    let last := first + length - 1
    last - (last + 7 - rule.weekday) % 7
  else
    first + (rule.weekday + 7 - first % 7) % 7 + 7 * (rule.week - 1)

def Yearly.changeIn (rule : Yearly) (year : Nat) : Change :=
  ⟨rule.dayIn year * Instant.day + rule.minutes * Instant.minute, rule.offset⟩

/--
What is known of a zone: the offset in seconds before the first change, the changes that are listed,
and the rules that hold from the year `rulesFrom` on. A listed change is given by the digits of its
year, month, day, hour, minute and second in universal time, and the offset in seconds from then on.
-/
structure History where
  initial : Int
  listed : List (Nat × Int) := []
  rulesFrom : Nat := 10000
  rules : List Yearly := []
  deriving DecidableEq, Repr

namespace History

def instantOf (digits : Nat) : Instant :=
  let date : Date :=
    ⟨digits / 10000000000, digits / 100000000 % 100, digits / 1000000 % 100⟩
  ClockReading.toMicros ⟨date, digits / 10000 % 100, digits / 100 % 100, digits % 100, 0⟩

def listedChanges (h : History) : List Change :=
  h.listed.map fun (digits, offset) => ⟨instantOf digits, offset⟩

def recurringChanges (h : History) : List Change :=
  (List.range (10000 - h.rulesFrom)).flatMap fun past =>
    h.rules.map fun rule => rule.changeIn (h.rulesFrom + past)

def toZone (h : History) (name : String) : Zone :=
  ⟨name, h.initial, h.listedChanges ++ h.recurringChanges⟩

def isNear (h : History) : Bool :=
  h.initial.natAbs < 86400 && h.listed.all (fun change => change.2.natAbs < 86400)
    && h.rules.all fun rule => rule.offset.natAbs < 86400

theorem isNear_toZone {h : History} {name : String} (hnear : h.isNear = true)
    : (h.toZone name).IsNear := by
  unfold isNear at hnear
  simp only [Bool.and_eq_true, decide_eq_true_eq, List.all_eq_true] at hnear
  obtain ⟨⟨hinitial, hlisted⟩, hrules⟩ := hnear
  constructor
  . exact hinitial
  . intro change hchange
    unfold toZone listedChanges recurringChanges at hchange
    simp only [List.mem_append, List.mem_map, List.mem_flatMap] at hchange
    -- A change is listed, or a rule makes it in some year; the offset is the entry's or the rule's.
    cases hchange with
    | inl hlist =>
      obtain ⟨entry, hentry, rfl⟩ := hlist
      exact hlisted entry hentry
    | inr hrule =>
      obtain ⟨past, -, rule, hrule, rfl⟩ := hrule
      exact hrules rule hrule

end History

/--
The rules of a zone whose clocks are put forward on the second Sunday in March and back on the first
Sunday in November, at the given minutes after the start of the day in universal time.
-/
def northAmerican (spring autumn summer winter : Int) : List Yearly :=
  [⟨3, 2, 6, spring, summer⟩, ⟨11, 1, 6, autumn, winter⟩]

/--
The rules of a zone whose clocks are put forward on the last Sunday in March and back on the last
Sunday in October, at the given minutes after the start of the day in universal time.
-/
def lateSpring (spring autumn summer winter : Int) : List Yearly :=
  [⟨3, 5, 6, spring, summer⟩, ⟨10, 5, 6, autumn, winter⟩]

end Datebook.Zone

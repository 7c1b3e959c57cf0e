/-!
# Timestamps

A day of the proleptic Gregorian calendar, which has a year zero, and a time of that day to the
nanosecond. A leap second is second 59 with a nanosecond count from one thousand million on. Leap
fractions behind a second other than 59 are left out.

Headlines:
* `Timestamp.compare_eq_eq`: only equal timestamps are neither before nor after one another.
-/

namespace WhereClause

/-- Whether a year has a 29th of February. -/
def isLeapYear (year : Int) : Bool :=
  year % 4 == 0 && (year % 100 != 0 || year % 400 == 0)

/-- The number of days of a month. -/
def daysInMonth (year : Int) (month : Nat) : Nat :=
  if month = 2 then if isLeapYear year then 29 else 28
  else if month = 4 ∨ month = 6 ∨ month = 9 ∨ month = 11 then 30
  else 31

theorem daysInMonth_le (year : Int) (month : Nat) : daysInMonth year month ≤ 31 := by
  unfold daysInMonth
  repeat' split
  all_goals decide

/-- A date and a time of day. -/
structure Timestamp where
  year : Int
  month : Nat
  day : Nat
  hour : Nat
  minute : Nat
  second : Nat
  nanosecond : Nat
  year_range : -262143 ≤ year ∧ year ≤ 262142
  month_range : 1 ≤ month ∧ month ≤ 12
  day_range : 1 ≤ day ∧ day ≤ daysInMonth year month
  time_range : hour < 24 ∧ minute < 60 ∧ second < 60
  nanosecond_range : nanosecond < 1000000000 ∨ (nanosecond < 2000000000 ∧ second = 59)
  deriving Repr, DecidableEq

namespace Timestamp

/-- The timestamp of the given parts, if there is one. -/
def ofParts? (year : Int) (month day hour minute second nanosecond : Nat) : Option Timestamp :=
  if h : (-262143 ≤ year ∧ year ≤ 262142) ∧ (1 ≤ month ∧ month ≤ 12) ∧
      (1 ≤ day ∧ day ≤ daysInMonth year month) ∧ (hour < 24 ∧ minute < 60 ∧ second < 60) ∧
      (nanosecond < 1000000000 ∨ (nanosecond < 2000000000 ∧ second = 59)) then
    some ⟨year, month, day, hour, minute, second, nanosecond, h.1, h.2.1, h.2.2.1, h.2.2.2.1,
      h.2.2.2.2⟩
  else none

/-- The order of timestamps: by day, then by the time of that day. -/
def compare (a b : Timestamp) : Ordering :=
  (Ord.compare a.year b.year).then <| (Ord.compare a.month b.month).then <|
    (Ord.compare a.day b.day).then <| (Ord.compare a.hour b.hour).then <|
    (Ord.compare a.minute b.minute).then <| (Ord.compare a.second b.second).then <|
    Ord.compare a.nanosecond b.nanosecond

/-- Whether the second is a leap second. -/
def isLeapSecond (t : Timestamp) : Bool := 1000000000 ≤ t.nanosecond

theorem compare_eq_eq {a b : Timestamp} : a.compare b = .eq ↔ a = b := by
  constructor
  · intro h
    simp only [compare, Ordering.then_eq_eq, Int.compare_eq_eq, Nat.compare_eq_eq] at h
    obtain ⟨h1, h2, h3, h4, h5, h6, h7⟩ := h
    cases a
    cases b
    simp_all
  · rintro rfl
    simp [compare]

theorem compare_swap (a b : Timestamp) : b.compare a = (a.compare b).swap := by
  simp only [compare, Ordering.swap_then]
  rw [Std.OrientedOrd.eq_swap (a := b.year), Std.OrientedOrd.eq_swap (a := b.month),
    Std.OrientedOrd.eq_swap (a := b.day), Std.OrientedOrd.eq_swap (a := b.hour),
    Std.OrientedOrd.eq_swap (a := b.minute), Std.OrientedOrd.eq_swap (a := b.second),
    Std.OrientedOrd.eq_swap (a := b.nanosecond)]

end Timestamp

end WhereClause

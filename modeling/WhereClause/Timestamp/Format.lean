import WhereClause.Timestamp
import WhereClause.Text.Numeral

/-!
# Timestamp text

The written forms of a timestamp: its date alone, or its date and time to the second or to the
millisecond. A year of at most four digits is padded to four; any other has a sign. A leap second
is written as second 60, and milliseconds are cut off, not rounded.
-/

namespace WhereClause

/-- How much of a timestamp is written. -/
inductive TimestampFormat where
  | date
  | seconds
  | milliseconds
  deriving Repr, DecidableEq

namespace Timestamp

/-- The text of the year. -/
def yearText (year : Int) : List Char :=
  if 0 ≤ year ∧ year ≤ 9999 then Text.padded 4 year.toNat
  else if year < 0 then '-' :: Text.padded 4 year.natAbs
  else '+' :: Text.padded 4 year.natAbs

/-- The second as it is written. -/
def shownSecond (t : Timestamp) : Nat := t.second + t.nanosecond / 1000000000

/-- The whole milliseconds within the second. -/
def shownMillisecond (t : Timestamp) : Nat := t.nanosecond % 1000000000 / 1000000

/-- `2024-01-29` -/
def dateText (t : Timestamp) : List Char :=
  yearText t.year ++ '-' :: Text.padded 2 t.month ++ '-' :: Text.padded 2 t.day

/-- `13:05:09` -/
def timeText (t : Timestamp) : List Char :=
  Text.padded 2 t.hour ++ ':' :: Text.padded 2 t.minute ++ ':' :: Text.padded 2 t.shownSecond

/-- The text of a timestamp. -/
def text (t : Timestamp) : TimestampFormat → List Char
  | .date => t.dateText
  | .seconds => t.dateText ++ ' ' :: t.timeText
  | .milliseconds => t.dateText ++ ' ' :: t.timeText ++ '.' :: Text.padded 3 t.shownMillisecond

end Timestamp

end WhereClause

import WhereClause.Dialect
import WhereClause.Evaluate
import WhereClause.Proofs.Text.Order

/-!
# Timestamp literals in order

Where timestamps are stored as texts, the database compares what a literal says as a text, and the
host compares timestamps. From year 0 to year 9999 every part of a literal has a width of its own and
longer times stand in front of shorter ones, so that the order of the texts is that of the parts
which are shown. A format may leave parts out, but only the shortest ones, and what is cut off or
carried into a leap second never puts a later timestamp in front of an earlier one.

Headlines:
* `Timestamp.compare_text`: texts have the order of what they show.
* `Timestamp.isLE_compare_parts`: an earlier timestamp shows nothing later.
* `Timestamp.literals_sorted`: literals are sorted as timestamps are.
-/

namespace WhereClause.Timestamp

/-! ## What is shown -/

/-- The second that a clock shows. -/
def clockSecond (t : Timestamp) : Nat := if t.isLeapSecond then 60 else t.second

/-- The parts of the date. -/
def dateParts (t : Timestamp) : List Int := [t.year, t.month, t.day]

/-- The parts of the time of day that a clock shows. -/
def timeParts (t : Timestamp) : List Int := [t.hour, t.minute, t.clockSecond]

/-- The parts of a timestamp that a format shows, from the longest time to the shortest. A leap
second is second 60, and what is less than a millisecond is cut off. -/
def parts (t : Timestamp) : TimestampFormat → List Int
  | .date => t.dateParts
  | .seconds => t.dateParts ++ t.timeParts
  | .milliseconds =>
    t.dateParts ++ t.timeParts ++ [((t.nanosecond % 1000000000 / 1000000 : Nat) : Int)]

/-- The year is one that is written with four digits and no sign. -/
def HasPlainYear (t : Timestamp) : Prop := 0 ≤ t.year ∧ t.year ≤ 9999

variable {a b : Timestamp}

theorem shownSecond_eq (t : Timestamp) : t.shownSecond = t.clockSecond := by
  have h := t.nanosecond_range
  simp only [shownSecond, clockSecond, isLeapSecond, decide_eq_true_eq]
  split <;> omega

theorem clockSecond_lt (t : Timestamp) : t.clockSecond < 100 := by
  have h := t.time_range
  unfold clockSecond
  split <;> omega

/-! ## Texts and what they show -/

theorem compare_natCast (m n : Nat) : Ord.compare (m : Int) (n : Int) = Ord.compare m n := by
  simp only [Ord.compare, compareOfLessAndEq, Int.ofNat_lt, Int.ofNat_inj]

theorem compare_two_digits {m n : Nat} (hm : m < 100) (hn : n < 100) (s t : List Char) :
    Ord.compare (Text.padded 2 m ++ s) (Text.padded 2 n ++ t) =
      (Ord.compare (m : Int) (n : Int)).then (Ord.compare s t) := by
  rw [compare_natCast]
  exact Text.compare_padded (by decide) hm hn s t

theorem compare_yearText (ha : a.HasPlainYear) (hb : b.HasPlainYear) (s t : List Char) :
    Ord.compare (yearText a.year ++ s) (yearText b.year ++ t) =
      (Ord.compare a.year b.year).then (Ord.compare s t) := by
  obtain ⟨ha0, ha⟩ := ha
  obtain ⟨hb0, hb⟩ := hb
  rw [yearText, if_pos ⟨ha0, ha⟩, yearText, if_pos ⟨hb0, hb⟩,
    Text.compare_padded (by decide) (show a.year.toNat < 10000 by omega)
      (show b.year.toNat < 10000 by omega),
    ← compare_natCast, Int.toNat_of_nonneg ha0, Int.toNat_of_nonneg hb0]

theorem compare_dateText (ha : a.HasPlainYear) (hb : b.HasPlainYear) (s t : List Char) :
    Ord.compare (a.dateText ++ s) (b.dateText ++ t) =
      (Ord.compare a.dateParts b.dateParts).then (Ord.compare s t) := by
  have hday : ∀ t : Timestamp, t.month < 100 ∧ t.day < 100 := fun t => by
    have hmonth := t.month_range
    have hday := t.day_range
    have hlast := daysInMonth_le t.year t.month
    omega
  simp only [dateText, dateParts, List.append_assoc, List.cons_append, compare_yearText ha hb,
    compare_two_digits (hday a).1 (hday b).1, compare_two_digits (hday a).2 (hday b).2,
    List.compare_cons_cons, Std.compare_self, Ordering.then_assoc, Ordering.eq_then]

theorem compare_timeText (a b : Timestamp) (s t : List Char) :
    Ord.compare (a.timeText ++ s) (b.timeText ++ t) =
      (Ord.compare a.timeParts b.timeParts).then (Ord.compare s t) := by
  have htime : ∀ t : Timestamp, t.hour < 100 ∧ t.minute < 100 := fun t => by
    have htime := t.time_range
    omega
  simp only [timeText, timeParts, shownSecond_eq, List.append_assoc, List.cons_append,
    compare_two_digits (htime a).1 (htime b).1, compare_two_digits (htime a).2 (htime b).2,
    compare_two_digits a.clockSecond_lt b.clockSecond_lt, List.compare_cons_cons,
    Std.compare_self, Ordering.then_assoc, Ordering.eq_then]

theorem compare_dateTimeText (ha : a.HasPlainYear) (hb : b.HasPlainYear) (s t : List Char) :
    Ord.compare (a.dateText ++ ' ' :: a.timeText ++ s) (b.dateText ++ ' ' :: b.timeText ++ t) =
      (Ord.compare (a.dateParts ++ a.timeParts) (b.dateParts ++ b.timeParts)).then
        (Ord.compare s t) := by
  have hlen : a.dateParts.length = b.dateParts.length := rfl
  rw [List.append_assoc, List.append_assoc, compare_dateText ha hb, List.cons_append,
    List.cons_append, List.compare_cons_cons, Std.compare_self, Ordering.eq_then, compare_timeText,
    Text.compare_append hlen, Ordering.then_assoc]

/-- **Texts have the order of what they show**, the longest time first, and decide over what follows
them. -/
theorem compare_text (ha : a.HasPlainYear) (hb : b.HasPlainYear) (format : TimestampFormat)
    (s t : List Char) :
    Ord.compare (a.text format ++ s) (b.text format ++ t) =
      (Ord.compare (a.parts format) (b.parts format)).then (Ord.compare s t) := by
  cases format with
  | date => exact compare_dateText ha hb s t
  | seconds => exact compare_dateTimeText ha hb s t
  | milliseconds =>
    have hms : ∀ t : Timestamp, t.shownMillisecond < 1000 := fun t => by
      unfold shownMillisecond
      omega
    have hlen : (a.dateParts ++ a.timeParts).length = (b.dateParts ++ b.timeParts).length := rfl
    rw [text, text, List.append_assoc _ _ s, List.append_assoc _ _ t, compare_dateTimeText ha hb,
      List.cons_append, List.cons_append, List.compare_cons_cons, Std.compare_self,
      Ordering.eq_then, Text.compare_padded (by decide) (hms a) (hms b), ← compare_natCast, parts,
      parts, Text.compare_append hlen, List.compare_cons_cons, List.compare_nil_nil,
      Ordering.then_eq, Ordering.then_assoc]
    rfl

theorem compare_literal (d : Dialect) (ha : a.HasPlainYear) (hb : b.HasPlainYear) :
    Ord.compare (d.literal (.timestamp a)).toList (d.literal (.timestamp b)).toList =
      Ord.compare (a.parts d.timestampFormat) (b.parts d.timestampFormat) := by
  have h : ∀ t : Timestamp, (d.literal (.timestamp t)).toList =
      '\'' :: (t.text d.timestampFormat ++ ['\'']) := fun t => by
    simp [Dialect.literal]
  rw [h, h, List.compare_cons_cons, Std.compare_self, Ordering.eq_then, compare_text ha hb,
    Std.compare_self, Ordering.then_eq]

/-! ## What an earlier timestamp shows -/

/-- The parts down to the minute, which are shown as they are. -/
def minuteParts (t : Timestamp) : List Int := t.dateParts ++ [(t.hour : Int), (t.minute : Int)]

theorem compare_eq_then (a b : Timestamp) :
    a.compare b = (Ord.compare a.minuteParts b.minuteParts).then
      ((Ord.compare a.second b.second).then (Ord.compare a.nanosecond b.nanosecond)) := by
  simp only [compare, minuteParts, dateParts, List.cons_append, List.nil_append,
    List.compare_cons_cons, List.compare_nil_nil, compare_natCast, Ordering.then_eq,
    Ordering.then_assoc]

theorem isLE_then_mono {o p q : Ordering} (hpq : p.isLE = true → q.isLE = true)
    (h : (o.then p).isLE = true) : (o.then q).isLE = true := by
  rw [Ordering.isLE_then_iff_and] at h ⊢
  exact ⟨h.1, h.2.imp_right hpq⟩

/-- Within a minute a clock never goes back, over a leap second neither. -/
theorem isLE_compare_clock (a b : Timestamp)
    (h : ((Ord.compare a.second b.second).then
      (Ord.compare a.nanosecond b.nanosecond)).isLE = true) :
    ((Ord.compare (a.clockSecond : Int) b.clockSecond).then
      (Ord.compare (a.shownMillisecond : Int) b.shownMillisecond)).isLE = true := by
  have ha := a.nanosecond_range
  have hb := b.nanosecond_range
  have hb' := b.time_range
  rw [Ordering.isLE_then_iff_or, Nat.compare_eq_lt, Nat.compare_eq_eq, Nat.isLE_compare] at h
  rw [compare_natCast, compare_natCast, Ordering.isLE_then_iff_or, Nat.compare_eq_lt,
    Nat.compare_eq_eq, Nat.isLE_compare, ← shownSecond_eq, ← shownSecond_eq, shownSecond,
    shownSecond, shownMillisecond, shownMillisecond]
  omega

/-- **An earlier timestamp shows nothing later.** -/
theorem isLE_compare_parts (h : a.compare b = .lt) (format : TimestampFormat) :
    (Ord.compare (a.parts format) (b.parts format)).isLE = true := by
  have hdate : a.dateParts.length = b.dateParts.length := rfl
  have htime : (a.dateParts ++ a.timeParts).length = (b.dateParts ++ b.timeParts).length := rfl
  have hminute : a.minuteParts.length = b.minuteParts.length := rfl
  have hmilliseconds :
      (Ord.compare (a.parts .milliseconds) (b.parts .milliseconds)).isLE = true := by
    have hparts : ∀ t : Timestamp, t.parts .milliseconds =
        t.minuteParts ++ [(t.clockSecond : Int), (t.shownMillisecond : Int)] := fun t => rfl
    rw [hparts, hparts, Text.compare_append hminute, List.compare_cons_cons,
      List.compare_cons_cons, List.compare_nil_nil, Ordering.then_eq]
    refine isLE_then_mono (isLE_compare_clock a b) ?_
    rw [← compare_eq_then, h]
    rfl
  -- The coarser formats show the parts in front of the ones that they leave out.
  have hseconds : (Ord.compare (a.parts .seconds) (b.parts .seconds)).isLE = true := by
    rw [parts, parts, Text.compare_append htime] at hmilliseconds
    exact Ordering.isLE_left_of_isLE_then hmilliseconds
  cases format with
  | milliseconds => exact hmilliseconds
  | seconds => exact hseconds
  | date =>
    rw [parts, parts, Text.compare_append hdate] at hseconds
    exact Ordering.isLE_left_of_isLE_then hseconds

theorem eval_lt_iff :
    Comparison.lt.eval (.timestamp a) (.timestamp b) = .ok (.bool true) ↔ a.compare b = .lt := by
  simp [Comparison.eval, Value.isNull, Value.order?, Comparison.holds]

/-- **Literals are sorted as timestamps are.** In every dialect two timestamps of the years 0 to 9999
have literals. If the host finds the first timestamp below the second, its literal is not above that
of the second by code points, and the literals are one text exactly if the timestamps agree in all
that the format of the dialect shows. -/
theorem literals_sorted (d : Dialect) (ha : a.HasPlainYear) (hb : b.HasPlainYear) :
    ∃ s t, d.quoteValue (.timestamp a) = .ok s ∧ d.quoteValue (.timestamp b) = .ok t ∧
      (Comparison.lt.eval (.timestamp a) (.timestamp b) = .ok (.bool true) → s ≤ t) ∧
      (s = t ↔ a.parts d.timestampFormat = b.parts d.timestampFormat) := by
  refine ⟨d.literal (.timestamp a), d.literal (.timestamp b), rfl, rfl, fun h => ?_, ?_⟩
  · rw [Text.le_iff_isLE_compare, compare_literal d ha hb]
    exact isLE_compare_parts (eval_lt_iff.mp h) _
  · rw [← String.toList_inj, ← Std.compare_eq_iff_eq, compare_literal d ha hb,
      Std.compare_eq_iff_eq]

/-- Half a leap second, less than a millisecond more, and the second behind it: Firebird has one
literal for the first two, and the third is above them. -/
theorem literals_sorted_leapSecond :
    ∃ a b c, ofParts? 2016 12 31 23 59 59 1500000000 = some a ∧
      ofParts? 2016 12 31 23 59 59 1500999999 = some b ∧ ofParts? 2017 1 1 0 0 0 0 = some c ∧
      a.HasPlainYear ∧ b.HasPlainYear ∧ c.HasPlainYear ∧
      ∃ s t, Dialect.firebird.quoteValue (.timestamp a) = .ok s ∧
        Dialect.firebird.quoteValue (.timestamp b) = .ok s ∧
        Dialect.firebird.quoteValue (.timestamp c) = .ok t ∧
        Comparison.lt.eval (.timestamp b) (.timestamp c) = .ok (.bool true) ∧ s ≤ t ∧ s ≠ t := by
  let a : Timestamp := ⟨2016, 12, 31, 23, 59, 59, 1500000000, by decide, by decide, by decide,
    by decide, by decide⟩
  let b : Timestamp := ⟨2016, 12, 31, 23, 59, 59, 1500999999, by decide, by decide, by decide,
    by decide, by decide⟩
  let c : Timestamp := ⟨2017, 1, 1, 0, 0, 0, 0, by decide, by decide, by decide, by decide,
    by decide⟩
  have ha : a.HasPlainYear := by unfold HasPlainYear; decide
  have hb : b.HasPlainYear := by unfold HasPlainYear; decide
  have hc : c.HasPlainYear := by unfold HasPlainYear; decide
  have hlt : Comparison.lt.eval (.timestamp b) (.timestamp c) = .ok (.bool true) := rfl
  obtain ⟨s, s', hs, hs', -, heq⟩ := literals_sorted .firebird ha hb
  obtain ⟨s'', t, hs'', ht, hle, hne⟩ := literals_sorted .firebird hb hc
  cases hs'.symm.trans hs''
  obtain rfl := heq.mpr (by decide)
  exact ⟨a, b, c, rfl, rfl, rfl, ha, hb, hc, s, t, hs, hs', ht, hlt, hle hlt,
    fun h => absurd (hne.mp h) (by decide)⟩

end WhereClause.Timestamp

import WhereClause.Proofs.Binary64.Nearest
import WhereClause.Proofs.Comparison

/-!
# The order of numbers of all representations

Words are ordered by their values, and beside a binary64 number they are rounded to one. What is
below a rounded word is below the word, so rounding never turns an order around. It only makes two
numbers equal that are not: a word beyond 53 bits and the number it is rounded to. Hence below and
above are transitive across the representations, and equality is not.

Headlines:
* `Number.compare?_of_ranks`: the order of exact values, but for what is rounded.
* `Number.compare?_lt_trans`: below is transitive.
* `Number.compare?_exact_unless_rounded`: both together.
* `Number.compare?_rounded_eq`: equality through rounding is neither exact nor transitive.
-/

namespace WhereClause.Number

/-- The exact value in units, with the infinities beyond all finite numbers. A NaN has none. -/
def rank? : Number → Option Int
  | signed n => some (n.toInt * Binary64.unitsPerOne)
  | unsigned n => some (n.toNat * Binary64.unitsPerOne)
  | float x => x.rank?

/-- The first number is a word of more than 53 bits and the second is what it is rounded to. -/
def RoundsTo (a b : Number) : Prop :=
  ∃ n x, a.integer? = some n ∧ b = float x ∧ 0x20000000000000 < n.natAbs ∧ x.IsRounded n

variable {a b c : Number} {n : Int} {x y r s : Int}

/-! ## Words and what they are rounded to -/

theorem rank?_of_integer? (h : a.integer? = some n) :
    a.rank? = some (n * Binary64.unitsPerOne) := by
  cases a <;> cases h <;> rfl

theorem exists_float (h : a.integer? = none) : ∃ x, a = float x := by
  cases a with
  | signed n | unsigned n => cases h
  | float x => exact ⟨x, rfl⟩

theorem natAbs_le_of_integer? (h : a.integer? = some n) : n.natAbs ≤ 0x10000000000000000 := by
  cases a with
  | signed w =>
    cases h
    have := Word.toInt_bounds w
    omega
  | unsigned w =>
    cases h
    have := w.toNat_lt
    omega
  | float x => cases h

theorem toBinary64_isRounded (h : a.integer? = some n) : a.toBinary64.IsRounded n := by
  have hrounded := Binary64.ofInt_isRounded (natAbs_le_of_integer? h)
  cases a with
  | signed w | unsigned w =>
    cases h
    exact hrounded
  | float x => cases h

theorem exists_rank? (h : a ≠ float .nan) :
    ∃ x r, a.rank? = some x ∧ a.toBinary64.rank? = some r := by
  have hne : a.toBinary64.rank? ≠ none := fun hnone =>
    h (toBinary64_eq_nan_iff.mp (Binary64.rank?_eq_none_iff.mp hnone))
  obtain ⟨r, hr⟩ := Option.ne_none_iff_exists'.mp hne
  cases ha : a.integer? with
  | some n => exact ⟨_, r, rank?_of_integer? ha, hr⟩
  | none =>
    obtain ⟨x, rfl⟩ := exists_float ha
    exact ⟨r, r, hr, hr⟩

/-- Beside a binary64 number the order is that of what the numbers are rounded to. -/
theorem compare?_of_toBinary64 (h : a.integer? = none ∨ b.integer? = none)
    (hr : a.toBinary64.rank? = some r) (hs : b.toBinary64.rank? = some s) :
    a.compare? b = some (compare r s) := by
  rw [compare?_of_integer?_eq_none h, Binary64.compare?, hr, hs]

/-! ## Exact values -/

/-- A word and a binary64 number have the order of their exact values, unless the one is rounded to
the other, which makes them equal. -/
theorem compare?_of_integer?_float (ha : a.integer? = some n) {f : Binary64} (hy : f.rank? = some y) :
    ∃ o, a.compare? (float f) = some o ∧ (a.RoundsTo (float f) → o = .eq) ∧
      (¬a.RoundsTo (float f) → o = compare (n * Binary64.unitsPerOne) y) := by
  have hrounded := toBinary64_isRounded ha
  obtain ⟨x, r, -, hr⟩ := exists_rank? (a := a) (by rintro rfl; cases ha)
  refine ⟨_, compare?_of_toBinary64 (Or.inr rfl) hr hy, ?_, fun hnot => ?_⟩
  · rintro ⟨n', g, ha', hg, -, hg'⟩
    cases hg
    cases ha.symm.trans ha'
    have heq := hrounded.rank_unique hg'
    rw [hr, hy] at heq
    cases heq
    exact Std.compare_self
  · by_cases heq : r = y
    · have hbits : n.natAbs ≤ 0x20000000000000 := Nat.le_of_not_lt fun hbits =>
        hnot ⟨n, f, ha, rfl, hbits, hrounded.of_rank (by rw [hy, hr, heq])⟩
      have hexact := hrounded.exact hbits
      rw [hr] at hexact
      cases hexact
      rfl
    · exact (hrounded.compare_eq (natAbs_le_of_integer? ha) hr hy heq).symm

/-- Nothing but a word is rounded. -/
theorem not_roundsTo_of_float (h : a.integer? = none) : ¬a.RoundsTo b := by
  rintro ⟨n, x, ha, -⟩
  rw [h] at ha
  cases ha

/-- Nothing is rounded to a word. -/
theorem not_roundsTo_of_word (h : b.integer? = some n) : ¬a.RoundsTo b := by
  rintro ⟨n', x, -, rfl, -⟩
  cases h

theorem compare_mul_unitsPerOne (m n : Int) :
    compare (m * Binary64.unitsPerOne) (n * Binary64.unitsPerOne) = compare m n := by
  have hpos : (0 : Int) < Binary64.unitsPerOne :=
    Int.natCast_pos.mpr (Binary64.one_shiftLeft_pos 1074)
  rcases Int.lt_trichotomy m n with h | rfl | h
  · rw [Std.compare_eq_lt.mpr h, Std.compare_eq_lt.mpr (Int.mul_lt_mul_of_pos_right h hpos)]
  · rw [Std.compare_self, Std.compare_self]
  · rw [Std.compare_eq_gt.mpr h, Std.compare_eq_gt.mpr (Int.mul_lt_mul_of_pos_right h hpos)]

/-- **The order is that of exact values**, unless one number is rounded to the other, which makes them
equal. -/
theorem compare?_of_ranks (hx : a.rank? = some x) (hy : b.rank? = some y) :
    ∃ o, a.compare? b = some o ∧ (a.RoundsTo b ∨ b.RoundsTo a → o = .eq) ∧
      (¬(a.RoundsTo b ∨ b.RoundsTo a) → o = compare x y) := by
  cases ha : a.integer? with
  | some m =>
    cases (rank?_of_integer? ha).symm.trans hx
    cases hb : b.integer? with
    | some n =>
      cases (rank?_of_integer? hb).symm.trans hy
      have hnot : ¬(a.RoundsTo b ∨ b.RoundsTo a) :=
        not_or.mpr ⟨not_roundsTo_of_word hb, not_roundsTo_of_word ha⟩
      exact ⟨_, compare?_of_integers ha hb, fun h => absurd h hnot,
        fun _ => (compare_mul_unitsPerOne m n).symm⟩
    | none =>
      obtain ⟨f, rfl⟩ := exists_float hb
      obtain ⟨o, ho, heq, hexact⟩ := compare?_of_integer?_float ha hy
      exact ⟨o, ho, fun h => heq (h.resolve_right (not_roundsTo_of_float hb)),
        fun h => hexact fun ha => h (Or.inl ha)⟩
  | none =>
    obtain ⟨f, rfl⟩ := exists_float ha
    cases hb : b.integer? with
    | some n =>
      cases (rank?_of_integer? hb).symm.trans hy
      obtain ⟨o, ho, heq, hexact⟩ := compare?_of_integer?_float hb hx
      refine ⟨o.swap, by rw [compare?_swap b, ho]; rfl, fun h => ?_, fun h => ?_⟩
      · rw [heq (h.resolve_left (not_roundsTo_of_float ha))]
        rfl
      · rw [hexact fun hb => h (Or.inr hb)]
        exact Std.OrientedOrd.eq_swap.symm
    | none =>
      obtain ⟨g, rfl⟩ := exists_float hb
      have hnot : ¬((float f).RoundsTo (float g) ∨ (float g).RoundsTo (float f)) :=
        not_or.mpr ⟨not_roundsTo_of_float ha, not_roundsTo_of_float hb⟩
      exact ⟨_, compare?_of_toBinary64 (Or.inl ha) hx hy, fun h => absurd h hnot, fun _ => rfl⟩

/-- An order other than equality is that of the exact values. -/
theorem compare_of_compare? {o : Ordering} (hx : a.rank? = some x) (hy : b.rank? = some y)
    (h : a.compare? b = some o) (ho : o ≠ .eq) : o = compare x y := by
  obtain ⟨o', ho', heq, hexact⟩ := compare?_of_ranks hx hy
  cases h.symm.trans ho'
  exact hexact fun hround => ho (heq hround)

/-! ## Transitivity -/

theorem ne_nan_of_compare? {o : Ordering} (h : a.compare? b = some o) :
    a ≠ float .nan ∧ b ≠ float .nan := by
  refine not_or.mp fun hnan => ?_
  rw [compare?_eq_none_iff.mpr hnan] at h
  cases h

/-- Rounding does not put a number above one that it is below, and two words at most on one place. -/
theorem rounded_le_of_lt (h : a.compare? b = some .lt) (hr : a.toBinary64.rank? = some r)
    (hs : b.toBinary64.rank? = some s) :
    r ≤ s ∧ (a.integer? = none ∨ b.integer? = none → r < s) := by
  by_cases hfloat : a.integer? = none ∨ b.integer? = none
  · rw [compare?_of_toBinary64 hfloat hr hs] at h
    have hlt := Std.compare_eq_lt.mp (Option.some.inj h)
    exact ⟨Int.le_of_lt hlt, fun _ => hlt⟩
  · refine ⟨?_, fun h => absurd h hfloat⟩
    obtain ⟨m, n, hm, hn⟩ := exists_integers hfloat
    rw [compare?_of_integers hm hn] at h
    exact (toBinary64_isRounded hm).mono (toBinary64_isRounded hn)
      (Int.le_of_lt (Std.compare_eq_lt.mp (Option.some.inj h))) hr hs

/-- **Below is transitive** across the representations. -/
theorem compare?_lt_trans (hab : a.compare? b = some .lt) (hbc : b.compare? c = some .lt) :
    a.compare? c = some .lt := by
  obtain ⟨ha, hb⟩ := ne_nan_of_compare? hab
  obtain ⟨-, hc⟩ := ne_nan_of_compare? hbc
  obtain ⟨x, r, hx, hr⟩ := exists_rank? ha
  obtain ⟨y, s, hy, hs⟩ := exists_rank? hb
  obtain ⟨z, t, hz, ht⟩ := exists_rank? hc
  by_cases hfloat : a.integer? = none ∨ c.integer? = none
  · obtain ⟨hrs, hrs'⟩ := rounded_le_of_lt hab hr hs
    obtain ⟨hst, hst'⟩ := rounded_le_of_lt hbc hs ht
    have hrt : r < t := by
      rcases hfloat with h | h
      · exact Int.lt_of_lt_of_le (hrs' (Or.inl h)) hst
      · exact Int.lt_of_le_of_lt hrs (hst' (Or.inr h))
    rw [compare?_of_toBinary64 hfloat hr ht, Std.compare_eq_lt.mpr hrt]
  · -- Words are compared exactly, so the number between them is to be taken exactly, too.
    have hxy := Std.compare_eq_lt.mp (compare_of_compare? hx hy hab nofun).symm
    have hyz := Std.compare_eq_lt.mp (compare_of_compare? hy hz hbc nofun).symm
    obtain ⟨m, n, hm, hn⟩ := exists_integers hfloat
    cases (rank?_of_integer? hm).symm.trans hx
    cases (rank?_of_integer? hn).symm.trans hz
    rw [compare?_of_integers hm hn, ← compare_mul_unitsPerOne,
      Std.compare_eq_lt.mpr (Int.lt_trans hxy hyz)]

/-- **Above is transitive**, too. -/
theorem compare?_trans {o : Ordering} (ho : o ≠ .eq) (hab : a.compare? b = some o)
    (hbc : b.compare? c = some o) : a.compare? c = some o := by
  cases o with
  | eq => exact absurd rfl ho
  | lt => exact compare?_lt_trans hab hbc
  | gt =>
    have hba : b.compare? a = some .lt := by rw [compare?_swap, hab]; rfl
    have hcb : c.compare? b = some .lt := by rw [compare?_swap, hbc]; rfl
    rw [compare?_swap c a, compare?_lt_trans hcb hba]
    rfl

/-- **Numbers are ordered by their exact values, but for rounding.** Two numbers that are no NaN have
an order. It is the one of their exact values, unless one of them is a word of more than 53 bits and
the other is the binary64 number it is rounded to, which are equal. So equal values are always equal,
and what is below or above another number is so by its value. This is transitive. -/
theorem compare?_exact_unless_rounded (ha : a ≠ float .nan) (hb : b ≠ float .nan) :
    ∃ x y o, a.rank? = some x ∧ b.rank? = some y ∧ a.compare? b = some o ∧
      (a.RoundsTo b ∨ b.RoundsTo a → o = .eq) ∧
      (¬(a.RoundsTo b ∨ b.RoundsTo a) → o = compare x y) ∧
      (x = y → o = .eq) ∧
      (o ≠ .eq → o = compare x y ∧ ∀ c, b.compare? c = some o → a.compare? c = some o) := by
  obtain ⟨x, -, hx, -⟩ := exists_rank? ha
  obtain ⟨y, -, hy, -⟩ := exists_rank? hb
  obtain ⟨o, ho, heq, hexact⟩ := compare?_of_ranks hx hy
  refine ⟨x, y, o, hx, hy, ho, heq, hexact, ?_, fun hne => ?_⟩
  · rintro rfl
    by_cases hround : a.RoundsTo b ∨ b.RoundsTo a
    · exact heq hround
    · exact (hexact hround).trans Std.compare_self
  · exact ⟨compare_of_compare? hx hy ho hne, fun c hbc => compare?_trans hne ho hbc⟩

/-- The greatest word is rounded up to the number behind it, and is equal to that. It is below
infinity. -/
theorem compare?_greatest_word :
    (unsigned 18446744073709551615).RoundsTo (float (.ofInt 18446744073709551616)) ∧
      compare? (unsigned 18446744073709551615) (float (.ofInt 18446744073709551616)) = some .eq ∧
      compare? (unsigned 18446744073709551615) (float (.infinite false)) = some .lt := by
  have hround : (unsigned 18446744073709551615).RoundsTo (float (.ofInt 18446744073709551616)) := by
    refine ⟨18446744073709551615, _, rfl, rfl, by decide, ?_⟩
    exact (Binary64.ofInt_isRounded (by decide)).of_rank (by decide +kernel)
  obtain ⟨-, -, o, -, -, ho, heq, -⟩ :=
    compare?_exact_unless_rounded (a := unsigned 18446744073709551615)
      (b := float (.ofInt 18446744073709551616)) nofun (by decide +kernel)
  obtain ⟨x, y, o', hx, hy, ho', -, hexact, -⟩ :=
    compare?_exact_unless_rounded (a := unsigned 18446744073709551615)
      (b := float (.infinite false)) nofun nofun
  have hnot : ¬((unsigned 18446744073709551615).RoundsTo (float (.infinite false)) ∨
      (float (.infinite false)).RoundsTo (unsigned 18446744073709551615)) := by
    rintro (⟨n, x, -, h, -, hx⟩ | h)
    · cases h
      obtain ⟨_, _, _, _, hx, -⟩ := hx
      cases hx
    · exact not_roundsTo_of_float rfl h
  refine ⟨hround, by rw [ho, heq (Or.inl hround)], ?_⟩
  rw [ho', hexact hnot]
  cases hx
  cases hy
  decide +kernel

/-- **Equality is neither exact nor transitive**: the word behind `2 ^ 53` is equal to that number in
binary64, which is equal to its word. -/
theorem compare?_rounded_eq :
    rank? (signed 9007199254740993) = some (9007199254740993 * Binary64.unitsPerOne) ∧
      rank? (float (.ofInt 9007199254740992)) = some (9007199254740992 * Binary64.unitsPerOne) ∧
      compare (9007199254740993 * Binary64.unitsPerOne : Int)
        (9007199254740992 * Binary64.unitsPerOne) = .gt ∧
      compare? (signed 9007199254740993) (float (.ofInt 9007199254740992)) = some .eq ∧
      compare? (float (.ofInt 9007199254740992)) (signed 9007199254740992) = some .eq ∧
      compare? (signed 9007199254740993) (signed 9007199254740992) = some .gt := by
  refine ⟨?_, ?_, ?_, ?_, ?_, ?_⟩ <;> decide +kernel

end WhereClause.Number

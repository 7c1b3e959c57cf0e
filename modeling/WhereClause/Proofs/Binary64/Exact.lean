import WhereClause.Binary64.Arithmetic
import WhereClause.Proofs.Binary64.Fraction

/-!
# Arithmetic on whole binary64 numbers

Integers of 53 bits are binary64 numbers. Their sums, differences, products and remainders are the
integers that the operations have on integers, rounded where those have more bits. A quotient is the
truncated one exactly if nothing is left over: a fraction that is left is never rounded away.

Headlines:
* `Binary64.isWhole_ofInt`: integers of 53 bits are whole.
* `Binary64.IsWhole.rank?_add`, `rank?_sub`, `rank?_mul`, `rank?_rem`: results on integers.
* `Binary64.IsWhole.rank?_div_iff`: the same for quotients that leave nothing over, and only those.
-/

namespace WhereClause.Binary64

/-- The number is a whole one, of the given sign and magnitude. -/
def IsWhole (a : Binary64) (s : Bool) (n : Nat) : Prop :=
  ∃ m k h, a = finite s m k h ∧ m <<< k = n * unitsPerOne

variable {a b : Binary64} {s t : Bool} {x y : Nat} {n : Int}

/-! ## Signs -/

theorem signed_natAbs (n : Int) : signed (n < 0) n.natAbs = n := by
  unfold signed
  split <;> rename_i h <;> simp only [decide_eq_true_eq] at h <;> omega

theorem neg_signed (s : Bool) (n : Nat) : -signed s n = signed (!s) n := by
  cases s
  · rfl
  · exact Int.neg_neg _

theorem signed_mul (s t : Bool) (x y : Nat) :
    signed s x * signed t y = signed (s != t) (x * y) := by
  cases s with
  | false =>
    cases t with
    | false => rfl
    | true => exact Int.mul_neg _ _
  | true =>
    cases t with
    | false => exact Int.neg_mul _ _
    | true => exact Int.neg_mul_neg _ _

theorem signed_tdiv (s t : Bool) (x y : Nat) :
    (signed s x).tdiv (signed t y) = signed (s != t) (x / y) := by
  cases s with
  | false =>
    cases t with
    | false => rfl
    | true => exact Int.tdiv_neg _ _
  | true =>
    cases t with
    | false => exact Int.neg_tdiv _ _
    | true => exact Int.neg_tdiv_neg _ _

theorem signed_tmod (s t : Bool) (x y : Nat) :
    (signed s x).tmod (signed t y) = signed s (x % y) := by
  have hdivisor : (signed s x).tmod (signed t y) = (signed s x).tmod y := by
    cases t with
    | false => rfl
    | true => exact Int.tmod_neg _ _
  rw [hdivisor]
  cases s with
  | false => rfl
  | true => exact Int.neg_tmod _ _

theorem signed_mul_unitsPerOne (s : Bool) (n : Nat) :
    signed s (n * unitsPerOne) = signed s n * unitsPerOne := by
  cases s with
  | false => rfl
  | true => rw [signed_true, signed_true, Int.natCast_mul, Int.neg_mul]

/-! ## Whole numbers -/

/-- The sign of zero does not show in its place. -/
theorem rank?_nearest_whole (s : Bool) (n : Nat) :
    (nearest s (n * unitsPerOne) 1).rank? = (ofInt (signed s n)).rank? := by
  rcases Nat.eq_zero_or_pos n with rfl | hn
  · rw [Nat.zero_mul]
    cases s <;> decide +kernel
  · have hs : decide (signed s n < 0) = s := by
      cases s
      · exact decide_eq_false (by simp [signed])
      · exact decide_eq_true (by simpa [signed] using hn)
    rw [ofInt, hs, natAbs_signed]

theorem isWhole_ofInt (h : n.natAbs ≤ 0x20000000000000) : (ofInt n).IsWhole (n < 0) n.natAbs := by
  have hle : n.natAbs ≤ 0x10000000000000000 := Nat.le_trans h (by decide)
  obtain ⟨m, k, hc, heq, -⟩ := nearest_eq_finite (n < 0) (scaleOf_lt_maxScale (magnitude_lt hle))
  refine ⟨m, k, hc, heq, ?_⟩
  have hrank := (ofInt_isRounded hle).exact h
  rw [ofInt, heq, mul_unitsPerOne] at hrank
  have hunits := congrArg Int.natAbs (Option.some.inj hrank)
  rwa [natAbs_signed, natAbs_signed] at hunits

/-- What an integer is rounded to is one value. -/
theorem isRounded_iff (h : n.natAbs ≤ 0x10000000000000000) :
    a.IsRounded n ↔ a.rank? = (ofInt n).rank? :=
  ⟨fun ha => ha.rank_unique (ofInt_isRounded h), (ofInt_isRounded h).of_rank⟩

/-- Nothing but zero is rounded to zero. -/
theorem isZero_ofInt (h : n.natAbs ≤ 0x10000000000000000) : (ofInt n).isZero = decide (n = 0) := by
  by_cases hn : n = 0
  · rw [hn]
    decide +kernel
  · have hrounded := ofInt_isRounded h
    rw [decide_eq_false hn]
    obtain ⟨s, m, k, hc, heq, -⟩ := id hrounded
    rw [heq] at hrounded ⊢
    refine beq_false_of_ne fun hm => ?_
    subst hm
    have hrank : (finite s 0 k hc).rank? = some 0 := by
      rw [rank?, Nat.zero_shiftLeft]
      cases s <;> rfl
    have hone := unitsPerOne_pos
    rcases Int.lt_or_gt_of_ne hn with hneg | hpos
    · have hunit := ofInt_isRounded (n := -1) (by decide)
      have := hrounded.mono hunit (by omega) hrank (hunit.exact (by decide))
      omega
    · have hunit := ofInt_isRounded (n := 1) (by decide)
      have := hunit.mono hrounded (by omega) (hunit.exact (by decide)) hrank
      omega

namespace IsWhole

theorem neg (ha : a.IsWhole s x) : a.neg.IsWhole (!s) x := by
  obtain ⟨m, k, hm, rfl, hx⟩ := ha
  exact ⟨m, k, hm, rfl, hx⟩

/-- **Sums** are those of integers. -/
theorem rank?_add (ha : a.IsWhole s x) (hb : b.IsWhole t y) :
    (a.add b).rank? = (ofInt (signed s x + signed t y)).rank? := by
  obtain ⟨m, k, hm, rfl, hx⟩ := ha
  obtain ⟨p, l, hp, rfl, hy⟩ := hb
  have hsum : signed s (m <<< k) + signed t (p <<< l) =
      (signed s x + signed t y) * unitsPerOne := by
    rw [hx, hy, signed_mul_unitsPerOne, signed_mul_unitsPerOne, Int.add_mul]
  simp only [add, hsum]
  generalize signed s x + signed t y = n
  split
  · rename_i hzero
    obtain rfl : n = 0 := (Int.mul_eq_zero.mp hzero).resolve_right
      (Int.natCast_ne_zero.mpr (Nat.ne_of_gt unitsPerOne_pos))
    cases s && t <;> decide +kernel
  · have hneg : n * unitsPerOne < 0 ↔ n < 0 := by
      rw [← Int.mul_lt_mul_right (b := n) (Int.natCast_pos.mpr unitsPerOne_pos), Int.zero_mul]
    rw [Int.natAbs_mul, Int.natAbs_natCast, ofInt]
    simp only [hneg]

/-- **Differences** are those of integers. -/
theorem rank?_sub (ha : a.IsWhole s x) (hb : b.IsWhole t y) :
    (a.sub b).rank? = (ofInt (signed s x - signed t y)).rank? := by
  rw [sub, ha.rank?_add hb.neg, ← neg_signed, Int.sub_eq_add_neg]

/-- **Products** are those of integers. -/
theorem rank?_mul (ha : a.IsWhole s x) (hb : b.IsWhole t y) :
    (a.mul b).rank? = (ofInt (signed s x * signed t y)).rank? := by
  obtain ⟨m, k, hm, rfl, hx⟩ := ha
  obtain ⟨p, l, hp, rfl, hy⟩ := hb
  have hproduct : x * unitsPerOne * (y * unitsPerOne) = x * y * unitsPerOne * unitsPerOne := by
    ac_rfl
  have hround := nearest_mul_right (s != t) (x * y * unitsPerOne) 1 unitsPerOne_pos
  rw [Nat.one_mul] at hround
  rw [mul, hx, hy, hproduct, hround, rank?_nearest_whole, signed_mul]

theorem ne_zero {m k : Nat} (hy : m <<< k = y * unitsPerOne) (h : y ≠ 0) : m ≠ 0 := by
  rintro rfl
  rw [Nat.zero_shiftLeft] at hy
  exact Nat.ne_of_lt (Nat.mul_pos (Nat.pos_of_ne_zero h) unitsPerOne_pos) hy

/-- **Remainders** are those of integers. -/
theorem rank?_rem (ha : a.IsWhole s x) (hb : b.IsWhole t y) (h : y ≠ 0) :
    (a.rem b).rank? = (ofInt ((signed s x).tmod (signed t y))).rank? := by
  obtain ⟨m, k, hm, rfl, hx⟩ := ha
  obtain ⟨p, l, hp, rfl, hy⟩ := hb
  rw [rem, if_neg (ne_zero hy h), hx, hy, Nat.mul_mod_mul_right, rank?_nearest_whole, signed_tmod]

/-- A quotient is that of the magnitudes. -/
theorem div_eq (ha : a.IsWhole s x) (hb : b.IsWhole t y) (h : y ≠ 0) :
    a.div b = nearest (s != t) (x * unitsPerOne) y := by
  obtain ⟨m, k, hm, rfl, hx⟩ := ha
  obtain ⟨p, l, hp, rfl, hy⟩ := hb
  rw [div, if_neg (ne_zero hy h), hx, hy, nearest_mul_right _ _ _ unitsPerOne_pos]

end IsWhole

/-! ## Quotients -/

/-- Powers of two are taken from one side to the other. -/
theorem dvd_of_mul_shiftLeft {d n j i : Nat} (h : d * (1 <<< j) = n * (1 <<< i)) (hle : d ≤ n) :
    d ∣ n := by
  rcases Nat.le_total j i with hle' | hge
  · obtain ⟨e, rfl⟩ := Nat.exists_eq_add_of_le' hle'
    rw [mul_shiftLeft] at h
    have hd := Nat.eq_of_mul_eq_mul_right (one_shiftLeft_pos j) h
    have heq := Nat.le_antisymm hle (hd ▸ Nat.le_mul_of_pos_right n (one_shiftLeft_pos e))
    exact heq ▸ Nat.dvd_refl d
  · obtain ⟨e, rfl⟩ := Nat.exists_eq_add_of_le' hge
    rw [mul_shiftLeft] at h
    exact ⟨_, (Nat.eq_of_mul_eq_mul_right (one_shiftLeft_pos i) h).symm⟩

/-- **A fraction that is left over is not rounded away.** -/
theorem dvd_of_nearest {negative : Bool} {m k : Nat} {hc : Canonical m k} (h : 0 < y)
    (hx : x ≤ 0x20000000000000) (hy : y ≤ 0x20000000000000)
    (heq : nearest negative (x * unitsPerOne) y = finite s m k hc)
    (hunits : m <<< k = x / y * unitsPerOne) : y ∣ x := by
  obtain ⟨-, hnear⟩ := nearest_near h heq
  obtain ⟨-, hscale⟩ := scaleOf_div_spec (x * unitsPerOne) h
  rw [hunits] at hnear
  generalize scaleOf (x * unitsPerOne / y) = scale at *
  refine Nat.dvd_of_mod_eq_zero (Decidable.byContradiction fun hrest => hrest ?_)
  have hdiv : x * unitsPerOne = x / y * unitsPerOne * y + x % y * unitsPerOne := by
    rw [Nat.mul_right_comm, ← Nat.add_mul, Nat.div_add_mod']
  have hrest := Nat.mul_le_mul_right unitsPerOne (Nat.pos_of_ne_zero hrest)
  have hbits := Nat.mul_le_mul_right unitsPerOne hx
  -- What is left is one or more, and no more than half of what counts at the scale. So that is two,
  -- which makes the divisor a power of two, and the dividend the greatest one.
  rcases hscale with rfl | hscale
  · have hlarge : 0x20000000000000 < unitsPerOne := by decide +kernel
    rw [Nat.shiftLeft_zero] at hnear
    omega
  · have hcounts : y <<< scale = 2 * unitsPerOne := by omega
    have hfull : x = 0x20000000000000 :=
      Nat.le_antisymm hx (Nat.le_of_mul_le_mul_right (by omega) unitsPerOne_pos)
    have htwo : 2 * unitsPerOne = 0x20000000000000 * (1 <<< 1022) := by decide +kernel
    rw [shiftLeft_eq_mul, htwo] at hcounts
    rw [hfull]
    exact Nat.mod_eq_zero_of_dvd (dvd_of_mul_shiftLeft hcounts hy)

theorem exists_finite_of_rank? {p l : Nat} {hp : Canonical p l}
    (h : a.rank? = (finite t p l hp).rank?) :
    ∃ s m k hc, a = finite s m k hc ∧ m <<< k = p <<< l := by
  cases a with
  | nan => cases h
  | infinite s =>
    have hlt := units_lt hp
    have hunits := congrArg Int.natAbs (Option.some.inj h)
    rw [natAbs_signed, natAbs_signed] at hunits
    omega
  | finite s m k hc =>
    have hunits := congrArg Int.natAbs (Option.some.inj h)
    rw [natAbs_signed, natAbs_signed] at hunits
    exact ⟨s, m, k, hc, rfl, hunits⟩

/-- **A quotient is that of integers exactly if nothing is left over.** -/
theorem IsWhole.rank?_div_iff (ha : a.IsWhole s x) (hb : b.IsWhole t y) (h : y ≠ 0)
    (hx : x ≤ 0x20000000000000) (hy : y ≤ 0x20000000000000) :
    (a.div b).rank? = (ofInt ((signed s x).tdiv (signed t y))).rank? ↔ y ∣ x := by
  rw [ha.div_eq hb h, signed_tdiv]
  constructor
  · intro hrank
    have hle : x / y ≤ 0x20000000000000 := Nat.le_trans (Nat.div_le_self x y) hx
    obtain ⟨p, l, hp, hwhole, hunits⟩ := isWhole_ofInt (n := signed (s != t) (x / y)) (by
      rwa [natAbs_signed])
    rw [natAbs_signed] at hunits
    rw [hwhole] at hrank
    obtain ⟨u, m, k, hc, hquotient, hrounded⟩ := exists_finite_of_rank? hrank
    exact dvd_of_nearest (Nat.pos_of_ne_zero h) hx hy hquotient (hrounded.trans hunits)
  · rintro ⟨q, rfl⟩
    have hy := Nat.pos_of_ne_zero h
    have hround := nearest_mul_right (s != t) (q * unitsPerOne) 1 hy
    rw [Nat.one_mul] at hround
    rw [Nat.mul_div_cancel_left q hy, Nat.mul_comm y, Nat.mul_right_comm, hround,
      rank?_nearest_whole]

end WhereClause.Binary64

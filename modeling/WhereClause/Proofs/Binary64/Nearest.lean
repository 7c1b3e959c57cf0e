import WhereClause.Binary64.Rounding

/-!
# The nearest binary64 number

Rounding an integer to a binary64 number is compared with what rounding is: of all finite numbers the
result is the nearest, and of two that are equally near the one with the even significand
(`Binary64.IsRounded`). That leaves one value. Magnitudes are whole numbers of units. Those between
two powers of two are rounded to a multiple of a scale, and a finite number is either such a multiple
or below all of them.

Headlines:
* `Binary64.roundQuotient_taken`: the nearest multiple, the even one of two.
* `Binary64.rounded_taken`: the nearest magnitude, the one of an even significand of two.
* `Binary64.ofInt_isRounded`: integers up to those of words and beyond are rounded.
* `Binary64.IsRounded.rank_unique`, `Binary64.IsRounded.mono`: what follows from it alone.
-/

namespace WhereClause.Binary64

/-- How far apart two numbers of units are. -/
def distance (x y : Int) : Nat := (x - y).natAbs

/-- The number is what the integer is rounded to: every other value of the format is farther away,
or as far and has an odd significand where the number has an even one. -/
def IsRounded (a : Binary64) (n : Int) : Prop :=
  ∃ s m k hc, a = finite s m k hc ∧ ∀ t p l, Canonical p l →
    signed t (p <<< l) ≠ signed s (m <<< k) →
      distance (n * unitsPerOne) (signed s (m <<< k)) <
          distance (n * unitsPerOne) (signed t (p <<< l)) ∨
        distance (n * unitsPerOne) (signed s (m <<< k)) =
          distance (n * unitsPerOne) (signed t (p <<< l)) ∧ m % 2 = 0 ∧ p % 2 = 1

/-! ## Multiples -/

variable {num den p l : Nat}

/-- The quotient is rounded down or up, down below half and up above it. -/
theorem roundQuotient_cases (num den : Nat) :
    roundQuotient num den = num / den ∧
        (2 * (num % den) < den ∨ 2 * (num % den) = den ∧ num / den % 2 = 0) ∨
      roundQuotient num den = num / den + 1 ∧
        (den < 2 * (num % den) ∨ 2 * (num % den) = den ∧ num / den % 2 = 1) := by
  unfold roundQuotient
  dsimp only
  split
  · exact Or.inl ⟨rfl, Or.inl ‹_›⟩
  · split
    · exact Or.inr ⟨rfl, Or.inl ‹_›⟩
    · split
      · exact Or.inl ⟨rfl, Or.inr ⟨by omega, ‹_›⟩⟩
      · exact Or.inr ⟨rfl, Or.inr ⟨by omega, by omega⟩⟩

/-- **The nearest multiple** of the divisor is taken, and of two the even one. -/
theorem roundQuotient_taken (hden : 0 < den) {q : Nat} (hq : q ≠ roundQuotient num den) :
    distance num (roundQuotient num den * den : Nat) < distance num (q * den : Nat) ∨
      distance num (roundQuotient num den * den : Nat) = distance num (q * den : Nat) ∧
        roundQuotient num den % 2 = 0 ∧ q % 2 = 1 := by
  have hdiv := Nat.div_add_mod num den
  have hmod := Nat.mod_lt num hden
  rw [Nat.mul_comm] at hdiv
  have hup : (num / den + 1) * den = num / den * den + den := Nat.succ_mul _ _
  have hdown : q = num / den → q * den = num / den * den := fun h => by rw [h]
  have hnext : q = num / den + 1 → q * den = num / den * den + den := fun h => by rw [h, hup]
  have hbelow : q < num / den → q * den + den ≤ num / den * den := fun h => by
    rw [← Nat.succ_mul]
    exact Nat.mul_le_mul_right den h
  have habove : num / den + 1 < q → num / den * den + den + den ≤ q * den := fun h => by
    rw [← hup, ← Nat.succ_mul]
    exact Nat.mul_le_mul_right den h
  unfold distance
  rcases roundQuotient_cases num den with ⟨h, hcase⟩ | ⟨h, hcase⟩
  · rw [h] at hq ⊢
    omega
  · rw [h] at hq ⊢
    rw [hup]
    omega

/-! ## Magnitudes -/

/-- The scale that leaves 53 bits of a magnitude. -/
def scaleOf (num : Nat) : Nat := num.log2 - 52

/-- The significand that is left, rounded. -/
def significandOf (num : Nat) : Nat := roundQuotient num (1 <<< scaleOf num)

/-- The magnitude, rounded. -/
def rounded (num : Nat) : Nat := significandOf num * (1 <<< scaleOf num)

theorem one_shiftLeft_pos (k : Nat) : 0 < 1 <<< k := by
  rw [Nat.one_shiftLeft]
  exact Nat.two_pow_pos k

theorem shiftLeft_eq_mul (m k : Nat) : m <<< k = m * (1 <<< k) := by
  rw [Nat.one_shiftLeft, Nat.shiftLeft_eq]

theorem mul_shiftLeft (m k l : Nat) : m * (1 <<< (k + l)) = m * (1 <<< k) * (1 <<< l) := by
  rw [← shiftLeft_eq_mul, ← shiftLeft_eq_mul, ← shiftLeft_eq_mul, Nat.shiftLeft_add]

/-- Before the scale a magnitude has at most 53 bits, and all of them unless the scale is least. -/
theorem scaleOf_spec (num : Nat) :
    num < 0x20000000000000 * (1 <<< scaleOf num) ∧
      (scaleOf num = 0 ∨ 0x10000000000000 * (1 <<< scaleOf num) ≤ num) := by
  have hlt : num < 1 <<< (num.log2 + 1) := by
    rw [Nat.one_shiftLeft]
    exact Nat.lt_log2_self
  rcases Nat.lt_or_ge 52 num.log2 with h | h
  · have hne : num ≠ 0 := by
      rintro rfl
      exact absurd h (by decide)
    have hle : 1 <<< num.log2 ≤ num := by
      rw [Nat.one_shiftLeft]
      exact Nat.log2_self_le hne
    have hscale : num.log2 = 52 + scaleOf num := (Nat.add_sub_of_le (Nat.le_of_lt h)).symm
    rw [hscale, Nat.add_right_comm, Nat.shiftLeft_add, shiftLeft_eq_mul] at hlt
    rw [hscale, Nat.shiftLeft_add, shiftLeft_eq_mul] at hle
    exact ⟨hlt, Or.inr hle⟩
  · have hscale : scaleOf num = 0 := Nat.sub_eq_zero_of_le h
    have hbits : 1 <<< (num.log2 + 1) ≤ 1 <<< 53 := by
      rw [Nat.one_shiftLeft, Nat.one_shiftLeft]
      exact Nat.pow_le_pow_right (by decide) (by omega)
    rw [hscale]
    exact ⟨Nat.lt_of_lt_of_le hlt hbits, Or.inl rfl⟩

/-- Rounding up may reach one bit more, but nothing beyond. -/
theorem significandOf_bounds (num : Nat) :
    significandOf num ≤ 0x20000000000000 ∧
      (scaleOf num = 0 ∨ 0x10000000000000 ≤ significandOf num) := by
  have hpos := one_shiftLeft_pos (scaleOf num)
  obtain ⟨hlo, hhi⟩ := @roundQuotient_near num _ hpos
  obtain ⟨hlt, hle⟩ := scaleOf_spec num
  refine ⟨Nat.le_of_not_lt fun h => ?_, hle.imp_right fun hle => Nat.le_of_not_lt fun h => ?_⟩
  · have habove := Nat.mul_le_mul_right (1 <<< scaleOf num) (Nat.succ_le_of_lt h)
    rw [Nat.succ_mul, significandOf] at habove
    omega
  · have hbelow := Nat.mul_le_mul_right (1 <<< scaleOf num) (Nat.succ_le_of_lt h)
    rw [Nat.succ_mul, significandOf] at hbelow
    omega

/-- At a lesser scale all numbers are below those that have all their bits. -/
theorem units_lt_of_scale_lt {k : Nat} (hp : p < 0x20000000000000) (hl : l < k) :
    p <<< l < 0x10000000000000 * (1 <<< k) := by
  have hstep : 1 <<< (l + 1) ≤ 1 <<< k := by
    rw [Nat.one_shiftLeft, Nat.one_shiftLeft]
    exact Nat.pow_le_pow_right (by decide) hl
  rw [Nat.shiftLeft_add, shiftLeft_eq_mul (1 <<< l)] at hstep
  have hp := Nat.mul_lt_mul_of_pos_right hp (one_shiftLeft_pos l)
  rw [shiftLeft_eq_mul]
  omega

/-- **The nearest magnitude** of the format is taken, and of two the one of an even significand. -/
theorem rounded_taken (hp : p < 0x20000000000000) (hne : p <<< l ≠ rounded num) :
    distance num (rounded num) < distance num (p <<< l : Nat) ∨
      distance num (rounded num) = distance num (p <<< l : Nat) ∧
        significandOf num % 2 = 0 ∧ p % 2 = 1 := by
  have hpos := one_shiftLeft_pos (scaleOf num)
  rcases Nat.lt_or_ge l (scaleOf num) with hl | hl
  · -- The least magnitude of all bits at the scale lies between the number and the given one.
    have hle := (scaleOf_spec num).2.resolve_left (by omega)
    have hbelow := units_lt_of_scale_lt hp hl
    refine Or.inl ?_
    by_cases hq : 0x10000000000000 = significandOf num
    · rw [rounded, ← hq]
      unfold distance
      omega
    · have htaken := roundQuotient_taken hpos hq
      unfold rounded significandOf
      unfold distance at *
      omega
  · obtain ⟨d, rfl⟩ := Nat.exists_eq_add_of_le' hl
    have heq : p <<< (d + scaleOf num) = p * (1 <<< d) * (1 <<< scaleOf num) := by
      rw [shiftLeft_eq_mul, mul_shiftLeft]
    rw [heq] at hne ⊢
    have hq : p * (1 <<< d) ≠ significandOf num := fun h => hne (by rw [h, rounded])
    refine (roundQuotient_taken hpos hq).imp_right fun ⟨hdist, heven, hodd⟩ => ⟨hdist, heven, ?_⟩
    rcases Nat.mod_two_eq_zero_or_one p with hp | hp
    · rw [Nat.mul_mod, hp, Nat.zero_mul] at hodd
      cases hodd
    · exact hp

/-- Zero is not nearer. -/
theorem distance_rounded_le (num : Nat) : distance num (rounded num) ≤ num := by
  by_cases h : 0 = rounded num
  · rw [← h]
    exact Nat.le_refl _
  · have htaken := rounded_taken (p := 0) (l := 0) (by decide) h
    rw [Nat.zero_shiftLeft] at htaken
    unfold distance at *
    omega

/-! ## Numbers -/

variable {n : Int} {a b : Binary64} {x y : Int}

theorem nearest_one (negative : Bool) (num : Nat) :
    nearest negative num 1 =
      if h : Canonical (significandOf num) (scaleOf num) then
        finite negative (significandOf num) (scaleOf num) h
      else if h : Canonical (significandOf num / 2) (scaleOf num + 1) then
        finite negative (significandOf num / 2) (scaleOf num + 1) h
      else infinite negative := by
  unfold nearest
  rw [Nat.div_one]
  rfl

/-- Away from the largest numbers the rounded magnitude is one of the format. -/
theorem nearest_eq_finite (negative : Bool) (h : scaleOf num < maxScale) :
    ∃ m k hc, nearest negative num 1 = finite negative m k hc ∧ m <<< k = rounded num ∧
      (significandOf num % 2 = 0 → m % 2 = 0) := by
  obtain ⟨hle, hge⟩ := significandOf_bounds num
  rw [nearest_one]
  rcases Nat.lt_or_eq_of_le hle with hlt | heq
  · have hc : Canonical (significandOf num) (scaleOf num) := ⟨hlt, Nat.le_of_lt h, hge⟩
    exact ⟨_, _, hc, dif_pos hc, shiftLeft_eq_mul _ _, id⟩
  · have hc : Canonical 0x10000000000000 (scaleOf num + 1) := ⟨by decide, h, Or.inr (by decide)⟩
    refine ⟨_, _, hc, ?_, ?_, fun _ => rfl⟩
    · rw [dif_neg fun hc => Nat.lt_irrefl _ (heq ▸ hc.1)]
      simp only [heq]
      exact dif_pos hc
    · rw [rounded, heq, Nat.add_comm, Nat.shiftLeft_add, shiftLeft_eq_mul]
      rfl

/-- Two numbers of one sign and magnitude have one significand. -/
theorem significand_unique {m k : Nat} (hm : Canonical m k) (hp : Canonical p l)
    (h : m <<< k = p <<< l) : m = p := by
  rcases Nat.lt_trichotomy k l with hlt | rfl | hlt
  · have hbelow := units_lt_of_scale_lt hm.1 hlt
    have habove := Nat.mul_le_mul_right (1 <<< l) (hp.2.2.resolve_left (by omega))
    rw [← shiftLeft_eq_mul p] at habove
    omega
  · rw [shiftLeft_eq_mul m, shiftLeft_eq_mul p] at h
    exact Nat.eq_of_mul_eq_mul_right (one_shiftLeft_pos k) h
  · have hbelow := units_lt_of_scale_lt hp.1 hlt
    have habove := Nat.mul_le_mul_right (1 <<< k) (hm.2.2.resolve_left (by omega))
    rw [← shiftLeft_eq_mul m] at habove
    omega

/-- Every number of 53 bits at a scale is one of the format. -/
theorem exists_canonical {m e : Nat} (hm : m ≤ 0x20000000000000) (he : e < maxScale) :
    ∃ p l, Canonical p l ∧ l ≤ e + 1 ∧ p <<< l = m <<< e := by
  induction e with
  | zero =>
    rcases Nat.lt_or_eq_of_le hm with hlt | rfl
    · exact ⟨m, 0, ⟨hlt, Nat.zero_le _, Or.inl rfl⟩, Nat.zero_le _, rfl⟩
    · exact ⟨0x10000000000000, 1, by decide, Nat.le_refl _, rfl⟩
  | succ e ih =>
    obtain ⟨p, l, hp, hl, heq⟩ := ih (Nat.lt_of_succ_lt he)
    rw [Nat.shiftLeft_add, ← heq]
    by_cases hbits : 0x10000000000000 ≤ p
    · exact ⟨p, l + 1, ⟨hp.1, by omega, Or.inr hbits⟩, by omega, Nat.shiftLeft_add _ _ _⟩
    · obtain rfl := hp.2.2.resolve_right hbits
      refine ⟨p <<< 1, 0, ⟨?_, Nat.zero_le _, Or.inl rfl⟩, Nat.zero_le _, rfl⟩
      rw [Nat.shiftLeft_eq]
      omega

/-! ## Integers -/

theorem mul_unitsPerOne (n : Int) :
    n * unitsPerOne = signed (n < 0) (n.natAbs * unitsPerOne) := by
  unfold signed
  by_cases h : n < 0
  · rw [if_pos (decide_eq_true h), Int.natCast_mul, Int.ofNat_natAbs_of_nonpos (Int.le_of_lt h),
      Int.neg_mul, Int.neg_neg]
  · rw [if_neg (by simpa using h), Int.natCast_mul, Int.natAbs_of_nonneg (Int.not_lt.mp h)]

theorem distance_signed (s : Bool) (x y : Nat) :
    distance (signed s x) (signed s y) = distance x y := by
  unfold distance
  cases s
  · rfl
  · rw [signed_true, signed_true]
    omega

theorem lt_distance_signed {s t : Bool} {y : Nat} (h : signed t y ≠ signed s y) (x : Nat) :
    x < distance (signed s x) (signed t y) := by
  unfold distance
  cases s <;> cases t <;> simp only [signed_false, signed_true] at * <;> omega

/-- The magnitudes of integers up to `2 ^ 64` are far from the largest. -/
theorem magnitude_lt (h : n.natAbs ≤ 0x10000000000000000) :
    n.natAbs * unitsPerOne < 1 <<< 1139 := by
  refine Nat.lt_of_le_of_lt (Nat.mul_le_mul_right _ h) ?_
  decide +kernel

theorem units_lt_beyond (h : n.natAbs ≤ 0x10000000000000000) :
    (n * (unitsPerOne : Int)).natAbs < beyond := by
  rw [mul_unitsPerOne, natAbs_signed]
  refine Nat.lt_trans (magnitude_lt h) ?_
  decide +kernel

theorem compare_infinite (h : x.natAbs < beyond) (s : Bool) :
    compare x (signed s beyond) = if s then .gt else .lt := by
  cases s
  · exact Std.compare_eq_lt.mpr (by rw [signed_false]; omega)
  · exact Std.compare_eq_gt.mpr (by rw [signed_true]; omega)

theorem scaleOf_lt_maxScale (h : num < 1 <<< 1139) : scaleOf num < maxScale := by
  rw [Nat.one_shiftLeft] at h
  unfold scaleOf maxScale
  by_cases hnum : num = 0
  · subst hnum
    decide
  · have := (Nat.log2_lt hnum).mpr h
    omega

/-- **Integers are rounded**, those of words among them. -/
theorem ofInt_isRounded (h : n.natAbs ≤ 0x10000000000000000) : (ofInt n).IsRounded n := by
  obtain ⟨m, k, hc, heq, hr, hm⟩ :=
    nearest_eq_finite (n < 0) (scaleOf_lt_maxScale (magnitude_lt h))
  refine ⟨_, m, k, hc, heq, fun t p l hp hne => ?_⟩
  rw [mul_unitsPerOne, hr, distance_signed]
  rw [hr] at hne
  generalize n.natAbs * unitsPerOne = num at *
  by_cases ht : signed t (p <<< l) = signed (n < 0) (p <<< l)
  · rw [ht] at hne ⊢
    rw [distance_signed]
    have htaken := rounded_taken hp.1 fun h => hne (by rw [h])
    exact htaken.imp_right fun ⟨hdist, heven, hodd⟩ => ⟨hdist, hm heven, hodd⟩
  · -- Zero lies between the integer and the numbers of the other sign.
    exact Or.inl (Nat.lt_of_le_of_lt (distance_rounded_le num) (lt_distance_signed ht num))

/-! ## What is rounded -/

namespace IsRounded

variable {n' : Int}

/-- **What an integer is rounded to has one value.** -/
theorem rank_unique (ha : a.IsRounded n) (hb : b.IsRounded n) : a.rank? = b.rank? := by
  obtain ⟨s, m, k, hm, rfl, ha⟩ := ha
  obtain ⟨t, p, l, hp, rfl, hb⟩ := hb
  refine congrArg some (Decidable.byContradiction fun hne => ?_)
  have hab := ha t p l hp (Ne.symm hne)
  have hba := hb s m k hm hne
  omega

/-- A number of the same value is what the integer is rounded to, too. -/
theorem of_rank (ha : a.IsRounded n) (h : b.rank? = a.rank?) : b.IsRounded n := by
  obtain ⟨s, m, k, hm, rfl, ha⟩ := ha
  cases b with
  | nan => cases h
  | infinite t =>
    have hlt := units_lt hm
    have heq := congrArg Int.natAbs (Option.some.inj h)
    rw [natAbs_signed, natAbs_signed] at heq
    omega
  | finite t p l hp =>
    have heq := Option.some.inj h
    have hunits : p <<< l = m <<< k := by rw [← natAbs_signed t (p <<< l), heq, natAbs_signed]
    obtain rfl := significand_unique hp hm hunits
    refine ⟨t, p, l, hp, rfl, ?_⟩
    rw [heq]
    exact ha

/-- **Rounding keeps the order.** -/
theorem mono (ha : a.IsRounded n) (hb : b.IsRounded n') (h : n ≤ n') (hx : a.rank? = some x)
    (hy : b.rank? = some y) : x ≤ y := by
  obtain ⟨s, m, k, hm, rfl, ha⟩ := ha
  obtain ⟨t, p, l, hp, rfl, hb⟩ := hb
  cases hx
  cases hy
  have hle : n * unitsPerOne ≤ n' * unitsPerOne :=
    Int.mul_le_mul_of_nonneg_right h (Int.natCast_nonneg _)
  refine Int.not_lt.mp fun hlt => ?_
  have hab := ha t p l hp (Int.ne_of_lt hlt)
  have hba := hb s m k hm (Int.ne_of_gt hlt)
  unfold distance at *
  omega

/-- **What is above or below the number an integer is rounded to is so of the integer.** -/
theorem compare_eq (ha : a.IsRounded n) (hn : n.natAbs ≤ 0x10000000000000000)
    (hx : a.rank? = some x) (hy : b.rank? = some y) (hne : x ≠ y) :
    compare (n * unitsPerOne) y = compare x y := by
  obtain ⟨s, m, k, hm, rfl, ha⟩ := ha
  cases hx
  cases b with
  | nan => cases hy
  | infinite t =>
    cases hy
    rw [compare_infinite (units_lt_beyond hn), compare_infinite]
    rw [natAbs_signed]
    exact units_lt hm
  | finite t p l hp =>
    cases hy
    have hnear := ha t p l hp hne.symm
    unfold distance at hnear
    rcases Int.lt_or_gt_of_ne hne with hlt | hgt
    · rw [Std.compare_eq_lt.mpr hlt, Std.compare_eq_lt.mpr (by omega)]
    · rw [Std.compare_eq_gt.mpr hgt, Std.compare_eq_gt.mpr (by omega)]

/-- **Integers of 53 bits are exact.** -/
theorem exact (ha : a.IsRounded n) (hn : n.natAbs ≤ 0x20000000000000) :
    a.rank? = some (n * unitsPerOne) := by
  obtain ⟨s, m, k, hm, rfl, ha⟩ := ha
  refine congrArg some (Decidable.byContradiction fun hne => ?_)
  obtain ⟨p, l, hp, -, heq⟩ := exists_canonical hn (e := 1074) (by decide)
  have hvalue : signed (n < 0) (p <<< l) = n * unitsPerOne := by
    rw [heq, shiftLeft_eq_mul, mul_unitsPerOne, unitsPerOne]
  have hnear := ha _ p l hp (hvalue ▸ Ne.symm hne)
  rw [hvalue] at hnear
  unfold distance at hnear
  omega

end IsRounded

end WhereClause.Binary64

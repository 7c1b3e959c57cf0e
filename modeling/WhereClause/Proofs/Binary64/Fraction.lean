import WhereClause.Proofs.Binary64.Nearest

/-!
# Rounding of fractions

The nearest binary64 number depends on the value of a fraction only, and both signs are treated
alike. What it is rounded to is near, and what is near to a number is rounded to it.

Headlines:
* `Binary64.nearest_mul_right`: a fraction need not be in lowest terms.
* `Binary64.nearest_near`: how far a fraction is from what it is rounded to.
* `Binary64.nearest_of_close`: what is close to a number is rounded to it.
-/

namespace WhereClause.Binary64

variable {m k num den c : Nat}

/-! ## Fractions and signs -/

theorem unitsPerOne_pos : 0 < unitsPerOne := one_shiftLeft_pos 1074

/-- The rounded quotient is one of the two integers beside the quotient. -/
theorem roundQuotient_eq_or (num den : Nat) :
    roundQuotient num den = num / den ∨ roundQuotient num den = num / den + 1 :=
  (roundQuotient_cases num den).imp And.left And.left

theorem roundQuotient_mul_right (num den : Nat) (hc : 0 < c) :
    roundQuotient (num * c) (den * c) = roundQuotient num den := by
  have hlt : 2 * (num % den * c) < den * c ↔ 2 * (num % den) < den := by
    rw [← Nat.mul_assoc]
    exact Nat.mul_lt_mul_right hc
  have hgt : den * c < 2 * (num % den * c) ↔ den < 2 * (num % den) := by
    rw [← Nat.mul_assoc]
    exact Nat.mul_lt_mul_right hc
  simp only [roundQuotient, Nat.mul_div_mul_right _ _ hc, Nat.mul_mod_mul_right, hlt, hgt]

/-- Rounding depends on the fraction only. -/
theorem nearest_mul_right (negative : Bool) (num den : Nat) (hc : 0 < c) :
    nearest negative (num * c) (den * c) = nearest negative num den := by
  have hshift : ∀ scale, (den * c) <<< scale = den <<< scale * c := fun scale => by
    rw [Nat.shiftLeft_eq, Nat.shiftLeft_eq, Nat.mul_right_comm]
  simp only [nearest, Nat.mul_div_mul_right _ _ hc, hshift, roundQuotient_mul_right _ _ hc]

/-- Rounding treats both signs alike. -/
theorem neg_nearest (negative : Bool) (num den : Nat) :
    (nearest negative num den).neg = nearest (!negative) num den := by
  unfold nearest
  dsimp only
  split
  · rfl
  · split <;> rfl

/-! ## How near -/

/-- Before the scale a fraction has at most 53 bits, and all of them unless the scale is least. -/
theorem scaleOf_div_spec (num : Nat) (hden : 0 < den) :
    num < 0x20000000000000 * (den <<< scaleOf (num / den)) ∧
      (scaleOf (num / den) = 0 ∨ 0x10000000000000 * (den <<< scaleOf (num / den)) ≤ num) := by
  obtain ⟨hlt, hle⟩ := scaleOf_spec (num / den)
  generalize scaleOf (num / den) = scale at *
  rw [Nat.div_lt_iff_lt_mul hden, Nat.mul_assoc, Nat.mul_comm _ den, ← shiftLeft_eq_mul] at hlt
  rw [Nat.le_div_iff_mul_le hden, Nat.mul_assoc, Nat.mul_comm _ den, ← shiftLeft_eq_mul] at hle
  exact ⟨hlt, hle⟩

theorem shiftLeft_mul (m k den : Nat) : m <<< k * den = m * (den <<< k) := by
  rw [shiftLeft_eq_mul m, shiftLeft_eq_mul den, Nat.mul_assoc, Nat.mul_comm den]

theorem shiftLeft_pos (hden : 0 < den) (k : Nat) : 0 < den <<< k := by
  rw [shiftLeft_eq_mul]
  exact Nat.mul_pos hden (one_shiftLeft_pos k)

/-- The significand is the rounded quotient, or half of it if that has one bit too many. -/
theorem nearest_cases {negative s : Bool} {h : Canonical m k}
    (heq : nearest negative num den = finite s m k h) :
    m = roundQuotient num (den <<< scaleOf (num / den)) ∧ k = scaleOf (num / den) ∨
      ¬Canonical (roundQuotient num (den <<< scaleOf (num / den))) (scaleOf (num / den)) ∧
        m = roundQuotient num (den <<< scaleOf (num / den)) / 2 ∧ k = scaleOf (num / den) + 1 := by
  unfold nearest at heq
  dsimp only at heq
  split at heq
  · cases heq
    exact Or.inl ⟨rfl, rfl⟩
  · split at heq
    · rename_i hnot _
      cases heq
      exact Or.inr ⟨hnot, rfl, rfl⟩
    · cases heq

/-- What is rounded to a finite number is within half of what counts at its scale. -/
theorem nearest_near {negative s : Bool} {h : Canonical m k} (hden : 0 < den)
    (heq : nearest negative num den = finite s m k h) :
    2 * (m <<< k * den) ≤ 2 * num + den <<< scaleOf (num / den) ∧
      2 * num ≤ 2 * (m <<< k * den) + den <<< scaleOf (num / den) := by
  obtain ⟨hlt, -⟩ := scaleOf_div_spec num hden
  have hcases := nearest_cases heq
  generalize scaleOf (num / den) = scale at *
  have hnear := @roundQuotient_near num _ (shiftLeft_pos hden scale)
  rw [shiftLeft_mul]
  rcases hcases with ⟨rfl, rfl⟩ | ⟨hnot, rfl, rfl⟩
  · exact hnear
  · have hfull := h.2.2.resolve_left (Nat.succ_ne_zero scale)
    have hbound : roundQuotient num (den <<< scale) ≤ 0x20000000000000 := by
      refine Nat.le_of_not_lt fun h => ?_
      have habove := Nat.mul_le_mul_right (den <<< scale) (Nat.succ_le_of_lt h)
      rw [Nat.succ_mul] at habove
      omega
    have hsig : roundQuotient num (den <<< scale) = 0x20000000000000 := by omega
    rw [hsig] at hnear ⊢
    rw [Nat.shiftLeft_succ]
    omega

theorem roundQuotient_eq_of_near (hlo : 2 * (m * den) < 2 * num + den)
    (hhi : 2 * num < 2 * (m * den) + den) : roundQuotient num den = m := by
  have hden : 0 < den := by omega
  obtain ⟨hle, hge⟩ := @roundQuotient_near num den hden
  rcases Nat.lt_trichotomy (roundQuotient num den) m with h | h | h
  · have hmul := Nat.mul_le_mul_right den (Nat.succ_le_of_lt h)
    rw [Nat.succ_mul] at hmul
    omega
  · exact h
  · have hmul := Nat.mul_le_mul_right den (Nat.succ_le_of_lt h)
    rw [Nat.succ_mul] at hmul
    omega

/-- The scale leaves 53 bits of the quotient. -/
theorem scaleOf_div_eq (hden : 0 < den) (hlo : k = 0 ∨ 0x10000000000000 * (den <<< k) ≤ num)
    (hhi : num < 0x20000000000000 * (den <<< k)) : scaleOf (num / den) = k := by
  unfold scaleOf
  rw [Nat.shiftLeft_eq, Nat.mul_comm den, ← Nat.mul_assoc] at hlo hhi
  have hlt := (Nat.div_lt_iff_lt_mul hden).mpr hhi
  have hpow : 0x20000000000000 * 2 ^ k = 2 ^ (52 + k + 1) := by
    rw [Nat.pow_succ, Nat.pow_add]
    omega
  rcases Nat.eq_zero_or_pos (num / den) with hzero | hpos
  · rcases hlo with rfl | hlo
    · rw [hzero]
      rfl
    · have hle := (Nat.le_div_iff_mul_le hden).mpr hlo
      have := Nat.two_pow_pos k
      omega
  · rw [hpow, ← Nat.log2_lt (by omega)] at hlt
    rcases hlo with rfl | hlo
    · omega
    · have hle := (Nat.le_div_iff_mul_le hden).mpr hlo
      rw [show 0x10000000000000 * 2 ^ k = 2 ^ (52 + k) from (Nat.pow_add 2 52 k).symm,
        ← Nat.le_log2 (by omega)] at hle
      omega

theorem nearest_of_scale (h : Canonical m k) (hscale : scaleOf (num / den) = k)
    (hround : roundQuotient num (den <<< k) = m) :
    nearest false num den = finite false m k h := by
  subst hscale hround
  exact dif_pos h

/-- A significand that is rounded up to one bit more is the least one at the next scale. -/
theorem nearest_of_carry (h : Canonical 0x10000000000000 (k + 1))
    (hscale : scaleOf (num / den) = k)
    (hround : roundQuotient num (den <<< k) = 0x20000000000000) :
    nearest false num den = finite false 0x10000000000000 (k + 1) h := by
  have hnot : ¬Canonical 0x20000000000000 k := fun hc => Nat.lt_irrefl _ hc.1
  unfold scaleOf at hscale
  simp only [nearest, hscale, hround]
  rw [dif_neg hnot]
  exact dif_pos h

/-- **What is close to a number is rounded to it**: closer than one part in `2 · 10 ^ 16`, which is
less than half of the way to the next number, or to the one before it. -/
theorem nearest_of_close (h : Canonical m k) (hden : 0 < den)
    (hlo : 20000000000000000 * (m <<< k * den) ≤ 20000000000000000 * num + m <<< k * den)
    (hhi : 20000000000000000 * num ≤ 20000000000000000 * (m <<< k * den) + m <<< k * den) :
    nearest false num den = finite false m k h := by
  have hle := Nat.mul_le_mul_right (den <<< k) (Nat.le_of_lt_succ h.1)
  have hpos := shiftLeft_pos hden k
  rw [shiftLeft_mul] at hlo hhi
  by_cases hbelow : 0 < k ∧ m = 0x10000000000000 ∧ num < m * (den <<< k)
  · -- Below the least full significand the numbers are twice as dense.
    obtain ⟨hk, rfl, hlt⟩ := hbelow
    obtain ⟨l, rfl⟩ := Nat.exists_eq_succ_of_ne_zero (Nat.ne_of_gt hk)
    rw [Nat.shiftLeft_succ] at hlo hlt hpos
    have hround : roundQuotient num (den <<< l) = 0x20000000000000 :=
      roundQuotient_eq_of_near (by omega) (by omega)
    exact nearest_of_carry h (scaleOf_div_eq hden (Or.inr (by omega)) (by omega)) hround
  · have hround : roundQuotient num (den <<< k) = m :=
      roundQuotient_eq_of_near (by omega) (by omega)
    refine nearest_of_scale h (scaleOf_div_eq hden ?_ (by omega)) hround
    rcases Nat.eq_zero_or_pos k with hk | hk
    · exact Or.inl hk
    · refine Or.inr ?_
      have hfull := h.2.2.resolve_left (Nat.ne_of_gt hk)
      rcases Nat.eq_or_lt_of_le hfull with heq | hlt
      · rw [heq]
        exact Nat.le_of_not_lt fun hlt => hbelow ⟨hk, heq.symm, hlt⟩
      · have hmul := Nat.mul_le_mul_right (den <<< k) (Nat.succ_le_of_lt hlt)
        rw [Nat.succ_mul] at hmul
        omega

end WhereClause.Binary64

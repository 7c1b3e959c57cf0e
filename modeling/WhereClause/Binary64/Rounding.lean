import WhereClause.Binary64.Basic

/-!
# Rounding to binary64

The number nearest to a fraction, where a tie goes to the even significand and a magnitude beyond
the largest number becomes infinite. Integers and decimals enter the format this way, and so does
every exact result of arithmetic.

Headlines:
* `roundQuotient_near`: the rounded quotient is within half of the quotient.
-/

namespace WhereClause.Binary64

/-- The integer nearest to `num / den`; a tie goes to the even one. -/
def roundQuotient (num den : Nat) : Nat :=
  let quotient := num / den
  let twice := 2 * (num % den)
  if twice < den then quotient
  else if den < twice then quotient + 1
  else if quotient % 2 = 0 then quotient
  else quotient + 1

/-- The number nearest to `num / den` units, with the given sign. The scale is the least that leaves
a significand of 53 bits; a significand that is rounded up to one bit more is halved. -/
def nearest (negative : Bool) (num den : Nat) : Binary64 :=
  let scale := (num / den).log2 - 52
  let significand := roundQuotient num (den <<< scale)
  if h : Canonical significand scale then finite negative significand scale h
  else if h : Canonical (significand / 2) (scale + 1) then
    finite negative (significand / 2) (scale + 1) h
  else infinite negative

/-- The number nearest to an integer. -/
def ofInt (n : Int) : Binary64 := nearest (n < 0) (n.natAbs * unitsPerOne) 1

/-- The number nearest to `coefficient · 10 ^ exponent`. -/
def ofDecimal (coefficient : Nat) (exponent : Int) : Binary64 :=
  if 0 ≤ exponent then nearest false (coefficient * Nat.pow 10 exponent.toNat * unitsPerOne) 1
  else nearest false (coefficient * unitsPerOne) (Nat.pow 10 (-exponent).toNat)

theorem roundQuotient_near {num den : Nat} (hden : 0 < den) :
    2 * (roundQuotient num den * den) ≤ 2 * num + den ∧
      2 * num ≤ 2 * (roundQuotient num den * den) + den := by
  have hdiv := Nat.div_add_mod num den
  have hmod := Nat.mod_lt num hden
  have hup : (num / den + 1) * den = den * (num / den) + den := by
    rw [Nat.add_mul, Nat.one_mul, Nat.mul_comm]
  have hlo : num / den * den = den * (num / den) := Nat.mul_comm _ _
  unfold roundQuotient
  dsimp only
  split
  · rw [hlo]
    omega
  · split
    · rw [hup]
      omega
    · split
      · rw [hlo]
        omega
      · rw [hup]
        omega

end WhereClause.Binary64

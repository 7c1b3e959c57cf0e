import WhereClause.Binary64.Rounding

/-!
# Interchange bits

The bit patterns of the binary64 format, and the values of the binary32 patterns in it. A pattern
is a sign, an exponent field and a fraction: of 11 and 52 bits, or of 8 and 23. The exponent field
of all ones is for infinities and NaNs; the field zero is for the numbers below the least full
significand.

Headlines:
* `ofBits_toBits`: a number is read back from its bits.
-/

namespace WhereClause.Binary64

/-- The number of an exponent field and a fraction. The field zero has no leading one and shares
its scale with the field one. Fields that no finite number has are infinities and NaNs. -/
def ofFields (negative : Bool) (exponent fraction : Nat) : Binary64 :=
  let significand := if exponent = 0 then fraction else 0x10000000000000 + fraction
  if h : Canonical significand (exponent - 1) then finite negative significand (exponent - 1) h
  else if fraction = 0 then infinite negative
  else nan

/-- The number of a 64-bit pattern. -/
def ofBits (bits : UInt64) : Binary64 :=
  let n := bits.toNat
  ofFields (0x8000000000000000 ≤ n) (n / 0x10000000000000 % 0x800) (n % 0x10000000000000)

/-- The pattern without its sign. A NaN is the quiet one with no payload. -/
def magnitudeBits : Binary64 → Nat
  | nan => 0x7FF8000000000000
  | infinite _ => 0x7FF0000000000000
  | finite _ m k _ => if m < 0x10000000000000 then m else k * 0x10000000000000 + m

/-- Whether the sign bit is set. -/
def isNegative : Binary64 → Bool
  | nan => false
  | infinite s => s
  | finite s _ _ _ => s

/-- The 64-bit pattern of a number. -/
def toBits (a : Binary64) : UInt64 :=
  UInt64.ofNat ((if a.isNegative then 0x8000000000000000 else 0) + a.magnitudeBits)

/-- The value of a 32-bit pattern, which is a number of this format too. -/
def ofBits32 (bits : UInt32) : Binary64 :=
  let n := bits.toNat
  let negative := decide (0x80000000 ≤ n)
  let exponent := n / 0x800000 % 0x100
  let fraction := n % 0x800000
  if exponent = 255 then
    if fraction = 0 then infinite negative else nan
  else if exponent = 0 then nearest negative (fraction <<< 925) 1
  else nearest negative ((0x800000 + fraction) <<< (exponent + 924)) 1

theorem magnitudeBits_lt (a : Binary64) : a.magnitudeBits < 0x8000000000000000 := by
  cases a with
  | nan => decide
  | infinite s => simp only [magnitudeBits]; decide
  | finite s m k h =>
    have h1 := h.1
    have h2 : k ≤ 2045 := h.2.1
    simp only [magnitudeBits]
    split <;> omega

/-- **Bits round-trip**: a number is read back from its bits. -/
theorem ofBits_toBits (a : Binary64) : ofBits a.toBits = a := by
  have hlt := magnitudeBits_lt a
  have hsize : (if a.isNegative then 0x8000000000000000 else 0) + a.magnitudeBits < UInt64.size := by
    simp only [UInt64.size]
    split <;> omega
  have hn : a.toBits.toNat = (if a.isNegative then 0x8000000000000000 else 0) + a.magnitudeBits :=
    UInt64.toNat_ofNat_of_lt' hsize
  have hneg : decide (0x8000000000000000 ≤ a.toBits.toNat) = a.isNegative := by
    rw [hn]
    cases a.isNegative
    · simp only [Bool.false_eq_true, if_false, decide_eq_false_iff_not]
      omega
    · simp
  have hexp : a.toBits.toNat / 0x10000000000000 % 0x800 = a.magnitudeBits / 0x10000000000000 := by
    rw [hn]
    split <;> omega
  have hfrac : a.toBits.toNat % 0x10000000000000 = a.magnitudeBits % 0x10000000000000 := by
    rw [hn]
    split <;> omega
  unfold ofBits
  simp only [hneg, hexp, hfrac]
  cases a with
  | nan => decide +kernel
  | infinite s => cases s <;> decide +kernel
  | finite s m k h =>
    have h1 := h.1
    have h2 : k ≤ 2045 := h.2.1
    by_cases hm : m < 0x10000000000000
    · have hk : k = 0 := by
        rcases h.2.2 with hk | hk
        · exact hk
        · omega
      subst hk
      have e1 : (finite s m 0 h).magnitudeBits / 0x10000000000000 = 0 := by
        simp only [magnitudeBits, if_pos hm]
        omega
      have e2 : (finite s m 0 h).magnitudeBits % 0x10000000000000 = m := by
        simp only [magnitudeBits, if_pos hm]
        omega
      rw [e1, e2]
      simp only [ofFields, if_pos, isNegative]
      exact dif_pos h
    · have e1 : (finite s m k h).magnitudeBits / 0x10000000000000 = k + 1 := by
        simp only [magnitudeBits, if_neg hm]
        omega
      have e2 : (finite s m k h).magnitudeBits % 0x10000000000000 = m - 0x10000000000000 := by
        simp only [magnitudeBits, if_neg hm]
        omega
      have e3 : 0x10000000000000 + (m - 0x10000000000000) = m := by omega
      rw [e1, e2]
      simp only [ofFields, if_neg (Nat.succ_ne_zero k), Nat.add_sub_cancel, e3, isNegative]
      exact dif_pos h

end WhereClause.Binary64

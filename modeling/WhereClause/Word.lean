/-!
# 64-bit words

Ordinals, page bounds and integer constants are 64-bit words. Their arithmetic is carried out on
the integers and brought back to a word only when the result fits, so an overflow is always an
absent word and never a wrapped one.

Headlines:
* `signed?_eq_some_iff`: a word comes back exactly when it has the given value.
* `exists_toInt_iff`: which values signed words have.
* `add?_eq_some_iff`: checked addition is addition of the values.
-/

namespace WhereClause.Word

/-- The number is the value of a signed word. -/
def Fits (n : Int) : Prop := -9223372036854775808 ≤ n ∧ n ≤ 9223372036854775807

/-- The signed word of value `n`, if `n` fits. -/
def signed? (n : Int) : Option Int64 :=
  if -9223372036854775808 ≤ n ∧ n ≤ 9223372036854775807 then some (Int64.ofInt n) else none

/-- The unsigned word of value `n`, if `n` fits. -/
def unsigned? (n : Int) : Option UInt64 :=
  if 0 ≤ n ∧ n ≤ 18446744073709551615 then some (UInt64.ofNat n.toNat) else none

/-- The number `n`, if it fits into the signed word of double width in which results are computed. -/
def wide? (n : Int) : Option Int :=
  if -170141183460469231731687303715884105728 ≤ n ∧ n ≤ 170141183460469231731687303715884105727
  then some n else none

/-- The sum of two signed words, if it fits. -/
def add? (a b : Int64) : Option Int64 := signed? (a.toInt + b.toInt)

theorem toInt_bounds (a : Int64) :
    -9223372036854775808 ≤ a.toInt ∧ a.toInt ≤ 9223372036854775807 := by
  have hlo := a.le_toInt
  have hhi := a.toInt_lt
  omega

theorem toInt_ofInt {n : Int} (hlo : -9223372036854775808 ≤ n) (hhi : n ≤ 9223372036854775807) :
    (Int64.ofInt n).toInt = n :=
  Int64.toInt_ofInt_of_le (by omega) (by omega)

theorem exists_toInt_iff {n : Int} : (∃ w : Int64, w.toInt = n) ↔ Fits n := by
  constructor
  · rintro ⟨w, rfl⟩
    exact toInt_bounds w
  · intro h
    exact ⟨.ofInt n, toInt_ofInt h.1 h.2⟩

theorem signed?_eq_some_iff {n : Int} {w : Int64} : signed? n = some w ↔ w.toInt = n := by
  unfold signed?
  constructor
  · intro h
    split at h
    · rename_i hn
      cases h
      exact toInt_ofInt hn.1 hn.2
    · cases h
  · rintro rfl
    rw [if_pos (toInt_bounds w), Int64.ofInt_toInt]

theorem signed?_eq_none_iff {n : Int} :
    signed? n = none ↔ n < -9223372036854775808 ∨ 9223372036854775807 < n := by
  unfold signed?
  split
  · simp; omega
  · simp; omega

@[simp] theorem signed?_toInt (w : Int64) : signed? w.toInt = some w :=
  signed?_eq_some_iff.mpr rfl

theorem unsigned?_eq_some_iff {n : Int} {w : UInt64} : unsigned? n = some w ↔ (w.toNat : Int) = n := by
  unfold unsigned?
  constructor
  · intro h
    split at h
    · rename_i hn
      cases h
      have hlt : n.toNat < UInt64.size := by simp only [UInt64.size]; omega
      rw [UInt64.toNat_ofNat_of_lt' hlt]
      omega
    · cases h
  · rintro rfl
    have hlt := w.toNat_lt
    have hfit : 0 ≤ (w.toNat : Int) ∧ (w.toNat : Int) ≤ 18446744073709551615 := by omega
    rw [if_pos hfit, Int.toNat_natCast, UInt64.ofNat_toNat]

theorem unsigned?_eq_none_iff {n : Int} :
    unsigned? n = none ↔ n < 0 ∨ 18446744073709551615 < n := by
  unfold unsigned?
  split
  · simp; omega
  · simp; omega

theorem add?_eq_some_iff {a b w : Int64} : add? a b = some w ↔ w.toInt = a.toInt + b.toInt :=
  signed?_eq_some_iff

end WhereClause.Word

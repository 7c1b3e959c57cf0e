/-!
# Binary64 numbers

The values of the 64-bit binary interchange format, exactly. Every finite value is a whole multiple
of the least positive one, `2⁻¹⁰⁷⁴`, so it is held as a sign, a significand `m` and a scale `k`
that stand for `±m · 2ᵏ` such units. All NaNs are one value; the two zeros differ in their sign.

Headlines:
* `compare?_eq_none_iff`: only a NaN has no order.
* `compare?_swap`: exchanging the operands mirrors the order.
-/

namespace WhereClause

/-- The scale of the largest numbers. -/
def Binary64.maxScale : Nat := 2045

/-- A significand of at most 53 bits, which has all of them unless the scale is least. -/
def Binary64.Canonical (significand scale : Nat) : Prop :=
  significand < 0x20000000000000 ∧ scale ≤ maxScale ∧
    (scale = 0 ∨ 0x10000000000000 ≤ significand)

instance (m k : Nat) : Decidable (Binary64.Canonical m k) :=
  inferInstanceAs (Decidable (m < 0x20000000000000 ∧ k ≤ Binary64.maxScale ∧
    (k = 0 ∨ 0x10000000000000 ≤ m)))

/-- A number of the binary64 format. -/
inductive Binary64 where
  | nan
  | infinite (negative : Bool)
  | finite (negative : Bool) (significand scale : Nat)
      (canonical : Binary64.Canonical significand scale)
  deriving Repr, DecidableEq

namespace Binary64

/-- How many units of `2⁻¹⁰⁷⁴` make one. -/
def unitsPerOne : Nat := 1 <<< 1074

/-- A number of units beyond every finite number: 53 bits at the greatest scale do not reach it. -/
def beyond : Nat := 0x20000000000000 <<< maxScale

/-- A magnitude with a sign. -/
def signed (negative : Bool) (n : Nat) : Int := if negative then -(n : Int) else n

/-- Zero of either sign. -/
def zero (negative : Bool) : Binary64 := finite negative 0 0 (by decide)

/-- The place of a number in the order: its units, with the infinities beyond all finite numbers.
A NaN has no place. -/
def rank? : Binary64 → Option Int
  | nan => none
  | infinite s => some (signed s beyond)
  | finite s m k _ => some (signed s (m <<< k))

/-- The order of two numbers, if neither is a NaN. The zeros are equal. -/
def compare? (a b : Binary64) : Option Ordering :=
  match a.rank?, b.rank? with
  | some x, some y => some (compare x y)
  | _, _ => none

/-- Whether the number is neither infinite nor a NaN. -/
def isFinite : Binary64 → Bool
  | finite .. => true
  | _ => false

/-- Whether the number is a zero. -/
def isZero : Binary64 → Bool
  | finite _ m _ _ => m == 0
  | _ => false

/-- The number with the other sign. -/
def neg : Binary64 → Binary64
  | nan => nan
  | infinite s => infinite (!s)
  | finite s m k h => finite (!s) m k h

@[simp] theorem signed_false (n : Nat) : signed false n = n := rfl

@[simp] theorem signed_true (n : Nat) : signed true n = -n := rfl

@[simp] theorem natAbs_signed (s : Bool) (n : Nat) : (signed s n).natAbs = n := by
  cases s
  · rfl
  · exact Int.natAbs_neg n

theorem rank?_eq_none_iff {a : Binary64} : a.rank? = none ↔ a = nan := by
  cases a <;> simp [rank?]

theorem compare?_eq_none_iff {a b : Binary64} : a.compare? b = none ↔ a = nan ∨ b = nan := by
  rw [← rank?_eq_none_iff, ← rank?_eq_none_iff]
  unfold compare?
  cases a.rank? <;> cases b.rank? <;> simp

theorem compare?_swap (a b : Binary64) : b.compare? a = (a.compare? b).map Ordering.swap := by
  unfold compare?
  cases a.rank? with
  | none => cases b.rank? <;> rfl
  | some x =>
    cases b.rank? with
    | none => rfl
    | some y => exact congrArg some Std.OrientedOrd.eq_swap

/-- A finite number lies between the infinities. -/
theorem units_lt {m k : Nat} (h : Canonical m k) : m <<< k < beyond := by
  simp only [beyond, Nat.shiftLeft_eq]
  exact Nat.mul_lt_mul_of_lt_of_le h.1 (Nat.pow_le_pow_right (by decide) h.2.1) (Nat.two_pow_pos _)

end Binary64

end WhereClause

import WhereClause.Binary64.Rounding

/-!
# Binary64 arithmetic

Each operation is the exact result, rounded once. A remainder needs no rounding: it has the sign of
the dividend and is smaller than the divisor.

Headlines:
* `add_comm`, `mul_comm`: sums and products do not depend on the order of their operands.
-/

namespace WhereClause.Binary64

/-- The sum. Two numbers that cancel give the positive zero; zeros of one sign keep it. -/
def add : Binary64 → Binary64 → Binary64
  | nan, _ | _, nan => nan
  | infinite s, infinite t => if s = t then infinite s else nan
  | infinite s, finite .. => infinite s
  | finite .., infinite t => infinite t
  | finite s m k _, finite t n l _ =>
    let sum := signed s (m <<< k) + signed t (n <<< l)
    if sum = 0 then zero (s && t) else nearest (sum < 0) sum.natAbs 1

/-- The difference. -/
def sub (a b : Binary64) : Binary64 := a.add b.neg

/-- The product. -/
def mul : Binary64 → Binary64 → Binary64
  | nan, _ | _, nan => nan
  | infinite s, infinite t => infinite (s != t)
  | infinite s, finite t n _ _ => if n = 0 then nan else infinite (s != t)
  | finite s m _ _, infinite t => if m = 0 then nan else infinite (s != t)
  | finite s m k _, finite t n l _ => nearest (s != t) ((m <<< k) * (n <<< l)) unitsPerOne

/-- The quotient. -/
def div : Binary64 → Binary64 → Binary64
  | nan, _ | _, nan => nan
  | infinite _, infinite _ => nan
  | infinite s, finite t _ _ _ => infinite (s != t)
  | finite s _ _ _, infinite t => zero (s != t)
  | finite s m k _, finite t n l _ =>
    if n = 0 then if m = 0 then nan else infinite (s != t)
    else nearest (s != t) (m <<< k * unitsPerOne) (n <<< l)

/-- The remainder of the division that truncates. -/
def rem : Binary64 → Binary64 → Binary64
  | nan, _ | _, nan => nan
  | infinite _, _ => nan
  | finite s m k h, infinite _ => finite s m k h
  | finite s m k _, finite _ n l _ =>
    if n = 0 then nan else nearest s (m <<< k % (n <<< l)) 1

theorem add_comm (a b : Binary64) : a.add b = b.add a := by
  cases a <;> cases b <;> simp only [add]
  · rename_i s t
    by_cases h : s = t
    · simp [h]
    · rw [if_neg h, if_neg (Ne.symm h)]
  · rename_i s m k _ t n l _
    rw [Int.add_comm, Bool.and_comm]

theorem mul_comm (a b : Binary64) : a.mul b = b.mul a := by
  cases a with
  | nan => cases b <;> rfl
  | infinite s => cases b <;> simp only [mul, bne_comm (a := s)]
  | finite s m k h =>
    cases b with
    | nan => rfl
    | infinite t => simp only [mul, bne_comm (a := s)]
    | finite t n l h => simp only [mul, bne_comm (a := s), Nat.mul_comm (m <<< k)]

end WhereClause.Binary64

import Mathlib.Data.String.Basic
import WhereClause.Text.Digit
import WhereClause.Text.Numeral

/-!
# The order of texts

Texts are ordered by their code points, at the first place where they differ. Texts that start with
parts of one length are ordered by these parts first and by what follows them then, and decimal
numerals of one length are ordered as their values. So padded numerals may be compared as texts, and
texts of several of them by one numeral after the other.

Headlines:
* `Text.le_iff_isLE_compare`: the order of texts as one of lists of characters.
* `Text.compare_append`: parts of one length decide first.
* `Text.compare_digits`, `Text.compare_padded`: numerals of one length.
-/

namespace WhereClause.Text

variable {s t : List Char}

/-- Characters have the order of their code points. -/
theorem compare_toNat (c d : Char) : compare c.toNat d.toNat = compare c d := by
  have hlt : c < d ↔ c.toNat < d.toNat := Iff.rfl
  have heq : c = d ↔ c.toNat = d.toNat := Char.toNat_inj.symm
  simp only [compare, compareOfLessAndEq, hlt, heq]

theorem compare_eq_lt_iff : compare s t = .lt ↔ s < t := by
  induction s generalizing t with
  | nil => cases t <;> simp [List.compare_nil_cons]
  | cons c s ih =>
    cases t with
    | nil => simp [List.compare_cons_nil]
    | cons d t =>
      rw [List.compare_cons_cons, Ordering.then_eq_lt, ih, List.cons_lt_cons_iff,
        Std.compare_eq_iff_eq, ← compare_toNat, Nat.compare_eq_lt]
      rfl

theorem le_iff_isLE_compare {s t : String} :
    s ≤ t ↔ (compare s.toList t.toList).isLE = true := by
  rw [← String.not_lt, String.lt_iff_toList_lt, ← compare_eq_lt_iff,
    Std.OrientedOrd.eq_swap (a := t.toList), Ordering.swap_eq_lt, Ordering.isLE_iff_ne_gt]

/-- **Parts of one length decide first.** -/
theorem compare_append {α : Type} [Ord α] {l l' r r' : List α} (h : l.length = l'.length) :
    compare (l ++ r) (l' ++ r') = (compare l l').then (compare r r') := by
  induction l generalizing l' with
  | nil =>
    obtain rfl := List.eq_nil_of_length_eq_zero h.symm
    rfl
  | cons x l ih =>
    cases l' with
    | nil => cases h
    | cons y l' =>
      rw [List.cons_append, List.cons_append, List.compare_cons_cons, List.compare_cons_cons,
        ih (Nat.succ.inj h), Ordering.then_assoc]

/-! ## Numerals -/

/-- Digits have the order of their values. -/
theorem compare_digit {c d : Char} (hc : c.isDigit = true) (hd : d.isDigit = true) :
    compare (c.toNat - '0'.toNat) (d.toNat - '0'.toNat) = compare c d := by
  have hc := digit_bounds hc
  have hd := digit_bounds hd
  have hzero : '0'.toNat = 48 := rfl
  have hlt : c.toNat - '0'.toNat < d.toNat - '0'.toNat ↔ c.toNat < d.toNat := by omega
  have hgt : d.toNat - '0'.toNat < c.toNat - '0'.toNat ↔ d.toNat < c.toNat := by omega
  rw [← compare_toNat]
  simp only [Nat.compare_eq_ite_lt, hlt, hgt]

/-- In a positional system the leading digit decides. -/
theorem compare_leading {p a b m n : Nat} (ha : a < p) (hb : b < p) :
    compare (p * m + a) (p * n + b) = (compare m n).then (compare a b) := by
  rcases Nat.lt_trichotomy m n with h | rfl | h
  · have hle := Nat.mul_le_mul_left p (Nat.succ_le_of_lt h)
    rw [Nat.mul_succ] at hle
    rw [Nat.compare_eq_lt.mpr h, Ordering.lt_then, Nat.compare_eq_lt]
    omega
  · rw [Std.compare_self, Ordering.eq_then]
    simp only [Nat.compare_eq_ite_lt, Nat.add_lt_add_iff_left]
  · have hle := Nat.mul_le_mul_left p (Nat.succ_le_of_lt h)
    rw [Nat.mul_succ] at hle
    rw [Nat.compare_eq_gt.mpr h, Ordering.gt_then, Nat.compare_eq_gt]
    omega

theorem ofDigitChars_cons_zero (c : Char) (s : List Char) :
    Nat.ofDigitChars 10 (c :: s) 0 =
      10 ^ s.length * (c.toNat - '0'.toNat) + Nat.ofDigitChars 10 s 0 := by
  rw [Nat.ofDigitChars_cons, Nat.mul_zero, Nat.zero_add, Nat.ofDigitChars_eq_ofDigitChars_zero]

theorem ofDigitChars_lt (h : ∀ c ∈ s, c.isDigit = true) :
    Nat.ofDigitChars 10 s 0 < 10 ^ s.length := by
  induction s with
  | nil => decide
  | cons c s ih =>
    have hc := digit_bounds (h c List.mem_cons_self)
    have hzero : '0'.toNat = 48 := rfl
    have hs := ih fun d hd => h d (List.mem_cons_of_mem c hd)
    have hle := Nat.mul_le_mul_left (10 ^ s.length) (show c.toNat - '0'.toNat ≤ 9 by omega)
    rw [ofDigitChars_cons_zero, List.length_cons, Nat.pow_succ]
    omega

/-- **Numerals of one length have the order of their values.** -/
theorem compare_digits (hs : ∀ c ∈ s, c.isDigit = true) (ht : ∀ c ∈ t, c.isDigit = true)
    (h : s.length = t.length) :
    compare s t = compare (Nat.ofDigitChars 10 s 0) (Nat.ofDigitChars 10 t 0) := by
  induction s generalizing t with
  | nil =>
    obtain rfl := List.eq_nil_of_length_eq_zero h.symm
    rfl
  | cons c s ih =>
    cases t with
    | nil => cases h
    | cons d t =>
      have hlen : s.length = t.length := Nat.succ.inj h
      have hs' := fun e he => hs e (List.mem_cons_of_mem c he)
      have ht' := fun e he => ht e (List.mem_cons_of_mem d he)
      have hlt := ofDigitChars_lt hs'
      rw [hlen] at hlt
      rw [List.compare_cons_cons, ih hs' ht' hlen, ofDigitChars_cons_zero, ofDigitChars_cons_zero,
        hlen, compare_leading hlt (ofDigitChars_lt ht'),
        compare_digit (hs c List.mem_cons_self) (ht d List.mem_cons_self)]

/-- **Padded numerals have the order of their values**, and decide over what follows them. -/
theorem compare_padded {width m n : Nat} (hw : 0 < width) (hm : m < Nat.pow 10 width)
    (hn : n < Nat.pow 10 width) (s t : List Char) :
    compare (padded width m ++ s) (padded width n ++ t) = (compare m n).then (compare s t) := by
  have hlen : (padded width m).length = (padded width n).length := by
    rw [length_padded hw hm, length_padded hw hn]
  rw [compare_append hlen,
    compare_digits (fun _ => isDigit_of_mem_padded) (fun _ => isDigit_of_mem_padded) hlen,
    ofDigitChars_padded, ofDigitChars_padded]

end WhereClause.Text

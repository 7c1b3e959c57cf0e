import WhereClause.Binary64.Shortest
import WhereClause.Proofs.Binary64.Fraction
import WhereClause.Proofs.Token.Spelling

/-!
# The text of a number says the number

The shortest decimal is looked for among those of at most seventeen digits. Numbers are so far apart
that one of seventeen digits is always found, so the text of every finite number is a decimal that
is rounded to the number. Texts of numbers are read back here, and with them the numerals of
integers: what has the text of an integer is the number that the integer is rounded to.

Headlines:
* `Binary64.exists_neighbour?`: seventeen digits are enough.
* `Binary64.ofText_text`, `Binary64.ofText_integer`: what texts say.
* `Binary64.text_injective`, `Binary64.eq_ofInt_of_text`: what has a text.
-/

namespace WhereClause.Binary64

variable {m k : Nat}

/-! ## Seventeen digits -/

theorem ofDecimal_natCast (coefficient exponent : Nat) :
    ofDecimal coefficient exponent =
      nearest false (coefficient * Nat.pow 10 exponent * unitsPerOne) 1 := by
  rw [ofDecimal, if_pos (Int.natCast_nonneg _), Int.toNat_natCast]

theorem ofDecimal_zero (coefficient : Nat) :
    ofDecimal coefficient 0 = nearest false (coefficient * unitsPerOne) 1 := by
  rw [ofDecimal, if_pos (Int.le_refl 0), Int.toNat_zero, Nat.pow_eq, Nat.pow_zero, Nat.mul_one]

theorem ofDecimal_neg_natCast (coefficient places : Nat) :
    ofDecimal coefficient (-(places : Int)) =
      nearest false (coefficient * unitsPerOne) (Nat.pow 10 places) := by
  rcases Nat.eq_zero_or_pos places with rfl | h
  · exact ofDecimal_zero coefficient
  · rw [ofDecimal, if_neg (by omega), Int.neg_neg, Int.toNat_natCast]

/-- The first digit stands where the place says. -/
theorem exists_place {units : Nat} (h : 0 < units) :
    ∃ first : Nat, place units = (first : Int) - 323 ∧
      Nat.pow 10 first * unitsPerOne ≤ units * Nat.pow 10 324 := by
  have hpos : 0 < units * Nat.pow 10 324 / unitsPerOne := by
    refine Nat.div_pos (Nat.le_trans ?_ (Nat.le_mul_of_pos_left _ h)) unitsPerOne_pos
    decide +kernel
  unfold place
  simp only [← Nat.le_div_iff_mul_le unitsPerOne_pos]
  generalize units * Nat.pow 10 324 / unitsPerOne = n at *
  obtain ⟨first, hlen⟩ := Nat.exists_eq_add_of_lt (Nat.length_toDigits_pos (b := 10) (n := n))
  refine ⟨first, by omega, ?_⟩
  rcases Nat.eq_zero_or_pos first with rfl | hfirst
  · exact hpos
  · refine Nat.le_of_not_lt fun hlt => ?_
    have := (Nat.length_toDigits_le_iff (b := 10) (by decide) hfirst).mpr hlt
    omega

theorem exists_neighbour?_of_candidate {target : Binary64} {units count num den c : Nat}
    (exponent : Int) (hexponent : place units - count = exponent)
    (hnum : (if 0 ≤ exponent then units else units * Nat.pow 10 (-exponent).toNat) = num)
    (hden : (if 0 ≤ exponent then unitsPerOne * Nat.pow 10 exponent.toNat else unitsPerOne) = den)
    (hc : c = num / den ∨ c = num / den + 1) (h : ofDecimal c exponent = target) :
    ∃ d, neighbour? target units count = some d := by
  refine Option.isSome_iff_exists.mp (List.find?_isSome.mpr ⟨⟨c, exponent⟩, ?_, decide_eq_true h⟩)
  rw [hexponent, hnum, hden]
  split <;> rcases hc with rfl | rfl <;> simp only [List.mem_cons, true_or, or_true]

/-- Powers of ten are taken from one side to the other. -/
theorem shift_places {a b e t first x y : Nat} (hexp : a + b + e = first + t)
    (h : Nat.pow 10 first * x ≤ y * Nat.pow 10 b) :
    Nat.pow 10 a * (x * Nat.pow 10 e) ≤ y * Nat.pow 10 t := by
  refine Nat.le_of_mul_le_mul_right ?_ (Nat.pow_pos (n := b) (by decide : 0 < 10))
  calc 10 ^ a * (x * 10 ^ e) * 10 ^ b
    _ = 10 ^ (a + b + e) * x := by
      rw [Nat.pow_add, Nat.pow_add]
      ac_rfl
    _ = 10 ^ first * x * 10 ^ t := by rw [hexp, Nat.pow_add, Nat.mul_right_comm]
    _ ≤ y * 10 ^ b * 10 ^ t := Nat.mul_le_mul_right _ h
    _ = y * 10 ^ t * 10 ^ b := Nat.mul_right_comm _ _ _

/-- **Seventeen digits are always enough** to be read back: the nearest decimal is close. -/
theorem exists_neighbour? (h : Canonical m k) (hm : m ≠ 0) :
    ∃ d, neighbour? (finite false m k h) (m <<< k) 17 = some d := by
  have hpow : ∀ n, 0 < Nat.pow 10 n := fun n => Nat.pow_pos (by decide)
  obtain ⟨first, hplace, hle⟩ := exists_place (shiftLeft_pos (Nat.pos_of_ne_zero hm) k)
  rcases Nat.lt_or_ge first 340 with hshort | hlong
  · -- The last digit stands behind the point.
    obtain ⟨t, ht⟩ := Nat.exists_eq_add_of_lt hshort
    have hge : 10 ^ 16 * unitsPerOne ≤ m <<< k * Nat.pow 10 (t + 1) := by
      rw [← Nat.mul_one unitsPerOne]
      exact shift_places (e := 0) (by omega) hle
    have hnear := @roundQuotient_near (m <<< k * Nat.pow 10 (t + 1)) _ unitsPerOne_pos
    have hbeside := roundQuotient_eq_or (m <<< k * Nat.pow 10 (t + 1)) unitsPerOne
    refine exists_neighbour?_of_candidate (-((t + 1 : Nat) : Int)) (by omega)
      (if_neg (by omega)) (if_neg (by omega)) hbeside ?_
    rw [ofDecimal_neg_natCast]
    exact nearest_of_close h (hpow _) (by omega) (by omega)
  · obtain ⟨e, rfl⟩ := Nat.exists_eq_add_of_le hlong
    have hge : 10 ^ 16 * (unitsPerOne * Nat.pow 10 e) ≤ m <<< k := by
      rw [← Nat.mul_one (m <<< k)]
      exact shift_places (t := 0) (by omega) hle
    have hnear := @roundQuotient_near (m <<< k) _ (Nat.mul_pos unitsPerOne_pos (hpow e))
    have hbeside := roundQuotient_eq_or (m <<< k) (unitsPerOne * Nat.pow 10 e)
    have hunits : ∀ c, c * (unitsPerOne * Nat.pow 10 e) = c * Nat.pow 10 e * unitsPerOne :=
      fun c => by rw [Nat.mul_assoc, Nat.mul_comm unitsPerOne]
    rw [hunits] at hnear
    refine exists_neighbour?_of_candidate (e : Int) (by omega) (if_pos (Int.natCast_nonneg e))
      (if_pos (Int.natCast_nonneg e)) hbeside ?_
    rw [ofDecimal_natCast]
    exact nearest_of_close h (by decide) (by omega) (by omega)

/-- Every positive number has a shortest decimal. -/
theorem exists_shortest? (h : Canonical m k) (hm : m ≠ 0) :
    ∃ d, shortest? (finite false m k h) (m <<< k) = some d := by
  obtain ⟨d, hd⟩ := exists_neighbour? h hm
  refine Option.isSome_iff_exists.mp (List.findSome?_isSome_iff.mpr ⟨17, by decide, ?_⟩)
  rw [hd]
  rfl

/-! ## Reading back -/

open Numeral

/-- The decimal that digits with a point say. -/
def Decimal.ofText (s : List Char) : Decimal :=
  let fraction := (s.dropWhile Char.isDigit).tail
  ⟨Nat.ofDigitChars 10 (s.takeWhile Char.isDigit ++ fraction) 0, -(fraction.length : Int)⟩

/-- The number that a numeral says. -/
def ofText : List Char → Binary64
  | '-' :: s => (Decimal.ofText s).toBinary64.neg
  | s => (Decimal.ofText s).toBinary64

theorem ofDecimal_mul_pow (coefficient exponent : Nat) :
    ofDecimal (coefficient * Nat.pow 10 exponent) 0 = ofDecimal coefficient exponent := by
  rw [ofDecimal_zero, ofDecimal_natCast]

/-- Zeros at the end of the fraction say nothing. -/
theorem ofDecimal_zeros (coefficient places zeros : Nat) :
    ofDecimal (coefficient * Nat.pow 10 zeros) (-((places + zeros : Nat) : Int)) =
      ofDecimal coefficient (-(places : Int)) := by
  rw [ofDecimal_neg_natCast, ofDecimal_neg_natCast, Nat.mul_right_comm]
  simp only [Nat.pow_eq, Nat.pow_add]
  exact nearest_mul_right _ _ _ (Nat.pow_pos (by decide))

theorem Decimal.ofText_append {whole : List Char} (hw : IsDigits whole) (fraction : List Char)
    (hf : ∀ c ∈ fraction, c.isDigit = true) :
    ofText (whole ++ if fraction.isEmpty then [] else '.' :: fraction) =
      ⟨Nat.ofDigitChars 10 (whole ++ fraction) 0, -(fraction.length : Int)⟩ := by
  have hstop : ∀ c ∈ (if fraction.isEmpty then [] else '.' :: fraction).head?,
      c.isDigit = false := by
    cases fraction with
    | nil => exact nofun
    | cons c cs =>
      rintro c ⟨⟩
      rfl
  have htail : (if fraction.isEmpty then [] else '.' :: fraction).tail = fraction := by
    cases fraction <;> rfl
  obtain ⟨htake, hdrop⟩ := hw.span hstop
  rw [ofText, htake, hdrop]
  simp only [htail]

theorem Decimal.ofText_of_isDigits {s : List Char} (h : IsDigits s) :
    ofText s = ⟨Nat.ofDigitChars 10 s 0, 0⟩ := by
  simpa using ofText_append h [] nofun

/-- Zeros can be taken off the end. -/
theorem exists_zeros (s : List Char) :
    ∃ n, s = (s.reverse.dropWhile (· == '0')).reverse ++ List.replicate n '0' := by
  refine ⟨(s.reverse.takeWhile (· == '0')).length, ?_⟩
  have hzeros : s.reverse.takeWhile (· == '0') =
      List.replicate (s.reverse.takeWhile (· == '0')).length '0' :=
    List.eq_replicate_of_mem fun c hc => by
      simpa using List.all_eq_true.mp List.all_takeWhile c hc
  have hsplit := congrArg List.reverse
    (List.takeWhile_append_dropWhile (p := (· == '0')) (l := s.reverse))
  rw [List.reverse_append, List.reverse_reverse, hzeros, List.reverse_replicate] at hsplit
  exact hsplit.symm

/-- Behind the point stand the last digits, but for zeros at the end. -/
theorem Decimal.exists_text_eq (coefficient places : Nat) (h : 0 < places) :
    ∃ whole fraction zeros, IsDigits whole ∧ (∀ c ∈ fraction, c.isDigit = true) ∧
      places = fraction.length + zeros ∧
      Text.padded (places + 1) coefficient = whole ++ fraction ++ List.replicate zeros '0' ∧
      text ⟨coefficient, -(places : Int)⟩ =
        whole ++ if fraction.isEmpty then [] else '.' :: fraction := by
  have hneg : ¬0 ≤ -(places : Int) := by omega
  rw [text, if_neg hneg]
  simp only [Int.neg_neg, Int.toNat_natCast]
  have hlen : places < (Text.padded (places + 1) coefficient).length := by
    simp only [Text.padded, List.length_append, List.length_replicate]
    omega
  have hdigits : ∀ c ∈ Text.padded (places + 1) coefficient, c.isDigit = true :=
    fun c => Text.isDigit_of_mem_padded
  generalize Text.padded (places + 1) coefficient = digits at *
  obtain ⟨zeros, hzeros⟩ := exists_zeros (digits.drop (digits.length - places))
  have hsplit := List.take_append_drop (digits.length - places) digits
  have hplaces : (digits.drop (digits.length - places)).length = places := by
    rw [List.length_drop]
    omega
  rw [hzeros, List.length_append, List.length_replicate] at hplaces
  rw [hzeros, ← List.append_assoc] at hsplit
  refine ⟨_, _, zeros, ⟨fun hnil => ?_, fun c hc => hdigits c (List.mem_of_mem_take hc)⟩,
    fun c hc => hdigits c ?_, hplaces.symm, hsplit.symm, ?_⟩
  · have := congrArg List.length hnil
    rw [List.length_take, List.length_nil] at this
    omega
  · rw [← hsplit]
    exact List.mem_append_left _ (List.mem_append_right _ hc)
  · rw [List.isEmpty_reverse]
    split
    · rw [List.append_nil]
    · rfl

/-- **The text of a decimal says the decimal**, whatever zeros are left out. -/
theorem Decimal.toBinary64_ofText_text (d : Decimal) :
    (ofText d.text).toBinary64 = d.toBinary64 := by
  obtain ⟨coefficient, exponent⟩ := d
  rcases Int.lt_or_le exponent 0 with hexponent | hexponent
  · obtain ⟨places, rfl⟩ := Int.exists_eq_neg_ofNat (Int.le_of_lt hexponent)
    obtain ⟨whole, fraction, zeros, hw, hf, rfl, hdigits, htext⟩ :=
      exists_text_eq coefficient places (by omega)
    have hvalue := congrArg (Nat.ofDigitChars 10 · 0) hdigits
    simp only [Text.ofDigitChars_padded] at hvalue
    rw [Nat.ofDigitChars_append, Nat.ofDigitChars_replicate_zero, Nat.mul_comm] at hvalue
    rw [htext, ofText_append hw fraction hf, hvalue]
    exact (ofDecimal_zeros _ _ _).symm
  · obtain ⟨e, rfl⟩ := Int.eq_ofNat_of_zero_le hexponent
    have hzeros : ∀ c ∈ List.replicate (e : Int).toNat '0', c.isDigit = true := fun c hc => by
      rw [List.eq_of_mem_replicate hc]
      rfl
    rw [text, if_pos hexponent,
      ofText_of_isDigits ((isDigits_toDigits coefficient).append hzeros), Nat.ofDigitChars_append,
      Nat.ofDigitChars_ten_toDigits, Nat.ofDigitChars_replicate_zero, Nat.mul_comm]
    exact ofDecimal_mul_pow coefficient e

/-- The text of a magnitude says the magnitude. -/
theorem toBinary64_ofText_magnitudeText (h : Canonical m k) :
    (Decimal.ofText (magnitudeText m k h)).toBinary64 = finite false m k h := by
  by_cases hm : m = 0
  · subst hm
    obtain rfl : k = 0 := h.2.2.resolve_right (by decide)
    have hzero : (Decimal.ofText ['0']).toBinary64 = zero false := by decide +kernel
    rw [magnitudeText, if_pos rfl, hzero, zero]
  · obtain ⟨d, hd⟩ := exists_shortest? h hm
    rw [magnitudeText, if_neg hm, hd]
    exact (Decimal.toBinary64_ofText_text d).trans (shortest?_reads_back hd)

theorem ofText_of_isMagnitude {s : List Char} (h : IsMagnitude s) :
    ofText s = (Decimal.ofText s).toBinary64 := by
  obtain ⟨whole, f, rfl, ⟨hne, hall⟩, -⟩ := h
  cases whole with
  | nil => exact absurd rfl hne
  | cons c cs =>
    refine ofText.eq_2 _ fun s hs => ?_
    have hc : c = '-' := (List.cons.inj hs).1
    have hdigit := hall c List.mem_cons_self
    rw [hc] at hdigit
    exact absurd hdigit (by decide)

/-- **The text of a finite number says the number.** -/
theorem ofText_text {x : Binary64} (h : x.isFinite = true) : ofText x.text.toList = x := by
  cases x with
  | nan | infinite s => cases h
  | finite s m k hc =>
    have hread := toBinary64_ofText_magnitudeText hc
    rw [text, String.toList_ofList]
    cases s with
    | false =>
      rw [if_neg Bool.false_ne_true, ofText_of_isMagnitude (isMagnitude_magnitudeText m k hc),
        hread]
    | true => rw [if_pos rfl, ofText, hread, neg, Bool.not_false]

/-- **The numeral of an integer says what the integer is rounded to.** -/
theorem ofText_integer (n : Int) : ofText (Text.integer n) = ofInt n := by
  have hdigits := isDigits_toDigits n.natAbs
  have hread : (Decimal.ofText (Nat.toDigits 10 n.natAbs)).toBinary64 =
      nearest false (n.natAbs * unitsPerOne) 1 := by
    rw [Decimal.ofText_of_isDigits hdigits, Nat.ofDigitChars_ten_toDigits, Decimal.toBinary64]
    exact ofDecimal_zero n.natAbs
  rw [Text.integer, ofInt]
  split
  · rename_i hneg
    rw [decide_eq_true hneg, ofText, hread, neg_nearest, Bool.not_false]
  · rename_i hneg
    rw [decide_eq_false hneg, ofText_of_isMagnitude hdigits.magnitude, hread]

/-- Finite numbers of one text are one number. -/
theorem text_injective {x y : Binary64} (hx : x.isFinite = true) (hy : y.isFinite = true)
    (h : x.text = y.text) : x = y := by
  rw [← ofText_text hx, h, ofText_text hy]

/-- **A finite number with the text of an integer** is what the integer is rounded to. -/
theorem eq_ofInt_of_text {x : Binary64} {n : Int} (hx : x.isFinite = true)
    (h : x.text = Text.ofInt n) : x = ofInt n := by
  rw [← ofText_text hx, h, Text.ofInt, String.toList_ofList, ofText_integer]

end WhereClause.Binary64

import WhereClause.Proofs.Arithmetic
import WhereClause.Proofs.Binary64.Exact
import WhereClause.Proofs.Binary64.Shortest
import WhereClause.Proofs.Number.Order

/-!
# Constants of one text

In SQL a constant is its text, and the text of a number does not say its representation. To the host
it matters: words are combined as integers and anything else as binary64 numbers. Constants of one
text are the same to it if both are whole representations or neither is. The other case is that of a
word and the binary64 number that the word is rounded to. Then the two results are equal only where
the integer result is held by a word and is rounded to the other one, so not where a quotient leaves
something over.

Headlines:
* `Number.eq_ofInt_of_text`: what has the text of a word.
* `Arithmetic.rank?_rounded_iff`: which operations on integers of 53 bits are exact.
* `Number.alike_iff`: the exact condition for equal results.
* `Number.folded_of_quoted`: what folding makes of two constants of one text.
-/

namespace WhereClause

/-! ## Rounded operations -/

namespace Binary64

variable {a b : Binary64}

theorem exists_finite (h : a.isFinite = true) : ∃ s m k hc, a = finite s m k hc := by
  cases a with
  | nan | infinite s => cases h
  | finite s m k hc => exact ⟨s, m, k, hc, rfl⟩

theorem isFinite_neg (h : a.isFinite = true) : a.neg.isFinite = true := by
  obtain ⟨s, m, k, hm, rfl⟩ := exists_finite h
  rfl

theorem add_ne_nan (ha : a.isFinite = true) (hb : b.isFinite = true) : a.add b ≠ nan := by
  obtain ⟨s, m, k, hm, rfl⟩ := exists_finite ha
  obtain ⟨t, p, l, hp, rfl⟩ := exists_finite hb
  simp only [add]
  split
  · intro h
    cases h
  · exact nearest_ne_nan _ _ _

theorem mul_ne_nan (ha : a.isFinite = true) (hb : b.isFinite = true) : a.mul b ≠ nan := by
  obtain ⟨s, m, k, hm, rfl⟩ := exists_finite ha
  obtain ⟨t, p, l, hp, rfl⟩ := exists_finite hb
  exact nearest_ne_nan _ _ _

/-- A quotient and a remainder are no NaN either, unless the divisor is zero. -/
theorem div_rem_ne_nan (ha : a.isFinite = true) (hb : b.isFinite = true) (h : b.isZero = false) :
    a.div b ≠ nan ∧ a.rem b ≠ nan := by
  obtain ⟨s, m, k, hm, rfl⟩ := exists_finite ha
  obtain ⟨t, p, l, hp, rfl⟩ := exists_finite hb
  have hne : p ≠ 0 := beq_eq_false_iff_ne.mp h
  rw [div, if_neg hne, rem, if_neg hne]
  exact ⟨nearest_ne_nan _ _ _, nearest_ne_nan _ _ _⟩

end Binary64

namespace Arithmetic

open Binary64

variable {op : Arithmetic} {x y : Int} {a b z : Binary64}

/-- Operations on finite numbers may overflow, but they give no NaN. -/
theorem ne_nan_of_rounded (ha : a.isFinite = true) (hb : b.isFinite = true)
    (h : op.rounded a b = some z) : z ≠ nan := by
  cases op with
  | add =>
    cases h
    exact add_ne_nan ha hb
  | sub =>
    cases h
    exact add_ne_nan ha (isFinite_neg hb)
  | mul =>
    cases h
    exact mul_ne_nan ha hb
  | div =>
    simp only [rounded] at h
    split at h
    · cases h
    · cases h
      exact (div_rem_ne_nan ha hb (eq_false_of_ne_true ‹_›)).1
  | mod =>
    simp only [rounded] at h
    split at h
    · cases h
    · cases h
      exact (div_rem_ne_nan ha hb (eq_false_of_ne_true ‹_›)).2

/-- On what integers are rounded to only a division by zero is refused. -/
theorem rounded_ofInt_eq_none_iff (hy : y.natAbs ≤ 0x10000000000000000) :
    op.rounded a (ofInt y) = none ↔ op.isDivision = true ∧ y = 0 := by
  cases op <;> simp [rounded, isDivision, isZero_ofInt hy]

/-- **Integers of 53 bits are combined exactly**, but for what is left over of a quotient. -/
theorem rank?_rounded_iff (hx : x.natAbs ≤ 0x20000000000000) (hy : y.natAbs ≤ 0x20000000000000)
    (h : op.rounded (ofInt x) (ofInt y) = some z) :
    z.rank? = (ofInt (op.result x y)).rank? ↔ (op = .div → y ∣ x) := by
  have ha := isWhole_ofInt hx
  have hb := isWhole_ofInt hy
  have hdivisor : op.isDivision = true → y.natAbs ≠ 0 := fun hop hzero => by
    rw [(rounded_ofInt_eq_none_iff (Nat.le_trans hy (by decide))).mpr
      ⟨hop, Int.natAbs_eq_zero.mp hzero⟩] at h
    cases h
  cases op with
  | add =>
    cases h
    have hsum := ha.rank?_add hb
    rw [signed_natAbs, signed_natAbs] at hsum
    simp only [result, hsum, reduceCtorEq, false_imp_iff]
  | sub =>
    cases h
    have hdifference := ha.rank?_sub hb
    rw [signed_natAbs, signed_natAbs] at hdifference
    simp only [result, hdifference, reduceCtorEq, false_imp_iff]
  | mul =>
    cases h
    have hproduct := ha.rank?_mul hb
    rw [signed_natAbs, signed_natAbs] at hproduct
    simp only [result, hproduct, reduceCtorEq, false_imp_iff]
  | div =>
    simp only [rounded] at h
    split at h
    · cases h
    · cases h
      have hquotient := ha.rank?_div_iff hb (hdivisor rfl) hx hy
      rw [signed_natAbs, signed_natAbs, Int.natAbs_dvd_natAbs] at hquotient
      simp only [result, hquotient, true_imp_iff]
  | mod =>
    simp only [rounded] at h
    split at h
    · cases h
    · cases h
      have hremainder := ha.rank?_rem hb (hdivisor rfl)
      rw [signed_natAbs, signed_natAbs] at hremainder
      simp only [result, hremainder, reduceCtorEq, false_imp_iff]

/-- Of the results on integers of 53 bits only a product may be no word. -/
theorem fits_result_iff (hx : x.natAbs ≤ 0x20000000000000) (hy : y.natAbs ≤ 0x20000000000000) :
    Word.Fits (op.result x y) ↔ (op = .mul → Word.Fits (x * y)) := by
  cases op with
  | mul => simp [result]
  | add | sub =>
    simp only [result, Word.Fits, reduceCtorEq, false_imp_iff, iff_true]
    omega
  | div =>
    have hle : (x.tdiv y).natAbs ≤ x.natAbs := by
      rw [Int.natAbs_tdiv]
      exact Nat.div_le_self _ _
    simp only [result, Word.Fits, reduceCtorEq, false_imp_iff, iff_true]
    omega
  | mod =>
    have hle : (x.tmod y).natAbs ≤ x.natAbs := by
      rw [Int.natAbs_tmod]
      exact Nat.mod_le _ _
    simp only [result, Word.Fits, reduceCtorEq, false_imp_iff, iff_true]
    omega

end Arithmetic

/-! ## Texts -/

namespace Number

variable {op : Arithmetic} {a b m : Number} {n r : Int} {x : Int64} {y : Binary64}

/-- Whether the number is neither infinite nor a NaN. -/
def isFinite (a : Number) : Bool := a.toBinary64.isFinite

theorem text_of_integer? (h : a.integer? = some n) : a.text = Text.ofInt n := by
  cases a <;> cases h <;> rfl

theorem isFinite_of_integer? (h : a.integer? = some n) : a.isFinite = true := by
  obtain ⟨_, _, _, _, heq, -⟩ := toBinary64_isRounded h
  rw [isFinite, heq]
  rfl

/-- Finite numbers have literals, and those are their texts. -/
theorem exists_literal (h : a.isFinite = true) :
    ∃ l, Literal.ofValue (.number a) = .ok l ∧ l ≠ .null ∧ ∀ d : Dialect, d.literal l = a.text := by
  cases ha : a.integer? with
  | some n =>
    refine ⟨.integer n, ?_, (fun h => by cases h), fun _ => (text_of_integer? ha).symm⟩
    simp [Literal.ofValue, Value.sqlType?, isIntegral, Literal.ofTyped, Literal.ofTyped?, ha]
  | none =>
    obtain ⟨x, rfl⟩ := exists_float ha
    refine ⟨.float x h, ?_, (fun h => by cases h), fun _ => rfl⟩
    have hx : x.isFinite = true := h
    simp [Literal.ofValue, Value.sqlType?, isIntegral, Literal.ofTyped, Literal.ofTyped?,
      Literal.ofNumber?, ha, hx]

/-- **A number is quoted if it is finite**, and then as its text. -/
theorem quoteValue_eq_ok_iff {d : Dialect} {s : String} :
    d.quoteValue (.number a) = .ok s ↔ a.isFinite = true ∧ a.text = s := by
  by_cases h : a.isFinite = true
  · obtain ⟨l, hl, -, htext⟩ := exists_literal h
    rw [Dialect.quoteValue_eq, hl, Except.map, htext, Except.ok.injEq]
    exact (and_iff_right h).symm
  · refine iff_of_false (fun hs => h ?_) fun hs => h hs.1
    have hok : (Literal.ofValue (.number a)).isOk = true := by
      rw [Dialect.quoteValue_eq] at hs
      obtain ⟨l, hl, -⟩ := except_map_eq_ok.mp hs
      rw [hl]
      rfl
    cases ha : a.integer? with
    | some n => exact isFinite_of_integer? ha
    | none =>
      obtain ⟨x, rfl⟩ := exists_float ha
      exact (Literal.ofValue_isOk_iff.mp hok).2 x rfl

/-- Beside a column a finite number is written as its text. -/
theorem compile_column_number (d : Dialect) (op : Arithmetic) (name : String)
    (h : a.isFinite = true) :
    (Expr.binary (.arithmetic op) (.column name none) (.constant (.number a))).compile d =
      .ok (Sql.operatorText (.arithmetic op) (Text.identifier name) a.text) := by
  obtain ⟨l, hl, hnull, htext⟩ := exists_literal h
  have hsql : (Reduced.value (.number a)).toSqlFor none = .ok (.literal l) := by
    rw [Reduced.toSqlFor, Reduced.toSql, hl]
    rfl
  rw [Expr.compile_column_value d name rfl rfl hsql hnull, htext]

theorem integer?_eq_of_text (ha : a.integer? = some n) (hb : b.integer? = some r)
    (h : a.text = b.text) : n = r := by
  rw [text_of_integer? ha, text_of_integer? hb] at h
  have hlists := congrArg String.toList h
  rw [Text.ofInt, Text.ofInt, String.toList_ofList, String.toList_ofList] at hlists
  exact Text.integer_injective hlists

/-- **What has the text of a word** and is none is the number that the word is rounded to. -/
theorem eq_ofInt_of_text (ha : a.integer? = some n) (hb : b.integer? = none)
    (hfinite : b.isFinite = true) (h : a.text = b.text) : b = float (.ofInt n) := by
  obtain ⟨x, rfl⟩ := exists_float hb
  rw [text_of_integer? ha] at h
  exact congrArg float (Binary64.eq_ofInt_of_text hfinite h.symm)

/-! ## Outcomes -/

/-- What folding makes of a word and a number. -/
def folded (op : Arithmetic) (x : Int64) (c : Number) : Except EvalError Value :=
  (Operator.arithmetic op).eval (.number (.signed x)) (.number c)

/-- Two outcomes are alike: both are errors, or both are numbers that are equal. -/
inductive Alike : Except EvalError Value → Except EvalError Value → Prop
  | errors (e f : EvalError) : Alike (.error e) (.error f)
  | numbers {m n : Number} (h : m.compare? n = some .eq) :
    Alike (.ok (.number m)) (.ok (.number n))

theorem alike_numbers_iff {n : Number} :
    Alike (.ok (.number m)) (.ok (.number n)) ↔ m.compare? n = some .eq :=
  ⟨fun h => by cases h with | numbers h => exact h, .numbers⟩

theorem folded_eq (op : Arithmetic) (x : Int64) (c : Number) :
    folded op x c = ((apply op (signed x) c).map Value.number).mapError .arithmetic := rfl

theorem compare?_self (h : a ≠ float .nan) : a.compare? a = some .eq := by
  cases ha : a.integer? with
  | some n => rw [compare?_of_integers ha ha, Std.compare_self]
  | none =>
    obtain ⟨x, r, -, hr⟩ := exists_rank? h
    rw [compare?_of_toBinary64 (Or.inl ha) hr hr, Std.compare_self]

/-- A word and a binary64 number are equal exactly if the word is rounded to the number. -/
theorem compare?_float_eq_iff (hm : m.integer? = some r) :
    m.compare? (float y) = some .eq ↔ y.IsRounded r := by
  have hrounded := toBinary64_isRounded hm
  obtain ⟨-, p, -, hp⟩ := exists_rank? (a := m) (by rintro rfl; cases hm)
  constructor
  · intro h
    obtain ⟨-, q, -, hq⟩ := exists_rank? (ne_nan_of_compare? h).2
    rw [compare?_of_toBinary64 (Or.inr rfl) hp hq, Option.some_inj, Std.compare_eq_iff_eq] at h
    exact hrounded.of_rank (by rw [hp, h]; exact hq)
  · intro h
    have hq : y.rank? = some p := (h.rank_unique hrounded).trans hp
    rw [compare?_of_toBinary64 (b := float y) (Or.inr rfl) hp hq, Std.compare_self]

/-- Beside a word a whole representation counts by its value. -/
theorem folded_word (op : Arithmetic) (x : Int64) (ha : a.integer? = some n) :
    folded op x a =
      if op.isDivision = true ∧ n = 0 then .error (.arithmetic .divisionByZero)
      else
        match ofInteger? false (op.result x.toInt n) with
        | some m => .ok (.number m)
        | none => .error (.arithmetic (.overflow x.toInt op n)) := by
  have hx : (signed x).integer? = some x.toInt := rfl
  have hsigned : (signed x).isUnsigned = false := rfl
  rw [folded_eq]
  simp only [apply, hx, ha, hsigned, Bool.false_and, Arithmetic.exact_eq]
  by_cases h : op.isDivision = true ∧ n = 0
  · rw [if_pos h, if_pos h]
    rfl
  · rw [if_neg h, if_neg h]
    simp only [bind_wide?_ofInteger?]
    cases ofInteger? false (op.result x.toInt n) <;> rfl

/-- Beside a binary64 number a word is one. -/
theorem folded_float (op : Arithmetic) (x : Int64) (y : Binary64) :
    folded op x (float y) =
      match op.rounded (.ofInt x.toInt) y with
      | some z => .ok (.number (float z))
      | none => .error (.arithmetic .divisionByZero) := by
  rw [folded_eq, apply]
  dsimp only [integer?, toBinary64]
  cases op.rounded (.ofInt x.toInt) y <;> rfl

theorem ne_nan_of_folded (ha : a.isFinite = true) (h : folded op x a = .ok (.number m)) :
    m ≠ float .nan := by
  rintro rfl
  cases hn : a.integer? with
  | some n =>
    rw [folded_word op x hn] at h
    split at h
    · cases h
    · split at h
      · rename_i hm
        cases h
        cases (ofInteger?_eq_some_iff.mp hm).1
      · cases h
  | none =>
    obtain ⟨y, rfl⟩ := exists_float hn
    rw [folded_float] at h
    split at h
    · rename_i hz
      cases h
      exact Arithmetic.ne_nan_of_rounded (isFinite_of_integer? (a := signed x) rfl) ha hz rfl
    · cases h

/-- What is combined with a finite number is like itself. -/
theorem alike_self (ha : a.isFinite = true) : Alike (folded op x a) (folded op x a) := by
  have hne : ∀ m, folded op x a = .ok (.number m) → m ≠ float .nan := fun _ => ne_nan_of_folded ha
  rw [folded_eq] at hne ⊢
  cases h : apply op (signed x) a with
  | error err => exact .errors _ _
  | ok m =>
    rw [h] at hne
    exact .numbers (compare?_self (hne m rfl))

/-- **The exact condition**: the result on integers is held by a signed word and is rounded to the
other one. -/
theorem alike_iff (ha : a.integer? = some n) (h : ¬(op.isDivision = true ∧ n = 0)) :
    Alike (folded op x a) (.ok (.number (float y))) ↔
      Word.Fits (op.result x.toInt n) ∧ y.IsRounded (op.result x.toInt n) := by
  have hfits : (∃ m, ofInteger? false (op.result x.toInt n) = some m) ↔
      Word.Fits (op.result x.toInt n) := by
    rw [exists_ofInteger?_iff]
    simp [MayHold, Word.Fits]
  rw [folded_word op x ha, if_neg h, ← hfits]
  cases hm : ofInteger? false (op.result x.toInt n) with
  | none => exact iff_of_false (fun h => by cases h) (by simp)
  | some m =>
    dsimp only
    rw [alike_numbers_iff, compare?_float_eq_iff (ofInteger?_eq_some_iff.mp hm).1]
    exact (and_iff_right ⟨m, rfl⟩).symm

/-- Constants of one text in representations of one kind are folded to the same. -/
theorem folded_eq_of_text (ha : a.isFinite = true) (hb : b.isFinite = true)
    (htext : a.text = b.text) (h : a.isIntegral = b.isIntegral) :
    folded op x a = folded op x b := by
  cases hn : a.integer? with
  | some n =>
    rw [isIntegral, isIntegral, hn, Option.isSome_some] at h
    obtain ⟨r, hr⟩ := Option.isSome_iff_exists.mp h.symm
    obtain rfl := integer?_eq_of_text hn hr htext
    rw [folded_word op x hn, folded_word op x hr]
  | none =>
    rw [isIntegral, isIntegral, hn, Option.isSome_none] at h
    obtain ⟨y, rfl⟩ := exists_float hn
    have hb' := Option.isNone_iff_eq_none.mp (Option.isSome_eq_false_iff.mp h.symm)
    obtain ⟨z, rfl⟩ := exists_float hb'
    have hsame : y = z := Binary64.text_injective ha hb htext
    rw [hsame]

/-- **Constants of one text are folded alike only within a representation.** Two numbers that are
quoted with the same text are the same beside a column. What folding makes of a word and either of
them is the same, too, if both are whole representations or both are none. If one of them is whole
and the other one is not, the other one is what the first is rounded to, and both are refused as
divisors if they are zero. Else the other one always has a result, and the two are alike exactly if
the result on integers is held by a signed word and is rounded to that. For integers of 53 bits this
means that a product is held and that a quotient leaves nothing over; sums, differences and
remainders are always alike. -/
theorem folded_of_quoted {a b : Number} {s : String} (d : Dialect)
    (ha : d.quoteValue (.number a) = .ok s) (hb : d.quoteValue (.number b) = .ok s)
    (op : Arithmetic) (x : Int64) :
    (∀ name, ∀ c ∈ [a, b],
        (Expr.binary (.arithmetic op) (.column name none) (.constant (.number c))).compile d =
          .ok (Sql.operatorText (.arithmetic op) (Text.identifier name) s)) ∧
      (a.isIntegral = b.isIntegral →
        folded op x a = folded op x b ∧ Alike (folded op x a) (folded op x b)) ∧
      ∀ n, a.integer? = some n → b.integer? = none →
        b = float (.ofInt n) ∧
        (op.isDivision = true ∧ n = 0 →
          ∀ c ∈ [a, b], folded op x c = .error (.arithmetic .divisionByZero)) ∧
        (¬(op.isDivision = true ∧ n = 0) → ∃ y, folded op x b = .ok (.number (float y)) ∧
          (Alike (folded op x a) (folded op x b) ↔
            Word.Fits (op.result x.toInt n) ∧ y.IsRounded (op.result x.toInt n)) ∧
          (x.toInt.natAbs ≤ 0x20000000000000 → n.natAbs ≤ 0x20000000000000 →
            (Alike (folded op x a) (folded op x b) ↔
              (op = .mul → Word.Fits (x.toInt * n)) ∧ (op = .div → n ∣ x.toInt)))) := by
  obtain ⟨hfa, rfl⟩ := quoteValue_eq_ok_iff.mp ha
  obtain ⟨hfb, htext⟩ := quoteValue_eq_ok_iff.mp hb
  refine ⟨fun name => ?_, fun hkind => ?_, fun n hn hnone => ?_⟩
  · simp only [List.forall_mem_cons, List.not_mem_nil, false_imp_iff, implies_true, and_true]
    exact ⟨compile_column_number d op name hfa, htext ▸ compile_column_number d op name hfb⟩
  · have hsame : folded op x a = folded op x b := folded_eq_of_text hfa hfb htext.symm hkind
    refine ⟨hsame, ?_⟩
    rw [← hsame]
    exact alike_self hfa
  · obtain rfl := eq_ofInt_of_text hn hnone hfb htext.symm
    have hnone : op.rounded (.ofInt x.toInt) (.ofInt n) = none ↔ op.isDivision = true ∧ n = 0 :=
      Arithmetic.rounded_ofInt_eq_none_iff (natAbs_le_of_integer? hn)
    refine ⟨rfl, fun hzero => ?_, fun hnonzero => ?_⟩
    · simp only [List.forall_mem_cons, List.not_mem_nil, false_imp_iff, implies_true, and_true]
      exact ⟨by rw [folded_word op x hn, if_pos hzero], by rw [folded_float, hnone.mpr hzero]⟩
    · obtain ⟨y, hy⟩ := Option.ne_none_iff_exists'.mp (mt hnone.mp hnonzero)
      have hfolded : folded op x (float (.ofInt n)) = .ok (.number (float y)) := by
        rw [folded_float, hy]
      have halike := alike_iff (x := x) (y := y) hn hnonzero
      rw [hfolded]
      refine ⟨y, rfl, halike, fun hx hn' => halike.trans ?_⟩
      rw [← Arithmetic.fits_result_iff hx hn', ← Arithmetic.rank?_rounded_iff hx hn' hy]
      refine and_congr_right fun hfits => Binary64.isRounded_iff ?_
      unfold Word.Fits at hfits
      omega

/-- Half of seven is another one in binary64, half of eight is not. -/
theorem halves_of_seven_and_eight :
    ¬Alike (folded .div 7 (unsigned 2)) (folded .div 7 (float (.ofInt 2))) ∧
      Alike (folded .div 8 (unsigned 2)) (folded .div 8 (float (.ofInt 2))) := by
  have hword : Dialect.sqlite.quoteValue (.number (unsigned 2)) = .ok "2" :=
    quoteValue_eq_ok_iff.mpr ⟨by decide +kernel, by decide +kernel⟩
  have hfloat : Dialect.sqlite.quoteValue (.number (float (.ofInt 2))) = .ok "2" :=
    quoteValue_eq_ok_iff.mpr ⟨by decide +kernel, by decide +kernel⟩
  obtain ⟨-, -, hodd⟩ := folded_of_quoted .sqlite hword hfloat .div 7
  obtain ⟨-, -, heven⟩ := folded_of_quoted .sqlite hword hfloat .div 8
  obtain ⟨-, -, hodd⟩ := hodd 2 rfl rfl
  obtain ⟨-, -, heven⟩ := heven 2 rfl rfl
  obtain ⟨-, -, -, hodd⟩ := hodd (by decide)
  obtain ⟨-, -, -, heven⟩ := heven (by decide)
  have hbits : (7 : Int64).toInt.natAbs ≤ 0x20000000000000 := by decide +kernel
  have hbits' : (8 : Int64).toInt.natAbs ≤ 0x20000000000000 := by decide +kernel
  have hodd := hodd hbits (by decide)
  have heven := heven hbits' (by decide)
  have hdvd : ¬(2 : Int) ∣ (7 : Int64).toInt := by decide
  have hdvd' : (2 : Int) ∣ (8 : Int64).toInt := by decide
  exact ⟨fun h => hdvd ((hodd.mp h).2 rfl), heven.mpr ⟨nofun, fun _ => hdvd'⟩⟩

/-- **The text does not say what a division is**: one of two halves is rounded down. -/
theorem halves_of_seven :
    Dialect.sqlite.quoteValue (.number (signed 2)) = .ok "2" ∧
      Dialect.sqlite.quoteValue (.number (float (.ofInt 2))) = .ok "2" ∧
      folded .div 7 (signed 2) = .ok (.number (signed 3)) ∧
      folded .div 7 (float (.ofInt 2)) = .ok (.number (float (.ofDecimal 35 (-1)))) ∧
      ¬Alike (folded .div 7 (signed 2)) (folded .div 7 (float (.ofInt 2))) := by
  have hword : folded .div 7 (signed 2) = .ok (.number (signed 3)) := by
    rw [folded_word .div 7 (n := 2) rfl]
    rfl
  have hfloat : folded .div 7 (float (.ofInt 2)) = .ok (.number (float (.ofDecimal 35 (-1)))) := by
    have hdiv : Arithmetic.rounded .div (.ofInt (7 : Int64).toInt) (.ofInt 2) =
        some (.ofDecimal 35 (-1)) := by decide +kernel
    rw [folded_float, hdiv]
  refine ⟨quoteValue_eq_ok_iff.mpr ⟨by decide +kernel, by decide +kernel⟩,
    quoteValue_eq_ok_iff.mpr ⟨by decide +kernel, by decide +kernel⟩, hword, hfloat, ?_⟩
  rw [hword, hfloat, alike_numbers_iff]
  decide +kernel

end Number

end WhereClause

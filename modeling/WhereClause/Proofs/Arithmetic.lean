import WhereClause.Proofs.Operand

/-!
# Folding of integers

A tree of arithmetic over whole constants has a value as integers have it, which no word bounds. The
host computes it in words, from node to node, and each node has to hold its result: as an unsigned
word only if both operands are held as unsigned words. Where every node can, what the host has in the
end is the value, and elsewhere it has nothing. The word of double width between two nodes never
shows: what a node may hold lies well inside it.

Headlines:
* `Number.bind_wide?_ofInteger?`: a result that may be held survives the word of double width.
* `Number.apply_eq_ok_iff`, `Number.exists_apply_iff`: one step of arithmetic.
* `IntegerTree.reduce_of_fits`, `IntegerTree.reduce_of_not_fits`: whole trees, by induction.
* `IntegerTree.folds_exactly`: which trees are folded, to what, and what is written for them.
-/

namespace WhereClause

/-! ## Operations -/

namespace Arithmetic

/-- Whether the operation divides. -/
def isDivision : Arithmetic → Bool
  | .div | .mod => true
  | _ => false

/-- The result on integers. Division truncates toward zero, and a remainder has the sign of the
dividend. -/
def result : Arithmetic → Int → Int → Int
  | .add, x, y => x + y
  | .sub, x, y => x - y
  | .mul, x, y => x * y
  | .div, x, y => x.tdiv y
  | .mod, x, y => x.tmod y

theorem exact_eq (op : Arithmetic) (x y : Int) :
    op.exact x y = if op.isDivision = true ∧ y = 0 then none else some (op.result x y) := by
  cases op <;> simp [exact, isDivision, result]

theorem result_comm {op : Arithmetic} (h : op = .add ∨ op = .mul) (x y : Int) :
    op.result x y = op.result y x := by
  rcases h with rfl | rfl
  · exact Int.add_comm x y
  · exact Int.mul_comm x y

end Arithmetic

/-! ## Steps -/

namespace Number

/-- What may be held: signed words, and unsigned ones too if both operands are unsigned. -/
def MayHold (unsigned : Bool) (n : Int) : Prop :=
  (-9223372036854775808 ≤ n ∧ n ≤ 9223372036854775807) ∨
    unsigned = true ∧ 0 ≤ n ∧ n ≤ 18446744073709551615

instance (unsigned : Bool) (n : Int) : Decidable (MayHold unsigned n) :=
  inferInstanceAs (Decidable (_ ∨ _))

theorem map_signed_eq_some_iff {n : Int} {m : Number} :
    (Word.signed? n).map signed = some m ↔ m.integer? = some n ∧ m.isUnsigned = false := by
  simp only [Option.map_eq_some_iff, Word.signed?_eq_some_iff]
  constructor
  · rintro ⟨w, rfl, rfl⟩
    exact ⟨rfl, rfl⟩
  · rintro ⟨hvalue, hsigned⟩
    cases m with
    | signed w => exact ⟨w, Option.some.inj hvalue, rfl⟩
    | unsigned w => cases hsigned
    | float x => cases hvalue

theorem map_unsigned_eq_some_iff {n : Int} {m : Number} :
    (Word.unsigned? n).map unsigned = some m ↔ m.integer? = some n ∧ m.isUnsigned = true := by
  simp only [Option.map_eq_some_iff, Word.unsigned?_eq_some_iff]
  constructor
  · rintro ⟨w, rfl, rfl⟩
    exact ⟨rfl, rfl⟩
  · rintro ⟨hvalue, hunsigned⟩
    cases m with
    | unsigned w => exact ⟨w, Option.some.inj hvalue, rfl⟩
    | _ => cases hunsigned

theorem eq_of_integer?_eq {m n : Number} {x : Int} (hm : m.integer? = some x)
    (hn : n.integer? = some x) (h : m.isUnsigned = n.isUnsigned) : m = n := by
  cases hunsigned : n.isUnsigned with
  | false =>
    have hleft := map_signed_eq_some_iff.mpr ⟨hm, h.trans hunsigned⟩
    have hright := map_signed_eq_some_iff.mpr ⟨hn, hunsigned⟩
    exact Option.some.inj (hleft.symm.trans hright)
  | true =>
    have hleft := map_unsigned_eq_some_iff.mpr ⟨hm, h.trans hunsigned⟩
    have hright := map_unsigned_eq_some_iff.mpr ⟨hn, hunsigned⟩
    exact Option.some.inj (hleft.symm.trans hright)

/-- **A result is held as an unsigned word** if that is preferred and it is not negative, and as a
signed word otherwise. -/
theorem ofInteger?_eq_some_iff {preferUnsigned : Bool} {n : Int} {m : Number} :
    ofInteger? preferUnsigned n = some m ↔
      m.integer? = some n ∧ m.isUnsigned = (preferUnsigned && decide (0 ≤ n)) := by
  unfold ofInteger?
  by_cases h : preferUnsigned = true ∧ 0 ≤ n
  · obtain ⟨rfl, hn⟩ := h
    rw [if_pos rfl, Bool.true_and, decide_eq_true hn, ← map_unsigned_eq_some_iff]
    cases hw : Word.unsigned? n with
    | some w => rfl
    | none =>
      -- What is too large for an unsigned word is too large for a signed one.
      have hlarge : n < 0 ∨ 18446744073709551615 < n := Word.unsigned?_eq_none_iff.mp hw
      rw [Word.signed?_eq_none_iff.mpr (by omega)]
      rfl
  · have hsigned : (preferUnsigned && decide (0 ≤ n)) = false := by simpa using h
    have hnone : (if preferUnsigned = true then Word.unsigned? n else none) = none := by
      split
      · rename_i hprefer
        exact Word.unsigned?_eq_none_iff.mpr (Or.inl (Int.not_le.mp fun hn => h ⟨hprefer, hn⟩))
      · rfl
    rw [hnone, hsigned, ← map_signed_eq_some_iff]

theorem exists_ofInteger?_iff {preferUnsigned : Bool} {n : Int} :
    (∃ m, ofInteger? preferUnsigned n = some m) ↔ MayHold preferUnsigned n := by
  have hsigned : (∃ w, Word.signed? n = some w) ↔
      -9223372036854775808 ≤ n ∧ n ≤ 9223372036854775807 := by
    unfold Word.signed?
    split <;> simp [*]
  have hunsigned : (∃ w, Word.unsigned? n = some w) ↔ 0 ≤ n ∧ n ≤ 18446744073709551615 := by
    unfold Word.unsigned?
    split <;> simp [*]
  rw [MayHold, ← hsigned, ← hunsigned]
  unfold ofInteger?
  cases preferUnsigned <;> cases Word.unsigned? n <;> cases Word.signed? n <;> simp

/-- **What may be held survives the word of double width**, and what does not is refused anyway. -/
theorem bind_wide?_ofInteger? (preferUnsigned : Bool) (n : Int) :
    (Word.wide? n).bind (ofInteger? preferUnsigned) = ofInteger? preferUnsigned n := by
  unfold Word.wide?
  split
  · rfl
  · rename_i hwide
    have hhold : ¬MayHold preferUnsigned n := by
      rintro (h | ⟨-, h⟩) <;> omega
    rw [← exists_ofInteger?_iff] at hhold
    exact (Option.eq_none_iff_forall_ne_some.mpr fun m hm => hhold ⟨m, hm⟩).symm

variable {op : Arithmetic} {a b m : Number} {x y : Int}

/-- **A step is exact**: it gives the result on the integers, in the representation that is due. -/
theorem apply_eq_ok_iff (ha : a.integer? = some x) (hb : b.integer? = some y) :
    apply op a b = .ok m ↔
      ¬(op.isDivision = true ∧ y = 0) ∧ m.integer? = some (op.result x y) ∧
        m.isUnsigned = (a.isUnsigned && b.isUnsigned && decide (0 ≤ op.result x y)) := by
  rw [← ofInteger?_eq_some_iff]
  simp only [apply, ha, hb, Arithmetic.exact_eq]
  by_cases h : op.isDivision = true ∧ y = 0
  · simp [h]
  · rw [if_neg h]
    simp only [bind_wide?_ofInteger?]
    cases ofInteger? (a.isUnsigned && b.isUnsigned) (op.result x y) <;> simp [h]

/-- **A step succeeds exactly if its result may be held.** -/
theorem exists_apply_iff (ha : a.integer? = some x) (hb : b.integer? = some y) :
    (∃ m, apply op a b = .ok m) ↔
      ¬(op.isDivision = true ∧ y = 0) ∧
        MayHold (a.isUnsigned && b.isUnsigned) (op.result x y) := by
  simp only [apply_eq_ok_iff ha hb, ← exists_ofInteger?_iff, ← ofInteger?_eq_some_iff,
    exists_and_left]

end Number

/-! ## The text of comparisons -/

namespace Sql

theorem operatorText_comparison (c : Comparison) (x y : String) :
    operatorText (.comparison c) x y = "(" ++ x ++ " " ++ c.sql ++ " " ++ y ++ ")" := by
  rw [operatorText, if_neg (by simp [Operator.isFunction])]
  rfl

end Sql

/-! ## Trees -/

/-- A tree of arithmetic over whole constants. -/
inductive IntegerTree where
  | signed (n : Int64)
  | unsigned (n : UInt64)
  | node (op : Arithmetic) (left right : IntegerTree)
  deriving Repr, DecidableEq

namespace IntegerTree

/-- The expression that the tree stands for. -/
def expr : IntegerTree → Expr
  | signed n => .constant (.number (.signed n))
  | unsigned n => .constant (.number (.unsigned n))
  | node op left right => .binary (.arithmetic op) left.expr right.expr

/-- The value of the tree, as integers have it. -/
def value : IntegerTree → Int
  | signed n => n.toInt
  | unsigned n => n.toNat
  | node op left right => op.result left.value right.value

/-- Whether the root is held as an unsigned word: both operands are, and its value is not
negative. -/
def isUnsigned : IntegerTree → Bool
  | signed _ => false
  | unsigned _ => true
  | node op left right =>
    left.isUnsigned && right.isUnsigned && decide (0 ≤ op.result left.value right.value)

/-- No node of the tree divides by zero, and each may hold its value. -/
def Fits : IntegerTree → Prop
  | signed _ | unsigned _ => True
  | node op left right =>
    left.Fits ∧ right.Fits ∧ ¬(op.isDivision = true ∧ right.value = 0) ∧
      Number.MayHold (left.isUnsigned && right.isUnsigned) (op.result left.value right.value)

instance decidableFits : (t : IntegerTree) → Decidable t.Fits
  | signed _ | unsigned _ => isTrue trivial
  | node _ left right =>
    have := decidableFits left
    have := decidableFits right
    inferInstanceAs (Decidable (left.Fits ∧ right.Fits ∧ _ ∧ Number.MayHold _ _))

/-- The number holds the value of the tree, in the representation that is due. -/
structure IsHeldAs (t : IntegerTree) (n : Number) : Prop where
  integer?_eq : n.integer? = some t.value
  isUnsigned_eq : n.isUnsigned = t.isUnsigned

variable {op : Arithmetic} {l r t : IntegerTree} {m n : Number}

theorem reduce_node (hl : l.expr.reduce = .ok (.value (.number m)))
    (hr : r.expr.reduce = .ok (.value (.number n))) :
    (node op l r).expr.reduce =
      ((Number.apply op m n).mapError fun err => .evaluation (.arithmetic err)).map fun k =>
        .value (.number k) := by
  rw [expr, Expr.reduce, hl, hr]
  refine (Reduced.combine_values _ _ _).trans ?_
  rw [Operator.eval, Arithmetic.eval]
  cases Number.apply op m n <;> rfl

/-- **Trees that fit are folded to their values**, by induction on them. -/
theorem reduce_of_fits (h : t.Fits) :
    ∃ n, t.expr.reduce = .ok (.value (.number n)) ∧ t.IsHeldAs n := by
  induction t with
  | signed n => exact ⟨.signed n, rfl, rfl, rfl⟩
  | unsigned n => exact ⟨.unsigned n, rfl, rfl, rfl⟩
  | node _ l r ihl ihr =>
    obtain ⟨hl, hr, hzero, hhold⟩ := h
    obtain ⟨a, ha, hva, hua⟩ := ihl hl
    obtain ⟨b, hb, hvb, hub⟩ := ihr hr
    rw [← hua, ← hub] at hhold
    obtain ⟨n, hn⟩ := (Number.exists_apply_iff hva hvb).mpr ⟨hzero, hhold⟩
    obtain ⟨-, hvalue, hunsigned⟩ := (Number.apply_eq_ok_iff hva hvb).mp hn
    refine ⟨n, ?_, hvalue, ?_⟩
    · rw [reduce_node ha hb, hn]
      rfl
    · rw [hunsigned, hua, hub]
      rfl

/-- **Trees that do not fit cannot be evaluated**: the first node that cannot hold its value is the
one that fails. -/
theorem reduce_of_not_fits (h : ¬t.Fits) :
    ∃ err, t.expr.reduce = .error (.evaluation (.arithmetic err)) := by
  induction t with
  | signed n => exact absurd trivial h
  | unsigned n => exact absurd trivial h
  | node op l r ihl ihr =>
    -- The left operand fails, or else the right one, or else their combination.
    by_cases hl : l.Fits
    · obtain ⟨a, ha, hva, hua⟩ := reduce_of_fits hl
      by_cases hr : r.Fits
      · obtain ⟨b, hb, hvb, hub⟩ := reduce_of_fits hr
        have hnone : ¬∃ n, Number.apply op a b = .ok n := by
          rw [Number.exists_apply_iff hva hvb, hua, hub]
          exact fun hroot => h ⟨hl, hr, hroot⟩
        cases hn : Number.apply op a b with
        | ok n => exact absurd ⟨n, hn⟩ hnone
        | error err =>
          refine ⟨err, ?_⟩
          rw [reduce_node ha hb, hn]
          rfl
      · obtain ⟨err, herr⟩ := ihr hr
        exact ⟨err, Expr.reduce_binary_of_error_right ha herr⟩
    · obtain ⟨err, herr⟩ := ihl hl
      exact ⟨err, Expr.reduce_binary_of_error_left herr _⟩

/-- The product of the greatest unsigned words is beyond the word of double width as well. -/
example : ¬(node .mul (unsigned 18446744073709551615) (unsigned 18446744073709551615)).Fits := by
  decide +kernel

/-- **Sums and products may be exchanged.** -/
theorem reduce_node_comm (hop : op = .add ∨ op = .mul) (l r : IntegerTree) :
    (node op l r).expr.reduce.toOption = (node op r l).expr.reduce.toOption := by
  have hvalue : (node op r l).value = (node op l r).value := Arithmetic.result_comm hop _ _
  have hunsigned : (node op r l).isUnsigned = (node op l r).isUnsigned := by
    rw [isUnsigned, isUnsigned, Arithmetic.result_comm hop, Bool.and_comm r.isUnsigned]
  have hfits : (node op r l).Fits ↔ (node op l r).Fits := by
    have hdivision : op.isDivision = false := by rcases hop with rfl | rfl <;> rfl
    rw [Fits, Fits, Arithmetic.result_comm hop, Bool.and_comm r.isUnsigned, hdivision]
    simp only [Bool.false_eq_true, false_and, not_false_eq_true, true_and]
    exact and_left_comm
  by_cases h : (node op l r).Fits
  · obtain ⟨m, hm, hvm, hum⟩ := reduce_of_fits h
    obtain ⟨n, hn, hvn, hun⟩ := reduce_of_fits (hfits.mpr h)
    rw [hvalue] at hvn
    rw [hunsigned, ← hum] at hun
    rw [hm, hn, Number.eq_of_integer?_eq hvn hvm hun]
  · obtain ⟨err, herr⟩ := reduce_of_not_fits h
    obtain ⟨err', herr'⟩ := reduce_of_not_fits (mt hfits.mp h)
    rw [herr, herr']
    rfl

/-- **Integer folding is exact.** A tree is folded exactly if it fits, to its value in the
representation that is due, and beside a column the value is written in decimal digits. (Beside a
column of an enum a number is an ordinal instead, as `compile_column_ordinal` says.) A tree that does
not fit fails in the evaluation, wherever it stands. Sums and products may be exchanged. -/
theorem folds_exactly (t : IntegerTree) (d : Dialect) (c : Comparison) (name : String) :
    ((∃ r, t.expr.reduce = .ok r) ↔ t.Fits) ∧
      (t.Fits → ∃ n, t.expr.reduce = .ok (.value (.number n)) ∧
        n.integer? = some t.value ∧ n.isUnsigned = t.isUnsigned ∧
        (Expr.binary (.comparison c) (.column name none) t.expr).compile d =
          .ok ("(" ++ Text.identifier name ++ " " ++ c.sql ++ " " ++ Text.ofInt t.value ++ ")") ∧
        (Expr.binary (.comparison c) t.expr (.column name none)).compile d =
          .ok ("(" ++ Text.ofInt t.value ++ " " ++ c.sql ++ " " ++ Text.identifier name ++ ")")) ∧
      (¬t.Fits → ∃ err, t.expr.reduce = .error (.evaluation err) ∧
        t.expr.compile d = .error (.evaluation err) ∧
        ∀ enum,
          (Expr.binary (.comparison c) (.column name enum) t.expr).compile d =
            .error (.evaluation err) ∧
          (Expr.binary (.comparison c) t.expr (.column name enum)).compile d =
            .error (.evaluation err)) ∧
      ∀ op ∈ [Arithmetic.add, .mul], ∀ l r,
        (node op l r).expr.reduce.toOption = (node op r l).expr.reduce.toOption := by
  refine ⟨⟨fun ⟨r, hr⟩ => ?_, fun h => ?_⟩, fun h => ?_, fun h => ?_, fun op hop l r => ?_⟩
  · apply Decidable.byContradiction
    intro h
    obtain ⟨err, herr⟩ := reduce_of_not_fits h
    rw [hr] at herr
    cases herr
  · obtain ⟨n, hn, -⟩ := reduce_of_fits h
    exact ⟨_, hn⟩
  · obtain ⟨n, hn, hvalue, hunsigned⟩ := reduce_of_fits h
    have hliteral := Reduced.toSqlFor_none_number hvalue
    refine ⟨n, hn, hvalue, hunsigned, ?_, ?_⟩
    · rw [Expr.compile_column_value d name rfl hn hliteral nofun, Sql.operatorText_comparison]
      rfl
    · rw [Expr.compile_value_column d name rfl hn hliteral nofun, Sql.operatorText_comparison]
      rfl
  · obtain ⟨err, herr⟩ := reduce_of_not_fits h
    refine ⟨_, herr, Expr.compile_of_reduce_error d herr, fun enum => ⟨?_, ?_⟩⟩
    · exact Expr.compile_of_reduce_error d
        (Expr.reduce_binary_of_error_right (Expr.reduce_column name enum) herr)
    · exact Expr.compile_of_reduce_error d (Expr.reduce_binary_of_error_left herr _)
  · exact reduce_node_comm (by simpa using hop) l r

/-- The least signed word has a remainder by minus one, but no quotient. -/
theorem remainder_without_quotient :
    (∃ n, (node .mod (signed (-9223372036854775808)) (signed (-1))).expr.reduce =
        .ok (.value (.number n)) ∧ n.integer? = some 0 ∧ n.isUnsigned = false) ∧
      ∃ err, (node .div (signed (-9223372036854775808)) (signed (-1))).expr.reduce =
        .error (.evaluation err) := by
  have hremainder : (node .mod (signed (-9223372036854775808)) (signed (-1))).Fits := by
    decide +kernel
  have hquotient : ¬(node .div (signed (-9223372036854775808)) (signed (-1))).Fits := by
    decide +kernel
  obtain ⟨n, hn, hvalue, hunsigned, -⟩ := (folds_exactly _ .sqlite .eq "balance").2.1 hremainder
  obtain ⟨err, herr, -⟩ := (folds_exactly _ .sqlite .eq "balance").2.2.1 hquotient
  exact ⟨⟨n, hn, hvalue, hunsigned⟩, err, herr⟩

end IntegerTree

end WhereClause

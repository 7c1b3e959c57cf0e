import WhereClause.Proofs.Simulation
import WhereClause.Proofs.Sql
import WhereClause.Proofs.Tree.Reading

/-!
# Grouping

Whether a reader by precedence finds the nesting that SQL stands for. Operators and null tests stand
in parentheses, and functions bring their own. Negations, searches and the tests of single columns
have none, so that each operator has to be looked at beside the operands it is given (`fits`).

All is well as long as predicates are joined by connectives only. A negation on the left of a
comparison, a null test, an arithmetic operator or a search takes the operator for a part of its own
operand. A test or a search on the right of a comparison, or on either side of an arithmetic
operator, loses its operand to that operator.

Headlines:
* `Sql.ordered_tree_iff`: no parentheses are missing exactly if all operands fit.
* `Expr.compile_read_iff`: so the text of a predicate is read with the nesting of its SQL exactly if
  they do.
-/

namespace WhereClause

namespace Sql

/-- The text is a comparison that stands in no parentheses. -/
def isBareComparison : Sql → Bool
  | columnIs _ _ => true
  | method (.search _ _) _ => true
  | _ => false

/-- The text is a negation, which never stands in parentheses. -/
def isNegation : Sql → Bool
  | not _ => true
  | _ => false

/-- The operands of an operator have all the parentheses that they need beside it. -/
def fits (op : Operator) (left right : Sql) : Bool :=
  match op with
  | .connective _ | .arithmetic .mod | .coalesce => true
  | .comparison _ => !left.isNegation && !right.isBareComparison
  | .arithmetic _ =>
    !left.isNegation && !left.isBareComparison && !right.isBareComparison

/-- The operand of a method has all the parentheses that it needs. -/
def fitsMethod (m : TextMethod) (x : Sql) : Bool :=
  match m with
  | .search _ _ => !x.isNegation
  | _ => true

/-- All operands have the parentheses that they need. -/
def isGrouped : Sql → Bool
  | column _ | literal _ | truth _ | columnIs _ _ => true
  | binary op left right => isGrouped left && isGrouped right && fits op left right
  | nullTest _ x => isGrouped x && !x.isNegation
  | method m x => isGrouped x && fitsMethod m x
  | not x => isGrouped x

/-! ## What is open at the ends of a text -/

variable {d : Dialect}

theorem leading_operatorTree (op : Operator) (x y : Tree) :
    (operatorTree op x y).leading = Tree.atomLevel := by
  cases op with
  | arithmetic a => cases a <;> rfl
  | _ => rfl

theorem trailing_operatorTree (op : Operator) (x y : Tree) :
    (operatorTree op x y).trailing = Tree.atomLevel := by
  cases op with
  | arithmetic a => cases a <;> rfl
  | _ => rfl

/-- A comparison without parentheses is open in front. -/
theorem leading_tree (x : Sql) :
    (x.tree d).leading = if x.isBareComparison then Infix.like.level else Tree.atomLevel := by
  induction x with
  | binary op left right _ _ => exact leading_operatorTree op _ _
  | method m x ih =>
    cases m with
    | search place needle =>
      have hle : Infix.like.level ≤ (x.tree d).leading := by
        rw [ih]
        split <;> decide
      exact Nat.min_eq_left hle
    | _ => rfl
  | _ => rfl

/-- A comparison without parentheses, and a negation, are open at the end. -/
theorem trailing_tree (x : Sql) :
    (x.tree d).trailing =
      if x.isNegation then notLevel
      else if x.isBareComparison then Infix.like.level else Tree.atomLevel := by
  induction x with
  | binary op left right _ _ => exact trailing_operatorTree op _ _
  | method m x _ => cases m <;> rfl
  | not x ih =>
    have hle : notLevel ≤ (x.tree d).trailing := by
      rw [ih]
      split
      · decide
      · split <;> decide
    exact Nat.min_eq_left hle
  | _ => rfl

/-- What an operator asks of the operand on its left. -/
theorem le_trailing_iff (op : Infix) (x : Sql) :
    op.level ≤ (x.tree d).trailing ↔
      (x.isNegation = true → op.level ≤ notLevel) ∧
        (x.isBareComparison = true → op.level ≤ Infix.like.level) := by
  have hatom : op.level ≤ Tree.atomLevel := Nat.le_of_lt (Tree.level_lt_atomLevel op)
  have hnot : notLevel ≤ Infix.like.level := by decide
  rw [trailing_tree]
  by_cases hn : x.isNegation = true
  · rw [if_pos hn]
    exact ⟨fun h => ⟨fun _ => h, fun _ => Nat.le_trans h hnot⟩, fun h => h.1 hn⟩
  · rw [if_neg hn]
    by_cases hb : x.isBareComparison = true
    · rw [if_pos hb]
      exact ⟨fun h => ⟨fun h' => absurd h' hn, fun _ => h⟩, fun h => h.2 hb⟩
    · rw [if_neg hb]
      exact ⟨fun _ => ⟨fun h => absurd h hn, fun h => absurd h hb⟩, fun _ => hatom⟩

/-- What an operator asks of the operand on its right. -/
theorem lt_leading_iff (op : Infix) (x : Sql) :
    op.level < (x.tree d).leading ↔
      (x.isBareComparison = true → op.level < Infix.like.level) := by
  rw [leading_tree]
  by_cases hb : x.isBareComparison = true
  · rw [if_pos hb]
    exact ⟨fun h _ => h, fun h => h hb⟩
  · rw [if_neg hb]
    exact ⟨fun _ h => absurd h hb, fun _ => Tree.level_lt_atomLevel op⟩

/-! ## Missing parentheses -/

theorem ordered_leaves (op : Infix) (o p : Operand) :
    (Tree.binary op (.leaf o) (.leaf p)).Ordered :=
  ⟨trivial, trivial, Nat.le_of_lt (Tree.level_lt_atomLevel op), Tree.level_lt_atomLevel op⟩

theorem ordered_operatorTree_iff (op : Operator) (x y : Sql) :
    (operatorTree op (x.tree d) (y.tree d)).Ordered ↔
      (x.tree d).Ordered ∧ (y.tree d).Ordered ∧ fits op x y = true := by
  have hinfix : ∀ i : Infix, (Tree.group (.binary i (x.tree d) (y.tree d))).Ordered ↔
      (x.tree d).Ordered ∧ (y.tree d).Ordered ∧
        ((x.isNegation = true → i.level ≤ notLevel) ∧
          (x.isBareComparison = true → i.level ≤ Infix.like.level)) ∧
        (y.isBareComparison = true → i.level < Infix.like.level) := by
    intro i
    rw [← le_trailing_iff i x (d := d), ← lt_leading_iff i y (d := d)]
    rfl
  cases op with
  | connective c =>
    rw [operatorTree, hinfix]
    cases c <;> simp [fits, Infix.level, notLevel]
  | comparison c =>
    rw [operatorTree, hinfix]
    simp [fits, Infix.level, notLevel]
  | arithmetic a =>
    cases a with
    | mod => simp [operatorTree, Tree.Ordered, fits]
    | _ =>
      rw [operatorTree, hinfix]
      simp [fits, Infix.level, notLevel, and_assoc]
  | coalesce => simp [operatorTree, Tree.Ordered, fits]

/-- A search and a null test have only the operand on their left to lose. -/
theorem ordered_test_iff {op : Infix} (hop : op.level = Infix.like.level) (x : Sql) (o : Operand) :
    (Tree.binary op (x.tree d) (.leaf o)).Ordered ↔
      (x.tree d).Ordered ∧ (!x.isNegation) = true := by
  have hleft : op.level ≤ (x.tree d).trailing ↔ (!x.isNegation) = true := by
    rw [le_trailing_iff, hop]
    simp [Infix.level, notLevel]
  have hright : op.level < (Tree.leaf o).leading := Tree.level_lt_atomLevel op
  exact ⟨fun h => ⟨h.1, hleft.mp h.2.2.1⟩, fun h => ⟨h.1, trivial, hleft.mpr h.2, hright⟩⟩

theorem ordered_methodTree_iff (m : TextMethod) (x : Sql) :
    (methodTree d (x.tree d) m).Ordered ↔ (x.tree d).Ordered ∧ fitsMethod m x = true := by
  cases m with
  | search place needle => exact ordered_test_iff rfl x _
  | _ => simp [methodTree, Tree.Ordered, fitsMethod]

/-- **No parentheses are missing exactly if all operands fit.** -/
theorem ordered_tree_iff (x : Sql) : (x.tree d).Ordered ↔ x.isGrouped = true := by
  induction x with
  | column c => exact iff_of_true trivial rfl
  | literal l => exact iff_of_true trivial rfl
  | truth b => exact iff_of_true (ordered_leaves _ _ _) rfl
  | columnIs name b => exact iff_of_true (ordered_leaves _ _ _) rfl
  | binary op left right ihl ihr =>
    rw [tree, ordered_operatorTree_iff, ihl, ihr, isGrouped, Bool.and_eq_true, Bool.and_eq_true,
      and_assoc]
  | nullTest isNull x ih =>
    rw [isGrouped, Bool.and_eq_true, ← ih]
    cases isNull
    · exact ordered_test_iff rfl x .null
    · exact ordered_test_iff rfl x .null
  | method m x ih => rw [tree, ordered_methodTree_iff, ih, isGrouped, Bool.and_eq_true]
  | not x ih =>
    have hlead : notLevel < (x.tree d).leading := by
      rw [leading_tree]
      split <;> decide
    rw [isGrouped, ← ih]
    exact and_iff_left hlead

end Sql

/-! ## Predicates -/

namespace Expr

/-- **The text of a predicate is read with the nesting of its SQL exactly if all operands fit.** It
is always read as something; where an operand does not fit, the nesting is another one. In the
nesting of SQL, what stands for a part of it has the tokens of that part's own text. -/
theorem compile_read_iff {d : Dialect} (hd : d.SpellsConstants) {e : Expr} {s : String}
    (h : e.compile d = .ok s) :
    (∀ y : Sql, Token.lex (y.text d).toList = some (y.tree d).tokens) ∧
      ∃ x t, e.predicate = .ok x ∧ x.text d = s ∧ Tree.ofText? s = some t ∧
        (t = x.tree d ↔ x.isGrouped = true) := by
  obtain ⟨x, hx, rfl⟩ := compile_eq_ok_iff.mp h
  have hlex := Sql.lex_text hd
  obtain ⟨t, ht⟩ := (x.tree d).exists_read?_symbols
  rw [← Tree.ofText?_eq_read? (hlex x)] at ht
  refine ⟨hlex, x, t, hx, rfl, ht, ?_⟩
  rw [← x.ordered_tree_iff (d := d), ← Tree.ofText?_eq_some_iff (hlex x), ht, Option.some_inj]

/-- A negation that is compared with a truth value takes the comparison for its operand. -/
theorem misread_compared_negation :
    Dialect.sqlite.SpellsConstants ∧
      (binary (.comparison .eq)
          (not (binary (.comparison .gt) (member row "a" none) (constant (.number (.signed 3)))))
          (constant (.bool true))).compile .sqlite = .ok "(NOT (\"a\" > 3) = 1)" ∧
      ∃ t, Tree.ofText? "(NOT (\"a\" > 3) = 1)" = some t ∧
        t ≠ (Sql.binary (.comparison .eq)
          (.not (.binary (.comparison .gt) (.column ⟨"a", none⟩) (.literal (.integer 3))))
          (.literal (.bool true))).tree .sqlite := by
  have hd := Dialect.spellsLiterals_sqlite.constants
  have h : (binary (.comparison .eq)
      (not (binary (.comparison .gt) (member row "a" none) (constant (.number (.signed 3)))))
      (constant (.bool true))).compile .sqlite = .ok "(NOT (\"a\" > 3) = 1)" := rfl
  refine ⟨hd, h, ?_⟩
  obtain ⟨-, x, t, hx, -, ht, hiff⟩ := compile_read_iff hd h
  cases hx
  exact ⟨t, ht, fun he => absurd (hiff.mp he) (by decide)⟩

end Expr

end WhereClause

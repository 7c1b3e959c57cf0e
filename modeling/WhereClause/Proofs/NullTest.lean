import WhereClause.Expr.Builder
import WhereClause.Proofs.Columns.Renaming
import WhereClause.Proofs.Context
import WhereClause.Proofs.Tree.NullApart

/-!
# Null is tested for

In SQL nothing is equal to null and nothing is different from it, so a predicate that compares with
null by `=` or `<>` says nothing. In the text of a predicate null never stands beside one of them:
it is an operand of other operators only, and otherwise the end of a test for null.

That no operand of `=` is null would not be enough for this. Searches and negations stand without
parentheses, so one that starts or ends in null would bring it beside the `=` around it. But neither
is ever of null, and in SQL that keeps null apart in this sense (`Sql.NullApart`) only null itself
starts or ends in null.

Which operand of an equality is null makes no difference, nor whether it is so from the start or
turns out to be in the host.

Headlines:
* `Sql.nullApart_tokens`: SQL that keeps null apart is written with null apart.
* `Expr.nullApart_reduce`: every expression is reduced to such SQL.
* `Reduced.combine_null_left`, `Reduced.combine_null_right`: beside null an operand is tested, in
  the host if both are values and in SQL otherwise.
-/

namespace WhereClause

/-! ## SQL -/

namespace Sql

variable {d : Dialect}

/-- Null is no operand of `=` or `<>` in the SQL, and neither a method nor a negation is of null. -/
def NullApart : Sql → Prop
  | binary op left right =>
    (NullApart left ∧ NullApart right) ∧ (op.isEquality = true → left ≠ null ∧ right ≠ null)
  | nullTest _ x => NullApart x
  | method _ x | not x => NullApart x ∧ x ≠ null
  | _ => True

/-- The spelling of a literal is null only for the literal null. -/
theorem isNull_operand (hd : d.SpellsConstants) {l : Literal} (hl : l ≠ .null) :
    (Token.operand (d.operand l)).isNull = false := by
  cases l with
  | null => exact absurd rfl hl
  | bool b =>
    obtain ⟨o, ho, hc⟩ := hd b
    rw [Dialect.operand, ho, Option.getD_some]
    cases o with
    | null => cases hc
    | _ => rfl
  | _ => rfl

theorem edgesApart_operand (hd : d.SpellsConstants) {l : Literal} (hl : l ≠ .null) :
    Token.EdgesApart (Tree.leaf (d.operand l)).tokens :=
  Tree.edgesApart_leaf (isNull_operand hd hl)

theorem edgesApart_operatorTree (op : Operator) (x y : Tree) :
    Token.EdgesApart (operatorTree op x y).tokens := by
  cases op with
  | connective c => exact Tree.edgesApart_group _
  | comparison c => exact Tree.edgesApart_group _
  | arithmetic a =>
    cases a with
    | mod => exact Tree.edgesApart_pair .mod x y
    | _ => exact Tree.edgesApart_group _
  | coalesce => exact Tree.edgesApart_pair .coalesce x y

theorem edgesApart_methodTree (m : TextMethod) {x : Tree} (h : Token.EdgesApart x.tokens) :
    Token.EdgesApart (methodTree d x m).tokens := by
  cases m with
  | search place needle => exact Tree.edgesApart_binary h (Tree.edgesApart_leaf rfl)
  | _ => exact Tree.edgesApart_call _ x

theorem edgesApart_truthTree (hd : d.SpellsConstants) {o : Operand}
    (ho : (Token.operand o).isNull = false) (b : Bool) :
    Token.EdgesApart (truthTree d o b).tokens :=
  Tree.edgesApart_binary (Tree.edgesApart_leaf ho) (edgesApart_operand hd nofun)

/-- **Of the SQL that keeps null apart only null itself starts or ends in null.** -/
theorem edgesApart_tokens (hd : d.SpellsConstants) {x : Sql} (h : x.NullApart) (hne : x ≠ null) :
    Token.EdgesApart (x.tree d).tokens := by
  -- the hypotheses of the induction are for searches and negations: all else has edges of its own
  induction x with
  | column c => exact Tree.edgesApart_leaf rfl
  | literal l => exact edgesApart_operand hd fun hl => hne (congrArg literal hl)
  | truth b => exact Tree.edgesApart_group _
  | columnIs name b => exact edgesApart_truthTree hd rfl b
  | binary op left right => exact edgesApart_operatorTree op _ _
  | nullTest isNull x => exact Tree.edgesApart_group _
  | method m x ih => exact edgesApart_methodTree m (ih h.1 h.2)
  | not x ih => exact Tree.edgesApart_not (ih h.1 h.2)

theorem nullApart_operatorTree {op : Operator} {x y : Tree} (hx : Token.NullApart x.tokens)
    (hy : Token.NullApart y.tokens)
    (h : op.isEquality = true → Token.EdgesApart x.tokens ∧ Token.EdgesApart y.tokens) :
    Token.NullApart (operatorTree op x y).tokens := by
  have hgroup : ∀ {i : Infix}, (i.isEquality = true → op.isEquality = true) →
      Token.NullApart (Tree.group (.binary i x y)).tokens :=
    fun hi => Tree.nullApart_group (Tree.nullApart_binary hx hy fun he => h (hi he))
  cases op with
  | connective c => exact hgroup nofun
  | comparison c => exact hgroup id
  | arithmetic a =>
    cases a with
    | mod => exact Tree.nullApart_pair .mod hx hy
    | _ => exact hgroup nofun
  | coalesce => exact Tree.nullApart_pair .coalesce hx hy

theorem nullApart_methodTree (m : TextMethod) {x : Tree} (h : Token.NullApart x.tokens) :
    Token.NullApart (methodTree d x m).tokens := by
  cases m with
  | search place needle => exact Tree.nullApart_binary h (Tree.nullApart_leaf _) nofun
  | _ => exact Tree.nullApart_call _ h

theorem nullApart_truthTree (hd : d.SpellsConstants) {o : Operand}
    (ho : (Token.operand o).isNull = false) (b : Bool) :
    Token.NullApart (truthTree d o b).tokens :=
  Tree.nullApart_binary (Tree.nullApart_leaf o) (Tree.nullApart_leaf _) fun _ =>
    ⟨Tree.edgesApart_leaf ho, edgesApart_operand hd nofun⟩

/-- **SQL that keeps null apart is written with null apart.** -/
theorem nullApart_tokens (hd : d.SpellsConstants) {x : Sql} (h : x.NullApart) :
    Token.NullApart (x.tree d).tokens := by
  induction x with
  | column c => exact Tree.nullApart_leaf _
  | literal l => exact Tree.nullApart_leaf _
  | truth b =>
    have htrue := isNull_operand hd (l := .bool true) nofun
    exact Tree.nullApart_group (nullApart_truthTree hd htrue b)
  | columnIs name b => exact nullApart_truthTree hd rfl b
  | binary op left right ihl ihr =>
    obtain ⟨⟨hl, hr⟩, hne⟩ := h
    exact nullApart_operatorTree (ihl hl) (ihr hr) fun hop =>
      ⟨edgesApart_tokens hd hl (hne hop).1, edgesApart_tokens hd hr (hne hop).2⟩
  | nullTest isNull x ih =>
    refine Tree.nullApart_group (Tree.nullApart_binary (ih h) (Tree.nullApart_leaf _) fun he => ?_)
    cases isNull <;> cases he
  | method m x ih => exact nullApart_methodTree m (ih h.1)
  | not x ih => exact Tree.nullApart_not (ih h.1)

/-! ## What is reduced -/

theorem nullApart_plain {x : Sql} (h : x.NullApart) : x.plain.NullApart := by
  cases x with
  | truth b => exact trivial
  | _ => exact h

theorem plain_ne_null {x : Sql} (h : x ≠ null) : x.plain ≠ null := by
  cases x with
  | truth b => exact nofun
  | _ => exact h

theorem combine_null_right {c : Comparison} (hc : c.isEquality = true) (x : Sql) :
    combine (.comparison c) x null = nullTest (c == .eq) x := by
  cases c with
  | eq => exact equality_null_right true x
  | ne => exact equality_null_right false x
  | _ => cases hc

theorem combine_null_left {c : Comparison} (hc : c.isEquality = true) (x : Sql) :
    combine (.comparison c) null x = nullTest (c == .eq) x := by
  by_cases hx : x = null
  · rw [hx, combine_null_right hc]
  · cases c with
    | eq => exact equality_null_left true hx
    | ne => exact equality_null_left false hx
    | _ => cases hc

theorem nullApart_combine (op : Operator) {x y : Sql} (hx : x.NullApart) (hy : y.NullApart) :
    (combine op x y).NullApart := by
  cases hop : op.isEquality with
  | false =>
    rw [combine_of_not_equality hop]
    exact ⟨⟨hx, hy⟩, fun h => absurd (hop.symm.trans h) Bool.false_ne_true⟩
  | true =>
    -- null on one side makes a test of the other, so that no equality is written around null
    cases op with
    | comparison c =>
      by_cases hyn : y = null
      · rw [hyn, combine_null_right hop]
        exact hx
      · by_cases hxn : x = null
        · rw [hxn, combine_null_left hop]
          exact hy
        · rw [combine_of_ne_null hop hxn hyn]
          exact ⟨⟨nullApart_plain hx, nullApart_plain hy⟩, fun _ =>
            ⟨plain_ne_null hxn, plain_ne_null hyn⟩⟩
    | _ => cases hop

end Sql

namespace Reduced

/-- What is SQL keeps null apart. -/
def NullApart : Reduced → Prop
  | value _ => True
  | sql x => x.NullApart

variable {l r s : Reduced}

theorem nullApart_of_truth? {b : Bool} (h : r.truth? = some b) : r.NullApart := by
  rcases eq_of_truth? h with rfl | rfl
  · exact trivial
  · exact trivial

theorem nullApart_asPredicate (h : r.NullApart) : r.asPredicate.NullApart := by
  cases r with
  | value v => exact h
  | sql x =>
    cases x with
    | column c => exact trivial
    | _ => exact h

theorem nullApart_toSqlFor {enum : Option EnumType} {x : Sql} (h : r.NullApart)
    (hx : r.toSqlFor enum = .ok x) : x.NullApart := by
  rcases toSqlFor_eq_ok hx with rfl | ⟨v, l, rfl, rfl⟩
  · exact h
  · exact trivial

theorem nullApart_toPredicate {c : Connective} {x : Sql} (h : r.NullApart)
    (hx : r.toPredicate c = .ok x) : x.NullApart := by
  rcases toPredicate_eq_ok hx with rfl | ⟨b, rfl, rfl⟩
  · exact h
  · exact trivial

theorem nullApart_combine {op : Operator} (hl : l.NullApart) (hr : r.NullApart)
    (h : combine op l r = .ok s) : s.NullApart := by
  rcases combine_cases h with ⟨v, w, u, rfl, rfl, -, rfl⟩ | ⟨-, x, y, hx, hy, rfl⟩
  · exact trivial
  · exact Sql.nullApart_combine op (nullApart_toSqlFor hl hx) (nullApart_toSqlFor hr hy)

theorem nullApart_join {c : Connective} (hl : l.NullApart) (hr : r.NullApart)
    (h : join c l r = .ok s) : s.NullApart := by
  rcases join_eq_ok h with ⟨p, q, -, -, rfl⟩ | ⟨-, x, y, hx, hy, rfl⟩
  · exact trivial
  · exact ⟨⟨nullApart_toPredicate hl hx, nullApart_toPredicate hr hy⟩, nofun⟩

theorem nullApart_apply {op : Operator} (hl : l.NullApart) (hr : r.NullApart)
    (h : apply op l r = .ok s) : s.NullApart := by
  cases op with
  | connective c => exact nullApart_join (nullApart_asPredicate hl) (nullApart_asPredicate hr) h
  | _ => exact nullApart_combine hl hr h

/-- Null has no negation. -/
theorem nullApart_negate (hr : r.NullApart) (h : r.negate = .ok s) : s.NullApart := by
  rcases negate_eq_ok h with ⟨b, -, hs⟩ | ⟨c, rfl, rfl⟩ | ⟨x, rfl, -, -, rfl⟩
  · exact nullApart_of_truth? hs
  · exact trivial
  · refine ⟨hr, ?_⟩
    rintro rfl
    cases h

/-- Null has no methods. -/
theorem nullApart_call {method : String} {args : List Reduced} (hr : r.NullApart)
    (h : r.call method args = .ok s) : s.NullApart := by
  obtain ⟨vs, -, h⟩ := call_eq_ok h
  rcases h with ⟨x, m, rfl, hliteral, -, -, rfl⟩ | ⟨v, w, rfl, -, rfl⟩
  · exact ⟨hr, hliteral .null⟩
  · exact trivial

theorem nullApart_predicate {x : Sql} (hr : r.NullApart) (h : r.predicate = .ok x) :
    x.NullApart := by
  have hp := nullApart_asPredicate hr
  rcases predicate_eq_ok h with hx | ⟨b, -, rfl⟩
  · rwa [hx] at hp
  · exact trivial

end Reduced

namespace Expr

/-- **Every expression is reduced to SQL that keeps null apart**, by induction on the expression:
an operator keeps it so, and a constant is so by itself. -/
theorem nullApart_reduce {s : Reduced} : (e : Expr) → e.reduce = .ok s → s.NullApart
  | row, h => by
    rw [reduce_row] at h
    cases h
  | constant v, h => by
    cases h
    cases v <;> exact trivial
  | member object name enum, h => by
    by_cases hrow : object = row
    · rw [hrow] at h
      cases h
      exact trivial
    · obtain ⟨r, -, hfield⟩ := reduce_member_eq_ok hrow h
      obtain ⟨v, w, -, -, rfl⟩ := Reduced.field_eq_ok hfield
      exact trivial
  | binary op a b, h => by
    obtain ⟨l, r, hl, hr, happly⟩ := reduce_binary_eq_ok h
    exact Reduced.nullApart_apply (nullApart_reduce a hl) (nullApart_reduce b hr) happly
  | call a method as, h => by
    obtain ⟨r, rs, hr, -, hcall⟩ := reduce_call_eq_ok h
    exact Reduced.nullApart_call (nullApart_reduce a hr) hcall
  | not a, h => by
    obtain ⟨r, hr, hnegate⟩ := reduce_not_eq_ok h
    exact Reduced.nullApart_negate (nullApart_reduce a hr) hnegate

theorem nullApart_compile {d : Dialect} (hd : d.SpellsConstants) {e : Expr} {s : String}
    (h : e.compile d = .ok s) : ∃ ts, Token.lex s.toList = some ts ∧ Token.NullApart ts := by
  obtain ⟨x, hx, rfl⟩ := compile_eq_ok_iff.mp h
  obtain ⟨r, hr, hp⟩ := predicate_eq_ok hx
  exact ⟨_, Sql.lex_text hd x,
    Sql.nullApart_tokens hd (Reduced.nullApart_predicate (nullApart_reduce e hr) hp)⟩

end Expr

/-! ## Null on either side -/

namespace Reduced

/-- The operand is null, as a value or as SQL. -/
def isNull : Reduced → Bool
  | value v => v.isNull
  | sql x => x = .null

variable {c : Comparison} {n r : Reduced}

theorem eq_of_isNull (hn : n.isNull = true) : n = value .null ∨ n = sql .null := by
  cases n with
  | value v =>
    cases v with
    | null => exact Or.inl rfl
    | _ => cases hn
  | sql x => exact Or.inr (congrArg sql (of_decide_eq_true hn))

theorem toSqlFor_of_isNull (hn : n.isNull = true) (enum : Option EnumType) :
    n.toSqlFor enum = .ok .null := by
  rcases eq_of_isNull hn with rfl | rfl
  · exact (toSqlFor_null enum).trans (toSqlFor_sql enum .null)
  · exact toSqlFor_sql enum .null

theorem enum?_of_isNull (hn : n.isNull = true) : n.enum? = none := by
  rcases eq_of_isNull hn with rfl | rfl <;> rfl

/-- **Behind null an operand is tested in SQL**, unless both are values. -/
theorem combine_null_left (hc : c.isEquality = true) (hn : n.isNull = true)
    (h : n.value? = none ∨ r.value? = none) :
    combine (.comparison c) n r = r.toSql.map fun x => sql (.nullTest (c == .eq) x) := by
  rw [combine_eq _ h, toSqlFor_of_isNull hn, enum?_of_isNull hn, toSqlFor]
  cases r.toSql with
  | error err => rfl
  | ok x => exact congrArg (Except.ok ∘ sql) (Sql.combine_null_left hc x)

/-- **In front of null an operand is tested in SQL**, unless both are values. -/
theorem combine_null_right (hc : c.isEquality = true) (hn : n.isNull = true)
    (h : n.value? = none ∨ r.value? = none) :
    combine (.comparison c) r n = r.toSql.map fun x => sql (.nullTest (c == .eq) x) := by
  rw [combine_eq _ h.symm, toSqlFor_of_isNull hn, enum?_of_isNull hn, toSqlFor]
  cases r.toSql with
  | error err => rfl
  | ok x => exact congrArg (Except.ok ∘ sql) (Sql.combine_null_right hc x)

/-- In the host a value is compared with null by whether it is null itself. -/
theorem combine_null_value (hc : c.isEquality = true) (v : Value) :
    combine (.comparison c) (value .null) (value v) =
      .ok (value (.bool (v.isNull == (c == .eq)))) := by
  rw [combine_values, Operator.eval, Comparison.eval_of_equal? hc v.equal?_null_left]
  rfl

theorem combine_value_null (hc : c.isEquality = true) (v : Value) :
    combine (.comparison c) (value v) (value .null) =
      .ok (value (.bool (v.isNull == (c == .eq)))) := by
  have hequal : v.equal? .null = some v.isNull := (v.equal?_comm .null).trans v.equal?_null_left
  rw [combine_values, Operator.eval, Comparison.eval_of_equal? hc hequal]
  rfl

/-- **An equality with null does not depend on the side of null.** -/
theorem combine_null_comm (hc : c.isEquality = true) (hn : n.isNull = true) (r : Reduced) :
    combine (.comparison c) n r = combine (.comparison c) r n := by
  by_cases h : n.value? = none ∨ r.value? = none
  · rw [combine_null_left hc hn h, combine_null_right hc hn h]
  · rcases eq_of_isNull hn with rfl | rfl
    · cases r with
      | value v => rw [combine_null_value hc, combine_value_null hc]
      | sql x => exact absurd (Or.inr rfl) h
    · exact absurd (Or.inl rfl) h

end Reduced

namespace Expr

variable {c : Comparison} {a b : Expr} {n r : Reduced}

theorem reduce_equality_comm (hc : c.isEquality = true) (ha : a.reduce = .ok n)
    (hn : n.isNull = true) (b : Expr) :
    (binary (.comparison c) a b).reduce = (binary (.comparison c) b a).reduce := by
  rw [reduce, reduce, ha]
  cases b.reduce with
  | error err => rfl
  | ok r => exact Reduced.combine_null_comm hc hn r

theorem reduce_equality_values (hc : c.isEquality = true) {v w : Value}
    (ha : a.reduce = .ok (.value v)) (hv : (Reduced.value v).isNull = true)
    (hb : b.reduce = .ok (.value w)) :
    (binary (.comparison c) a b).reduce = .ok (.value (.bool (w.isNull == (c == .eq)))) := by
  rcases Reduced.eq_of_isNull hv with hv | hv
  · cases hv
    rw [reduce, ha, hb]
    exact Reduced.combine_null_value hc w
  · cases hv

theorem reduce_equality_test (hc : c.isEquality = true) (ha : a.reduce = .ok n)
    (hn : n.isNull = true) (hb : b.reduce = .ok r) (h : n.value? = none ∨ r.value? = none) :
    (binary (.comparison c) a b).reduce =
      r.toSql.map fun x => .sql (.nullTest (c == .eq) x) := by
  rw [reduce, ha, hb]
  exact Reduced.combine_null_left hc hn h

theorem compile_nullTest (d : Dialect) {e : Expr} {isNull : Bool} {x : Sql}
    (h : e.reduce = .ok (.sql (.nullTest isNull x))) :
    e.compile d = .ok ("(" ++ x.text d ++ if isNull then " is null)" else " is not null)") := by
  rw [compile_eq, predicate, h]
  rfl

/-- **Null never stands beside `=` or `<>`**: where an operand is null it is tested for, on
whichever side it stands. If both operands are values the host tells, and otherwise the other
operand is tested in SQL, unless it is refused, by itself or because it has no literal. -/
theorem null_apart_and_tested :
    (∀ (d : BuiltinDialect) (e : Expr) (s : String), e.compile d.dialect = .ok s →
        ∃ ts, Token.lex s.toList = some ts ∧ Token.NullApart ts) ∧
      ∀ (c : Comparison) (a b : Expr) (n : Reduced), c.isEquality = true → a.reduce = .ok n →
        n.isNull = true →
          (binary (.comparison c) a b).reduce = (binary (.comparison c) b a).reduce ∧
          (∀ err, b.reduce = .error err → (binary (.comparison c) a b).reduce = .error err) ∧
          (∀ v w, n = .value v → b.reduce = .ok (.value w) →
            (binary (.comparison c) a b).reduce =
              .ok (.value (.bool (w.isNull == (c == .eq))))) ∧
          ∀ r, b.reduce = .ok r → (n.value? = none ∨ r.value? = none) →
            (∀ err, r.toSql = .error err → (binary (.comparison c) a b).reduce = .error err) ∧
            ∀ x, r.toSql = .ok x →
              (binary (.comparison c) a b).reduce = .ok (.sql (.nullTest (c == .eq) x)) ∧
              ∀ d, (binary (.comparison c) a b).compile d =
                .ok ("(" ++ x.text d ++ if c == .eq then " is null)" else " is not null)") := by
  refine ⟨fun d e s h => nullApart_compile d.spellsConstants h, fun c a b n hc ha hn => ?_⟩
  refine ⟨reduce_equality_comm hc ha hn b, fun err hb => reduce_binary_of_error_right ha hb,
    ?_, fun r hb h => ?_⟩
  · rintro v w rfl hb
    exact reduce_equality_values hc ha hn hb
  · have htest := reduce_equality_test hc ha hn hb h
    refine ⟨fun err hx => ?_, fun x hx => ?_⟩
    · rw [htest, hx]
      rfl
    · rw [hx] at htest
      exact ⟨htest, fun d => compile_nullTest d htest⟩

/-- A field of a captured record that is null. -/
def nullField : Expr := member (constant (.record [("a", .null)])) "a" none

theorem null_apart_and_tested_field :
    let x := column "x" none
    let different := ne nullField x
    let text := "(\"x\" is not null)"
    different.compile .sqlite = .ok text ∧
      (∃ ts, Token.lex text.toList = some ts ∧ Token.NullApart ts) ∧
      different.reduce = (ne x nullField).reduce ∧
      (ne nullField row).reduce = .error (.expression .rowAsValue) ∧
      (eq nullField (constant (.text "b"))).reduce = .ok (.value (.bool false)) ∧
      (eq null nullField).compile .sqlite = .ok "(null is null)" ∧
      (eq null (constant (.record []))).reduce = .error (.literal ⟨.record, none⟩) := by
  intro x different text
  have hfield : nullField.reduce = .ok (.value .null) := rfl
  obtain ⟨hapart, htested⟩ := null_apart_and_tested
  obtain ⟨hcomm, -, -, hsql⟩ := htested .ne nullField x _ rfl hfield rfl
  have hcolumn : different.compile .sqlite = .ok text := ((hsql _ rfl (Or.inr rfl)).2 _ rfl).2 _
  obtain ⟨-, hrefused, -, -⟩ := htested .ne nullField row _ rfl hfield rfl
  obtain ⟨-, -, hvalues, -⟩ := htested .eq nullField (constant (.text "b")) _ rfl hfield rfl
  obtain ⟨-, -, -, hnull⟩ := htested .eq null nullField (.sql .null) rfl rfl rfl
  obtain ⟨-, -, -, hrecord⟩ := htested .eq null (constant (.record [])) (.sql .null) rfl rfl rfl
  exact ⟨hcolumn, hapart .sqlite _ _ hcolumn, hcomm, hrefused _ rfl, hvalues _ _ rfl rfl,
    ((hnull _ hfield (Or.inl rfl)).2 _ rfl).2 _, (hrecord _ rfl (Or.inl rfl)).1 _ rfl⟩

end Expr

end WhereClause

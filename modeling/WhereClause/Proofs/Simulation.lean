import WhereClause.Proofs.Fragment

/-!
# Compiling simulates reduction

The compiler of a dialect puts tagged text together; reduction builds trees that no dialect has a
part in. What an expression reduces to is shown in a dialect by a value or a fragment
(`Reduced.resolved`), and the tag of the fragment tells of the tree all that a later step asks for.
Each operation of the compiler takes what shows its operands to what shows the result of reduction,
errors included, and by induction on the expression so does a whole visit.

Headlines:
* `Sql.compose_fragment`: operators put text together as reduction builds SQL.
* `Compiler.combine_resolved`, `Compiler.join_resolved`, `Compiler.negate_resolved`,
  `Compiler.call_resolved`: the step lemmas of the simulation.
* `Compiler.visit_eq`: the simulation.
* `Expr.compile_eq`: an expression compiles to the text of its SQL.
-/

namespace WhereClause

/-! ## Fragments of SQL -/

namespace Sql

/-- The fragment that shows SQL in a dialect. -/
def fragment (d : Dialect) : Sql → Fragment
  | column ⟨name, some enum⟩ => .enumColumn (Text.identifier name) enum
  | column ⟨name, none⟩ => .column (Text.identifier name)
  | literal .null => .null
  | truth b => .constant b
  | x => .raw (x.text d)

variable (c : Compiler)

@[simp] theorem render_fragment (x : Sql) :
    (x.fragment c.dialect).render c.literals = x.text c.dialect := by
  unfold fragment
  split
  · rfl
  · rfl
  · rfl
  · exact c.literals_sentinel _
  · rfl

theorem isNull_fragment {d : Dialect} {x : Sql} : (x.fragment d).isNull = true ↔ x = null := by
  unfold fragment
  split
  · exact iff_of_false nofun nofun
  · exact iff_of_false nofun nofun
  · exact iff_of_true rfl rfl
  · exact iff_of_false nofun nofun
  · rename_i hnull _
    exact iff_of_false nofun fun h => hnull h

theorem isNull_fragment_eq_false {d : Dialect} {x : Sql} (h : x ≠ null) :
    (x.fragment d).isNull = false := by
  rw [Bool.eq_false_iff]
  exact fun hx => h (isNull_fragment.mp hx)

/-- Methods can be called on all but literals and constant truth values. -/
theorem isColumnLike_fragment (d : Dialect) {x : Sql} (hl : ∀ l, x ≠ literal l)
    (hb : ∀ b, x ≠ truth b) : (x.fragment d).isColumnLike = true := by
  cases x with
  | literal l => exact absurd rfl (hl l)
  | truth b => exact absurd rfl (hb b)
  | column col =>
    obtain ⟨name, enum⟩ := col
    cases enum <;> rfl
  | _ => rfl

/-- A literal but null is text. -/
theorem fragment_literal (d : Dialect) {l : Literal} (hl : l ≠ .null) :
    (literal l).fragment d = .raw (d.literal l) := by
  cases l with
  | null => exact absurd rfl hl
  | _ => rfl

/-- As an operand of `=` or `<>`, a constant truth value is shown by its literal. -/
theorem render_collapse_fragment (x : Sql) :
    ((x.fragment c.dialect).collapse c.literals).render c.literals = x.plain.text c.dialect := by
  cases x with
  | truth b => exact c.literals_literal b
  | column col =>
    obtain ⟨name, enum⟩ := col
    cases enum <;> rfl
  | literal l => cases l <;> rfl
  | _ => rfl

/-- The text of a null test, put together from its words. -/
theorem text_nullTest (d : Dialect) (k : Comparison) (x : Sql) :
    (nullTest (k == .eq) x).text d =
      "(" ++ x.text d ++ " " ++ (if k = .eq then "is" else "is not") ++ " " ++ "null" ++ ")" := by
  by_cases hk : k = .eq
  · simp [text, hk, String.append_assoc]
  · simp [text, hk, String.append_assoc]

/-- **Operators put text together as reduction builds SQL.** -/
theorem compose_fragment (op : Operator) (x y : Sql) :
    c.compose op (x.fragment c.dialect) (y.fragment c.dialect) =
      (combine op x y).fragment c.dialect := by
  by_cases hop : op.isEquality = true
  · obtain ⟨k, rfl⟩ : ∃ k, op = .comparison k := by
      cases op with
      | comparison k => exact ⟨k, rfl⟩
      | _ => cases hop
    have hcombine : combine (.comparison k) = equality (k == .eq) := by
      funext x y
      cases k <;> first | rfl | cases hop
    by_cases hy : y = null
    · -- Null on the right, whatever is on the left.
      subst hy
      rw [hcombine, equality_null_right, Compiler.compose, Compiler.arrange_null_right c hop rfl]
      simp only [render_fragment]
      exact congrArg Fragment.raw (text_nullTest c.dialect k x).symm
    · by_cases hx : x = null
      · subst hx
        rw [hcombine, equality_null_left _ hy, Compiler.compose,
          Compiler.arrange_null_left c hop rfl (isNull_fragment_eq_false hy)]
        simp only [render_fragment]
        exact congrArg Fragment.raw (text_nullTest c.dialect k y).symm
      · rw [combine_of_ne_null hop hx hy, Compiler.compose,
          Compiler.arrange_of_not_null c hop (isNull_fragment_eq_false hx)
            (isNull_fragment_eq_false hy)]
        simp only [render_collapse_fragment]
        rfl
  · rw [Bool.not_eq_true] at hop
    rw [combine_of_not_equality hop, Compiler.compose, Compiler.arrange, hop]
    simp only [Bool.false_eq_true, if_false, render_fragment]
    rfl

end Sql

/-! ## What shows a reduced form -/
/-- Null alone has the null literal. -/
theorem Literal.eq_null_of_ofValue {v : Value} (h : ofValue v = .ok .null) : v = .null := by
  cases v with
  | null => rfl
  | number n =>
    cases n with
    | float x =>
      by_cases hx : x.isFinite = true
      · simp [ofValue, Value.sqlType?, Number.isIntegral, Number.integer?, ofTyped, ofTyped?,
          ofNumber?, hx] at h
      · simp [ofValue, Value.sqlType?, Number.isIntegral, Number.integer?, ofTyped, ofTyped?,
          ofNumber?, hx] at h
    | _ => cases h
  | _ => cases h

namespace Reduced

/-- What shows a reduced form in a dialect. -/
def resolved (d : Dialect) : Reduced → Resolved
  | value v => .value v
  | sql x => .sql (x.fragment d)

theorem resolved_ofConstant (d : Dialect) (v : Value) :
    (ofConstant v).resolved d = .ofConstant v := by
  cases v <;> rfl

theorem value?_resolved (d : Dialect) (r : Reduced) : (r.resolved d).value? = r.value? := by
  cases r <;> rfl

theorem enum?_resolved (d : Dialect) (r : Reduced) : (r.resolved d).enum? = r.enum? := by
  cases r with
  | value v => rfl
  | sql x =>
    cases x with
    | column col =>
      obtain ⟨name, enum⟩ := col
      cases enum <;> rfl
    | literal l => cases l <;> rfl
    | _ => rfl

/-- A truth value that is known is shown as such. -/
theorem constantBool?_resolved (d : Dialect) (r : Reduced) :
    (r.resolved d).constantBool? = r.truth? := by
  cases r with
  | value v => cases v <;> rfl
  | sql x =>
    cases x with
    | column col =>
      obtain ⟨name, enum⟩ := col
      cases enum <;> rfl
    | literal l => cases l <;> rfl
    | _ => rfl

theorem toFragment_resolved (d : Dialect) (k : Connective) (r : Reduced) :
    (r.resolved d).toFragment k = (r.toPredicate k).map (Sql.fragment d) := by
  cases r with
  | value v => cases v <;> rfl
  | sql x => rfl

theorem field_resolved (d : Dialect) (name : String) (r : Reduced) :
    (r.resolved d).field name = (r.field name).map (resolved d) := by
  cases r with
  | value v =>
    rw [field_value, resolved, Resolved.field, except_mapError_map]
    cases (v.field name).mapError CompileError.evaluation <;> rfl
  | sql x => rfl

/-- Arguments are values if values show them. -/
theorem mapM_value?_eq_some_iff (d : Dialect) {rs : List Reduced} {vs : List Value} :
    rs.mapM value? = some vs ↔ rs.map (resolved d) = vs.map .value := by
  constructor
  · intro h
    induction rs generalizing vs with
    | nil =>
      cases h
      rfl
    | cons r rs ih =>
      obtain ⟨v, vs, rfl, hvs, rfl⟩ := mapM_value?_cons_eq_some h
      rw [List.map_cons, List.map_cons, ih hvs, resolved]
  · intro h
    have hrs : rs = vs.map value := by
      induction rs generalizing vs with
      | nil => simpa using h
      | cons r rs ih =>
        cases vs with
        | nil => cases h
        | cons v vs =>
          rw [List.map_cons, List.map_cons, List.cons.injEq] at h
          cases r with
          | sql x => cases h.1
          | value w =>
            cases h.1
            rw [List.map_cons, ih h.2]
    rw [hrs, mapM_value?_map_value]

end Reduced

namespace Compiler

open Reduced

variable (c : Compiler)

/-! ## Operators -/

theorem quoted_resolved (r : Reduced) :
    c.quoted (r.resolved c.dialect) = r.toSql.map (Sql.fragment c.dialect) := by
  cases r with
  | sql x => rfl
  | value v =>
    by_cases hv : v = .null
    · subst hv
      rfl
    · have hquoted : c.quoted (.value v) =
          ((c.dialect.quoteValue v).map Fragment.raw).mapError .literal := by
        cases v with
        | null => exact absurd rfl hv
        | _ => rfl
      rw [resolved, hquoted, Dialect.quoteValue_eq, toSql]
      cases hl : Literal.ofValue v with
      | error err => rfl
      | ok l =>
        have hnull : l ≠ .null := by
          rintro rfl
          exact hv (Literal.eq_null_of_ofValue hl)
        exact congrArg Except.ok (Sql.fragment_literal c.dialect hnull).symm

theorem enumOperand_resolved (enum : EnumType) (r : Reduced) :
    c.enumOperand enum (r.resolved c.dialect) =
      (r.toSqlBeside enum).map (Sql.fragment c.dialect) := by
  cases r with
  | sql x => rfl
  | value v =>
    rw [resolved, enumOperand, toSqlBeside]
    cases v.number?.bind Number.toSigned? with
    | none => exact c.quoted_resolved (.value v)
    | some ordinal =>
      cases h : enum.nameOf? ordinal with
      | none =>
        simp only [h]
        rfl
      | some name =>
        simp only [h]
        rfl

theorem operandFor_resolved (enum : Option EnumType) (r : Reduced) :
    c.operandFor enum (r.resolved c.dialect) =
      (r.toSqlFor enum).map (Sql.fragment c.dialect) := by
  cases enum with
  | some t => exact c.enumOperand_resolved t r
  | none => exact c.quoted_resolved r

/-- **Operators simulate**: what shows the operands is combined to what shows the result. -/
theorem combine_resolved (op : Operator) (l r : Reduced) :
    c.combine op (l.resolved c.dialect) (r.resolved c.dialect) =
      (Reduced.combine op l r).map (resolved c.dialect) := by
  by_cases h : l.value? = none ∨ r.value? = none
  · rw [c.combine_eq op (by rwa [value?_resolved, value?_resolved]),
      Reduced.combine_eq op h, enum?_resolved, enum?_resolved,
      c.operandFor_resolved, c.operandFor_resolved]
    cases l.toSqlFor r.enum? with
    | error err => rfl
    | ok x =>
      cases r.toSqlFor l.enum? with
      | error err => rfl
      | ok y => exact congrArg (fun f => Except.ok (Resolved.sql f)) (Sql.compose_fragment c op x y)
  · cases l with
    | sql x => exact absurd (Or.inl rfl) h
    | value v =>
      cases r with
      | sql y => exact absurd (Or.inr rfl) h
      | value w =>
        rw [Reduced.combine_values, resolved, resolved, c.combine_values]
        cases (op.eval v w).mapError CompileError.evaluation <;> rfl

/-- **Connectives simulate.** -/
theorem join_resolved (k : Connective) (l r : Reduced) :
    c.join k (l.resolved c.dialect) (r.resolved c.dialect) =
      (Reduced.join k l r).map (resolved c.dialect) := by
  by_cases hknown : l.truth? = none ∨ r.truth? = none
  · by_cases hvalue : l.value? = none ∨ r.value? = none
    · rw [Reduced.join_eq k hknown hvalue, c.join_eq k
        (by rwa [constantBool?_resolved, constantBool?_resolved])
        (by rwa [value?_resolved, value?_resolved]),
        toFragment_resolved, toFragment_resolved]
      cases l.toPredicate k with
      | error err => rfl
      | ok x =>
        cases r.toPredicate k with
        | error err => rfl
        | ok y =>
          simp only [Except.map, bind, Except.bind, pure, Except.pure, Sql.render_fragment]
          rfl
    · cases l with
      | sql x => exact absurd (Or.inl rfl) hvalue
      | value v =>
        cases r with
        | sql y => exact absurd (Or.inr rfl) hvalue
        | value w =>
          rw [truth?_value, truth?_value] at hknown
          rw [Reduced.join_values hknown, resolved, resolved, c.join_values, fold_eq_error hknown]
          rfl
  · obtain ⟨hl, hr⟩ := not_or.mp hknown
    obtain ⟨p, hl⟩ := Option.ne_none_iff_exists'.mp hl
    obtain ⟨q, hr⟩ := Option.ne_none_iff_exists'.mp hr
    rw [join_of_truths hl hr, c.join_of_known k (by rw [constantBool?_resolved, hl])
      (by rw [constantBool?_resolved, hr])]
    rfl

/-- **Negation simulates**, but of columns, which the compiler looks for in the expression. -/
theorem negate_resolved {r : Reduced} (hr : ∀ col, r ≠ sql (.column col)) :
    c.negate (r.resolved c.dialect) = r.negate.map (resolved c.dialect) := by
  cases r with
  | value v =>
    rw [negate_value, resolved, negate, except_mapError_map]
    cases v.negate.mapError CompileError.evaluation <;> rfl
  | sql x =>
    cases x with
    | column col => exact absurd rfl (hr col)
    | literal l => cases l <;> rfl
    | _ => rfl

/-! ## Methods -/

/-- **Methods of columns** are those of `TextMethod.ofCall?`, and are written as there. -/
theorem columnMethod_resolved (column method : String) (args : List Reduced) :
    c.columnMethod column method (args.map (resolved c.dialect)) =
      ((args.mapM value?).bind (TextMethod.ofCall? method)).elim (.error (.method method))
        fun m => .ok (Sql.methodText c.dialect column m) := by
  cases hvs : args.mapM value? with
  | none =>
    refine c.columnMethod_eq_error column fun vs h => ?_
    rw [(mapM_value?_eq_some_iff c.dialect).mpr h] at hvs
    cases hvs
  | some vs =>
    rw [(mapM_value?_eq_some_iff c.dialect).mp hvs, Option.bind_some]
    cases hm : TextMethod.ofCall? method vs with
    | none =>
      refine c.columnMethod_eq_error column fun ws h => ?_
      rwa [← (List.map_inj_right fun _ _ hv => Resolved.value.inj hv).mp h]
    | some m => exact c.columnMethod_of_ofCall? column hm

theorem mapM_argument_resolved (method : String) (args : List Reduced) :
    (args.map (resolved c.dialect)).mapM (Resolved.argument method) =
      (args.mapM value?).elim (.error (.expression (.columnArgument method))) .ok := by
  induction args with
  | nil => rfl
  | cons r rs ih =>
    rw [List.map_cons, List.mapM_cons, List.mapM_cons, ih]
    cases r with
    | value v => cases rs.mapM value? <;> rfl
    | sql x => rfl

/-- **Calls simulate**, where no literal but null is called upon. -/
theorem call_resolved {r : Reduced} (hr : ∀ l, r = sql (.literal l) → l = .null) (method : String)
    (args : List Reduced) :
    c.call (r.resolved c.dialect) method (args.map (resolved c.dialect)) =
      (r.call method args).map (resolved c.dialect) := by
  cases r with
  | value v =>
    rw [resolved, call, mapM_argument_resolved, Reduced.call]
    cases args.mapM value? with
    | none => rfl
    | some vs =>
      change (v.call method vs).map Resolved.value =
        ((v.call method vs).map value).map (resolved c.dialect)
      cases v.call method vs <;> rfl
  | sql x =>
    have hcases : x = .null ∨ (∃ b, x = .truth b) ∨
        (∀ l, x ≠ .literal l) ∧ ∀ b, x ≠ .truth b := by
      cases x with
      | literal l => exact Or.inl (congrArg Sql.literal (hr l rfl))
      | truth b => exact Or.inr (Or.inl ⟨b, rfl⟩)
      | _ => exact Or.inr (Or.inr ⟨fun l h => (by cases h), fun b h => (by cases h)⟩)
    rcases hcases with rfl | ⟨b, rfl⟩ | ⟨hl, hb⟩
    · rfl
    · rfl
    · rw [call_sql hl hb, resolved, call]
      simp only [Sql.isColumnLike_fragment _ hl hb, if_true, Sql.render_fragment,
        columnMethod_resolved]
      cases (args.mapM value?).bind (TextMethod.ofCall? method) <;> rfl

/-! ## Expressions -/

theorem column_eq (col : Column) : c.column col = (Sql.column col).fragment c.dialect := by
  obtain ⟨name, enum⟩ := col
  cases enum <;> rfl

theorem columnIs_eq (col : Column) (b : Bool) :
    c.columnIs col b = (sql (.columnIs col.name b)).resolved c.dialect := by
  rw [columnIs, literals_literal]
  rfl

/-- **Predicates simulate**: the compiler looks for a column in the expression, reduction in what it
has reduced the expression to. -/
theorem predicate_eq (e : Expr) :
    c.predicate e (e.reduce.map (resolved c.dialect)) =
      e.reduce.map fun r => r.asPredicate.resolved c.dialect := by
  unfold predicate
  cases he : e.column? with
  | some col =>
    rw [Expr.reduce_of_column? he]
    exact congrArg Except.ok (c.columnIs_eq col true)
  | none =>
    cases hr : e.reduce with
    | error err => rfl
    | ok r =>
      have hpredicate : r.asPredicate = r := by
        unfold asPredicate
        split
        · rename_i col
          exact absurd rfl (Expr.reduce_ne_column he hr col)
        · rfl
      exact congrArg (fun r => Except.ok (r.resolved c.dialect)) hpredicate.symm

mutual

/-- **Visiting simulates reduction**: in every dialect a visit fails as reduction does, or gives what
shows the reduced form. By induction on the expression. -/
theorem visit_eq : (e : Expr) → c.visit e = e.reduce.map (resolved c.dialect)
  | .row => rfl
  | .constant v => congrArg Except.ok (resolved_ofConstant c.dialect v).symm
  | .member object name enum => by
    by_cases hrow : object = .row
    · subst hrow
      exact congrArg (fun f => Except.ok (Resolved.sql f)) (c.column_eq ⟨name, enum⟩)
    · rw [Expr.reduce_member hrow, visit, visit_eq object]
      · cases object.reduce with
        | error err => rfl
        | ok r => exact field_resolved c.dialect name r
      · exact hrow
  | .binary op left right => by
    cases hop : op.isLogical with
    | true =>
      obtain ⟨k, rfl⟩ : ∃ k, op = .connective k := by
        cases op with
        | connective k => exact ⟨k, rfl⟩
        | _ => cases hop
      simp only [visit, Expr.reduce, visit_eq left, visit_eq right, predicate_eq]
      cases left.reduce with
      | error err => rfl
      | ok l =>
        cases right.reduce with
        | error err => rfl
        | ok r => exact c.join_resolved k l.asPredicate r.asPredicate
    | false =>
      rw [visit, Expr.reduce, visit_eq left, visit_eq right]
      · cases left.reduce with
        | error err => rfl
        | ok l =>
          cases right.reduce with
          | error err => rfl
          | ok r =>
            exact (c.combine_resolved op l r).trans
              (congrArg (Except.map _) (apply_of_not_logical hop l r).symm)
      · rintro k rfl
        cases hop
  | .call receiver method args => by
    rw [visit, Expr.reduce, visit_eq receiver, visitList_eq args]
    cases hr : receiver.reduce with
    | error err => rfl
    | ok r =>
      cases Expr.reduceList args with
      | error err => rfl
      | ok rs =>
        refine c.call_resolved (fun l hl => ?_) method rs
        subst hl
        rcases Expr.leaf_of_reduce hr rfl with ⟨col, -, heq⟩ | heq
        · cases heq
        · exact Sql.literal.inj heq
  | .not inner => by
    rw [visit, Expr.reduce]
    cases hi : inner.column? with
    | some col =>
      rw [Expr.reduce_of_column? hi]
      exact congrArg Except.ok (c.columnIs_eq col false)
    | none =>
      rw [visit_eq inner]
      cases hr : inner.reduce with
      | error err => rfl
      | ok r => exact c.negate_resolved (Expr.reduce_ne_column hi hr)

theorem visitList_eq : (es : List Expr) →
    c.visitList es = (Expr.reduceList es).map (List.map (resolved c.dialect))
  | [] => rfl
  | e :: es => by
    rw [visitList, Expr.reduceList, visit_eq e, visitList_eq es]
    cases e.reduce with
    | error err => rfl
    | ok r => cases Expr.reduceList es <;> rfl

end

/-- The text of a predicate is that of its SQL. -/
theorem compile_eq (e : Expr) : c.compile e = e.predicate.map (Sql.text c.dialect) := by
  unfold compile Expr.predicate
  rw [visit_eq, predicate_eq]
  cases e.reduce with
  | error err => rfl
  | ok r =>
    simp only [Except.map, bind, Except.bind, Reduced.predicate]
    generalize r.asPredicate = p
    cases p with
    | value v =>
      cases v with
      | bool b => exact congrArg Except.ok (c.literals_sentinel b)
      | _ => rfl
    | sql x =>
      cases x with
      | column col =>
        obtain ⟨name, enum⟩ := col
        cases enum <;> rfl
      | literal l => cases l <;> rfl
      | truth b => exact congrArg Except.ok (c.literals_sentinel b)
      | _ => rfl

end Compiler

namespace Expr

variable {d : Dialect} {e : Expr}

/-- **An expression compiles to the text of its SQL**, and fails if it has none. -/
theorem compile_eq (d : Dialect) (e : Expr) : e.compile d = e.predicate.map (Sql.text d) :=
  (Compiler.new d).compile_eq e

theorem compile_eq_ok_iff {s : String} :
    e.compile d = .ok s ↔ ∃ x, e.predicate = .ok x ∧ x.text d = s := by
  rw [compile_eq, except_map_eq_ok]

theorem compile_of_reduce_error (d : Dialect) {err : CompileError} (h : e.reduce = .error err) :
    e.compile d = .error err := by
  rw [compile_eq, predicate, h]
  rfl

end Expr

end WhereClause

import WhereClause.Expr.Builder
import WhereClause.Proofs.Simulation

/-!
# Values beside a column

What an operator between a column and a value of the host compiles to, with the column on either
side: the value is written as its literal, with regard to the enum of the column, or is refused.

Headlines:
* `Expr.compile_column_value`, `Expr.compile_value_column`: a value beside a column is written as a
  literal.
* `Expr.compile_column_refused`, `Expr.compile_value_refused`: unless it has none there.
-/

namespace WhereClause

namespace Expr

variable (d : Dialect) {op : Operator} (name : String) {enum : Option EnumType} {e : Expr}
  {v : Value} {l : Literal}

theorem reduce_column_value (hop : op.isLogical = false) (he : e.reduce = .ok (.value v)) :
    (binary op (column name enum) e).reduce = ((Reduced.value v).toSqlFor enum).map fun y =>
      .sql (Sql.combine op (.column ⟨name, enum⟩) y) := by
  rw [reduce, column, reduce_column, he]
  refine (Reduced.apply_of_not_logical hop _ _).trans ?_
  rw [Reduced.combine_eq op (Or.inl rfl), Reduced.toSqlFor_sql, Reduced.enum?]
  cases (Reduced.value v).toSqlFor enum <;> rfl

theorem reduce_value_column (hop : op.isLogical = false) (he : e.reduce = .ok (.value v)) :
    (binary op e (column name enum)).reduce = ((Reduced.value v).toSqlFor enum).map fun x =>
      .sql (Sql.combine op x (.column ⟨name, enum⟩)) := by
  rw [reduce, column, reduce_column, he]
  refine (Reduced.apply_of_not_logical hop _ _).trans ?_
  rw [Reduced.combine_eq op (Or.inr rfl), Reduced.toSqlFor_sql, Reduced.enum?]
  cases (Reduced.value v).toSqlFor enum <;> rfl

/-- **A value behind a column is written as a literal**, with regard to the enum of the column. -/
theorem compile_column_value (hop : op.isLogical = false) (he : e.reduce = .ok (.value v))
    (hv : (Reduced.value v).toSqlFor enum = .ok (.literal l)) (hl : l ≠ .null) :
    (binary op (column name enum) e).compile d =
      .ok (Sql.operatorText op (Text.identifier name) (d.literal l)) := by
  have hcombine : Sql.combine op (.column ⟨name, enum⟩) (.literal l) =
      .binary op (.column ⟨name, enum⟩) (.literal l) :=
    Sql.combine_of_plain op nofun (fun h => hl (Sql.literal.inj h)) rfl rfl
  rw [compile_eq, predicate, reduce_column_value name hop he, hv, Except.map, hcombine]
  rfl

/-- **A value in front of a column is written as a literal**, with regard to the enum of the
column. -/
theorem compile_value_column (hop : op.isLogical = false) (he : e.reduce = .ok (.value v))
    (hv : (Reduced.value v).toSqlFor enum = .ok (.literal l)) (hl : l ≠ .null) :
    (binary op e (column name enum)).compile d =
      .ok (Sql.operatorText op (d.literal l) (Text.identifier name)) := by
  have hcombine : Sql.combine op (.literal l) (.column ⟨name, enum⟩) =
      .binary op (.literal l) (.column ⟨name, enum⟩) :=
    Sql.combine_of_plain op (fun h => hl (Sql.literal.inj h)) nofun rfl rfl
  rw [compile_eq, predicate, reduce_value_column name hop he, hv, Except.map, hcombine]
  rfl

/-- **A value that cannot be written is refused** behind a column. -/
theorem compile_column_refused {err : CompileError} (hop : op.isLogical = false)
    (he : e.reduce = .ok (.value v)) (hv : (Reduced.value v).toSqlFor enum = .error err) :
    (binary op (column name enum) e).compile d = .error err := by
  refine compile_of_reduce_error d ?_
  rw [reduce_column_value name hop he, hv]
  rfl

/-- **A value that cannot be written is refused** in front of a column. -/
theorem compile_value_refused {err : CompileError} (hop : op.isLogical = false)
    (he : e.reduce = .ok (.value v)) (hv : (Reduced.value v).toSqlFor enum = .error err) :
    (binary op e (column name enum)).compile d = .error err := by
  refine compile_of_reduce_error d ?_
  rw [reduce_value_column name hop he, hv]
  rfl

end Expr

end WhereClause

import WhereClause.EnumType
import WhereClause.Operator
import WhereClause.Value

/-!
# Expressions

The tree that a filter is given as. Its leaves are the row that is filtered and constants of the
host; a member of the row is a column. Nothing in the tree depends on a dialect.

Headlines:
* `Expr.column?_eq_some_iff`: columns are exactly the members of the row.
-/

namespace WhereClause

/-- An expression over the row that is filtered. -/
inductive Expr where
  | row
  | constant (v : Value)
  | member (object : Expr) (name : String) (enum : Option EnumType)
  | binary (op : Operator) (left right : Expr)
  | call (receiver : Expr) (method : String) (args : List Expr)
  | not (inner : Expr)
  deriving Repr

/-- A column: its name, and the enum type whose members it stores, if it does. -/
structure Column where
  name : String
  enum : Option EnumType
  deriving Repr, DecidableEq

namespace Expr

/-- The column that an expression is by itself, if it is one. -/
def column? : Expr → Option Column
  | member row name enum => some ⟨name, enum⟩
  | _ => none

theorem column?_eq_some_iff {e : Expr} {c : Column} :
    e.column? = some c ↔ e = member row c.name c.enum := by
  constructor
  · intro h
    unfold column? at h
    split at h
    · cases h
      rfl
    · cases h
  · rintro rfl
    rfl

mutual

/-- Whether two expressions are the same tree. Constants are compared as values, so a tree that
holds a NaN is not the same as itself. -/
def same : Expr → Expr → Bool
  | row, row => true
  | constant v, constant w => v.same w
  | member a n e, member b m f => same a b && n == m && e == f
  | binary o a b, binary p c d => o == p && same a c && same b d
  | call a n as, call b m bs => same a b && n == m && sameList as bs
  | not a, not b => same a b
  | _, _ => false

/-- Whether two lists of expressions are the same, one by one. -/
def sameList : List Expr → List Expr → Bool
  | [], [] => true
  | a :: as, b :: bs => same a b && sameList as bs
  | _, _ => false

end

end Expr

end WhereClause

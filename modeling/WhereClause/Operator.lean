/-!
# Binary operators

The closed set of operators an expression may use, in the groups that compilation and evaluation
treat alike: the connectives, the comparisons, arithmetic, and the choice of the first operand
that is not null. An operator arrives by its symbol; a symbol outside the set names none.

Headlines:
* `Operator.ofSymbol?_sql`: the SQL spelling of an operator is one of its symbols.
* `Comparison.holds_swap`: exchanging the operands of a comparison mirrors it.
-/

namespace WhereClause

/-- The logical connectives. -/
inductive Connective where
  | and
  | or
  deriving Repr, DecidableEq

/-- The comparisons. The first two test equality; they have a form of their own beside null. -/
inductive Comparison where
  | eq
  | ne
  | gt
  | ge
  | lt
  | le
  deriving Repr, DecidableEq

/-- Arithmetic. On texts `add` is concatenation. -/
inductive Arithmetic where
  | add
  | sub
  | mul
  | div
  | mod
  deriving Repr, DecidableEq

/-- A binary operator. `coalesce` is its first operand that is not null. -/
inductive Operator where
  | connective (c : Connective)
  | comparison (c : Comparison)
  | arithmetic (a : Arithmetic)
  | coalesce
  deriving Repr, DecidableEq

namespace Connective

/-- The SQL spelling. -/
def sql : Connective → String
  | .and => "AND"
  | .or => "OR"

/-- The connective of two truth values. -/
def apply : Connective → Bool → Bool → Bool
  | .and, a, b => a && b
  | .or, a, b => a || b

end Connective

namespace Comparison

/-- The SQL spelling. -/
def sql : Comparison → String
  | .eq => "="
  | .ne => "<>"
  | .gt => ">"
  | .ge => ">="
  | .lt => "<"
  | .le => "<="

/-- Whether the comparison tests equality. -/
def isEquality : Comparison → Bool
  | .eq | .ne => true
  | _ => false

/-- Whether the comparison holds of operands ordered as given. -/
def holds : Comparison → Ordering → Bool
  | .eq, o => o == .eq
  | .ne, o => o != .eq
  | .gt, o => o == .gt
  | .ge, o => o != .lt
  | .lt, o => o == .lt
  | .le, o => o != .gt

/-- The comparison that says the same with its operands exchanged. -/
def mirror : Comparison → Comparison
  | .eq => .eq
  | .ne => .ne
  | .gt => .lt
  | .ge => .le
  | .lt => .gt
  | .le => .ge

theorem holds_swap (c : Comparison) (o : Ordering) : c.holds o.swap = c.mirror.holds o := by
  cases c <;> cases o <;> rfl

end Comparison

namespace Arithmetic

/-- The SQL spelling. -/
def sql : Arithmetic → String
  | .add => "+"
  | .sub => "-"
  | .mul => "*"
  | .div => "/"
  | .mod => "MOD"

end Arithmetic

namespace Operator

/-- The SQL spelling. -/
def sql : Operator → String
  | connective c => c.sql
  | comparison c => c.sql
  | arithmetic a => a.sql
  | coalesce => "COALESCE"

/-- Whether the operator joins predicates. -/
def isLogical : Operator → Bool
  | connective _ => true
  | _ => false

/-- Whether the operator is `=` or `<>`. -/
def isEquality : Operator → Bool
  | comparison c => c.isEquality
  | _ => false

/-- Whether SQL writes the operator as a function, `NAME(left,right)`. -/
def isFunction : Operator → Bool
  | arithmetic .mod | coalesce => true
  | _ => false

/-- Whether the operator, read as a comparison, holds of operands ordered as given. What is no
comparison never holds. -/
def holds : Operator → Ordering → Bool
  | comparison c, o => c.holds o
  | _, _ => false

/-- The operator of a symbol. Signs are taken as they stand; words in any ASCII letter case. -/
def ofSymbol? (symbol : String) : Option Operator :=
  match symbol with
  | "&&" => some (connective .and)
  | "||" => some (connective .or)
  | "=" | "==" => some (comparison .eq)
  | "<>" | "!=" => some (comparison .ne)
  | ">" => some (comparison .gt)
  | ">=" => some (comparison .ge)
  | "<" => some (comparison .lt)
  | "<=" => some (comparison .le)
  | "+" => some (arithmetic .add)
  | "-" => some (arithmetic .sub)
  | "*" => some (arithmetic .mul)
  | "/" => some (arithmetic .div)
  | "%" => some (arithmetic .mod)
  | "??" => some coalesce
  | word =>
    match word.toUpper with
    | "AND" => some (connective .and)
    | "OR" => some (connective .or)
    | "MOD" => some (arithmetic .mod)
    | "COALESCE" => some coalesce
    | _ => none

theorem ofSymbol?_sql (op : Operator) : ofSymbol? op.sql = some op := by
  cases op with
  | connective c => cases c <;> decide +kernel
  | comparison c => cases c <;> decide +kernel
  | arithmetic a => cases a <;> decide +kernel
  | coalesce => decide +kernel

end Operator

end WhereClause

import WhereClause.Literal
import WhereClause.Number.Arithmetic
import WhereClause.Page

/-!
# Errors

Why an expression has no value in the host and no SQL, and how that is said.
-/

namespace WhereClause

/-- Why an operation on values of the host has no result. -/
inductive EvalError where
  | negation (kind : Kind)
  | missingField (name : String)
  | fieldOfNull (name : String)
  | fieldOf (kind : Kind) (name : String)
  | methodOnNull (name : String)
  | mismatch (op : Operator) (left right : Kind)
  | arithmetic (e : ArithmeticError)
  deriving Repr, DecidableEq

/-- What an expression may not be. -/
inductive Unsupported where
  | rowAsValue
  | fieldOfSql (name : String)
  | operand (c : Connective) (kind : Kind)
  | methodOnConstant (name : String)
  | columnArgument (method : String)
  | negatedNull
  | nullPredicate
  | predicate (kind : Kind)
  deriving Repr, DecidableEq

/-- Why an expression, or the page beside it, does not become SQL. -/
inductive CompileError where
  | page (e : PageError)
  | literal (e : LiteralError)
  | operator (symbol : String)
  | method (name : String)
  | expression (e : Unsupported)
  | unknownOrdinal (enum : String) (ordinal : Int64)
  | evaluation (e : EvalError)
  deriving Repr, DecidableEq

/-- What is wrong with the operation. -/
def EvalError.message : EvalError → String
  | negation kind => "cannot negate a " ++ kind.name ++ " value"
  | missingField name => "record has no member '" ++ name ++ "'"
  | fieldOfNull name => "member '" ++ name ++ "' read from null"
  | fieldOf kind name => kind.name ++ " value has no member '" ++ name ++ "'"
  | methodOnNull name => "method '" ++ name ++ "' called on null"
  | mismatch op left right =>
    "operator '" ++ op.sql ++ "' cannot combine " ++ left.name ++ " and " ++ right.name
  | arithmetic e => e.message

/-- What is wrong with the expression. -/
def Unsupported.message : Unsupported → String
  | rowAsValue => "the filtered row cannot be used as a value"
  | fieldOfSql name => "member '" ++ name ++ "' read from an SQL expression"
  | operand c kind => "operand of " ++ c.sql ++ " must be boolean, got " ++ kind.name
  | methodOnConstant name => "method '" ++ name ++ "' called on a constant"
  | columnArgument method =>
    "column passed as argument to '" ++ method ++ "' on a constant"
  | negatedNull => "cannot negate null"
  | nullPredicate => "predicate is null, not a boolean"
  | predicate kind => "predicate evaluates to a " ++ kind.name ++ " value, not a boolean"

/-- What went wrong. -/
def CompileError.message : CompileError → String
  | page e => e.message
  | literal e => e.message
  | operator symbol => "unsupported operator: '" ++ symbol ++ "'"
  | method name => "unsupported method: '" ++ name ++ "'"
  | expression e => "unsupported expression: " ++ e.message
  | unknownOrdinal enum ordinal =>
    enum ++ " has no member with ordinal " ++ Text.ofInt ordinal.toInt
  | evaluation e => "cannot evaluate constant expression: " ++ e.message

end WhereClause

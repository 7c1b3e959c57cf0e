import WhereClause.Dialect
import WhereClause.Expr

/-!
# SQL

The SQL that an expression becomes, as a tree that is the same in every dialect, and its text in
one of them.

Headlines:
* `Sql.columns_equality`: a comparison names the columns of both its operands.
-/

namespace WhereClause

/-- SQL over the columns of a row. -/
inductive Sql where
  | column (c : Column)
  | literal (l : Literal)
  /-- A predicate that always has the given truth value. -/
  | truth (b : Bool)
  /-- The predicate that a column of truth values has the given one. -/
  | columnIs (name : String) (b : Bool)
  | binary (op : Operator) (left right : Sql)
  /-- The test whether the operand is null, or whether it is not. -/
  | nullTest (isNull : Bool) (x : Sql)
  | method (m : TextMethod) (x : Sql)
  | not (x : Sql)
  deriving Repr, DecidableEq

namespace Sql

/-- The null literal. -/
abbrev null : Sql := literal .null

/-- A constant truth value as the plain literal that it is compared as. -/
def plain : Sql → Sql
  | truth b => literal (.bool b)
  | x => x

/-- Equality or its negation. Null is tested for, wherever it stands, and never compared with. -/
def equality (isEqual : Bool) (left right : Sql) : Sql :=
  match left, right with
  | x, literal .null => nullTest isEqual x
  | literal .null, x => nullTest isEqual x
  | x, y => binary (.comparison (if isEqual then .eq else .ne)) x.plain y.plain

/-- An operator applied to SQL. -/
def combine (op : Operator) (left right : Sql) : Sql :=
  match op with
  | .comparison .eq => equality true left right
  | .comparison .ne => equality false left right
  | op => binary op left right

/-! ## Text -/

/-- The text of a method applied to the text of an operand. -/
def methodText (d : Dialect) (x : String) : TextMethod → String
  | .trim side => d.trim side x
  | .upper => "upper(" ++ x ++ ")"
  | .lower => "lower(" ++ x ++ ")"
  | .search place needle => x ++ " like " ++ Text.quoted (place.pattern needle)

/-- The text of an operator applied to the texts of its operands. -/
def operatorText (op : Operator) (left right : String) : String :=
  if op.isFunction then op.sql ++ "(" ++ left ++ "," ++ right ++ ")"
  else "(" ++ left ++ " " ++ op.sql ++ " " ++ right ++ ")"

/-- The text of SQL in a dialect. Binary operators and null tests stand in parentheses; searches,
negations and the tests of single columns do not. -/
def text (d : Dialect) : Sql → String
  | column c => Text.identifier c.name
  | literal l => d.literal l
  | truth b => d.constant b
  | columnIs name b => Text.identifier name ++ "=" ++ d.truth b
  | binary op left right => operatorText op (text d left) (text d right)
  | nullTest isNull x => "(" ++ text d x ++ (if isNull then " is null)" else " is not null)")
  | method m x => methodText d (text d x) m
  | not x => "NOT " ++ text d x

/-! ## Columns -/

/-- The names of the columns, in the order in which they are written. -/
def columns : Sql → List String
  | column c => [c.name]
  | literal _ => []
  | truth _ => []
  | columnIs name _ => [name]
  | binary _ left right => columns left ++ columns right
  | nullTest _ x => columns x
  | method _ x => columns x
  | not x => columns x

@[simp] theorem columns_plain (x : Sql) : x.plain.columns = x.columns := by
  cases x <;> rfl

theorem columns_equality (isEqual : Bool) (left right : Sql) :
    (equality isEqual left right).columns = left.columns ++ right.columns := by
  unfold equality
  split
  · simp [columns]
  · simp [columns]
  · simp [columns]

end Sql

end WhereClause

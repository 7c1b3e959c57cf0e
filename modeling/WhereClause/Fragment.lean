import WhereClause.Dialect
import WhereClause.Evaluate
import WhereClause.Expr

/-!
# Fragments

What a node of an expression resolves to: a value of the host, with which the host still calculates,
or a fragment of SQL, which is text of one dialect already. Null and the constant truth values have
tags of their own, and so have columns, so that no later step has to read text again.

Headlines:
* `BoolLiterals.literal_ofDialect`, `BoolLiterals.sentinel_ofDialect`: the spellings that are kept
  are those of the dialect.
-/

namespace WhereClause

/-- The spellings of the truth values in a dialect, as literals and as predicates. -/
structure BoolLiterals where
  trueLiteral : String
  falseLiteral : String
  trueSentinel : String
  falseSentinel : String
  deriving Repr, DecidableEq

namespace BoolLiterals

/-- The spellings of a dialect. -/
def ofDialect (d : Dialect) : BoolLiterals where
  trueLiteral := d.trueLiteral
  falseLiteral := d.falseLiteral
  trueSentinel := "(" ++ d.trueLiteral ++ "=" ++ d.trueLiteral ++ ")"
  falseSentinel := "(" ++ d.trueLiteral ++ "=" ++ d.falseLiteral ++ ")"

/-- The truth value as it is compared. -/
def literal (l : BoolLiterals) (b : Bool) : String := if b then l.trueLiteral else l.falseLiteral

/-- The truth value as a predicate. -/
def sentinel (l : BoolLiterals) (b : Bool) : String := if b then l.trueSentinel else l.falseSentinel

@[simp] theorem literal_ofDialect (d : Dialect) (b : Bool) : (ofDialect d).literal b = d.truth b :=
  rfl

@[simp] theorem sentinel_ofDialect (d : Dialect) (b : Bool) :
    (ofDialect d).sentinel b = d.constant b := by
  cases b <;> rfl

end BoolLiterals

/-- A fragment of SQL. -/
inductive Fragment where
  /-- The quoted name of a column. -/
  | column (text : String)
  /-- The quoted name of a column that stores the members of an enum. -/
  | enumColumn (text : String) (enum : EnumType)
  /-- Any text put together. -/
  | raw (text : String)
  /-- A predicate that always has the given truth value. -/
  | constant (b : Bool)
  | null
  deriving Repr, DecidableEq

namespace Fragment

/-- The text of a fragment. -/
def render (l : BoolLiterals) : Fragment → String
  | column text => text
  | enumColumn text _ => text
  | raw text => text
  | constant b => l.sentinel b
  | null => "null"

/-- Whether methods can be called on the fragment: a column, or text put together. -/
def isColumnLike : Fragment → Bool
  | column _ | enumColumn _ _ | raw _ => true
  | constant _ | null => false

/-- Whether the fragment is the null literal. -/
def isNull : Fragment → Bool
  | null => true
  | _ => false

/-- A constant truth value as the literal that it is compared as. -/
def collapse (l : BoolLiterals) : Fragment → Fragment
  | constant b => raw (l.literal b)
  | f => f

end Fragment

/-- What a node resolves to. -/
inductive Resolved where
  | value (v : Value)
  | sql (f : Fragment)
  deriving Repr

namespace Resolved

/-- A constant. Null and the truth values are SQL from the start. -/
def ofConstant : Value → Resolved
  | .null => sql .null
  | .bool b => sql (.constant b)
  | v => value v

/-- The truth value that is known, in either of its forms. -/
def constantBool? : Resolved → Option Bool
  | value (.bool b) => some b
  | sql (.constant b) => some b
  | _ => none

/-- Reads a member of something that is not the row. -/
def field (name : String) : Resolved → Except CompileError Resolved
  | value v => ((v.field name).map value).mapError .evaluation
  | sql _ => .error (.expression (.fieldOfSql name))

/-- The fragment of an operand of a connective. -/
def toFragment (k : Connective) : Resolved → Except CompileError Fragment
  | sql f => .ok f
  | value (.bool b) => .ok (.constant b)
  | value v => .error (.expression (.operand k v.kind))

/-- The value of an argument of a method that the host is to call. -/
def argument (method : String) : Resolved → Except CompileError Value
  | value v => .ok v
  | sql _ => .error (.expression (.columnArgument method))

end Resolved

end WhereClause

import WhereClause.Proofs.Simulation
import WhereClause.Proofs.Interpretation
import WhereClause.Proofs.Token.Spelling

/-!
# Conditions

The expressions that stand for truth values throughout: wherever one is expected there is one, and
values stand where values are expected. What such a condition says of a row is defined on the
condition itself, without the SQL that it is compiled to.

What has no columns belongs to the host, which computes and compares by its own rules; the value
then means what its literal denotes. The null literal and the literals of the truth values belong to
SQL wherever they stand. Equality with null is the test for null; every other comparison is SQL's if
one of its operands is. A bare column means that it holds the value that is true.

Headlines:
* `Condition.toExpr`: the expression of a condition.
* `Condition.truth?`: its truth value in a row, if the host can compute what is left to it.
-/

namespace WhereClause

/-! ## Syntax -/

/-- An expression that stands for a value. -/
inductive Term where
  | column (name : String)
  | constant (v : Value) (noTruth : v.bool? = none)
  | field (object : Term) (name : String) (enum : Option EnumType)
  | arithmetic (op : Arithmetic) (a b : Term)
  | coalesce (a b : Term)
  | method (a : Term) (name : String)

/-- An operand of a comparison. -/
inductive Comparand where
  | term (a : Term)
  | truth (b : Bool)

/-- Whether the operand is no literal of a truth value. -/
def Comparand.isTerm : Comparand → Bool
  | term _ => true
  | truth _ => false

/-- An expression that stands for a truth value. The literals of the truth values are compared by
`=` and `<>` only. -/
inductive Condition where
  | column (name : String) (enum : Option EnumType)
  | truth (b : Bool)
  | comparison (c : Comparison) (l r : Comparand)
      (terms : c.isEquality = true ∨ l.isTerm = true ∧ r.isTerm = true)
  | search (place : SearchPlace) (a : Term) (needle : String)
  | connective (c : Connective) (p q : Condition)
  | not (p : Condition)

/-- The method that searches in a place. -/
def SearchPlace.methodName : SearchPlace → String
  | starting => "StartsWith"
  | ending => "EndsWith"
  | anywhere => "Contains"

/-- The expression of a term. -/
def Term.toExpr : Term → Expr
  | column name => .member .row name none
  | constant v _ => .constant v
  | field object name enum => .member object.toExpr name enum
  | arithmetic op a b => .binary (.arithmetic op) a.toExpr b.toExpr
  | coalesce a b => .binary .coalesce a.toExpr b.toExpr
  | method a name => .call a.toExpr name []

/-- The expression of an operand. -/
def Comparand.toExpr : Comparand → Expr
  | term a => a.toExpr
  | truth b => .constant (.bool b)

namespace Condition

/-- The expression of a condition. -/
def toExpr : Condition → Expr
  | column name enum => .member .row name enum
  | truth b => .constant (.bool b)
  | comparison c l r _ => .binary (.comparison c) l.toExpr r.toExpr
  | search place a needle => .call a.toExpr place.methodName [.constant (.text needle)]
  | connective c p q => .binary (.connective c) p.toExpr q.toExpr
  | not p => .not p.toExpr

/-- The columns that stand for truth values. -/
def bareColumns : Condition → List String
  | column name _ => [name]
  | connective _ p q => p.bareColumns ++ q.bareColumns
  | not p => p.bareColumns
  | truth _ | comparison _ _ _ _ | search _ _ _ => []

end Condition

theorem TextMethod.ofCall?_methodName (place : SearchPlace) (needle : String) :
    ofCall? place.methodName [.text needle] = some (search place needle) := by
  cases place <;> rfl

theorem Value.call_search_isBool {v w : Value} {place : SearchPlace} {needle : String}
    (h : v.call place.methodName [.text needle] = .ok w) : ∃ b, w = .bool b := by
  cases v with
  | text s =>
    rw [call, callText?_eq, TextMethod.ofCall?_methodName] at h
    cases h
    exact ⟨_, rfl⟩
  | _ => cases h

theorem Term.toExpr_ne_row (a : Term) : a.toExpr ≠ .row := by
  cases a <;> exact nofun

/-! ## Meaning of terms -/

/-- What a term stands for in a row: a value of the host, the null literal, or a value of SQL. -/
inductive Meaning (α : Type) where
  | host (v : Value)
  | null
  | sql (x : Option α)

/-- How SQL computes a method that answers with a text. -/
def Interpretation.method? {α : Type} (I : Interpretation α) :
    TextMethod → Option (Option α → Option α)
  | .trim side => some (I.trim side)
  | .upper => some I.upper
  | .lower => some I.lower
  | .search _ _ => none

namespace Meaning

variable {α : Type} (d : Dialect) (I : Interpretation α) (row : Row α)

/-- The meaning of a constant. -/
def ofConstant : Value → Meaning α
  | .null => null
  | v => host v

/-- Whether the term is known to be null. -/
def isNull : Meaning α → Bool
  | host v => v.isNull
  | null => true
  | sql _ => false

/-- The value in SQL. A value of the host needs a literal. -/
def value? : Meaning α → Option (Option α)
  | host v => (Literal.ofValue v).toOption.map fun l => I.operand row (d.operand l)
  | null => some none
  | sql x => some x

/-- A field. -/
def field? (name : String) : Meaning α → Option (Meaning α)
  | host v => (v.field name).toOption.map host
  | _ => none

/-- The result of an operator. -/
def compute? (op : Operator) : Meaning α → Meaning α → Option (Meaning α)
  | host v, host w => (op.eval v w).toOption.map host
  | m, n => do return sql (I.compute op (← m.value? d I row) (← n.value? d I row))

/-- The result of a method without arguments. -/
def method? (name : String) : Meaning α → Option (Meaning α)
  | host v => (v.call name []).toOption.map host
  | null => none
  | sql x => ((TextMethod.ofCall? name []).bind I.method?).map fun f => sql (f x)

/-- The truth value of a search. -/
def search? (place : SearchPlace) (needle : String) : Meaning α → Option Truth
  | host v => ((v.call place.methodName [.text needle]).toOption.bind Value.bool?).map .ofBool
  | null => none
  | sql x => some (I.search x (I.literal (.text (place.pattern needle))))

/-- The truth value of a test for null. -/
def nullTest? (isNull : Bool) (m : Meaning α) : Option Truth :=
  (m.value? d I row).map fun x => .ofBool (x.isNone == isNull)

variable [DecidableEq α]

/-- The truth value of a comparison. -/
def compare? (c : Comparison) : Meaning α → Meaning α → Option Truth
  | host v, host w => ((c.eval v w).toOption.bind Value.bool?).map .ofBool
  | m, n =>
    if c.isEquality && n.isNull then nullTest? d I row (c == .eq) m
    else if c.isEquality && m.isNull then nullTest? d I row (c == .eq) n
    else do return I.compare c (← m.value? d I row) (← n.value? d I row)

end Meaning

section Meaning

variable {α : Type} (d : Dialect) (I : Interpretation α) (row : Row α)

/-- The meaning of a term. -/
def Term.meaning? : Term → Option (Meaning α)
  | column name => some (.sql (row name))
  | constant v _ => some (.ofConstant v)
  | field object name _ => do (← object.meaning?).field? name
  | arithmetic op a b => do (← a.meaning?).compute? d I row (.arithmetic op) (← b.meaning?)
  | coalesce a b => do (← a.meaning?).compute? d I row .coalesce (← b.meaning?)
  | method a name => do (← a.meaning?).method? I name

/-- The meaning of an operand. The literal of a truth value denotes a value of SQL. -/
def Comparand.meaning? : Comparand → Option (Meaning α)
  | term a => a.meaning? d I row
  | truth b => some (.sql (I.literal (d.operand (.bool b))))

/-! ## Truth of conditions -/

variable [DecidableEq α]

/-- The truth value of a condition. -/
def Condition.truth? : Condition → Option Truth
  | column name _ => some (I.compare .eq (row name) (I.literal (d.operand (.bool true))))
  | truth b => some (.ofBool b)
  | comparison c l r _ => do (← l.meaning? d I row).compare? d I row c (← r.meaning? d I row)
  | search place a needle => do (← a.meaning? d I row).search? I place needle
  | connective c p q => do return c.kleene (← p.truth?) (← q.truth?)
  | not p => (truth? p).map .not

end Meaning

end WhereClause

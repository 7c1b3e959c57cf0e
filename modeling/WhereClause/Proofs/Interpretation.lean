import WhereClause.TextMethod
import WhereClause.Proofs.Tree

/-!
# The meaning of parse trees

What a parse tree says of a row, in SQL's three truth values. Little is fixed: the connectives are
Kleene's, `=` and `<>` are equality and its negation, a comparison and a search are unknown if an
operand is null, and `is null` never is unknown. All else is left to an interpretation, which says
what literals denote, how values are computed and ordered, and which texts match a pattern. Null is
the lack of a value.

A tree is either a value or a truth value, or it is neither and has no meaning: nothing is said
about truth values that are computed with, or about values that are joined by connectives.

Headlines:
* `Connective.kleene_ofBool`, `Truth.not_ofBool`: on truth values that are known, logic is as usual.
* `Tree.value?`, `Tree.truth?`: the meaning of a tree.
-/

namespace WhereClause

/-! ## Truth values -/

/-- A truth value of SQL. -/
inductive Truth where
  | holds
  | fails
  | unknown
  deriving Repr, DecidableEq

namespace Truth

/-- A truth value that is known. -/
def ofBool : Bool → Truth
  | true => holds
  | false => fails

/-- Kleene's negation. -/
def not : Truth → Truth
  | holds => fails
  | fails => holds
  | unknown => unknown

theorem not_ofBool (b : Bool) : (ofBool b).not = ofBool !b := by
  cases b <;> rfl

end Truth

/-- Kleene's connectives. -/
def Connective.kleene : Connective → Truth → Truth → Truth
  | .and, .fails, _ | .and, _, .fails => .fails
  | .and, .holds, .holds => .holds
  | .or, .holds, _ | .or, _, .holds => .holds
  | .or, .fails, .fails => .fails
  | _, _, _ => .unknown

theorem Connective.kleene_ofBool (c : Connective) (p q : Bool) :
    c.kleene (.ofBool p) (.ofBool q) = .ofBool (c.apply p q) := by
  cases c <;> cases p <;> cases q <;> rfl

/-! ## Interpretations -/

/-- What is left open about the values of SQL. `literal` is asked about quoted texts, numerals and
words, and `order` about the comparisons that do not test equality. -/
structure Interpretation (α : Type) where
  literal : Operand → Option α
  arithmetic : Arithmetic → Option α → Option α → Option α
  coalesce : Option α → Option α → Option α
  upper : Option α → Option α
  lower : Option α → Option α
  trim : TrimSide → Option α → Option α
  order : Comparison → α → α → Truth
  like : α → α → Truth

/-- A row: the value of each column, if it is not null. -/
abbrev Row (α : Type) := String → Option α

/-- A test of two values that is unknown if one of them is null. -/
def Truth.unlessNull {α : Type} (test : α → α → Truth) : Option α → Option α → Truth
  | some a, some b => test a b
  | _, _ => unknown

namespace Interpretation

variable {α : Type} (I : Interpretation α)

/-- The value of an operand. -/
def operand (row : Row α) : Operand → Option α
  | .column name => row name
  | .null => none
  | o => I.literal o

/-- The value of an operator that computes one. -/
def compute : Operator → Option α → Option α → Option α
  | .arithmetic op => I.arithmetic op
  | .coalesce => I.coalesce
  | _ => fun _ _ => none

/-- The operator that an infix computes by. -/
def computation? : Infix → Option Operator
  | .add => some (.arithmetic .add)
  | .sub => some (.arithmetic .sub)
  | .mul => some (.arithmetic .mul)
  | .div => some (.arithmetic .div)
  | _ => none

/-- The value of a function. The two ways to write that one side is trimmed mean the same. -/
def call : Function → Option α → Option α
  | .upper => I.upper
  | .lower => I.lower
  | .trim => I.trim .both
  | .ltrim | .trimLeading => I.trim .leading
  | .rtrim | .trimTrailing => I.trim .trailing

/-- The value of a function of two operands. -/
def pair : PairFunction → Option α → Option α → Option α
  | .mod => I.compute (.arithmetic .mod)
  | .coalesce => I.compute .coalesce

/-- The truth value of a comparison. -/
def compare [DecidableEq α] (c : Comparison) : Option α → Option α → Truth :=
  Truth.unlessNull fun a b =>
    match c with
    | .eq => .ofBool (decide (a = b))
    | .ne => .ofBool (decide (a ≠ b))
    | c => I.order c a b

/-- The truth value of a search. -/
def search : Option α → Option α → Truth := Truth.unlessNull I.like

end Interpretation

/-! ## Trees -/

namespace Tree

variable {α : Type} (I : Interpretation α) (row : Row α)

/-- The value of a tree, if it is one. -/
def value? : Tree → Option (Option α)
  | leaf o => some (I.operand row o)
  | group x => value? x
  | call f x => (value? x).map (I.call f)
  | pair f x y => do return I.pair f (← value? x) (← value? y)
  | binary op x y => do
    let f ← Interpretation.computation? op
    return I.compute f (← value? x) (← value? y)
  | not _ => none

/-- Whether a tree with the given value or truth value is null. -/
def isNull? : Option (Option α) → Option Truth → Option Bool
  | some x, _ => some x.isNone
  | none, t => t.map (· == .unknown)

variable [DecidableEq α]

/-- The truth value of a tree, if it is one. -/
def truth? : Tree → Option Truth
  | group x => truth? x
  | binary (.connective c) x y => do return c.kleene (← truth? x) (← truth? y)
  | binary (.comparison c) x y => do return I.compare c (← value? I row x) (← value? I row y)
  | binary .like x y => do return I.search (← value? I row x) (← value? I row y)
  | binary .is x (leaf .null) => (isNull? (value? I row x) (truth? x)).map .ofBool
  | binary .isNot x (leaf .null) => (isNull? (value? I row x) (truth? x)).map fun b => .ofBool !b
  | not x => (truth? x).map .not
  | _ => none

end Tree

end WhereClause

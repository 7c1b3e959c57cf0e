import WhereClause.Error
import WhereClause.TextMethod

/-!
# Evaluation in the host

What an expression without columns evaluates to is built from the operations here, on values alone.
Null is neither below nor above anything, equal to null only, and passes through arithmetic. A text
is ordered by its code points.

Headlines:
* `Value.callText?_eq`: the methods of a text in the host are those that SQL has.
* `Value.equal?_comm`: equality does not depend on the order of its operands.
* `Comparison.eval_of_equal?`: `=` and `<>` ask only whether their operands are equal.
* `Comparison.eval_isBool`: a comparison answers with a truth value.
-/

namespace WhereClause

namespace Value

/-- The order of two values of one ordered kind; a NaN has none. Other pairs cannot be compared. -/
def order? : Value → Value → Option (Option Ordering)
  | number a, number b => some (a.compare? b)
  | text a, text b => some (some (compare a b))
  | timestamp a, timestamp b => some (some (a.compare b))
  | _, _ => none

/-- Whether two values are equal, if they can be. Numbers are equal when neither is below the
other, in any representations. -/
def equal? : Value → Value → Option Bool
  | null, null => some true
  | null, _ | _, null => some false
  | number a, number b => some (a.compare? b == some .eq)
  | bool a, bool b => some (a == b)
  | text a, text b => some (a == b)
  | timestamp a, timestamp b => some (a == b)
  | _, _ => none

end Value

/-- Evaluates a connective. -/
def Connective.eval (c : Connective) (a b : Value) : Except EvalError Value :=
  match a.bool?, b.bool? with
  | some p, some q => .ok (.bool (c.apply p q))
  | _, _ => .error (.mismatch (.connective c) a.kind b.kind)

/-- Evaluates a comparison. A mismatch under `<>` is one of equality. -/
def Comparison.eval (c : Comparison) (a b : Value) : Except EvalError Value :=
  match c with
  | .eq | .ne =>
    match a.equal? b with
    | some e => .ok (.bool (if c = .eq then e else !e))
    | none => .error (.mismatch (.comparison .eq) a.kind b.kind)
  | .gt | .ge | .lt | .le =>
    if a.isNull || b.isNull then .ok (.bool false)
    else
      match a.order? b with
      | some o => .ok (.bool (o.any c.holds))
      | none => .error (.mismatch (.comparison c) a.kind b.kind)

/-- Evaluates an arithmetic operation. -/
def Arithmetic.eval (op : Arithmetic) (a b : Value) : Except EvalError Value :=
  match a, b with
  | .null, _ | _, .null => .ok .null
  | .number m, .number n => ((Number.apply op m n).map Value.number).mapError .arithmetic
  | .text s, .text t =>
    if op = .add then .ok (.text (s ++ t))
    else .error (.mismatch (.arithmetic op) .text .text)
  | a, b => .error (.mismatch (.arithmetic op) a.kind b.kind)

/-- Evaluates an operator. -/
def Operator.eval : Operator → Value → Value → Except EvalError Value
  | connective c, a, b => c.eval a b
  | comparison c, a, b => c.eval a b
  | arithmetic op, a, b => op.eval a b
  | coalesce, a, b => .ok (if a.isNull then b else a)

namespace Value

/-- The negation of a truth value. -/
def negate : Value → Except EvalError Value
  | bool b => .ok (bool !b)
  | v => .error (.negation v.kind)

/-- Reads a field of a record. -/
def field (name : String) (v : Value) : Except EvalError Value :=
  match v with
  | record _ =>
    match v.field? name with
    | some w => .ok w
    | none => .error (.missingField name)
  | null => .error (.fieldOfNull name)
  | v => .error (.fieldOf v.kind name)

/-- What a method of a text gives. Letter case counts in its name, and the number of arguments and
their kinds have to fit. -/
def callText? (s method : String) (args : List Value) : Option Value :=
  match method, args with
  | "Trim", [] => some (text (Text.trim s))
  | "TrimStart", [] | "LTrim", [] => some (text (Text.trimStart s))
  | "TrimEnd", [] | "RTrim", [] => some (text (Text.trimEnd s))
  | "ToUpper", [] => some (text (Text.toUpper s))
  | "ToLower", [] => some (text (Text.toLower s))
  | "StartsWith", [text needle] => some (bool (Text.startsWith s needle))
  | "EndsWith", [text needle] => some (bool (Text.endsWith s needle))
  | "Contains", [text needle] => some (bool (Text.contains s needle))
  | _, _ => none

/-- Calls a method. Only texts have methods. -/
def call (receiver : Value) (method : String) (args : List Value) : Except CompileError Value :=
  match receiver with
  | text s =>
    match callText? s method args with
    | some v => .ok v
    | none => .error (.method method)
  | null => .error (.evaluation (.methodOnNull method))
  | _ => .error (.method method)

/-- A text has the same methods in the host as in SQL. -/
theorem callText?_eq (s method : String) (args : List Value) :
    callText? s method args = (TextMethod.ofCall? method args).map fun m => m.apply s := by
  fun_cases TextMethod.ofCall? method args
  case case11 => unfold callText?; split <;> simp_all
  all_goals rfl

/-- Null is equal to null only. -/
theorem equal?_null_left (v : Value) : null.equal? v = some v.isNull := by
  cases v <;> rfl

theorem equal?_comm (a b : Value) : a.equal? b = b.equal? a := by
  cases a <;> cases b <;> simp only [equal?]
  · rename_i p q
    exact congrArg some (by cases p <;> cases q <;> rfl)
  · rename_i m n
    rw [Number.compare?_swap m n]
    cases h : m.compare? n with
    | none => rfl
    | some o => cases o <;> rfl
  · rw [Bool.beq_comm]
  · rw [Bool.beq_comm]

end Value

/-- The comparisons that test equality ask for nothing else. -/
theorem Comparison.eval_of_equal? {c : Comparison} (hc : c.isEquality = true) {a b : Value}
    {e : Bool} (h : a.equal? b = some e) : c.eval a b = .ok (.bool (e == (c == .eq))) := by
  cases c with
  | eq =>
    rw [eval, h]
    cases e <;> rfl
  | ne =>
    rw [eval, h]
    cases e <;> rfl
  | _ => cases hc

theorem Comparison.eval_isBool {c : Comparison} {a b v : Value} (h : c.eval a b = .ok v) :
    ∃ p, v = .bool p := by
  cases c with
  | eq | ne =>
    simp only [eval] at h
    split at h
    · cases h
      exact ⟨_, rfl⟩
    · cases h
  | gt | ge | lt | le =>
    simp only [eval] at h
    split at h
    · cases h
      exact ⟨_, rfl⟩
    · split at h
      · cases h
        exact ⟨_, rfl⟩
      · cases h

end WhereClause

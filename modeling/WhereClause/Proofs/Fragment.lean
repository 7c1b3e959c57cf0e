import WhereClause.Compile
import WhereClause.Proofs.Reduce

/-!
# What the compiler does to fragments

The operations of `Compiler`, each by what it does to operands of which kind. What shows them in
reduction is not spoken of here.

Headlines:
* `Compiler.arrange_null_right`, `Compiler.arrange_null_left`, `Compiler.arrange_of_not_null`: the
  operands of `=` and `<>`.
* `Compiler.combine_values`, `Compiler.combine_eq`: operators between values, and between others.
* `Compiler.join_of_known`, `Compiler.join_values`, `Compiler.join_eq`: connectives.
* `Compiler.columnMethod_of_ofCall?`, `Compiler.columnMethod_eq_error`: the methods of columns are
  those of `TextMethod.ofCall?`.
-/

namespace WhereClause

namespace Resolved

/-- The enum whose members a column stores, if it is one of an enum. -/
def enum? : Resolved → Option EnumType
  | sql (.enumColumn _ enum) => some enum
  | _ => none

/-- The value, if it is one of the host. -/
def value? : Resolved → Option Value
  | value v => some v
  | sql _ => none

theorem enum?_eq_none {r : Resolved} (h : ∀ text t, r ≠ sql (.enumColumn text t)) :
    r.enum? = none := by
  unfold enum?
  split
  · exact absurd rfl (h _ _)
  · rfl

end Resolved

namespace Compiler

variable (c : Compiler)

/-! ## Operands of `=` and `<>` -/

section

variable {k : Comparison} {l r : Fragment}

theorem arrange_null_right (hk : k.isEquality = true) (hr : r.isNull = true) :
    c.arrange (.comparison k) l r = (if k = .eq then "is" else "is not", l, r) := by
  simp [arrange, Operator.isEquality, hk, hr]

theorem arrange_null_left (hk : k.isEquality = true) (hl : l.isNull = true)
    (hr : r.isNull = false) :
    c.arrange (.comparison k) l r = (if k = .eq then "is" else "is not", r, l) := by
  simp [arrange, Operator.isEquality, hk, hl, hr]

theorem arrange_of_not_null (hk : k.isEquality = true) (hl : l.isNull = false)
    (hr : r.isNull = false) :
    c.arrange (.comparison k) l r =
      (k.sql, l.collapse c.literals, r.collapse c.literals) := by
  simp [arrange, Operator.isEquality, Operator.sql, hk, hl, hr]

end

/-! ## Operators -/

/-- The fragment of an operand, given the enum whose members stand beside it, if there is one. -/
def operandFor (enum : Option EnumType) (r : Resolved) : Except CompileError Fragment :=
  match enum with
  | some t => c.enumOperand t r
  | none => c.quoted r

theorem operandFor_sql (enum : Option EnumType) (f : Fragment) :
    c.operandFor enum (.sql f) = .ok f := by
  cases enum <;> rfl

theorem combine_values (op : Operator) (v w : Value) :
    c.combine op (.value v) (.value w) =
      ((op.eval v w).mapError .evaluation).map .value :=
  except_mapError_map _ _ _

/-- Operands that are not both values are put together, each with regard to the enum of the
other. -/
theorem combine_eq (op : Operator) {l r : Resolved} (h : l.value? = none ∨ r.value? = none) :
    c.combine op l r = do
      let x ← c.operandFor r.enum? l
      let y ← c.operandFor l.enum? r
      return .sql (c.compose op x y) := by
  unfold combine
  split
  · rw [operandFor_sql]
    rfl
  · rw [operandFor_sql]
    rfl
  · rcases h with h | h <;> cases h
  · rename_i hl hr _
    rw [Resolved.enum?_eq_none fun text t => hl text t,
      Resolved.enum?_eq_none fun text t => hr text t]
    rfl

/-! ## Connectives -/

theorem fold_bools (k : Connective) (p q : Bool) :
    fold k (.bool p) (.bool q) = .ok (.sql (.constant (k.apply p q))) := by
  have hconstant : (some (k.apply p q) == some true) = k.apply p q := by
    cases k.apply p q <;> rfl
  have hfold : fold k (.bool p) (.bool q) =
      .ok (.sql (.constant (some (k.apply p q) == some true))) := rfl
  rw [hfold, hconstant]

/-- The connective of values, one of which is no truth value. -/
theorem fold_eq_error {k : Connective} {v w : Value} (h : v.bool? = none ∨ w.bool? = none) :
    fold k v w = .error (.evaluation (.mismatch (.connective k) v.kind w.kind)) := by
  have heval : k.eval v w = .error (.mismatch (.connective k) v.kind w.kind) := by
    unfold Connective.eval
    split
    · rename_i hv hw
      rw [hv, hw] at h
      rcases h with h | h <;> cases h
    · rfl
  rw [fold, heval]
  rfl

theorem join_of_known (k : Connective) {l r : Resolved} {p q : Bool}
    (hl : l.constantBool? = some p) (hr : r.constantBool? = some q) :
    c.join k l r = .ok (.sql (.constant (k.apply p q))) := by
  simp only [join, hl, hr, fold_bools]

theorem join_values (k : Connective) (v w : Value) :
    c.join k (.value v) (.value w) = fold k v w := by
  unfold join
  split
  · rename_i p q hv hw
    cases v with
    | bool p =>
      cases w with
      | bool q =>
        cases hv
        cases hw
        rfl
      | _ => cases hw
    | _ => cases hv
  · rfl

/-- Predicates of which one is unknown are put together, unless they are both values. -/
theorem join_eq (k : Connective) {l r : Resolved}
    (hknown : l.constantBool? = none ∨ r.constantBool? = none)
    (hvalue : l.value? = none ∨ r.value? = none) :
    c.join k l r = do
      let x ← l.toFragment k
      let y ← r.toFragment k
      return .sql (.raw
        ("(" ++ x.render c.literals ++ " " ++ k.sql ++ " " ++ y.render c.literals ++ ")")) := by
  unfold join
  split
  · rename_i hl hr
    rw [hl, hr] at hknown
    rcases hknown with h | h <;> cases h
  · split
    · rcases hvalue with h | h <;> cases h
    · rfl

/-! ## Methods -/

theorem ofCall?_of_trimSide? {method : String} {side : TrimSide}
    (h : trimSide? method = some side) :
    TextMethod.ofCall? method [] = some (.trim side) := by
  unfold trimSide? at h
  split at h <;> cases h <;> rfl

theorem columnMethod_of_ofCall? (column : String) {method : String} {vs : List Value}
    {m : TextMethod} (h : TextMethod.ofCall? method vs = some m) :
    c.columnMethod column method (vs.map .value) = .ok (Sql.methodText c.dialect column m) := by
  unfold TextMethod.ofCall? at h
  split at h <;> cases h <;> rfl

theorem columnMethod_eq_error (column : String) {method : String} {args : List Resolved}
    (h : ∀ vs : List Value, args = vs.map .value → TextMethod.ofCall? method vs = none) :
    c.columnMethod column method args = .error (.method method) := by
  unfold columnMethod
  split
  · rename_i side hside
    cases args with
    | nil =>
      have hcall := h [] rfl
      rw [ofCall?_of_trimSide? hside] at hcall
      cases hcall
    | cons r rs => rfl
  · unfold genericMethod
    split
    · cases h [] rfl
    · cases h [] rfl
    · cases h [.text _] rfl
    · cases h [.text _] rfl
    · cases h [.text _] rfl
    · rfl

end Compiler

end WhereClause

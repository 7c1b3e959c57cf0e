import WhereClause.Fragment

/-!
# Compiling predicates

An expression is visited from its leaves on. Two values of the host give a value of the host; a value
beside a fragment is quoted by the dialect; fragments are put together as text. What is decided on
the way is decided by the tags of fragments and never by their text.

A predicate is an expression that stands for a truth value. A column by itself is the test that it
is true; null and the other values are no predicates.

Headlines:
* `Compiler.literals_literal`, `Compiler.literals_sentinel`: a compiler spells truth values as its
  dialect does.
-/

namespace WhereClause

/-- A compiler for one dialect, with the spellings of the truth values at hand. -/
structure Compiler where
  dialect : Dialect
  literals : BoolLiterals
  literals_eq : literals = .ofDialect dialect

namespace Compiler

/-- The compiler for a dialect. -/
def new (d : Dialect) : Compiler := ⟨d, .ofDialect d, rfl⟩

variable (c : Compiler)

@[simp] theorem literals_literal (b : Bool) : c.literals.literal b = c.dialect.truth b := by
  rw [c.literals_eq, BoolLiterals.literal_ofDialect]

@[simp] theorem literals_sentinel (b : Bool) : c.literals.sentinel b = c.dialect.constant b := by
  rw [c.literals_eq, BoolLiterals.sentinel_ofDialect]

/-! ## Columns -/

/-- The fragment of a column. -/
def column (col : Column) : Fragment :=
  match col.enum with
  | some enum => .enumColumn (c.dialect.quoteColumn col.name) enum
  | none => .column (c.dialect.quoteColumn col.name)

/-- The test that a column has the given truth value. -/
def columnIs (col : Column) (b : Bool) : Resolved :=
  .sql (.raw (c.dialect.quoteColumn col.name ++ "=" ++ c.literals.literal b))

/-- What an expression that `visited` is the result of resolves to as a predicate. A column by itself
is the test that it is true. -/
def predicate (e : Expr) (visited : Except CompileError Resolved) : Except CompileError Resolved :=
  match e.column? with
  | some col => .ok (c.columnIs col true)
  | none => visited

/-! ## Connectives -/

/-- The connective of two values of the host. -/
def fold (k : Connective) (a b : Value) : Except CompileError Resolved := do
  let v ← (k.eval a b).mapError .evaluation
  return .sql (.constant (v.bool? == some true))

/-- Joins two predicates by a connective. -/
def join (k : Connective) (left right : Resolved) : Except CompileError Resolved :=
  match left.constantBool?, right.constantBool? with
  | some a, some b => fold k (.bool a) (.bool b)
  | _, _ =>
    match left, right with
    | .value a, .value b => fold k a b
    | left, right => do
      let l ← left.toFragment k
      let r ← right.toFragment k
      return .sql (.raw
        ("(" ++ l.render c.literals ++ " " ++ k.sql ++ " " ++ r.render c.literals ++ ")"))

/-! ## Other operators -/

/-- The fragment of an operand. A value is quoted as the type that it has by itself. -/
def quoted : Resolved → Except CompileError Fragment
  | .sql f => .ok f
  | .value .null => .ok .null
  | .value v => ((c.dialect.quoteValue v).map Fragment.raw).mapError .literal

/-- The fragment of an operand beside a column of an enum. A whole number is an ordinal, and it is
quoted as the name under which that member is stored. -/
def enumOperand (enum : EnumType) : Resolved → Except CompileError Fragment
  | .sql f => .ok f
  | .value v =>
    match v.number?.bind Number.toSigned? with
    | some ordinal =>
      match enum.nameOf? ordinal with
      | some name => ((c.dialect.quote (.text name) .enumName).map Fragment.raw).mapError .literal
      | none => .error (.unknownOrdinal enum.name ordinal)
    | none => c.quoted (.value v)

/-- The spelling of an operator with its operands, as they are written. Beside `=` and `<>` null goes
to the right and is tested for, and constant truth values are literals. -/
def arrange (op : Operator) (left right : Fragment) : String × Fragment × Fragment :=
  if op.isEquality then
    let (left, right) := if left.isNull && !right.isNull then (right, left) else (left, right)
    if right.isNull then (if op = .comparison .eq then "is" else "is not", left, right)
    else (op.sql, left.collapse c.literals, right.collapse c.literals)
  else (op.sql, left, right)

/-- The fragment of an operator applied to fragments. -/
def compose (op : Operator) (left right : Fragment) : Fragment :=
  let (sql, left, right) := c.arrange op left right
  let l := left.render c.literals
  let r := right.render c.literals
  .raw (if op.isFunction then sql ++ "(" ++ l ++ "," ++ r ++ ")"
    else "(" ++ l ++ " " ++ sql ++ " " ++ r ++ ")")

/-- Applies an operator that is no connective. -/
def combine (op : Operator) (left right : Resolved) : Except CompileError Resolved :=
  match left, right with
  | .sql (.enumColumn text enum), right => do
    return .sql (c.compose op (.enumColumn text enum) (← c.enumOperand enum right))
  | left, .sql (.enumColumn text enum) => do
    return .sql (c.compose op (← c.enumOperand enum left) (.enumColumn text enum))
  | .value a, .value b => ((op.eval a b).map .value).mapError .evaluation
  | left, right => do
    let l ← c.quoted left
    let r ← c.quoted right
    return .sql (c.compose op l r)

/-! ## Methods -/

/-- The text of a `like` pattern. -/
def pattern (s : String) : Except CompileError String :=
  (c.dialect.quote (.text s) .text).mapError .literal

/-- The text of a method that every dialect writes alike, called on the text of a column. -/
def genericMethod (column method : String) (args : List Resolved) : Except CompileError String :=
  match method, args with
  | "ToUpper", [] => .ok ("upper(" ++ column ++ ")")
  | "ToLower", [] => .ok ("lower(" ++ column ++ ")")
  | "StartsWith", [.value (.text s)] => do return column ++ " like " ++ (← c.pattern (s ++ "%"))
  | "EndsWith", [.value (.text s)] => do return column ++ " like " ++ (← c.pattern ("%" ++ s))
  | "Contains", [.value (.text s)] => do
    return column ++ " like " ++ (← c.pattern ("%" ++ s ++ "%"))
  | _, _ => .error (.method method)

/-- Where a method trims, if it does. -/
def trimSide? : String → Option TrimSide
  | "Trim" => some .both
  | "TrimStart" | "LTrim" => some .leading
  | "TrimEnd" | "RTrim" => some .trailing
  | _ => none

/-- The text of a method called on the text of a column. -/
def columnMethod (column method : String) (args : List Resolved) : Except CompileError String :=
  match trimSide? method with
  | some side =>
    if args.isEmpty then .ok (c.dialect.trim side column) else .error (.method method)
  | none => c.genericMethod column method args

/-- Calls a method: over columns in SQL, of a value in the host. -/
def call (receiver : Resolved) (method : String) (args : List Resolved) :
    Except CompileError Resolved :=
  match receiver with
  | .sql f =>
    if f.isColumnLike then
      (c.columnMethod (f.render c.literals) method args).map fun s => .sql (.raw s)
    else .error (.expression (.methodOnConstant method))
  | .value v => do
    let vs ← args.mapM (Resolved.argument method)
    (v.call method vs).map .value

/-! ## Negation -/

/-- Negates a predicate that is no column by itself. -/
def negate : Resolved → Except CompileError Resolved
  | .value v => (v.negate.map .value).mapError .evaluation
  | .sql (.constant b) => .ok (.sql (.constant !b))
  | .sql .null => .error (.expression .negatedNull)
  | .sql f => .ok (.sql (.raw ("NOT " ++ f.render c.literals)))

/-! ## Expressions -/

mutual

/-- Visits an expression. Operands are visited from left to right, and the first failure is the one
that counts. -/
def visit : Expr → Except CompileError Resolved
  | .row => .error (.expression .rowAsValue)
  | .constant v => .ok (.ofConstant v)
  | .member .row name enum => .ok (.sql (c.column ⟨name, enum⟩))
  | .member object name _ => do (← visit object).field name
  | .binary op left right =>
    match op with
    | .connective k => do
      let l ← c.predicate left (visit left)
      let r ← c.predicate right (visit right)
      c.join k l r
    | op => do
      let l ← visit left
      let r ← visit right
      c.combine op l r
  | .call receiver method args => do
    let r ← visit receiver
    let as ← visitList args
    c.call r method as
  | .not inner =>
    match inner.column? with
    | some col => .ok (c.columnIs col false)
    | none => do c.negate (← visit inner)

/-- Visits arguments from left to right. -/
def visitList : List Expr → Except CompileError (List Resolved)
  | [] => .ok []
  | e :: es => do
    let r ← visit e
    let rs ← visitList es
    return r :: rs

end

/-- The text of an expression as a predicate. -/
def compile (e : Expr) : Except CompileError String := do
  match ← c.predicate e (c.visit e) with
  | .sql .null => .error (.expression .nullPredicate)
  | .sql f => .ok (f.render c.literals)
  | .value (.bool b) => .ok (c.literals.sentinel b)
  | .value v => .error (.expression (.predicate v.kind))

end Compiler

/-- The text of an expression as a predicate of a dialect. -/
def Expr.compile (d : Dialect) (e : Expr) : Except CompileError String := (Compiler.new d).compile e

/-- The text of a page in a dialect. -/
def Page.compile (d : Dialect) (p : Page) : Except CompileError String :=
  (d.pageClause p).mapError .page

end WhereClause

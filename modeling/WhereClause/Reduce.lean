import WhereClause.Evaluate
import WhereClause.Sql

/-!
# Reduction

What compiling does, apart from all text. An expression is reduced as far as the host can: to a
value when it has no columns, and otherwise to SQL, in which every part without columns is a
literal. The constants null and the truth values are SQL from the start, because as predicates they
have a form of their own, and null has one beside `=` and `<>`. An ordinal beside an enum column
becomes the stored name.

Everything here is the same in every dialect. That compiling in a dialect writes the text of what is
reduced here is `Compiler.visit_eq` and `Expr.compile_eq`.

Headlines:
* `Reduced.join_of_truths`: a connective of predicates that are known is known.
* `Expr.reduce_row`: the row by itself reduces to nothing; only its members do.
-/

namespace WhereClause

/-- What an expression reduces to. -/
inductive Reduced where
  | value (v : Value)
  | sql (s : Sql)
  deriving Repr

namespace Reduced

/-- A constant. -/
def ofConstant : Value → Reduced
  | .null => sql .null
  | .bool b => sql (.truth b)
  | v => value v

/-- The value, if it is one of the host. -/
def value? : Reduced → Option Value
  | value v => some v
  | sql _ => none

/-- The truth value that is known of a predicate, in either of its forms. -/
def truth? : Reduced → Option Bool
  | value (.bool b) => some b
  | sql (.truth b) => some b
  | _ => none

/-- A column that stands for a predicate is the test that it is true. -/
def asPredicate : Reduced → Reduced
  | sql (.column c) => sql (.columnIs c.name true)
  | r => r

/-! ## Operators -/

/-- The SQL of an operand; a value becomes a literal. -/
def toSql : Reduced → Except CompileError Sql
  | sql s => .ok s
  | value v => ((Literal.ofValue v).map Sql.literal).mapError .literal

/-- The SQL of an operand beside a column of an enum. A whole number is an ordinal, and it becomes
the literal of the name under which that member is stored. -/
def toSqlBeside (enum : EnumType) : Reduced → Except CompileError Sql
  | sql s => .ok s
  | value v =>
    match v.number?.bind Number.toSigned? with
    | none => toSql (value v)
    | some ordinal =>
      match enum.nameOf? ordinal with
      | some name => .ok (.literal (.text name))
      | none => .error (.unknownOrdinal enum.name ordinal)

/-- Applies an operator that is no connective. -/
def combine (op : Operator) (left right : Reduced) : Except CompileError Reduced :=
  match left, right with
  | sql (.column ⟨name, some enum⟩), r => do
    return sql (.combine op (.column ⟨name, some enum⟩) (← toSqlBeside enum r))
  | l, sql (.column ⟨name, some enum⟩) => do
    return sql (.combine op (← toSqlBeside enum l) (.column ⟨name, some enum⟩))
  | value a, value b => ((op.eval a b).map value).mapError .evaluation
  | l, r => do
    let x ← toSql l
    let y ← toSql r
    return sql (.combine op x y)

/-- The SQL of an operand of a connective. -/
def toPredicate (c : Connective) : Reduced → Except CompileError Sql
  | sql s => .ok s
  | value (.bool b) => .ok (.truth b)
  | value v => .error (.expression (.operand c v.kind))

/-- Joins two predicates by a connective. -/
def join (c : Connective) (left right : Reduced) : Except CompileError Reduced :=
  match left.truth?, right.truth? with
  | some p, some q => .ok (sql (.truth (c.apply p q)))
  | _, _ =>
    match left, right with
    | value a, value b => .error (.evaluation (.mismatch (.connective c) a.kind b.kind))
    | l, r => do
      let x ← toPredicate c l
      let y ← toPredicate c r
      return sql (.binary (.connective c) x y)

/-- Applies an operator. -/
def apply (op : Operator) (left right : Reduced) : Except CompileError Reduced :=
  match op with
  | .connective c => join c left.asPredicate right.asPredicate
  | op => combine op left right

/-- Negates a predicate. Of a column it is the test that it is false. -/
def negate : Reduced → Except CompileError Reduced
  | value v => (v.negate.map value).mapError .evaluation
  | sql (.truth b) => .ok (sql (.truth !b))
  | sql (.literal .null) => .error (.expression .negatedNull)
  | sql (.column c) => .ok (sql (.columnIs c.name false))
  | sql s => .ok (sql (.not s))

/-! ## Members and methods -/

/-- Reads a member of something that is not the row. -/
def field (name : String) : Reduced → Except CompileError Reduced
  | value v => ((v.field name).map value).mapError .evaluation
  | sql _ => .error (.expression (.fieldOfSql name))

/-- Calls a method: over columns in SQL, of a value in the host. -/
def call (receiver : Reduced) (method : String) (args : List Reduced) :
    Except CompileError Reduced :=
  match receiver with
  | sql (.literal _) | sql (.truth _) => .error (.expression (.methodOnConstant method))
  | sql s =>
    match (args.mapM value?).bind (TextMethod.ofCall? method) with
    | some m => .ok (sql (.method m s))
    | none => .error (.method method)
  | value v =>
    match args.mapM value? with
    | some vs => (v.call method vs).map value
    | none => .error (.expression (.columnArgument method))

/-! ## Predicates -/

/-- The SQL of what stands for a predicate. -/
def predicate (r : Reduced) : Except CompileError Sql :=
  match r.asPredicate with
  | sql (.literal .null) => .error (.expression .nullPredicate)
  | sql s => .ok s
  | value (.bool b) => .ok (.truth b)
  | value v => .error (.expression (.predicate v.kind))

theorem join_of_truths {c : Connective} {l r : Reduced} {p q : Bool} (hl : l.truth? = some p)
    (hr : r.truth? = some q) : join c l r = .ok (sql (.truth (c.apply p q))) := by
  simp only [join, hl, hr]

end Reduced

namespace Expr

mutual

/-- Reduces an expression. Operands are reduced from left to right, and the first failure is the
one that counts. -/
def reduce : Expr → Except CompileError Reduced
  | row => .error (.expression .rowAsValue)
  | constant v => .ok (.ofConstant v)
  | member row name enum => .ok (.sql (.column ⟨name, enum⟩))
  | member object name _ => do (← reduce object).field name
  | binary op left right => do
    let l ← reduce left
    let r ← reduce right
    Reduced.apply op l r
  | call receiver method args => do
    let r ← reduce receiver
    let as ← reduceList args
    r.call method as
  | not inner => do (← reduce inner).negate

/-- Reduces arguments from left to right. -/
def reduceList : List Expr → Except CompileError (List Reduced)
  | [] => .ok []
  | e :: es => do
    let r ← reduce e
    let rs ← reduceList es
    return r :: rs

end

/-- The SQL of an expression as a predicate. -/
def predicate (e : Expr) : Except CompileError Sql := do
  (← e.reduce).predicate

-- Not by `rfl`: this makes the equations of `reduce`, once for all proofs that rewrite with them.
theorem reduce_row : reduce row = .error (.expression .rowAsValue) := by
  rw [reduce]

theorem reduce_column (name : String) (enum : Option EnumType) :
    reduce (member row name enum) = .ok (.sql (.column ⟨name, enum⟩)) := rfl

end Expr

end WhereClause

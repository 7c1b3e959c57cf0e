import WhereClause.Proofs.Simulation

/-!
# Templates

What a dialect has a say in, of the text of a predicate: a template is the text with holes where the
truth values, the timestamps and the trimmed operands go. It is found without a dialect. Compilers,
which have their dialect at hand at every step, fill the holes and do nothing else with it, because
they simulate reduction (`Compiler.visit_eq`). Two truth values that are spelled alike are still two
kinds of holes.

Headlines:
* `Sql.fillAll_template`: the text of SQL in a dialect is its template, filled by the dialect.
* `Compiler.constant?_visit`: all dialects find the same constants.
* `Expr.compile_eq_fill`: what is compiled is the template, filled by the dialect, and what is
  refused is refused the same way.
* `Expr.compile_congr`: dialects that fill holes alike compile alike.
-/

namespace WhereClause

/-- A piece of a template. The trimmed operand is a template again. -/
inductive Piece where
  | fixed (s : String)
  | truth (b : Bool)
  | timestamp (t : Timestamp)
  | trim (side : TrimSide) (inner : List Piece)
  deriving Repr

namespace Piece

mutual

/-- The text of a piece in a dialect. -/
def fill (d : Dialect) : Piece → String
  | fixed s => s
  | truth b => d.truth b
  | timestamp t => "'" ++ String.ofList (t.text d.timestampFormat) ++ "'"
  | trim side inner => d.trim side (fillAll d inner)

/-- The text of a template in a dialect. -/
def fillAll (d : Dialect) : List Piece → String
  | [] => ""
  | p :: ps => fill d p ++ fillAll d ps

end

variable (d : Dialect)

@[simp] theorem fillAll_append (ps qs : List Piece) :
    fillAll d (ps ++ qs) = fillAll d ps ++ fillAll d qs := by
  induction ps with
  | nil => rw [List.nil_append, fillAll, String.empty_append]
  | cons p ps ih => rw [List.cons_append, fillAll, fillAll, ih, String.append_assoc]

@[simp] theorem fillAll_fixed (s : String) (ps : List Piece) :
    fillAll d (fixed s :: ps) = s ++ fillAll d ps := by
  rw [fillAll, fill]

@[simp] theorem fillAll_truth (b : Bool) (ps : List Piece) :
    fillAll d (truth b :: ps) = d.truth b ++ fillAll d ps := by
  rw [fillAll, fill]

@[simp] theorem fillAll_nil : fillAll d [] = "" := by
  rw [fillAll]

/-! ### What holes depend on -/

variable {d} {d' : Dialect}

mutual

theorem fill_congr (ht : d.truth = d'.truth) (hf : d.timestampFormat = d'.timestampFormat)
    (hm : d.trimForm = d'.trimForm) : (p : Piece) → fill d p = fill d' p
  | fixed s => rfl
  | truth b => by rw [fill, fill, ht]
  | timestamp t => by rw [fill, fill, hf]
  | trim side inner => by
    rw [fill, fill, fillAll_congr ht hf hm inner]
    unfold Dialect.trim
    rw [hm]

theorem fillAll_congr (ht : d.truth = d'.truth) (hf : d.timestampFormat = d'.timestampFormat)
    (hm : d.trimForm = d'.trimForm) : (ps : List Piece) → fillAll d ps = fillAll d' ps
  | [] => by rw [fillAll, fillAll]
  | p :: ps => by
    rw [fillAll, fillAll, fill_congr ht hf hm p, fillAll_congr ht hf hm ps]

end

end Piece

open Piece

/-- The template of a literal. -/
def Literal.template : Literal → List Piece
  | null => [.fixed "null"]
  | bool b => [.truth b]
  | integer n => [.fixed (Text.ofInt n)]
  | float x _ => [.fixed x.text]
  | text s => [.fixed (Text.quoted s)]
  | timestamp t => [.timestamp t]

theorem Literal.fillAll_template (d : Dialect) (l : Literal) :
    fillAll d l.template = d.literal l := by
  cases l with
  | timestamp t => rw [template, fillAll, fill, fillAll_nil, String.append_empty, Dialect.literal]
  | _ => simp [template, Dialect.literal]

namespace Sql

/-- The template of an operator applied to the templates of its operands. -/
def operatorTemplate (op : Operator) (left right : List Piece) : List Piece :=
  if op.isFunction then
    [.fixed op.sql, .fixed "("] ++ left ++ [.fixed ","] ++ right ++ [.fixed ")"]
  else
    [.fixed "("] ++ left ++ [.fixed " ", .fixed op.sql, .fixed " "] ++ right ++ [.fixed ")"]

/-- The template of a method applied to the template of its operand. -/
def methodTemplate (x : List Piece) : TextMethod → List Piece
  | .trim side => [.trim side x]
  | .upper => [.fixed "upper("] ++ x ++ [.fixed ")"]
  | .lower => [.fixed "lower("] ++ x ++ [.fixed ")"]
  | .search place needle => x ++ [.fixed " like ", .fixed (Text.quoted (place.pattern needle))]

/-- The template of SQL. -/
def template : Sql → List Piece
  | column c => [.fixed (Text.identifier c.name)]
  | literal l => l.template
  | truth b => [.fixed "(", .truth true, .fixed "=", .truth b, .fixed ")"]
  | columnIs name b => [.fixed (Text.identifier name), .fixed "=", .truth b]
  | binary op left right => operatorTemplate op (template left) (template right)
  | nullTest isNull x =>
    [.fixed "("] ++ template x ++ [.fixed (if isNull then " is null)" else " is not null)")]
  | method m x => methodTemplate (template x) m
  | not x => .fixed "NOT " :: template x

variable (d : Dialect)

theorem fillAll_operatorTemplate (op : Operator) (ps qs : List Piece) :
    fillAll d (operatorTemplate op ps qs) = operatorText op (fillAll d ps) (fillAll d qs) := by
  unfold operatorTemplate operatorText
  split
  · simp [String.append_assoc]
  · simp [String.append_assoc]

theorem fillAll_methodTemplate (m : TextMethod) (ps : List Piece) :
    fillAll d (methodTemplate ps m) = methodText d (fillAll d ps) m := by
  cases m with
  | trim side => rw [methodTemplate, fillAll, fill, fillAll_nil, String.append_empty, methodText]
  | upper => simp [methodTemplate, methodText, String.append_assoc]
  | lower => simp [methodTemplate, methodText, String.append_assoc]
  | search place needle => simp [methodTemplate, methodText, String.append_assoc]

/-- **The text of SQL is its template, filled by the dialect.** -/
theorem fillAll_template (x : Sql) : fillAll d x.template = x.text d := by
  induction x with
  | column c => simp [template, text]
  | literal l => exact l.fillAll_template d
  | truth b => simp [template, text, Dialect.constant, Dialect.truth, String.append_assoc]
  | columnIs name b => simp [template, text, String.append_assoc]
  | binary op left right ihl ihr => rw [template, fillAll_operatorTemplate, ihl, ihr, text]
  | nullTest isNull x ih => simp [template, text, ih, String.append_assoc]
  | method m x ih => rw [template, fillAll_methodTemplate, ih, text]
  | not x ih => rw [template, fillAll_fixed, ih, text]

end Sql

/-! ## Constants -/

/-- The constant that a node resolves to, if it is one: a value of the host, null or a truth
value. -/
def Resolved.constant? : Resolved → Option Value
  | value v => some v
  | sql .null => some .null
  | sql (.constant b) => some (.bool b)
  | sql _ => none

/-- What is a constant in one dialect is so in every other. -/
theorem Reduced.constant?_resolved (d d' : Dialect) (r : Reduced) :
    (r.resolved d).constant? = (r.resolved d').constant? := by
  cases r with
  | value v => rfl
  | sql x =>
    cases x with
    | column col =>
      obtain ⟨name, enum⟩ := col
      cases enum <;> rfl
    | literal l => cases l <;> rfl
    | _ => rfl

theorem Compiler.constant?_visit (c c' : Compiler) (e : Expr) :
    (c.visit e).map Resolved.constant? = (c'.visit e).map Resolved.constant? := by
  rw [c.visit_eq, c'.visit_eq]
  cases e.reduce with
  | error err => rfl
  | ok r => exact congrArg Except.ok (r.constant?_resolved c.dialect c'.dialect)

/-! ## Expressions -/

namespace Expr

/-- The template of an expression as a predicate. -/
def template (e : Expr) : Except CompileError (List Piece) := e.predicate.map Sql.template

theorem compile_isOk (d : Dialect) (e : Expr) : (e.compile d).isOk = e.predicate.isOk := by
  rw [compile_eq]
  cases e.predicate <;> rfl

/-- **Dialects only fill holes.** There is one template of an expression, or one reason why it has
none. Every dialect refuses the expression for that reason, or compiles it to the template, filled
with its own spellings. So no dialect refuses what another accepts; and all dialects find the same
constants in it, also those that spell true and false alike. -/
theorem compile_eq_fill (e : Expr) :
    (∀ d : Dialect, e.compile d = e.template.map (fillAll d)) ∧
      (∀ d d' : Dialect, (e.compile d).isOk = (e.compile d').isOk) ∧
      ∀ c c' : Compiler,
        (c.visit e).map Resolved.constant? = (c'.visit e).map Resolved.constant? := by
  refine ⟨fun d => ?_, fun d d' => ?_, fun c c' => c.constant?_visit c' e⟩
  · rw [compile_eq, template]
    cases e.predicate with
    | error err => rfl
    | ok x => exact congrArg Except.ok (x.fillAll_template d).symm
  · rw [compile_isOk, compile_isOk]

/-- Neither the name of a dialect nor its way of paging plays a part. -/
theorem compile_congr {d d' : Dialect} (ht : d.truth = d'.truth)
    (hf : d.timestampFormat = d'.timestampFormat) (hm : d.trimForm = d'.trimForm) (e : Expr) :
    e.compile d = e.compile d' := by
  have htext : Sql.text d = Sql.text d' := by
    funext x
    rw [← x.fillAll_template d, ← x.fillAll_template d', fillAll_congr ht hf hm]
  rw [compile_eq, compile_eq, htext]

end Expr

end WhereClause

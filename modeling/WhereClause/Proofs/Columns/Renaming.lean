import WhereClause.Dialect.Builtin
import WhereClause.Proofs.Columns

/-!
# Renaming columns

The names of columns play no part but to be written: the predicate of an expression with its columns
renamed is the predicate of the expression with its columns renamed, and an expression that is
refused is refused the same way. The new names may be any, and two columns may come to have one
name. Each operation of reduction is shown not to look at names; so are the trees that stand for the
text, token by token.

Headlines:
* `Expr.reduce_rename`: reduction does not depend on the names of columns.
* `Sql.tree_rename`, `Tree.tokens_rename`: neither do the tokens of SQL, but for the names.
* `Expr.compile_columns`: the columns of a predicate, and what renaming does to it.
-/

namespace WhereClause

/-! ## Renamed expressions -/

namespace Expr

mutual

/-- The expression with its columns renamed. -/
def rename (f : String → String) : Expr → Expr
  | row => row
  | constant v => constant v
  | member row name enum => member row (f name) enum
  | member object name enum => member (rename f object) name enum
  | binary op left right => binary op (rename f left) (rename f right)
  | call receiver method args => call (rename f receiver) method (renameList f args)
  | not inner => not (rename f inner)

/-- Several expressions with their columns renamed. -/
def renameList (f : String → String) : List Expr → List Expr
  | [] => []
  | e :: es => rename f e :: renameList f es

end

variable {f : String → String}

theorem rename_member {a : Expr} (ha : a ≠ row) (name : String) (enum : Option EnumType) :
    rename f (member a name enum) = member (rename f a) name enum := by
  rw [rename]
  exact ha

theorem rename_ne_row {a : Expr} (ha : a ≠ row) : rename f a ≠ row := by
  cases a with
  | row => exact absurd rfl ha
  | member object name enum =>
    by_cases h : object = row
    · rw [h, rename]
      exact nofun
    · rw [rename_member h]
      exact nofun
  | _ =>
    rw [rename]
    exact nofun

end Expr

/-! ## Renamed SQL -/

namespace Sql

/-- The SQL with its columns renamed. -/
def rename (f : String → String) : Sql → Sql
  | column c => column ⟨f c.name, c.enum⟩
  | literal l => literal l
  | truth b => truth b
  | columnIs name b => columnIs (f name) b
  | binary op left right => binary op (rename f left) (rename f right)
  | nullTest isNull x => nullTest isNull (rename f x)
  | method m x => method m (rename f x)
  | not x => not (rename f x)

variable (f : String → String)

theorem rename_eq_literal_iff {x : Sql} {l : Literal} : x.rename f = literal l ↔ x = literal l := by
  cases x <;> simp [rename]

theorem rename_eq_truth_iff {x : Sql} {b : Bool} : x.rename f = truth b ↔ x = truth b := by
  cases x <;> simp [rename]

theorem plain_rename (x : Sql) : (x.rename f).plain = x.plain.rename f := by
  cases x <;> rfl

theorem equality_rename (isEqual : Bool) (x y : Sql) :
    equality isEqual (x.rename f) (y.rename f) = (equality isEqual x y).rename f := by
  by_cases hy : y = null
  · rw [hy, equality_null_right]
    exact equality_null_right _ _
  · have hy' : y.rename f ≠ null := fun h => hy ((rename_eq_literal_iff f).mp h)
    by_cases hx : x = null
    · rw [hx, equality_null_left _ hy]
      exact equality_null_left _ hy'
    · have hx' : x.rename f ≠ null := fun h => hx ((rename_eq_literal_iff f).mp h)
      rw [equality_of_ne_null _ hx' hy', equality_of_ne_null _ hx hy, plain_rename, plain_rename,
        rename]

theorem combine_rename (op : Operator) (x y : Sql) :
    combine op (x.rename f) (y.rename f) = (combine op x y).rename f := by
  cases op with
  | comparison c =>
    cases c with
    | eq => exact equality_rename f true x y
    | ne => exact equality_rename f false x y
    | _ => rfl
  | _ => rfl

end Sql

namespace Reduced

/-- What is reduced, with its columns renamed. -/
def rename (f : String → String) : Reduced → Reduced
  | value v => value v
  | sql x => sql (x.rename f)

variable (f : String → String)

theorem value?_rename (r : Reduced) : (r.rename f).value? = r.value? := by
  cases r <;> rfl

theorem truth?_rename (r : Reduced) : (r.rename f).truth? = r.truth? := by
  cases r with
  | value v => rfl
  | sql x => cases x <;> rfl

theorem enum?_rename (r : Reduced) : (r.rename f).enum? = r.enum? := by
  cases r with
  | value v => rfl
  | sql x => cases x <;> rfl

/-- A value has no columns. -/
theorem map_rename_value {ε : Type} (x : Except ε Value) :
    (x.map value).map (rename f) = x.map value := by
  cases x <;> rfl

theorem asPredicate_rename (r : Reduced) :
    (r.rename f).asPredicate = r.asPredicate.rename f := by
  cases r with
  | value v => rfl
  | sql x => cases x <;> rfl

theorem toSqlFor_rename (enum : Option EnumType) (r : Reduced) :
    (r.rename f).toSqlFor enum = (r.toSqlFor enum).map (Sql.rename f) := by
  cases r with
  | sql x =>
    rw [rename, toSqlFor_sql, toSqlFor_sql]
    rfl
  | value v =>
    rw [rename]
    cases h : (value v).toSqlFor enum with
    | error err => rfl
    | ok x =>
      rcases toSqlFor_eq_ok h with hx | ⟨w, l, -, rfl⟩
      · cases hx
      · rfl

theorem toPredicate_rename (c : Connective) (r : Reduced) :
    (r.rename f).toPredicate c = (r.toPredicate c).map (Sql.rename f) := by
  cases r with
  | sql x => rfl
  | value v => cases v <;> rfl

theorem combine_rename (op : Operator) (l r : Reduced) :
    combine op (l.rename f) (r.rename f) = (combine op l r).map (rename f) := by
  by_cases hv : l.value? = none ∨ r.value? = none
  · have hv' : (l.rename f).value? = none ∨ (r.rename f).value? = none := by
      rwa [value?_rename, value?_rename]
    rw [combine_eq op hv, combine_eq op hv', enum?_rename, enum?_rename, toSqlFor_rename,
      toSqlFor_rename]
    cases l.toSqlFor r.enum? with
    | error err => rfl
    | ok x =>
      cases r.toSqlFor l.enum? with
      | error err => rfl
      | ok y => exact congrArg (Except.ok ∘ sql) (Sql.combine_rename f op x y)
  · cases l with
    | sql x => exact absurd (Or.inl rfl) hv
    | value v =>
      cases r with
      | sql y => exact absurd (Or.inr rfl) hv
      | value w =>
        rw [rename, rename, combine_values, map_rename_value]

theorem join_rename (c : Connective) (l r : Reduced) :
    join c (l.rename f) (r.rename f) = (join c l r).map (rename f) := by
  have hside : (do
      let x ← (l.rename f).toPredicate c
      let y ← (r.rename f).toPredicate c
      return sql (.binary (.connective c) x y)) = Except.map (rename f) (do
      let x ← l.toPredicate c
      let y ← r.toPredicate c
      return sql (.binary (.connective c) x y)) := by
    rw [toPredicate_rename, toPredicate_rename]
    cases l.toPredicate c with
    | error err => rfl
    | ok x => cases r.toPredicate c <;> rfl
  unfold join
  rw [truth?_rename, truth?_rename]
  split
  · rfl
  · cases l with
    | sql x => exact hside
    | value v =>
      cases r with
      | sql y => exact hside
      | value w => rfl

theorem apply_rename (op : Operator) (l r : Reduced) :
    apply op (l.rename f) (r.rename f) = (apply op l r).map (rename f) := by
  cases op with
  | connective c =>
    rw [apply, asPredicate_rename, asPredicate_rename]
    exact join_rename f c _ _
  | _ => exact combine_rename f _ l r

theorem negate_rename (r : Reduced) : (r.rename f).negate = r.negate.map (rename f) := by
  cases r with
  | value v => rw [rename, negate_value, map_rename_value]
  | sql x =>
    cases x with
    | literal l => cases l <;> rfl
    | _ => rfl

theorem field_rename (name : String) (r : Reduced) :
    (r.rename f).field name = (r.field name).map (rename f) := by
  cases r with
  | sql x => rfl
  | value v => rw [rename, field_value, map_rename_value]

theorem mapM_value?_rename (rs : List Reduced) :
    (rs.map (rename f)).mapM value? = rs.mapM value? := by
  induction rs with
  | nil => rfl
  | cons r rs ih => rw [List.map_cons, List.mapM_cons, List.mapM_cons, ih, value?_rename]

theorem call_rename (method : String) (r : Reduced) (args : List Reduced) :
    (r.rename f).call method (args.map (rename f)) = (r.call method args).map (rename f) := by
  cases r with
  | value v =>
    rw [rename, call, call, mapM_value?_rename]
    cases args.mapM value? with
    | none => rfl
    | some vs => exact (map_rename_value f (v.call method vs)).symm
  | sql x =>
    by_cases hl : ∃ l, x = .literal l
    · obtain ⟨l, rfl⟩ := hl
      rfl
    by_cases hb : ∃ b, x = .truth b
    · obtain ⟨b, rfl⟩ := hb
      rfl
    rw [not_exists] at hl hb
    rw [rename, call_sql hl hb, call_sql (fun l h => hl l ((Sql.rename_eq_literal_iff f).mp h))
      fun b h => hb b ((Sql.rename_eq_truth_iff f).mp h), mapM_value?_rename]
    cases (args.mapM value?).bind (TextMethod.ofCall? method) <;> rfl

theorem predicate_rename (r : Reduced) :
    (r.rename f).predicate = r.predicate.map (Sql.rename f) := by
  rw [predicate, predicate, asPredicate_rename]
  cases r.asPredicate with
  | value v => cases v <;> rfl
  | sql x =>
    cases x with
    | literal l => cases l <;> rfl
    | _ => rfl

end Reduced

/-! ## Reduction of renamed expressions -/

namespace Expr

variable (f : String → String)

mutual

/-- **Reduction does not depend on the names of columns.** -/
theorem reduce_rename : (e : Expr) → (e.rename f).reduce = e.reduce.map (Reduced.rename f)
  | row => rfl
  | constant v => by cases v <;> rfl
  | member object name enum => by
    by_cases hrow : object = row
    · rw [hrow]
      rfl
    · rw [rename_member hrow, reduce_member hrow, reduce_member (rename_ne_row hrow),
        reduce_rename object]
      cases object.reduce with
      | error err => rfl
      | ok r => exact Reduced.field_rename f name r
  | binary op a b => by
    rw [rename, reduce, reduce, reduce_rename a, reduce_rename b]
    cases a.reduce with
    | error err => rfl
    | ok l =>
      cases b.reduce with
      | error err => rfl
      | ok r => exact Reduced.apply_rename f op l r
  | call a method as => by
    rw [rename, reduce, reduce, reduce_rename a, reduceList_rename as]
    cases a.reduce with
    | error err => rfl
    | ok r =>
      cases reduceList as with
      | error err => rfl
      | ok rs => exact Reduced.call_rename f method r rs
  | not a => by
    rw [rename, reduce, reduce, reduce_rename a]
    cases a.reduce with
    | error err => rfl
    | ok r => exact Reduced.negate_rename f r

theorem reduceList_rename : (es : List Expr) →
    reduceList (renameList f es) = (reduceList es).map (List.map (Reduced.rename f))
  | [] => rfl
  | e :: es => by
    rw [renameList, reduceList, reduceList, reduce_rename e, reduceList_rename es]
    cases e.reduce with
    | error err => rfl
    | ok r => cases reduceList es <;> rfl

end

theorem predicate_rename (e : Expr) :
    (e.rename f).predicate = e.predicate.map (Sql.rename f) := by
  rw [predicate, predicate, reduce_rename]
  cases e.reduce with
  | error err => rfl
  | ok r => exact Reduced.predicate_rename f r

end Expr

/-! ## Renamed tokens -/

/-- An operand, renamed if it is a column. -/
def Operand.rename (f : String → String) : Operand → Operand
  | column name => column (f name)
  | o => o

/-- A token, renamed if it is a column. -/
def Token.rename (f : String → String) : Token → Token
  | operand o => operand (o.rename f)
  | t => t

/-- A symbol, renamed if it is a column. -/
def Symbol.rename (f : String → String) : Symbol → Symbol
  | operand o => operand (o.rename f)
  | s => s

namespace Tree

/-- A tree with its columns renamed. -/
def rename (f : String → String) : Tree → Tree
  | leaf o => leaf (o.rename f)
  | group x => group (rename f x)
  | call g x => call g (rename f x)
  | pair g x y => pair g (rename f x) (rename f y)
  | binary op x y => binary op (rename f x) (rename f y)
  | not x => not (rename f x)

variable (f : String → String)

theorem tokens_rename_symbol (s : Symbol) :
    (s.rename f).tokens = s.tokens.map (Token.rename f) := by
  cases s with
  | operand o => rfl
  | operator op =>
    cases op with
    | connective c => cases c <;> rfl
    | comparison c => cases c <;> rfl
    | _ => rfl
  | opening b =>
    cases b with
    | group => rfl
    | call g => cases g <;> rfl
    | pair g => cases g <;> rfl
  | _ => rfl

theorem symbols_rename (x : Tree) : (x.rename f).symbols = x.symbols.map (Symbol.rename f) := by
  induction x with
  | leaf o => rfl
  | group x ih => simp [rename, symbols, ih, Symbol.rename]
  | call g x ih => simp [rename, symbols, ih, Symbol.rename]
  | pair g x y ihx ihy => simp [rename, symbols, ihx, ihy, Symbol.rename]
  | binary op x y ihx ihy => simp [rename, symbols, ihx, ihy, Symbol.rename]
  | not x ih => simp [rename, symbols, ih, Symbol.rename]

/-- **Renaming a tree renames its tokens.** -/
theorem tokens_rename (x : Tree) : (x.rename f).tokens = x.tokens.map (Token.rename f) := by
  rw [tokens, tokens, symbols_rename, List.flatMap_map, List.map_flatMap]
  simp only [tokens_rename_symbol]

end Tree

namespace Sql

variable (f : String → String) {d : Dialect}

theorem rename_operand (hd : d.SpellsConstants) (l : Literal) :
    (d.operand l).rename f = d.operand l := by
  have h := columns_operand hd l
  cases ho : d.operand l with
  | column name =>
    rw [ho] at h
    cases h
  | _ => rfl

theorem operatorTree_rename (op : Operator) (x y : Tree) :
    operatorTree op (x.rename f) (y.rename f) = (operatorTree op x y).rename f := by
  cases op with
  | arithmetic a => cases a <;> rfl
  | _ => rfl

theorem methodTree_rename (x : Tree) (m : TextMethod) :
    methodTree d (x.rename f) m = (methodTree d x m).rename f := by
  cases m <;> rfl

theorem truthTree_rename (hd : d.SpellsConstants) (x : Operand) (b : Bool) :
    truthTree d (x.rename f) b = (truthTree d x b).rename f := by
  rw [truthTree, truthTree, Tree.rename, Tree.rename, Tree.rename, rename_operand f hd]

/-- **The tree of renamed SQL is the renamed tree.** -/
theorem tree_rename (hd : d.SpellsConstants) (x : Sql) :
    (x.rename f).tree d = (x.tree d).rename f := by
  induction x with
  | column c => rfl
  | literal l =>
    rw [rename, tree, Tree.rename, rename_operand f hd]
  | truth b =>
    rw [rename, tree, Tree.rename, ← truthTree_rename f hd, rename_operand f hd]
  | columnIs name b => exact truthTree_rename f hd (.column name) b
  | binary op left right ihl ihr => rw [rename, tree, tree, ihl, ihr, operatorTree_rename]
  | nullTest isNull x ih =>
    rw [rename, tree, tree, ih]
    rfl
  | method m x ih => rw [rename, tree, tree, ih, methodTree_rename]
  | not x ih =>
    rw [rename, tree, tree, ih]
    rfl

end Sql

/-! ## Predicates -/

theorem BuiltinDialect.spellsConstants (b : BuiltinDialect) : b.dialect.SpellsConstants := by
  cases b with
  | firebird => exact Dialect.spellsLiterals_firebird.constants
  | sqlite => exact Dialect.spellsLiterals_sqlite.constants

namespace Expr

/-- Renaming the columns of an expression renames the columns in the text of its predicate. -/
theorem compile_rename (f : String → String) {d : Dialect} (hd : d.SpellsConstants) {e : Expr}
    {s : String} (h : e.compile d = .ok s) :
    ∃ t ts, (e.rename f).compile d = .ok t ∧ Token.lex s.toList = some ts ∧
      Token.lex t.toList = some (ts.map (Token.rename f)) := by
  obtain ⟨x, hx, rfl⟩ := compile_eq_ok_iff.mp h
  refine ⟨(x.rename f).text d, (x.tree d).tokens, ?_, Sql.lex_text hd x, ?_⟩
  · rw [compile_eq, predicate_rename, hx]
    rfl
  · rw [Sql.lex_text hd, Sql.tree_rename f hd, Tree.tokens_rename]

/-- An expression that is refused is refused under all names, for the same reason. -/
theorem compile_rename_error (f : String → String) {d : Dialect} {e : Expr} {err : CompileError}
    (h : e.compile d = .error err) : (e.rename f).compile d = .error err := by
  rw [compile_eq] at h ⊢
  rw [predicate_rename]
  cases hx : e.predicate with
  | ok x =>
    rw [hx] at h
    cases h
  | error err' =>
    rw [hx] at h
    exact h

/-- **The columns in the text of a predicate are those of the expression**, in the same order, and
renaming them changes nothing else: neither whether there is a text nor any other token of it. -/
theorem compile_columns (b : BuiltinDialect) (e : Expr) :
    (∀ s, e.compile b.dialect = .ok s →
        ∃ ts, Token.lex s.toList = some ts ∧ Token.columnNames ts = e.columns) ∧
      ∀ f : String → String,
        (∀ err, e.compile b.dialect = .error err → (e.rename f).compile b.dialect = .error err) ∧
          ∀ s, e.compile b.dialect = .ok s →
            ∃ t ts, (e.rename f).compile b.dialect = .ok t ∧ Token.lex s.toList = some ts ∧
              Token.lex t.toList = some (ts.map (Token.rename f)) :=
  ⟨fun _ h => columns_tokens b.spellsConstants h, fun f =>
    ⟨fun _ h => compile_rename_error f h, fun _ h => compile_rename f b.spellsConstants h⟩⟩

/-- A test for null whose operands are exchanged, beside columns of which one has a quote in its
name. -/
def exchanged : Expr :=
  binary (.connective .and) (binary (.comparison .eq) (constant .null) (member row "a\"b" none))
    (binary (.comparison .eq) (member row "x" none) (member row "a\"b" none))

/-- What no name makes a predicate. -/
def memberOfColumn : Expr := member (member row "a" none) "b" none

theorem compile_columns_exchanged :
    let text := "((\"a\"\"b\" is null) AND (\"x\" = \"a\"\"b\"))"
    exchanged.compile .sqlite = .ok text ∧
      (∃ ts, Token.lex text.toList = some ts ∧ Token.columnNames ts = ["a\"b", "x", "a\"b"]) ∧
      (∃ t ts, (exchanged.rename fun _ => "c").compile .sqlite = .ok t ∧
        Token.lex text.toList = some ts ∧
        Token.lex t.toList = some (ts.map (Token.rename fun _ => "c"))) ∧
      memberOfColumn.compile .sqlite = .error (.expression (.fieldOfSql "b")) ∧
      (memberOfColumn.rename fun _ => "c").compile .sqlite =
        .error (.expression (.fieldOfSql "b")) := by
  intro text
  have hok : exchanged.compile .sqlite = .ok text := rfl
  have herror : memberOfColumn.compile .sqlite = .error (.expression (.fieldOfSql "b")) := rfl
  obtain ⟨hcolumns, hrename⟩ := compile_columns .sqlite exchanged
  obtain ⟨-, hrefused⟩ := compile_columns .sqlite memberOfColumn
  exact ⟨hok, hcolumns _ hok, (hrename _).2 _ hok, herror, (hrefused _).1 _ herror⟩

end Expr

end WhereClause

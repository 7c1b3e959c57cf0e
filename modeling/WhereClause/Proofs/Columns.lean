import WhereClause.Proofs.Simulation
import WhereClause.Proofs.Sql

/-!
# Columns

The columns of an expression are in its predicate, each as often as in the expression and in the
same order. Nothing else in the text is read as a column, whatever the texts and names in it look
like. What is evaluated in the host has no columns, so a value never hides one; and where operands
are exchanged, one of them is null.

Headlines:
* `Expr.columns_reduce`: reduction keeps the columns.
* `Sql.columns_tree`: the columns among the tokens of SQL are its columns.
* `Expr.columns_tokens`: so the columns in the text of a predicate are those of the expression.
-/

namespace WhereClause

namespace Expr

/-! ## Columns of expressions -/

mutual

/-- The names of the columns, from left to right. -/
def columns : Expr → List String
  | row => []
  | constant _ => []
  | member row name _ => [name]
  | member object _ _ => columns object
  | binary _ left right => columns left ++ columns right
  | call receiver _ args => columns receiver ++ columnsList args
  | not inner => columns inner

/-- The names of the columns of several expressions. -/
def columnsList : List Expr → List String
  | [] => []
  | e :: es => columns e ++ columnsList es

end

theorem columns_member {a : Expr} (ha : a ≠ row) (name : String) (enum : Option EnumType) :
    columns (member a name enum) = columns a := by
  rw [columns]
  exact ha

end Expr

/-! ## Columns of what is reduced -/

theorem Sql.columns_combine (op : Operator) (x y : Sql) :
    (combine op x y).columns = x.columns ++ y.columns := by
  unfold combine
  split
  · exact columns_equality true x y
  · exact columns_equality false x y
  · rfl

namespace Reduced

/-- The names of the columns. A value has none. -/
def columns : Reduced → List String
  | value _ => []
  | sql x => x.columns

theorem columns_asPredicate (r : Reduced) : r.asPredicate.columns = r.columns := by
  cases r with
  | value v => rfl
  | sql x => cases x <;> rfl

theorem columns_of_truth? {r : Reduced} {b : Bool} (h : r.truth? = some b) : r.columns = [] := by
  unfold truth? at h
  split at h
  · rfl
  · rfl
  · cases h

theorem columns_toSqlFor {enum : Option EnumType} {r : Reduced} {x : Sql}
    (h : r.toSqlFor enum = .ok x) : x.columns = r.columns := by
  rcases toSqlFor_eq_ok h with rfl | ⟨v, l, rfl, rfl⟩
  · rfl
  · rfl

theorem columns_toPredicate {c : Connective} {r : Reduced} {x : Sql}
    (h : r.toPredicate c = .ok x) : x.columns = r.columns := by
  rcases toPredicate_eq_ok h with rfl | ⟨b, rfl, rfl⟩
  · rfl
  · rfl

variable {l r s : Reduced}

theorem columns_combine {op : Operator} (h : combine op l r = .ok s) :
    s.columns = l.columns ++ r.columns := by
  rcases combine_cases h with ⟨v, w, u, rfl, rfl, -, rfl⟩ | ⟨-, x, y, hx, hy, rfl⟩
  · rfl
  · rw [columns, Sql.columns_combine, columns_toSqlFor hx, columns_toSqlFor hy]

theorem columns_join {c : Connective} (h : join c l r = .ok s) :
    s.columns = l.columns ++ r.columns := by
  rcases join_eq_ok h with ⟨p, q, hp, hq, rfl⟩ | ⟨-, x, y, hx, hy, rfl⟩
  · rw [columns_of_truth? hp, columns_of_truth? hq]
    rfl
  · rw [columns, Sql.columns, columns_toPredicate hx, columns_toPredicate hy]

theorem columns_apply {op : Operator} (h : apply op l r = .ok s) :
    s.columns = l.columns ++ r.columns := by
  cases op with
  | connective c =>
    have h := columns_join h
    rwa [columns_asPredicate, columns_asPredicate] at h
  | _ => exact columns_combine h

theorem columns_negate (h : r.negate = .ok s) : s.columns = r.columns := by
  rcases negate_eq_ok h with ⟨b, hr, hs⟩ | ⟨c, rfl, rfl⟩ | ⟨x, rfl, -, -, rfl⟩
  · rw [columns_of_truth? hr, columns_of_truth? hs]
  · rfl
  · rfl

theorem columns_of_mapM_value? {rs : List Reduced} {vs : List Value}
    (h : rs.mapM value? = some vs) : rs.flatMap columns = [] := by
  induction rs generalizing vs with
  | nil => rfl
  | cons r rs ih =>
    obtain ⟨v, vs, rfl, hvs, rfl⟩ := mapM_value?_cons_eq_some h
    rw [List.flatMap_cons, ih hvs]
    rfl

/-- The arguments of a method have no columns. -/
theorem columns_call {method : String} {args : List Reduced} (h : r.call method args = .ok s) :
    s.columns = r.columns ++ args.flatMap columns := by
  obtain ⟨vs, hvs, h⟩ := call_eq_ok h
  rw [columns_of_mapM_value? hvs, List.append_nil]
  rcases h with ⟨x, m, rfl, -, -, -, rfl⟩ | ⟨v, w, rfl, -, rfl⟩
  · rfl
  · rfl

theorem columns_predicate {x : Sql} (h : r.predicate = .ok x) : x.columns = r.columns := by
  rw [← columns_asPredicate]
  rcases predicate_eq_ok h with hr | ⟨b, hr, rfl⟩
  · rw [hr]
    rfl
  · rw [hr]
    rfl

end Reduced

namespace Expr

mutual

/-- **Reduction keeps the columns**: none is lost, written twice or moved. -/
theorem columns_reduce : (e : Expr) → {r : Reduced} → e.reduce = .ok r → r.columns = e.columns
  | row, _, h => nomatch h
  | constant v, _, h => by
    cases h
    cases v <;> rfl
  | member object name enum, _, h => by
    by_cases hrow : object = row
    · rw [hrow] at h ⊢
      cases h
      rfl
    · obtain ⟨r, hr, hfield⟩ := reduce_member_eq_ok hrow h
      obtain ⟨v, w, rfl, -, rfl⟩ := Reduced.field_eq_ok hfield
      rw [columns_member hrow, ← columns_reduce object hr]
      rfl
  | binary op a b, _, h => by
    obtain ⟨l, r, hl, hr, happly⟩ := reduce_binary_eq_ok h
    rw [Reduced.columns_apply happly, columns_reduce a hl, columns_reduce b hr, columns]
  | call a method as, _, h => by
    obtain ⟨r, rs, hr, hrs, hcall⟩ := reduce_call_eq_ok h
    rw [Reduced.columns_call hcall, columns_reduce a hr, columnsList_reduce as hrs, columns]
  | not a, _, h => by
    obtain ⟨r, hr, hnegate⟩ := reduce_not_eq_ok h
    rw [Reduced.columns_negate hnegate, columns_reduce a hr, columns]

theorem columnsList_reduce : (es : List Expr) → {rs : List Reduced} → reduceList es = .ok rs →
    rs.flatMap Reduced.columns = columnsList es
  | [], _, h => by
    cases h
    rfl
  | e :: es, _, h => by
    obtain ⟨r, rs, hr, hrs, rfl⟩ := reduceList_cons_eq_ok h
    rw [List.flatMap_cons, columns_reduce e hr, columnsList_reduce es hrs, columnsList]

end

theorem columns_predicate {e : Expr} {x : Sql} (h : e.predicate = .ok x) :
    x.columns = e.columns := by
  obtain ⟨r, hr, hx⟩ := predicate_eq_ok h
  rw [Reduced.columns_predicate hx, columns_reduce e hr]

end Expr

/-! ## Columns of tokens -/

namespace Token

/-- The name of the column, if the token is one. -/
def column? : Token → Option String
  | operand (.column name) => some name
  | _ => none

/-- The names of the columns among the tokens. -/
def columnNames (ts : List Token) : List String := ts.filterMap column?

@[simp] theorem columnNames_append (ts us : List Token) :
    columnNames (ts ++ us) = columnNames ts ++ columnNames us :=
  List.filterMap_append

@[simp] theorem columnNames_keyword (k : Keyword) (ts : List Token) :
    columnNames (keyword k :: ts) = columnNames ts := rfl

@[simp] theorem columnNames_mark (m : Mark) (ts : List Token) :
    columnNames (mark m :: ts) = columnNames ts := rfl

@[simp] theorem columnNames_nil : columnNames [] = [] := rfl

@[simp] theorem columnNames_operator (op : Infix) : columnNames op.tokens = [] := by
  cases op with
  | connective c => cases c <;> rfl
  | comparison c => cases c <;> rfl
  | _ => rfl

@[simp] theorem columnNames_bracket (b : Bracket) : columnNames b.tokens = [] := by
  cases b with
  | group => rfl
  | call f => cases f <;> rfl
  | pair f => cases f <;> rfl

end Token

namespace Tree

/-- The names of the columns, from left to right. -/
def columns (x : Tree) : List String := Token.columnNames x.tokens

@[simp] theorem columns_column (name : String) : (leaf (.column name)).columns = [name] := rfl

@[simp] theorem columns_group (x : Tree) : (group x).columns = x.columns := by
  simp [columns, tokens_group]

@[simp] theorem columns_call (f : Function) (x : Tree) : (call f x).columns = x.columns := by
  simp [columns, tokens_call]

@[simp] theorem columns_pair (f : PairFunction) (x y : Tree) :
    (pair f x y).columns = x.columns ++ y.columns := by
  simp [columns, tokens_pair]

@[simp] theorem columns_binary (op : Infix) (x y : Tree) :
    (binary op x y).columns = x.columns ++ y.columns := by
  simp [columns, tokens_binary]

@[simp] theorem columns_not (x : Tree) : (not x).columns = x.columns := by
  simp [columns, tokens_not]

end Tree

namespace Sql

variable {d : Dialect}

/-- The spelling of a literal is no column. -/
theorem columns_operand (hd : d.SpellsConstants) (l : Literal) :
    (Tree.leaf (d.operand l)).columns = [] := by
  cases l with
  | bool b =>
    obtain ⟨o, ho, hc⟩ := hd b
    rw [Dialect.operand, ho, Option.getD_some]
    cases o with
    | column name => cases hc
    | _ => rfl
  | _ => rfl

theorem columns_operatorTree (op : Operator) (x y : Tree) :
    (operatorTree op x y).columns = x.columns ++ y.columns := by
  cases op with
  | arithmetic a => cases a <;> simp [operatorTree]
  | _ => simp [operatorTree]

theorem columns_methodTree (x : Tree) (m : TextMethod) : (methodTree d x m).columns = x.columns := by
  cases m with
  | search place needle => exact (Tree.columns_binary _ _ _).trans (List.append_nil _)
  | _ => exact Tree.columns_call _ _

/-- **The columns among the tokens of SQL are its columns.** -/
theorem columns_tree (hd : d.SpellsConstants) (x : Sql) : (x.tree d).columns = x.columns := by
  have hnull : (Tree.leaf .null).columns = [] := rfl
  induction x with
  | column c => rfl
  | literal l => exact columns_operand hd l
  | truth b => simp [tree, truthTree, columns, columns_operand hd]
  | columnIs name b => simp [tree, truthTree, columns, columns_operand hd]
  | binary op left right ihl ihr => rw [tree, columns_operatorTree, ihl, ihr, columns]
  | nullTest isNull x ih => simp [tree, columns, ih, hnull]
  | method m x ih => rw [tree, columns_methodTree, ih, columns]
  | not x ih => rw [tree, Tree.columns_not, ih, columns]

end Sql

/-- **The columns in the text of a predicate are those of the expression.** -/
theorem Expr.columns_tokens {d : Dialect} (hd : d.SpellsConstants) {e : Expr} {s : String}
    (h : e.compile d = .ok s) :
    ∃ ts, Token.lex s.toList = some ts ∧ Token.columnNames ts = e.columns := by
  obtain ⟨x, hx, rfl⟩ := compile_eq_ok_iff.mp h
  exact ⟨_, Sql.lex_text hd x, (Sql.columns_tree hd x).trans (columns_predicate hx)⟩

end WhereClause

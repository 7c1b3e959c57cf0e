import WhereClause.Proofs.Condition
import WhereClause.Proofs.Grouping
import WhereClause.Proofs.Reduce

/-!
# Terms keep their meaning

A term is reduced to what it means: to the value of the host, to the null literal, or to SQL whose
tree has the value that the term has in the row (`Reduced.Means`). The SQL of a term is of a kind
that fits beside every operator (`Sql.isTerm`), so that no parentheses are missing in it.

Headlines:
* `Reduced.Means.toSql`: the SQL of a reduced term has the value that the term means.
* `Reduced.Means.combine`: operators preserve meaning.
* `Term.reduce_means`, `Comparand.reduce_isOperand`: terms and the operands of comparisons are
  reduced to what they mean.
-/

namespace WhereClause

/-- Whether the operator computes a value. -/
def Operator.isComputation : Operator → Bool
  | arithmetic _ | coalesce => true
  | connective _ | comparison _ => false

namespace Sql

/-- The SQL stands for a value, and nothing in it stands for a truth value. -/
def isTerm : Sql → Bool
  | column c => c.enum.isNone
  | literal _ => true
  | binary op x y => op.isComputation && isTerm x && isTerm y
  | method (.search _ _) _ => false
  | method _ x => isTerm x
  | _ => false

theorem isNegation_of_isTerm {x : Sql} (h : x.isTerm = true) : x.isNegation = false := by
  cases x with
  | not x => cases h
  | _ => rfl

theorem isBareComparison_of_isTerm {x : Sql} (h : x.isTerm = true) :
    x.isBareComparison = false := by
  cases x with
  | columnIs name b => cases h
  | method m x =>
    cases m with
    | search place needle => cases h
    | _ => rfl
  | _ => rfl

/-- Terms fit beside every operator. -/
theorem fits_of_isTerm {x y : Sql} (op : Operator) (hx : x.isTerm = true) (hy : y.isTerm = true) :
    fits op x y = true := by
  have hxn := isNegation_of_isTerm hx
  have hxb := isBareComparison_of_isTerm hx
  have hyb := isBareComparison_of_isTerm hy
  unfold fits
  split
  · rfl
  · rfl
  · rfl
  · rw [hxn, hyb]
    rfl
  · rw [hxn, hxb, hyb]
    rfl

theorem isGrouped_of_isTerm {x : Sql} (h : x.isTerm = true) : x.isGrouped = true := by
  induction x with
  | binary op x y ihx ihy =>
    rw [isTerm, Bool.and_eq_true, Bool.and_eq_true] at h
    obtain ⟨⟨-, hx⟩, hy⟩ := h
    rw [isGrouped, ihx hx, ihy hy, fits_of_isTerm op hx hy]
    rfl
  | method m x ih =>
    cases m with
    | search place needle => cases h
    | _ => rw [isGrouped, ih h]; rfl
  | column c => rfl
  | literal l => rfl
  | _ => cases h

theorem plain_of_isTerm {x : Sql} (h : x.isTerm = true) : x.plain = x := by
  cases x with
  | truth b => cases h
  | _ => rfl

end Sql

section Values

variable {α : Type} {d : Dialect} {I : Interpretation α} {row : Row α}

theorem value?_operatorTree {op : Operator} (hop : op.isComputation = true) {t u : Tree}
    {x y : Option α} (ht : t.value? I row = some x) (hu : u.value? I row = some y) :
    (Sql.operatorTree op t u).value? I row = some (I.compute op x y) := by
  cases op with
  | connective c => cases hop
  | comparison c => cases hop
  | arithmetic a =>
    cases a <;>
      simp [Sql.operatorTree, Tree.value?, Interpretation.computation?, Interpretation.pair, ht, hu]
  | coalesce => simp [Sql.operatorTree, Tree.value?, Interpretation.pair, ht, hu]

theorem value?_methodTree {m : TextMethod} {f : Option α → Option α} (hf : I.method? m = some f)
    {t : Tree} {x : Option α} (ht : t.value? I row = some x) :
    (Sql.methodTree d t m).value? I row = some (f x) := by
  cases m with
  | search place needle => cases hf
  | trim side =>
    cases hf
    rw [Sql.methodTree, Tree.value?, ht, Option.map_some]
    cases side with
    | both => rfl
    | leading =>
      unfold Sql.trimFunction
      cases d.trimForm <;> rfl
    | trailing =>
      unfold Sql.trimFunction
      cases d.trimForm <;> rfl
  | upper =>
    cases hf
    rw [Sql.methodTree, Tree.value?, ht]
    rfl
  | lower =>
    cases hf
    rw [Sql.methodTree, Tree.value?, ht]
    rfl

/-- A method without arguments is no search. -/
theorem TextMethod.ofCall?_nil_ne_search (name : String) (place : SearchPlace) (needle : String) :
    ofCall? name [] ≠ some (.search place needle) := by
  intro h
  unfold ofCall? at h
  split at h <;> simp_all

theorem exists_method?_of_ofCall? {name : String} {m : TextMethod}
    (h : TextMethod.ofCall? name [] = some m) : ∃ f, I.method? m = some f := by
  cases m with
  | search place needle => exact absurd h (TextMethod.ofCall?_nil_ne_search name place needle)
  | _ => exact ⟨_, rfl⟩

/-- Only null is written as `null`. -/
theorem literal_eq_null_iff {v : Value} {l : Literal} (h : Literal.ofValue v = .ok l) :
    l = .null ↔ v.isNull = true := by
  cases v with
  | null =>
    cases h
    exact iff_of_true rfl rfl
  | record fields => cases h
  | number n =>
    refine iff_of_false ?_ Bool.false_ne_true
    rintro rfl
    cases n with
    | float x =>
      by_cases hx : x.isFinite = true
      · simp [Literal.ofValue, Value.sqlType?, Number.isIntegral, Number.integer?, Literal.ofTyped,
          Literal.ofTyped?, Literal.ofNumber?, hx] at h
      · simp [Literal.ofValue, Value.sqlType?, Number.isIntegral, Number.integer?, Literal.ofTyped,
          Literal.ofTyped?, Literal.ofNumber?, hx] at h
    | signed i => cases h
    | unsigned n => cases h
  | _ =>
    cases h
    refine iff_of_false ?_ Bool.false_ne_true
    rintro ⟨⟩

end Values

/-! ## Reduced terms -/

section Terms

variable {α : Type} (d : Dialect) (I : Interpretation α) (row : Row α)

/-- The SQL is a term that has the value. -/
structure Sql.Denotes (x : Sql) (v : Option α) : Prop where
  term : x.isTerm = true
  value : (x.tree d).value? I row = some v

/-- What a term has been reduced to is what it means. -/
inductive Reduced.Means : Reduced → Meaning α → Prop
  | host (v : Value) : Means (value v) (.host v)
  | null : Means (sql .null) .null
  | sql {x : Sql} {v : Option α} (hx : x.Denotes d I row v) (hl : ∀ l, x ≠ .literal l) :
    Means (sql x) (.sql v)

variable {d I row}

namespace Meaning

/-- Operators are left to SQL as soon as one operand is. -/
theorem compute?_of_sql (op : Operator) {m n : Meaning α} {x y : Option α}
    (h : (∀ v, m ≠ host v) ∨ ∀ w, n ≠ host w) (hm : m.value? d I row = some x)
    (hn : n.value? d I row = some y) : m.compute? d I row op n = some (sql (I.compute op x y)) := by
  unfold compute?
  split
  · rcases h with h | h
    · exact absurd rfl (h _)
    · exact absurd rfl (h _)
  · rw [hm, hn]
    rfl

end Meaning

namespace Reduced.Means

variable {r s l : Reduced} {m n : Meaning α}

theorem not_host (h : Means d I row r m) (hr : ∀ v, r ≠ value v) : ∀ v, m ≠ .host v := by
  cases h with
  | host v => exact absurd rfl (hr v)
  | null => exact nofun
  | sql hx hl => exact nofun

theorem isEnumColumn (h : Means d I row r m) : r.isEnumColumn = false := by
  cases h with
  | host v => rfl
  | null => rfl
  | @sql x v hx hl =>
    cases x with
    | column c =>
      have hc : c.enum.isNone = true := hx.term
      rw [Option.isNone_iff_eq_none] at hc
      rw [Reduced.isEnumColumn, hc]
      rfl
    | _ => rfl

/-- **The SQL of a reduced term has the value that the term means**, and it is the null literal only
where null is known. -/
theorem toSql {x : Sql} (h : Means d I row r m) (hx : r.toSql = .ok x) :
    ∃ v, m.value? d I row = some v ∧ x.Denotes d I row v ∧ (x = .null ↔ m.isNull = true) := by
  rcases toSql_eq_ok hx with rfl | ⟨w, l, rfl, hl, rfl⟩
  · cases h with
    | null => exact ⟨none, rfl, ⟨rfl, rfl⟩, iff_of_true rfl rfl⟩
    | sql hx hl => exact ⟨_, rfl, hx, iff_of_false (hl _) Bool.false_ne_true⟩
  · cases h with
    | host =>
      refine ⟨I.operand row (d.operand l), ?_, ⟨rfl, rfl⟩, ?_⟩
      · rw [Meaning.value?, hl]
        rfl
      · rw [Sql.null, Sql.literal.injEq, literal_eq_null_iff hl]
        rfl

/-- **Operators preserve meaning.** -/
theorem combine {op : Operator} (hop : op.isComputation = true) (hl : Means d I row l m)
    (hr : Means d I row r n) (h : Reduced.combine op l r = .ok s) :
    ∃ k, m.compute? d I row op n = some k ∧ Means d I row s k := by
  rcases combine_eq_ok hl.isEnumColumn hr.isEnumColumn h with
    ⟨v, w, u, rfl, rfl, hu, rfl⟩ | ⟨hsql, x, y, hx, hy, rfl⟩
  · cases hl
    cases hr
    refine ⟨.host u, ?_, host u⟩
    rw [Meaning.compute?, hu]
    rfl
  · obtain ⟨a, ha, hxa, -⟩ := hl.toSql hx
    obtain ⟨b, hb, hyb, -⟩ := hr.toSql hy
    have hsql' := hsql.imp hl.not_host hr.not_host
    have hbinary : Sql.combine op x y = .binary op x y := by
      cases op with
      | comparison c => cases hop
      | _ => rfl
    refine ⟨_, Meaning.compute?_of_sql op hsql' ha hb, ?_⟩
    rw [hbinary]
    refine sql ⟨?_, value?_operatorTree hop hxa.value hyb.value⟩ fun l h => ?_
    · rw [Sql.isTerm, hop, hxa.term, hyb.term]
      rfl
    · cases h

/-- Methods without arguments preserve meaning. -/
theorem method {name : String} (hr : Means d I row r m) (h : r.call name [] = .ok s) :
    ∃ k, m.method? I name = some k ∧ Means d I row s k := by
  obtain ⟨vs, hvs, h⟩ := call_eq_ok h
  obtain rfl : [] = vs := Option.some.inj hvs
  rcases h with ⟨x, t, rfl, hl, -, ht, rfl⟩ | ⟨v, w, rfl, hw, rfl⟩
  · cases hr with
    | null => exact absurd rfl (hl _)
    | @sql _ v hx _ =>
      obtain ⟨f, hf⟩ := exists_method?_of_ofCall? (I := I) ht
      refine ⟨.sql (f v), ?_, sql ⟨?_, value?_methodTree hf hx.value⟩ fun l h => ?_⟩
      · rw [Meaning.method?, ht, Option.bind_some, hf]
        rfl
      · cases t with
        | search place needle => cases hf
        | _ => exact hx.term
      · cases h
  · cases hr
    refine ⟨.host w, ?_, host w⟩
    rw [Meaning.method?, hw]
    rfl

/-- Fields preserve meaning. -/
theorem field {name : String} (hr : Means d I row r m) (h : r.field name = .ok s) :
    ∃ k, m.field? name = some k ∧ Means d I row s k := by
  obtain ⟨v, w, rfl, hw, rfl⟩ := field_eq_ok h
  cases hr
  refine ⟨.host w, ?_, host w⟩
  rw [Meaning.field?, hw]
  rfl

end Reduced.Means

namespace Term

/-- What two terms mean is computed with as their expressions are reduced. -/
theorem reduce_compute {op : Operator} (hop : op.isComputation = true) {a b : Term}
    (iha : ∀ {r}, a.toExpr.reduce = .ok r → ∃ m, a.meaning? d I row = some m ∧ r.Means d I row m)
    (ihb : ∀ {r}, b.toExpr.reduce = .ok r → ∃ m, b.meaning? d I row = some m ∧ r.Means d I row m)
    {s : Reduced} (h : (Expr.binary op a.toExpr b.toExpr).reduce = .ok s) :
    ∃ m n k, a.meaning? d I row = some m ∧ b.meaning? d I row = some n ∧
      m.compute? d I row op n = some k ∧ s.Means d I row k := by
  obtain ⟨l, r, hl, hr, happly⟩ := Expr.reduce_binary_eq_ok h
  have hcombine : Reduced.apply op l r = Reduced.combine op l r := by
    cases op with
    | connective c => cases hop
    | _ => rfl
  rw [hcombine] at happly
  obtain ⟨m, hm, hlm⟩ := iha hl
  obtain ⟨n, hn, hrn⟩ := ihb hr
  obtain ⟨k, hk, hs⟩ := hlm.combine hop hrn happly
  exact ⟨m, n, k, hm, hn, hk, hs⟩

variable (d I row) in
/-- **A term is reduced to what it means.** -/
theorem reduce_means (a : Term) {r : Reduced} (h : a.toExpr.reduce = .ok r) :
    ∃ m, a.meaning? d I row = some m ∧ r.Means d I row m := by
  induction a generalizing r with
  | column name =>
    cases h
    refine ⟨_, rfl, .sql ⟨rfl, rfl⟩ fun l h => ?_⟩
    cases h
  | constant v hv =>
    cases v with
    | null =>
      cases h
      exact ⟨_, rfl, .null⟩
    | bool b => cases hv
    | _ =>
      cases h
      exact ⟨_, rfl, .host _⟩
  | field object name enum ih =>
    obtain ⟨r', hr', hf⟩ := Expr.reduce_member_eq_ok object.toExpr_ne_row h
    obtain ⟨m, hm, hmeans⟩ := ih hr'
    obtain ⟨k, hk, hs⟩ := hmeans.field hf
    refine ⟨k, ?_, hs⟩
    rw [meaning?, hm]
    exact hk
  | arithmetic op a b iha ihb =>
    obtain ⟨m, n, k, hm, hn, hk, hs⟩ := reduce_compute rfl iha ihb h
    refine ⟨k, ?_, hs⟩
    rw [meaning?, hm, hn]
    exact hk
  | coalesce a b iha ihb =>
    obtain ⟨m, n, k, hm, hn, hk, hs⟩ := reduce_compute rfl iha ihb h
    refine ⟨k, ?_, hs⟩
    rw [meaning?, hm, hn]
    exact hk
  | method a name ih =>
    obtain ⟨r', rs, hr', hrs, hcall⟩ := Expr.reduce_call_eq_ok h
    cases hrs
    obtain ⟨m, hm, hmeans⟩ := ih hr'
    obtain ⟨k, hk, hs⟩ := hmeans.method hcall
    refine ⟨k, ?_, hs⟩
    rw [meaning?, hm]
    exact hk

end Term

/-! ## Operands of comparisons -/

/-- What an operand of a comparison has been reduced to is what it means. -/
inductive Reduced.IsOperand (d : Dialect) (I : Interpretation α) (row : Row α) :
    Reduced → Meaning α → Prop
  | term {r : Reduced} {m : Meaning α} (h : r.Means d I row m) : IsOperand d I row r m
  | truth (b : Bool) :
    IsOperand d I row (sql (.truth b)) (.sql (I.literal (d.operand (.bool b))))

namespace Reduced.IsOperand

variable {r : Reduced} {m : Meaning α}

theorem not_host (h : IsOperand d I row r m) (hr : ∀ v, r ≠ value v) : ∀ v, m ≠ .host v := by
  cases h with
  | term h => exact h.not_host hr
  | truth b => exact nofun

theorem eq_host {v : Value} (h : IsOperand d I row (value v) m) : m = .host v := by
  cases h with
  | term h =>
    cases h
    rfl

theorem isEnumColumn (h : IsOperand d I row r m) : r.isEnumColumn = false := by
  cases h with
  | term h => exact h.isEnumColumn
  | truth b => rfl

end Reduced.IsOperand

variable (d I row) in
theorem Comparand.reduce_isOperand (c : Comparand) {r : Reduced} (h : c.toExpr.reduce = .ok r) :
    ∃ m, c.meaning? d I row = some m ∧ r.IsOperand d I row m ∧
      (c.isTerm = true → r.Means d I row m) := by
  cases c with
  | term a =>
    obtain ⟨m, hm, hr⟩ := a.reduce_means d I row h
    exact ⟨m, hm, .term hr, fun _ => hr⟩
  | truth b =>
    cases h
    exact ⟨_, rfl, .truth b, nofun⟩

end Terms

end WhereClause

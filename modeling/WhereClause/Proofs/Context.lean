import WhereClause.Proofs.Folding

/-!
# Expressions in context

What surrounds a part of an expression: a context is a list of layers, the innermost first, each a
node of the expression with one operand left out. What an expression is reduced to depends on the
part only by what the part is reduced to, so parts that are reduced to the same thing can be
exchanged in every context, and parts that are refused are refused in every context.

Two parts are reduced to different things and still can be exchanged in some places: a truth value
of the host and its literal, and null and its literal. A truth value can where it is taken for what
it says or is compared with SQL, and null can beside SQL; elsewhere the host refuses or evaluates
what SQL has a form for. In the first case one may be refused for another reason than the other.

Headlines:
* `Context.reduce_fill`: a filled context is reduced by what fills it is reduced to.
* `Layer.TakesTruth.step`, `Layer.TakesNull.step`: where the literals do as well as the values.
* `Context.compile_fill`: captured values, and literals, can be exchanged.
-/

namespace WhereClause

/-! ## Layers -/

/-- A node with one operand left out. -/
inductive Layer where
  | member (name : String) (enum : Option EnumType)
  | left (op : Operator) (other : Expr)
  | right (op : Operator) (other : Expr)
  | receiver (method : String) (args : List Expr)
  | argument (callee : Expr) (method : String) (before after : List Expr)
  | not

/-- The surroundings of an expression, from the inside to the outside. -/
abbrev Context := List Layer

namespace Layer

/-- The node with an expression as the operand. -/
def fill : Layer → Expr → Expr
  | member name enum, e => .member e name enum
  | left op other, e => .binary op e other
  | right op other, e => .binary op other e
  | receiver method args, e => .call e method args
  | argument callee method before after, e => .call callee method (before ++ e :: after)
  | not, e => .not e

/-- What the node is reduced to, by what the operand is. -/
def step : Layer → Except CompileError Reduced → Except CompileError Reduced
  | member name _, x => do (← x).field name
  | left op other, x => do
    let l ← x
    let r ← other.reduce
    Reduced.apply op l r
  | right op other, x => do
    let l ← other.reduce
    let r ← x
    Reduced.apply op l r
  | receiver method args, x => do
    let r ← x
    let as ← Expr.reduceList args
    r.call method as
  | argument callee method before after, x => do
    let r ← callee.reduce
    let bs ← Expr.reduceList before
    let a ← x
    let as ← Expr.reduceList after
    r.call method (bs ++ a :: as)
  | not, x => do (← x).negate

theorem fill_ne_row (L : Layer) (e : Expr) : L.fill e ≠ .row := by
  cases L <;> exact nofun

/-- **A node is reduced by what its operand is reduced to.** The row is no operand: a member of it
is a column. -/
theorem reduce_fill (L : Layer) {e : Expr} (he : e ≠ .row) : (L.fill e).reduce = L.step e.reduce := by
  cases L with
  | member name enum => exact Expr.reduce_member he name enum
  | left op other => rw [fill, Expr.reduce, step]
  | right op other => rw [fill, Expr.reduce, step]
  | receiver method args => rw [fill, Expr.reduce, step]
  | not => rw [fill, Expr.reduce, step]
  | argument callee method before after =>
    rw [fill, Expr.reduce, step, Expr.reduceList_append, Expr.reduceList]
    cases callee.reduce with
    | error err => rfl
    | ok r =>
      cases Expr.reduceList before with
      | error err => rfl
      | ok bs =>
        cases e.reduce with
        | error err => rfl
        | ok a => cases Expr.reduceList after <;> rfl

/-- **What is refused is refused in every node.** -/
theorem toOption_step_error (L : Layer) (err : CompileError) :
    (L.step (.error err)).toOption = none := by
  cases L with
  | right op other =>
    rw [step]
    cases other.reduce <;> rfl
  | argument callee method before after =>
    rw [step]
    cases callee.reduce with
    | error err => rfl
    | ok r => cases Expr.reduceList before <;> rfl
  | _ => rfl

theorem toOption_step_congr (L : Layer) {x y : Except CompileError Reduced}
    (h : x.toOption = y.toOption) : (L.step x).toOption = (L.step y).toOption := by
  rcases except_eq_or_error h with rfl | ⟨err, err', rfl, rfl⟩
  · rfl
  · rw [toOption_step_error, toOption_step_error]

end Layer

/-! ## Contexts -/

namespace Context

/-- The context with an expression in its middle. -/
def fill (C : Context) (e : Expr) : Expr := C.foldl (fun e L => L.fill e) e

/-- What a filled context is reduced to, by what fills it is reduced to. -/
def run (C : Context) (x : Except CompileError Reduced) : Except CompileError Reduced :=
  C.foldl (fun x L => L.step x) x

theorem run_append (C D : Context) (x : Except CompileError Reduced) :
    run (C ++ D) x = run D (run C x) :=
  List.foldl_append

theorem reduce_fill (C : Context) {e : Expr} (he : e ≠ .row) :
    (C.fill e).reduce = C.run e.reduce := by
  induction C generalizing e with
  | nil => rfl
  | cons L C ih =>
    have h := ih (L.fill_ne_row e)
    rw [L.reduce_fill he] at h
    exact h

theorem toOption_run_congr (C : Context) {x y : Except CompileError Reduced}
    (h : x.toOption = y.toOption) : (C.run x).toOption = (C.run y).toOption := by
  induction C generalizing x y with
  | nil => exact h
  | cons L C ih => exact ih (L.toOption_step_congr h)

end Context

/-! ## Truth values and null in two forms -/

namespace Reduced

theorem eq_of_truth? {r : Reduced} {b : Bool} (h : r.truth? = some b) :
    r = value (.bool b) ∨ r = sql (.truth b) := by
  unfold truth? at h
  split at h
  · cases h
    exact Or.inl rfl
  · cases h
    exact Or.inr rfl
  · cases h

theorem predicate_of_truth? {r : Reduced} {b : Bool} (h : r.truth? = some b) :
    r.predicate = .ok (.truth b) := by
  rcases eq_of_truth? h with rfl | rfl <;> rfl

/-- A connective takes a truth value in either form, but does not refuse both for one reason. -/
theorem toOption_join_left (c : Connective) {l r : Reduced} {b : Bool} (h : l.truth? = some b) :
    (join c l r).toOption = (join c (sql (.truth b)) r).toOption := by
  rcases eq_of_truth? h with rfl | rfl
  · cases r with
    | sql x => rfl
    | value v => cases v <;> rfl
  · rfl

theorem toOption_join_right (c : Connective) {l r : Reduced} {b : Bool} (h : r.truth? = some b) :
    (join c l r).toOption = (join c l (sql (.truth b))).toOption := by
  rcases eq_of_truth? h with rfl | rfl
  · cases l with
    | sql x => cases x <;> rfl
    | value v => cases v <;> rfl
  · rfl

/-- Beside SQL a truth value is compared as its plain literal, in either form. -/
theorem toSqlFor_of_truth? (enum : Option EnumType) {r : Reduced} {b : Bool}
    (h : r.truth? = some b) :
    ∃ x, r.toSqlFor enum = .ok x ∧ x ≠ .null ∧ x.plain = .literal (.bool b) := by
  rcases eq_of_truth? h with rfl | rfl
  · exact ⟨.literal (.bool b), by cases enum <;> rfl, nofun, rfl⟩
  · exact ⟨.truth b, toSqlFor_sql enum _, nofun, rfl⟩

theorem combine_equality_left {c : Comparison} (hc : c.isEquality = true) {l : Reduced} {b : Bool}
    (h : l.truth? = some b) {y : Sql} (hy : y ≠ .null) :
    combine (.comparison c) l (sql y) =
      .ok (sql (.binary (.comparison c) (.literal (.bool b)) y.plain)) := by
  obtain ⟨x, hx, hne, hplain⟩ := toSqlFor_of_truth? (sql y).enum? h
  rw [combine_eq _ (Or.inr rfl), hx, toSqlFor_sql, ← hplain]
  exact congrArg (Except.ok ∘ sql) (Sql.combine_of_ne_null hc hne hy)

theorem combine_equality_right {c : Comparison} (hc : c.isEquality = true) {r : Reduced} {b : Bool}
    (h : r.truth? = some b) {x : Sql} (hx : x ≠ .null) :
    combine (.comparison c) (sql x) r =
      .ok (sql (.binary (.comparison c) x.plain (.literal (.bool b)))) := by
  obtain ⟨y, hy, hne, hplain⟩ := toSqlFor_of_truth? (sql x).enum? h
  rw [combine_eq _ (Or.inl rfl), toSqlFor_sql, hy, ← hplain]
  exact congrArg (Except.ok ∘ sql) (Sql.combine_of_ne_null hc hx hne)

/-- Beside SQL null is its literal. -/
theorem toSqlFor_null (enum : Option EnumType) :
    (value .null).toSqlFor enum = (sql .null).toSqlFor enum := by
  cases enum <;> rfl

end Reduced

namespace Layer

/-- The operand is taken for the truth value that it is: beside a connective, or beside `=` or `<>`
with SQL on the other side that is not null. -/
inductive TakesTruth : Layer → Prop
  | connectiveLeft (c : Connective) (other : Expr) : TakesTruth (left (.connective c) other)
  | connectiveRight (c : Connective) (other : Expr) : TakesTruth (right (.connective c) other)
  | equalityLeft {c : Comparison} (hc : c.isEquality = true) {other : Expr} {x : Sql}
    (h : other.reduce = .ok (.sql x)) (hx : x ≠ .null) : TakesTruth (left (.comparison c) other)
  | equalityRight {c : Comparison} (hc : c.isEquality = true) {other : Expr} {x : Sql}
    (h : other.reduce = .ok (.sql x)) (hx : x ≠ .null) : TakesTruth (right (.comparison c) other)

/-- The operand is null beside an operator that is no connective, with SQL on the other side. -/
inductive TakesNull : Layer → Prop
  | left {op : Operator} (hop : op.isLogical = false) {other : Expr} {x : Sql}
    (h : other.reduce = .ok (.sql x)) : TakesNull (left op other)
  | right {op : Operator} (hop : op.isLogical = false) {other : Expr} {x : Sql}
    (h : other.reduce = .ok (.sql x)) : TakesNull (right op other)

/-- **A truth value is taken in either form.** -/
theorem TakesTruth.step {L : Layer} (hL : L.TakesTruth) {l l' : Reduced} {b : Bool}
    (hl : l.truth? = some b) (hl' : l'.truth? = some b) :
    (L.step (.ok l)).toOption = (L.step (.ok l')).toOption := by
  cases hL with
  | connectiveLeft c other =>
    rw [Layer.step, Layer.step]
    cases other.reduce with
    | error err => rfl
    | ok r =>
      rw [← Reduced.truth?_asPredicate] at hl hl'
      exact (Reduced.toOption_join_left c hl).trans (Reduced.toOption_join_left c hl').symm
  | connectiveRight c other =>
    rw [Layer.step, Layer.step]
    cases other.reduce with
    | error err => rfl
    | ok r =>
      rw [← Reduced.truth?_asPredicate] at hl hl'
      exact (Reduced.toOption_join_right c hl).trans (Reduced.toOption_join_right c hl').symm
  | equalityLeft hc h hx =>
    rw [Layer.step, Layer.step, h]
    exact congrArg Except.toOption ((Reduced.combine_equality_left hc hl hx).trans
      (Reduced.combine_equality_left hc hl' hx).symm)
  | equalityRight hc h hx =>
    rw [Layer.step, Layer.step, h]
    exact congrArg Except.toOption ((Reduced.combine_equality_right hc hl hx).trans
      (Reduced.combine_equality_right hc hl' hx).symm)

/-- **Null is taken in either form.** -/
theorem TakesNull.step {L : Layer} (hL : L.TakesNull) :
    L.step (.ok (.value .null)) = L.step (.ok (.sql .null)) := by
  cases hL with
  | left hop h =>
    rw [Layer.step, Layer.step, h]
    refine (Reduced.apply_of_not_logical hop _ _).trans
      (Eq.trans ?_ (Reduced.apply_of_not_logical hop _ _).symm)
    rw [Reduced.combine_eq _ (Or.inr rfl), Reduced.combine_eq _ (Or.inr rfl),
      Reduced.toSqlFor_null]
    rfl
  | right hop h =>
    rw [Layer.step, Layer.step, h]
    refine (Reduced.apply_of_not_logical hop _ _).trans
      (Eq.trans ?_ (Reduced.apply_of_not_logical hop _ _).symm)
    rw [Reduced.combine_eq _ (Or.inl rfl), Reduced.combine_eq _ (Or.inl rfl),
      Reduced.toSqlFor_null]
    rfl

end Layer

namespace Context

/-- The context of that many negations. -/
def negations (n : Nat) : Context := .replicate n .not

/-- What stands under negations in the context is taken for the truth value that it is: as the whole
predicate, or by the node behind the negations. -/
inductive TakesTruth : Context → Prop
  | root (n : Nat) : TakesTruth (negations n)
  | inner (n : Nat) {L : Layer} (hL : L.TakesTruth) (D : Context) :
    TakesTruth (negations n ++ L :: D)

/-- What the context holds is null beside SQL. -/
inductive TakesNull : Context → Prop
  | inner {L : Layer} (hL : L.TakesNull) (D : Context) : TakesNull (L :: D)

/-- Negations keep a truth value in one form or the other, and agree on it. -/
theorem run_negations (n : Nat) {r r' : Reduced} {b : Bool} (hr : r.truth? = some b)
    (hr' : r'.truth? = some b) :
    ∃ s s' p, (negations n).run (.ok r) = .ok s ∧ (negations n).run (.ok r') = .ok s' ∧
      s.truth? = some p ∧ s'.truth? = some p := by
  induction n generalizing r r' b with
  | zero => exact ⟨r, r', b, rfl, rfl, hr, hr'⟩
  | succ n ih =>
    obtain ⟨t, ht, htb⟩ := Reduced.negate_of_truth? hr
    obtain ⟨t', ht', htb'⟩ := Reduced.negate_of_truth? hr'
    obtain ⟨s, s', p, hs, hs', hp, hp'⟩ := ih htb htb'
    refine ⟨s, s', p, ?_, ?_, hp, hp'⟩
    · rw [← hs, ← ht]
      rfl
    · rw [← hs', ← ht']
      rfl

/-- Two forms of a truth value make one predicate where it is taken for what it is. -/
theorem TakesTruth.predicate {C : Context} (hC : C.TakesTruth) {r r' : Reduced} {b : Bool}
    (hr : r.truth? = some b) (hr' : r'.truth? = some b) :
    (C.run (.ok r) >>= Reduced.predicate).toOption =
      (C.run (.ok r') >>= Reduced.predicate).toOption := by
  cases hC with
  | root n =>
    obtain ⟨s, s', p, hs, hs', hp, hp'⟩ := run_negations n hr hr'
    rw [hs, hs']
    exact congrArg Except.toOption
      ((Reduced.predicate_of_truth? hp).trans (Reduced.predicate_of_truth? hp').symm)
  | inner n hL D =>
    obtain ⟨s, s', p, hs, hs', hp, hp'⟩ := run_negations n hr hr'
    rw [run_append, run_append, hs, hs']
    exact except_toOption_bind_congr _ (toOption_run_congr D (hL.step hp hp'))

/-! ## Exchanging what fills a context -/

/-- A value by way of the host: a field of a record that has no other. -/
def captured (name : String) (enum : Option EnumType) (v : Value) : Expr :=
  .member (.constant (.ofFields [(name, v)])) name enum

theorem reduce_captured (name : String) (enum : Option EnumType) (v : Value) :
    (captured name enum v).reduce = .ok (.value v) := by
  have hrow : Expr.constant (.ofFields [(name, v)]) ≠ .row := nofun
  rw [captured, Expr.reduce_member hrow]
  apply Reduced.field_value_of_field?
  rw [Value.field?_ofFields, List.reverse_singleton, List.lookup_cons_self]

/-- What a filled context is compiled to, by what fills it is reduced to. -/
theorem compile_eq_run (d : Dialect) (C : Context) {e : Expr} {r : Reduced}
    (h : e.reduce = .ok r) :
    (C.fill e).compile d = (C.run (.ok r) >>= Reduced.predicate).map (Sql.text d) := by
  have hrow : e ≠ .row := by
    rintro rfl
    cases h
  rw [Expr.compile_eq, Expr.predicate, reduce_fill C hrow, h]

/-- **Captured values and literals can be exchanged.** What is reduced to a value does in every
context what a captured field of that value does, and what the literal does if the value is neither
null nor a truth value. A truth value does what its literal does where it is taken for what it is,
and null does what its literal does beside SQL. -/
theorem compile_fill (d : Dialect) (C : Context) {s : Expr} {v : Value}
    (h : s.reduce = .ok (.value v)) :
    (∀ name enum, (C.fill s).compile d = (C.fill (captured name enum v)).compile d) ∧
      (v.isNull = false → v.bool? = none →
        (C.fill s).compile d = (C.fill (.constant v)).compile d) ∧
      (∀ b, v = .bool b → C.TakesTruth →
        ((C.fill s).compile d).toOption = ((C.fill (.constant (.bool b))).compile d).toOption) ∧
      (v = .null → C.TakesNull →
        (C.fill s).compile d = (C.fill (.constant .null)).compile d) := by
  refine ⟨fun name enum => ?_, fun hnull hbool => ?_, ?_, ?_⟩
  · rw [compile_eq_run d C h, compile_eq_run d C (reduce_captured name enum v)]
  · have hconstant : (Expr.constant v).reduce = .ok (.value v) := by
      cases v with
      | null => cases hnull
      | bool b => cases hbool
      | _ => rfl
    rw [compile_eq_run d C h, compile_eq_run d C hconstant]
  · rintro b rfl hC
    have hconstant : (Expr.constant (.bool b)).reduce = .ok (.sql (.truth b)) := rfl
    rw [compile_eq_run d C h, compile_eq_run d C hconstant]
    exact except_toOption_map_congr _ (hC.predicate rfl rfl)
  · rintro rfl hC
    have hconstant : (Expr.constant .null).reduce = .ok (.sql .null) := rfl
    rw [compile_eq_run d C h, compile_eq_run d C hconstant]
    cases hC with
    | inner hL D => rw [run, run, List.foldl_cons, List.foldl_cons, hL.step]

/-- Beside `=` with a column on the other side, under so many negations. -/
def besideColumn (n : Nat) (name : String) : Context :=
  negations n ++ [.right (.comparison .eq) (.member .row name none)]

/-- A text that the host puts together. -/
def joinedOwner : Expr :=
  .binary (.arithmetic .add) (.constant (.text "a")) (.constant (.text "da"))

theorem compile_fill_besideColumn :
    (joinedOwner.reduce = .ok (.value (.text "ada")) ∧
        (fill (besideColumn 0 "owner") joinedOwner).compile .firebird =
          (fill (besideColumn 0 "owner") (.constant (.text "ada"))).compile .firebird) ∧
      ((captured "debug" none (.bool true)).reduce = .ok (.value (.bool true)) ∧
        (besideColumn 2 "done").TakesTruth ∧
        ((fill (besideColumn 2 "done") (captured "debug" none (.bool true))).compile
            .firebird).toOption =
          ((fill (besideColumn 2 "done") (.constant (.bool true))).compile .firebird).toOption) ∧
      ((captured "parent" none .null).reduce = .ok (.value .null) ∧
        (besideColumn 0 "parent").TakesNull ∧
        (fill (besideColumn 0 "parent") (captured "parent" none .null)).compile .firebird =
          (fill (besideColumn 0 "parent") (.constant .null)).compile .firebird) := by
  have howner : joinedOwner.reduce = .ok (.value (.text "ada")) := rfl
  have hdebug : (captured "debug" none (.bool true)).reduce = .ok (.value (.bool true)) := rfl
  have hparent : (captured "parent" none .null).reduce = .ok (.value .null) := rfl
  have htruth : (besideColumn 2 "done").TakesTruth :=
    .inner 2 (.equalityRight rfl (Expr.reduce_column "done" none) nofun) []
  have hnull : (besideColumn 0 "parent").TakesNull :=
    .inner (.right rfl (Expr.reduce_column "parent" none)) []
  obtain ⟨-, hconstant, -, -⟩ := compile_fill .firebird (besideColumn 0 "owner") howner
  obtain ⟨-, -, hbool, -⟩ := compile_fill .firebird (besideColumn 2 "done") hdebug
  obtain ⟨-, -, -, hnulls⟩ := compile_fill .firebird (besideColumn 0 "parent") hparent
  exact ⟨⟨howner, hconstant rfl rfl⟩, ⟨hdebug, htruth, hbool true rfl htruth⟩,
    hparent, hnull, hnulls rfl hnull⟩

end Context

end WhereClause

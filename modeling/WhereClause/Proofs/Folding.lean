import WhereClause.Proofs.Simulation

/-!
# Folding in the host

An expression in which the row does not stand has a value of its own: each node is evaluated by the
operation of the host, after all of its operands. Reduction folds, and this is what it folds by:
whatever it knows of an expression, as a value or as a truth value, is the value of the expression,
and the row does not stand in it.

The converse needs the row and the literals of null and of the truth values out of the way, which
are SQL from the start. Without them an expression is reduced as it is evaluated, errors included.
With the literals of the truth values back under connectives and negations (`Expr.IsConstant`), a
truth value travels in two forms, and no mixture of the two is lost or becomes SQL.

Headlines:
* `Expr.eval_of_reduce`: what reduction knows of an expression is its value.
* `Expr.reduce_of_isHost`: what is left to the host is reduced as it is evaluated.
* `Expr.IsConstant.reduce_known`, `Expr.IsConstant.known_of_eval`: a constant predicate is reduced
  to something known, and whenever it has a value.
* `Expr.folding_exact`: folding is sound, and a constant predicate is compiled to its truth value.
-/

namespace WhereClause

/-! ## What is known -/

namespace Reduced

/-- The value that is known of an expression: a value of the host, or the truth value that is known
of SQL. -/
def known? : Reduced → Option Value
  | value v => some v
  | sql (.truth b) => some (.bool b)
  | sql _ => none

theorem known?_eq_bool_iff {r : Reduced} {b : Bool} :
    r.known? = some (.bool b) ↔ r.truth? = some b := by
  cases r with
  | value v => cases v <;> simp [known?, truth?]
  | sql x => cases x <;> simp [known?, truth?]

theorem known?_combine (op : Operator) (x y : Sql) : (sql (.combine op x y)).known? = none := by
  have hequality : ∀ isEqual, (sql (Sql.equality isEqual x y)).known? = none := by
    intro isEqual
    unfold Sql.equality
    split <;> rfl
  unfold Sql.combine
  split
  · exact hequality true
  · exact hequality false
  · rfl

theorem asPredicate_of_known {r : Reduced} {v : Value} (h : r.known? = some v) :
    r.asPredicate = r := by
  cases r with
  | value w => rfl
  | sql x =>
    cases x with
    | column c => cases h
    | _ => rfl

/-- What is known is a predicate if it is a truth value. -/
theorem predicate_eq_ok_iff_of_known {r : Reduced} {v : Value} (h : r.known? = some v) {x : Sql} :
    r.predicate = .ok x ↔ ∃ b, v = .bool b ∧ x = .truth b := by
  rw [predicate, asPredicate_of_known h]
  cases r with
  | value w =>
    cases h
    cases v <;> simp [eq_comm]
  | sql y =>
    cases y with
    | truth b =>
      cases h
      simp [eq_comm]
    | _ => cases h

/-- What is known is an operand of a connective only if it is a truth value. -/
theorem truth?_of_toPredicate {r : Reduced} {v : Value} (h : r.known? = some v) {c : Connective}
    {x : Sql} (hx : r.toPredicate c = .ok x) : ∃ b, r.truth? = some b := by
  rcases toPredicate_eq_ok hx with rfl | ⟨b, rfl, rfl⟩
  · cases x with
    | truth b => exact ⟨b, rfl⟩
    | _ => cases h
  · exact ⟨b, rfl⟩

theorem negate_of_truth? {r : Reduced} {b : Bool} (h : r.truth? = some b) :
    ∃ s, r.negate = .ok s ∧ s.truth? = some !b := by
  unfold truth? at h
  split at h
  · cases h
    exact ⟨_, rfl, rfl⟩
  · cases h
    exact ⟨_, rfl, rfl⟩
  · cases h

/-- **What is known of an operator applied to operands is computed from what is known of them.** -/
theorem known?_apply {op : Operator} {l r s : Reduced} {u : Value} (h : apply op l r = .ok s)
    (hs : s.known? = some u) :
    ∃ v w, l.known? = some v ∧ r.known? = some w ∧ op.eval v w = .ok u := by
  have hcombine : combine op l r = .ok s →
      ∃ v w, l.known? = some v ∧ r.known? = some w ∧ op.eval v w = .ok u := by
    intro h
    rcases combine_cases h with ⟨v, w, u', rfl, rfl, hu, rfl⟩ | ⟨-, x, y, -, -, rfl⟩
    · cases hs
      exact ⟨v, w, rfl, rfl, hu⟩
    · rw [known?_combine] at hs
      cases hs
  cases op with
  | connective c =>
    rcases join_eq_ok h with ⟨p, q, hp, hq, rfl⟩ | ⟨-, x, y, -, -, rfl⟩
    · rw [truth?_asPredicate] at hp hq
      cases hs
      exact ⟨.bool p, .bool q, known?_eq_bool_iff.mpr hp, known?_eq_bool_iff.mpr hq, rfl⟩
    · cases hs
  | comparison c => exact hcombine h
  | arithmetic a => exact hcombine h
  | coalesce => exact hcombine h

theorem known?_negate {r s : Reduced} {u : Value} (h : r.negate = .ok s)
    (hs : s.known? = some u) : ∃ v, r.known? = some v ∧ v.negate = .ok u := by
  rcases negate_eq_ok h with ⟨b, hb, hnot⟩ | ⟨c, rfl, rfl⟩ | ⟨x, rfl, -, -, rfl⟩
  · refine ⟨.bool b, known?_eq_bool_iff.mpr hb, ?_⟩
    rw [known?_eq_bool_iff.mpr hnot] at hs
    cases hs
    rfl
  · cases hs
  · cases hs

end Reduced

theorem Connective.eval_eq_ok {c : Connective} {v w u : Value} (h : c.eval v w = .ok u) :
    ∃ p q, v = .bool p ∧ w = .bool q ∧ u = .bool (c.apply p q) := by
  unfold eval at h
  split at h
  · rename_i p q hp hq
    cases v with
    | bool a =>
      cases w with
      | bool b =>
        cases hp
        cases hq
        cases h
        exact ⟨p, q, rfl, rfl, rfl⟩
      | _ => cases hq
    | _ => cases hp
  · cases h

theorem Value.negate_eq_ok {v u : Value} (h : v.negate = .ok u) :
    ∃ b, v = .bool b ∧ u = .bool !b := by
  cases v with
  | bool b =>
    cases h
    exact ⟨b, rfl, rfl⟩
  | _ => cases h

namespace Expr

/-! ## Values of expressions -/

mutual

/-- The value of an expression in which the row does not stand. Every operand is evaluated, also
beside one that decides. -/
def eval : Expr → Except CompileError Value
  | row => .error (.expression .rowAsValue)
  | constant v => .ok v
  | member object name _ => do ((← eval object).field name).mapError .evaluation
  | binary op left right => do
    let v ← eval left
    let w ← eval right
    (op.eval v w).mapError .evaluation
  | call receiver method args => do
    let v ← eval receiver
    let vs ← evalList args
    v.call method vs
  | not inner => do (← eval inner).negate.mapError .evaluation

/-- The values of arguments, from left to right. -/
def evalList : List Expr → Except CompileError (List Value)
  | [] => .ok []
  | e :: es => do
    let v ← eval e
    let vs ← evalList es
    return v :: vs

end

mutual

/-- Whether the row stands in the expression, by itself or under a column. -/
def hasRow : Expr → Bool
  | row => true
  | constant _ => false
  | member object _ _ => hasRow object
  | binary _ left right => hasRow left || hasRow right
  | call receiver _ args => hasRow receiver || hasRowList args
  | not inner => hasRow inner

/-- Whether the row stands in one of the expressions. -/
def hasRowList : List Expr → Bool
  | [] => false
  | e :: es => hasRow e || hasRowList es

end

/-! ## What reduction knows is the value -/

mutual

/-- **What reduction knows of an expression is its value**, and the row does not stand in it. -/
theorem eval_of_reduce : (e : Expr) → {r : Reduced} → {v : Value} → e.reduce = .ok r →
    r.known? = some v → e.hasRow = false ∧ e.eval = .ok v
  | row, _, _, h, _ => nomatch h
  | constant w, _, _, h, hv => by
    cases h
    cases w <;> cases hv <;> exact ⟨rfl, rfl⟩
  | member object name enum, _, _, h, hv => by
    by_cases hrow : object = row
    · rw [hrow] at h
      cases h
      cases hv
    · obtain ⟨r, hr, hfield⟩ := reduce_member_eq_ok hrow h
      obtain ⟨w, u, rfl, hu, rfl⟩ := Reduced.field_eq_ok hfield
      cases hv
      obtain ⟨ha, haw⟩ := eval_of_reduce object hr rfl
      refine ⟨ha, ?_⟩
      rw [eval, haw]
      exact except_mapError_eq_ok.mpr hu
  | binary op a b, _, _, h, hv => by
    obtain ⟨l, r, hl, hr, happly⟩ := reduce_binary_eq_ok h
    obtain ⟨v, w, hlv, hrw, hu⟩ := Reduced.known?_apply happly hv
    obtain ⟨ha, hav⟩ := eval_of_reduce a hl hlv
    obtain ⟨hb, hbw⟩ := eval_of_reduce b hr hrw
    refine ⟨?_, ?_⟩
    · rw [hasRow, ha, hb]
      rfl
    · rw [eval, hav, hbw]
      exact except_mapError_eq_ok.mpr hu
  | call a method as, _, _, h, hv => by
    obtain ⟨r, rs, hr, hrs, hcall⟩ := reduce_call_eq_ok h
    obtain ⟨vs, hvs, hcall⟩ := Reduced.call_eq_ok hcall
    rcases hcall with ⟨x, m, rfl, -, -, -, rfl⟩ | ⟨w, u, rfl, hu, rfl⟩
    · cases hv
    · cases hv
      obtain ⟨ha, haw⟩ := eval_of_reduce a hr rfl
      obtain ⟨has, hasv⟩ := evalList_of_reduce as hrs hvs
      refine ⟨?_, ?_⟩
      · rw [hasRow, ha, has]
        rfl
      · rw [eval, haw, hasv]
        exact hu
  | not a, _, _, h, hv => by
    obtain ⟨r, hr, hnegate⟩ := reduce_not_eq_ok h
    obtain ⟨w, hw, hu⟩ := Reduced.known?_negate hnegate hv
    obtain ⟨ha, haw⟩ := eval_of_reduce a hr hw
    refine ⟨ha, ?_⟩
    rw [eval, haw]
    exact except_mapError_eq_ok.mpr hu

theorem evalList_of_reduce : (es : List Expr) → {rs : List Reduced} → {vs : List Value} →
    reduceList es = .ok rs → rs.mapM Reduced.value? = some vs →
    hasRowList es = false ∧ evalList es = .ok vs
  | [], _, _, h, hv => by
    cases h
    cases hv
    exact ⟨rfl, rfl⟩
  | e :: es, _, _, h, hv => by
    obtain ⟨r, rs, hr, hrs, rfl⟩ := reduceList_cons_eq_ok h
    obtain ⟨v, vs, rfl, hvs, rfl⟩ := Reduced.mapM_value?_cons_eq_some hv
    obtain ⟨he, hev⟩ := eval_of_reduce e hr rfl
    obtain ⟨hes, hesv⟩ := evalList_of_reduce es hrs hvs
    refine ⟨?_, ?_⟩
    · rw [hasRowList, he, hes]
      rfl
    · rw [evalList, hev, hesv]
      rfl

end

/-! ## Expressions that are left to the host -/

mutual

/-- Whether the expression is left to the host altogether: neither the row stands in it, nor a
connective, nor the literal of null or of a truth value. -/
def isHost : Expr → Bool
  | row => false
  | constant v => !v.isNull && v.bool?.isNone
  | member object _ _ => isHost object
  | binary op left right => !op.isLogical && isHost left && isHost right
  | call receiver _ args => isHost receiver && isHostList args
  | not inner => isHost inner

/-- Whether all of the expressions are left to the host. -/
def isHostList : List Expr → Bool
  | [] => true
  | e :: es => isHost e && isHostList es

end

mutual

/-- **What is left to the host is reduced as it is evaluated**, errors included. -/
theorem reduce_of_isHost : (e : Expr) → e.isHost = true → e.reduce = e.eval.map Reduced.value
  | row, h => by cases h
  | constant v, h => by cases v <;> first | rfl | cases h
  | member object name enum, h => by
    have hrow : object ≠ row := by
      rintro rfl
      cases h
    rw [reduce_member hrow, reduce_of_isHost object h, eval]
    cases object.eval with
    | error err => rfl
    | ok v => exact Reduced.field_value name v
  | binary op a b, h => by
    simp only [isHost, Bool.and_eq_true, Bool.not_eq_true'] at h
    obtain ⟨⟨hop, ha⟩, hb⟩ := h
    rw [reduce, eval, reduce_of_isHost a ha, reduce_of_isHost b hb]
    cases a.eval with
    | error err => rfl
    | ok v =>
      cases b.eval with
      | error err => rfl
      | ok w => exact (Reduced.apply_of_not_logical hop _ _).trans (Reduced.combine_values op v w)
  | call a method as, h => by
    rw [isHost, Bool.and_eq_true] at h
    rw [reduce, eval, reduce_of_isHost a h.1, reduceList_of_isHost as h.2]
    cases a.eval with
    | error err => rfl
    | ok v =>
      cases evalList as with
      | error err => rfl
      | ok vs => exact Reduced.call_values v method vs
  | not a, h => by
    rw [reduce, eval, reduce_of_isHost a h]
    cases a.eval with
    | error err => rfl
    | ok v => exact Reduced.negate_value v

theorem reduceList_of_isHost : (es : List Expr) → isHostList es = true →
    reduceList es = (evalList es).map (List.map Reduced.value)
  | [], _ => rfl
  | e :: es, h => by
    rw [isHostList, Bool.and_eq_true] at h
    rw [reduceList, evalList, reduce_of_isHost e h.1, reduceList_of_isHost es h.2]
    cases e.eval with
    | error err => rfl
    | ok v => cases evalList es <;> rfl

end

/-! ## Constant predicates -/

/-- A predicate that depends on no row: expressions that are left to the host and the literals of
the truth values, under connectives and negations. -/
inductive IsConstant : Expr → Prop
  | host {e : Expr} (he : e.isHost = true) : IsConstant e
  | truth (b : Bool) : IsConstant (constant (.bool b))
  | connective (c : Connective) {p q : Expr} (hp : IsConstant p) (hq : IsConstant q) :
    IsConstant (binary (.connective c) p q)
  | not {p : Expr} (hp : IsConstant p) : IsConstant (not p)

namespace IsConstant

variable {p : Expr}

/-- **Nothing is lost**: what a constant predicate is reduced to is known. -/
theorem reduce_known (hp : p.IsConstant) {r : Reduced} (h : p.reduce = .ok r) :
    ∃ v, r.known? = some v := by
  induction hp generalizing r with
  | host he =>
    rw [reduce_of_isHost _ he] at h
    obtain ⟨v, -, rfl⟩ := except_map_eq_ok.mp h
    exact ⟨v, rfl⟩
  | truth b =>
    cases h
    exact ⟨_, rfl⟩
  | connective c hp hq ihp ihq =>
    obtain ⟨l, r', hl, hr, hjoin⟩ := reduce_binary_eq_ok h
    obtain ⟨v, hv⟩ := ihp hl
    obtain ⟨w, hw⟩ := ihq hr
    rw [Reduced.apply, Reduced.asPredicate_of_known hv, Reduced.asPredicate_of_known hw] at hjoin
    rcases Reduced.join_eq_ok hjoin with ⟨a, b, -, -, rfl⟩ | ⟨hunknown, x, y, hx, hy, rfl⟩
    · exact ⟨_, rfl⟩
    · obtain ⟨a, ha⟩ := Reduced.truth?_of_toPredicate hv hx
      obtain ⟨b, hb⟩ := Reduced.truth?_of_toPredicate hw hy
      exact absurd hb (hunknown a b ha)
  | not hp ih =>
    obtain ⟨r', hr, hnegate⟩ := reduce_not_eq_ok h
    obtain ⟨v, hv⟩ := ih hr
    rcases Reduced.negate_eq_ok hnegate with ⟨b, -, hb⟩ | ⟨c, rfl, -⟩ | ⟨x, rfl, hx, -, -⟩
    · exact ⟨_, Reduced.known?_eq_bool_iff.mpr hb⟩
    · cases hv
    · cases x with
      | truth b => exact absurd rfl (hx b)
      | _ => cases hv

/-- **Nothing is refused**: a constant predicate that has a value is reduced to that value. -/
theorem known_of_eval (hp : p.IsConstant) {v : Value} (h : p.eval = .ok v) :
    ∃ r, p.reduce = .ok r ∧ r.known? = some v := by
  induction hp generalizing v with
  | host he =>
    refine ⟨.value v, ?_, rfl⟩
    rw [reduce_of_isHost _ he, h]
    rfl
  | truth b =>
    cases h
    exact ⟨_, rfl, rfl⟩
  | connective c hp hq ihp ihq =>
    rw [eval] at h
    obtain ⟨u, hu, h⟩ := except_bind_eq_ok.mp h
    obtain ⟨w, hw, h⟩ := except_bind_eq_ok.mp h
    obtain ⟨a, b, rfl, rfl, rfl⟩ := Connective.eval_eq_ok (except_mapError_eq_ok.mp h)
    obtain ⟨l, hl, hla⟩ := ihp hu
    obtain ⟨r, hr, hrb⟩ := ihq hw
    refine ⟨.sql (.truth (c.apply a b)), ?_, rfl⟩
    rw [reduce, hl, hr]
    refine Reduced.join_of_truths ?_ ?_
    · rw [Reduced.truth?_asPredicate, Reduced.known?_eq_bool_iff.mp hla]
    · rw [Reduced.truth?_asPredicate, Reduced.known?_eq_bool_iff.mp hrb]
  | not hp ih =>
    rw [eval] at h
    obtain ⟨u, hu, h⟩ := except_bind_eq_ok.mp h
    obtain ⟨b, rfl, rfl⟩ := Value.negate_eq_ok (except_mapError_eq_ok.mp h)
    obtain ⟨r, hr, hrb⟩ := ih hu
    obtain ⟨s, hs, hsb⟩ := Reduced.negate_of_truth? (Reduced.known?_eq_bool_iff.mp hrb)
    refine ⟨s, ?_, Reduced.known?_eq_bool_iff.mpr hsb⟩
    rw [reduce, hr]
    exact hs

end IsConstant

/-- **Folding is sound everywhere, and exact on constant predicates.** What an expression is folded
to is its value. A constant predicate is compiled if its value is a truth value, and to the text of
that truth value; if it has another value or none, it is refused. -/
theorem folding_exact :
    (∀ (e : Expr) (v : Value), e.reduce = .ok (.value v) → e.hasRow = false ∧ e.eval = .ok v) ∧
      (∀ (e : Expr) (b : Bool), e.reduce = .ok (.sql (.truth b)) →
        e.hasRow = false ∧ e.eval = .ok (.bool b)) ∧
      ∀ (d : Dialect) (p : Expr), p.IsConstant → ∀ s,
        p.compile d = .ok s ↔ ∃ b, p.eval = .ok (.bool b) ∧ s = d.constant b := by
  refine ⟨fun e v h => eval_of_reduce e h rfl, fun e b h => eval_of_reduce e h rfl, ?_⟩
  intro d p hp s
  rw [compile_eq_ok_iff]
  constructor
  · rintro ⟨x, hx, rfl⟩
    obtain ⟨r, hr, hpred⟩ := predicate_eq_ok hx
    obtain ⟨v, hv⟩ := hp.reduce_known hr
    obtain ⟨b, rfl, rfl⟩ := (Reduced.predicate_eq_ok_iff_of_known hv).mp hpred
    exact ⟨b, (eval_of_reduce p hr hv).2, rfl⟩
  · rintro ⟨b, hb, rfl⟩
    obtain ⟨r, hr, hv⟩ := hp.known_of_eval hb
    refine ⟨.truth b, ?_, rfl⟩
    rw [predicate, hr]
    exact (Reduced.predicate_eq_ok_iff_of_known hv).mpr ⟨b, rfl, rfl⟩

/-- A truth value of the host: `settings.debug`. -/
def debugFlag : Expr := member (constant (.ofFields [("debug", .bool true)])) "debug" none

/-- One in both forms: `settings.debug AND NOT false`. -/
def debugGuard : Expr :=
  binary (.connective .and) debugFlag (not (constant (.bool false)))

theorem folding_exact_debug :
    (debugFlag.reduce = .ok (.value (.bool true)) ∧ debugFlag.hasRow = false ∧
        debugFlag.eval = .ok (.bool true)) ∧
      (debugGuard.reduce = .ok (.sql (.truth true)) ∧ debugGuard.hasRow = false ∧
        debugGuard.eval = .ok (.bool true)) ∧
      debugGuard.IsConstant ∧ debugGuard.compile .sqlite = .ok "(1=1)" := by
  have hflag : debugFlag.reduce = .ok (.value (.bool true)) := rfl
  have hguard : debugGuard.reduce = .ok (.sql (.truth true)) := rfl
  have hconstant : debugGuard.IsConstant := .connective .and (.host rfl) (.not (.truth false))
  obtain ⟨hvalue, htruth, hcompile⟩ := folding_exact
  refine ⟨⟨hflag, hvalue _ _ hflag⟩, ⟨hguard, htruth _ _ hguard⟩, hconstant, ?_⟩
  exact (hcompile .sqlite _ hconstant _).mpr ⟨true, (htruth _ _ hguard).2, rfl⟩

end Expr

end WhereClause

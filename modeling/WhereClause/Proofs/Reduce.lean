import WhereClause.Reduce

/-!
# What reduction can do

Each step of a reduction, read backwards: from what it gave, to what it was given. One lemma for
each operation of `Reduced` says everything that the operation can have done, so that no other proof
has to look into it.

Headlines:
* `Reduced.combine_eq`, `Reduced.combine_cases`: operands are evaluated if both are values, and
  written side by side otherwise, each with regard to the enum of the other.
* `Reduced.combine_eq_ok`: the same for operands that are no enum columns.
* `Reduced.join_eq_ok`, `Reduced.negate_eq_ok`: connectives and negation, with the predicates that
  are known.
* `Reduced.call_sql`, `Reduced.call_eq_ok`: methods, in SQL and in the host.
* `Expr.leaf_of_reduce`: of all leaves, reduction gives the columns that are there and the null
  literal.
-/

namespace WhereClause

theorem except_bind_eq_ok {ε α β : Type} {x : Except ε α} {f : α → Except ε β} {b : β} :
    (x >>= f) = .ok b ↔ ∃ a, x = .ok a ∧ f a = .ok b := by
  cases x with
  | error err => simp [bind, Except.bind]
  | ok a => simp [bind, Except.bind]

theorem except_map_eq_ok {ε α β : Type} {x : Except ε α} {f : α → β} {b : β} :
    x.map f = .ok b ↔ ∃ a, x = .ok a ∧ f a = b := by
  cases x with
  | error err => simp [Except.map]
  | ok a => simp [Except.map]

theorem except_mapError_eq_ok {ε δ α : Type} {x : Except ε α} {f : ε → δ} {a : α} :
    x.mapError f = .ok a ↔ x = .ok a := by
  cases x with
  | error err =>
    constructor
    · intro h
      cases h
    · intro h
      cases h
  | ok b =>
    constructor
    · intro h
      cases h
      rfl
    · intro h
      cases h
      rfl

theorem except_mapError_map {ε δ α β : Type} (x : Except ε α) (f : ε → δ) (g : α → β) :
    (x.map g).mapError f = (x.mapError f).map g := by
  cases x <;> rfl

/-- What is computed behind a check is given only if the check lets it through. -/
theorem except_ite_error_eq_ok {ε α : Type} {p : Prop} [Decidable p] {err : ε} {x : Except ε α}
    {a : α} : (if p then .error err else x) = .ok a ↔ ¬p ∧ x = .ok a := by
  by_cases hp : p
  · simp [hp]
  · simp [hp]

/-- What agrees but for its errors is the same or fails on both sides. -/
theorem except_eq_or_error {ε α : Type} {x y : Except ε α} (h : x.toOption = y.toOption) :
    x = y ∨ ∃ err err', x = .error err ∧ y = .error err' := by
  cases x with
  | error err =>
    cases y with
    | error err' => exact Or.inr ⟨err, err', rfl, rfl⟩
    | ok b => cases h
  | ok a =>
    cases y with
    | error err' => cases h
    | ok b =>
      cases h
      exact Or.inl rfl

theorem except_toOption_bind_congr {ε α β : Type} {x y : Except ε α} (f : α → Except ε β)
    (h : x.toOption = y.toOption) : (x >>= f).toOption = (y >>= f).toOption := by
  rcases except_eq_or_error h with rfl | ⟨err, err', rfl, rfl⟩
  · rfl
  · rfl

theorem except_toOption_map_congr {ε α β : Type} {x y : Except ε α} (f : α → β)
    (h : x.toOption = y.toOption) : (x.map f).toOption = (y.map f).toOption := by
  rcases except_eq_or_error h with rfl | ⟨err, err', rfl, rfl⟩
  · rfl
  · rfl

/-! ## Equality in SQL -/

namespace Sql

theorem equality_null_right (isEqual : Bool) (x : Sql) :
    equality isEqual x null = nullTest isEqual x := by
  unfold equality
  split
  · rfl
  · rename_i hnull
    exact (hnull rfl).elim
  · rename_i hnull
    exact (hnull rfl).elim

theorem equality_null_left (isEqual : Bool) {x : Sql} (hx : x ≠ null) :
    equality isEqual null x = nullTest isEqual x := by
  unfold equality
  split
  · exact absurd rfl hx
  · rfl
  · rename_i hnull
    exact absurd rfl hnull

theorem equality_of_ne_null (isEqual : Bool) {x y : Sql} (hx : x ≠ null) (hy : y ≠ null) :
    equality isEqual x y =
      binary (.comparison (if isEqual then .eq else .ne)) x.plain y.plain := by
  unfold equality
  split
  · exact absurd rfl hy
  · exact absurd rfl hx
  · rfl

theorem combine_of_ne_null {c : Comparison} (hc : c.isEquality = true) {x y : Sql} (hx : x ≠ null)
    (hy : y ≠ null) :
    combine (.comparison c) x y = binary (.comparison c) x.plain y.plain := by
  cases c with
  | eq => exact equality_of_ne_null true hx hy
  | ne => exact equality_of_ne_null false hx hy
  | _ => cases hc

/-- Operators but `=` and `<>` are written between any operands. -/
theorem combine_of_not_equality {op : Operator} (hop : op.isEquality = false) (x y : Sql) :
    combine op x y = binary op x y := by
  cases op with
  | comparison c => cases c <;> first | rfl | cases hop
  | _ => rfl

/-- SQL that is neither null nor a constant truth value is written as it stands. -/
theorem combine_of_plain (op : Operator) {x y : Sql} (hx : x ≠ null) (hy : y ≠ null)
    (hxplain : x.plain = x) (hyplain : y.plain = y) : combine op x y = binary op x y := by
  cases hop : op.isEquality with
  | false => exact combine_of_not_equality hop x y
  | true =>
    cases op with
    | comparison c => rw [combine_of_ne_null hop hx hy, hxplain, hyplain]
    | _ => cases hop

/-! ## Leaves -/

/-- Columns and literals: the SQL that is not built from other SQL, the constant truth values
apart. -/
def isLeaf : Sql → Bool
  | column _ | literal _ => true
  | _ => false

theorem isLeaf_combine (op : Operator) (x y : Sql) : (combine op x y).isLeaf = false := by
  have hequality : ∀ isEqual x y, (equality isEqual x y).isLeaf = false := by
    intro isEqual x y
    unfold equality
    split <;> rfl
  unfold combine
  split
  · exact hequality true x y
  · exact hequality false x y
  · rfl

end Sql

namespace Reduced

/-- A column that stores the members of an enum. -/
def isEnumColumn : Reduced → Bool
  | sql (.column c) => c.enum.isSome
  | _ => false

/-! ## Operands -/

theorem truth?_asPredicate (r : Reduced) : r.asPredicate.truth? = r.truth? := by
  cases r with
  | value v => rfl
  | sql x => cases x <;> rfl

theorem toSql_eq_ok {r : Reduced} {x : Sql} (h : r.toSql = .ok x) :
    r = sql x ∨ ∃ v l, r = value v ∧ Literal.ofValue v = .ok l ∧ x = .literal l := by
  cases r with
  | value v =>
    obtain ⟨l, hl, rfl⟩ := except_map_eq_ok.mp (except_mapError_eq_ok.mp h)
    exact Or.inr ⟨v, l, rfl, hl, rfl⟩
  | sql y =>
    cases h
    exact Or.inl rfl

theorem toPredicate_eq_ok {c : Connective} {r : Reduced} {x : Sql}
    (h : r.toPredicate c = .ok x) : r = sql x ∨ ∃ b, r = value (.bool b) ∧ x = .truth b := by
  unfold toPredicate at h
  split at h
  · cases h
    exact Or.inl rfl
  · cases h
    exact Or.inr ⟨_, rfl, rfl⟩
  · cases h

theorem predicate_eq_ok {r : Reduced} {x : Sql} (h : r.predicate = .ok x) :
    r.asPredicate = sql x ∨ ∃ b, r.asPredicate = value (.bool b) ∧ x = .truth b := by
  unfold predicate at h
  split at h
  · cases h
  · rename_i hr
    cases h
    exact Or.inl hr
  · rename_i hr
    cases h
    exact Or.inr ⟨_, hr, rfl⟩
  · cases h

/-! ## Operands beside one another -/

/-- The enum whose members a column stores, if it is one of an enum. -/
def enum? : Reduced → Option EnumType
  | sql (.column c) => c.enum
  | _ => none

theorem enum?_eq_none {r : Reduced} (h : ∀ name t, r ≠ sql (.column ⟨name, some t⟩)) :
    r.enum? = none := by
  unfold enum?
  split
  · rename_i c
    cases hc : c.enum with
    | none => rfl
    | some t => exact absurd (by rw [← hc]) (h c.name t)
  · rfl

theorem enum?_of_isEnumColumn {r : Reduced} (h : r.isEnumColumn = false) : r.enum? = none := by
  apply enum?_eq_none
  rintro name t rfl
  cases h

/-- The SQL of an operand, given the enum whose members stand beside it, if there is one. -/
def toSqlFor (enum : Option EnumType) (r : Reduced) : Except CompileError Sql :=
  match enum with
  | some t => r.toSqlBeside t
  | none => r.toSql

@[simp] theorem toSqlFor_sql (enum : Option EnumType) (x : Sql) :
    (sql x).toSqlFor enum = .ok x := by
  cases enum <;> rfl

/-- Whatever stands beside it, an operand is SQL already or becomes a literal. -/
theorem toSqlFor_eq_ok {enum : Option EnumType} {r : Reduced} {x : Sql}
    (h : r.toSqlFor enum = .ok x) : r = sql x ∨ ∃ v l, r = value v ∧ x = .literal l := by
  have hquoted : r.toSql = .ok x → r = sql x ∨ ∃ v l, r = value v ∧ x = .literal l := fun h =>
    (toSql_eq_ok h).imp_right fun ⟨v, l, hv, _, hx⟩ => ⟨v, l, hv, hx⟩
  cases enum with
  | none => exact hquoted h
  | some t =>
    rw [toSqlFor] at h
    unfold toSqlBeside at h
    split at h
    · cases h
      exact Or.inl rfl
    · rename_i v
      split at h
      · exact hquoted h
      · split at h
        · cases h
          exact Or.inr ⟨v, _, rfl, rfl⟩
        · cases h

/-- A whole number that no enum is asked about is written as its digits. -/
theorem toSqlFor_none_number {n : Number} {x : Int} (h : n.integer? = some x) :
    (value (.number n)).toSqlFor none = .ok (.literal (.integer x)) := by
  have hliteral : Literal.ofValue (.number n) = .ok (.integer x) := by
    simp [Literal.ofValue, Value.sqlType?, Number.isIntegral, Literal.ofTyped, Literal.ofTyped?, h]
  rw [toSqlFor, toSql, hliteral]
  rfl

/-! ## Operators -/

theorem combine_values (op : Operator) (v w : Value) :
    combine op (value v) (value w) = ((op.eval v w).mapError .evaluation).map value :=
  except_mapError_map _ _ _

/-- **Operands that are not both values are written side by side**, each with regard to the enum of
the other. -/
theorem combine_eq (op : Operator) {l r : Reduced} (h : l.value? = none ∨ r.value? = none) :
    combine op l r = do
      let x ← l.toSqlFor r.enum?
      let y ← r.toSqlFor l.enum?
      return sql (.combine op x y) := by
  unfold combine
  split
  · rw [toSqlFor_sql]
    rfl
  · rw [toSqlFor_sql]
    rfl
  · rcases h with h | h <;> cases h
  · rename_i hl hr _
    rw [enum?_eq_none fun name t => hl name t, enum?_eq_none fun name t => hr name t]
    rfl

theorem apply_of_not_logical {op : Operator} (hop : op.isLogical = false) (l r : Reduced) :
    apply op l r = combine op l r := by
  cases op with
  | connective c => cases hop
  | _ => rfl

/-- Operands are evaluated if both are values, and written side by side otherwise. -/
theorem combine_cases {op : Operator} {l r s : Reduced} (h : combine op l r = .ok s) :
    (∃ v w u, l = value v ∧ r = value w ∧ op.eval v w = .ok u ∧ s = value u) ∨
      (l.value? = none ∨ r.value? = none) ∧
        ∃ x y, l.toSqlFor r.enum? = .ok x ∧ r.toSqlFor l.enum? = .ok y ∧
          s = sql (.combine op x y) := by
  by_cases hv : l.value? = none ∨ r.value? = none
  · rw [combine_eq op hv] at h
    obtain ⟨x, hx, h⟩ := except_bind_eq_ok.mp h
    obtain ⟨y, hy, h⟩ := except_bind_eq_ok.mp h
    cases h
    exact Or.inr ⟨hv, x, y, hx, hy, rfl⟩
  · cases l with
    | sql x => exact absurd (Or.inl rfl) hv
    | value v =>
      cases r with
      | sql y => exact absurd (Or.inr rfl) hv
      | value w =>
        rw [combine_values] at h
        obtain ⟨u, hu, rfl⟩ := except_map_eq_ok.mp h
        exact Or.inl ⟨v, w, u, rfl, rfl, except_mapError_eq_ok.mp hu, rfl⟩

theorem value?_eq_none_iff {r : Reduced} : r.value? = none ↔ ∀ v, r ≠ value v := by
  cases r with
  | value v => exact iff_of_false nofun fun h => h v rfl
  | sql x => exact iff_of_true rfl nofun

theorem combine_eq_ok {op : Operator} {l r s : Reduced} (hl : l.isEnumColumn = false)
    (hr : r.isEnumColumn = false) (h : combine op l r = .ok s) :
    (∃ v w u, l = value v ∧ r = value w ∧ op.eval v w = .ok u ∧ s = value u) ∨
      ((∀ v, l ≠ value v) ∨ ∀ w, r ≠ value w) ∧
        ∃ x y, l.toSql = .ok x ∧ r.toSql = .ok y ∧ s = sql (.combine op x y) := by
  have hcases := combine_cases h
  rw [enum?_of_isEnumColumn hl, enum?_of_isEnumColumn hr, value?_eq_none_iff,
    value?_eq_none_iff] at hcases
  exact hcases

theorem join_eq_ok {c : Connective} {l r s : Reduced} (h : join c l r = .ok s) :
    (∃ p q, l.truth? = some p ∧ r.truth? = some q ∧ s = sql (.truth (c.apply p q))) ∨
      (∀ p q, l.truth? = some p → r.truth? ≠ some q) ∧
        ∃ x y, l.toPredicate c = .ok x ∧ r.toPredicate c = .ok y ∧
          s = sql (.binary (.connective c) x y) := by
  unfold join at h
  split at h
  · cases h
    exact Or.inl ⟨_, _, ‹_›, ‹_›, rfl⟩
  · rename_i hunknown
    split at h
    · cases h
    · obtain ⟨x, hx, h⟩ := except_bind_eq_ok.mp h
      obtain ⟨y, hy, h⟩ := except_bind_eq_ok.mp h
      cases h
      exact Or.inr ⟨fun p q hp hq => hunknown p q hp hq, x, y, hx, hy, rfl⟩

theorem truth?_value (v : Value) : (value v).truth? = v.bool? := by
  cases v <;> rfl

theorem join_values {k : Connective} {v w : Value} (h : v.bool? = none ∨ w.bool? = none) :
    join k (value v) (value w) =
      .error (.evaluation (.mismatch (.connective k) v.kind w.kind)) := by
  unfold join
  rw [truth?_value, truth?_value]
  split
  · rename_i hv hw
    rw [hv, hw] at h
    rcases h with h | h <;> cases h
  · rfl

theorem join_eq (k : Connective) {l r : Reduced}
    (hknown : l.truth? = none ∨ r.truth? = none) (hvalue : l.value? = none ∨ r.value? = none) :
    join k l r = do
      let x ← l.toPredicate k
      let y ← r.toPredicate k
      return sql (.binary (.connective k) x y) := by
  unfold join
  split
  · rename_i hl hr
    rw [hl, hr] at hknown
    rcases hknown with h | h <;> cases h
  · split
    · rcases hvalue with h | h <;> cases h
    · rfl

theorem negate_value (v : Value) :
    (value v).negate = (v.negate.mapError .evaluation).map value :=
  except_mapError_map _ _ _

theorem negate_eq_ok {r s : Reduced} (h : r.negate = .ok s) :
    (∃ b, r.truth? = some b ∧ s.truth? = some !b) ∨
      (∃ c, r = sql (.column c) ∧ s = sql (.columnIs c.name false)) ∨
      ∃ x, r = sql x ∧ (∀ b, x ≠ .truth b) ∧ (∀ c, x ≠ .column c) ∧ s = sql (.not x) := by
  unfold negate at h
  split at h
  · rename_i v
    obtain ⟨w, hw, rfl⟩ := except_map_eq_ok.mp (except_mapError_eq_ok.mp h)
    cases v with
    | bool b =>
      cases hw
      exact Or.inl ⟨b, rfl, rfl⟩
    | _ => cases hw
  · cases h
    exact Or.inl ⟨_, rfl, rfl⟩
  · cases h
  · cases h
    exact Or.inr (Or.inl ⟨_, rfl, rfl⟩)
  · rename_i x hb _ hc
    cases h
    exact Or.inr (Or.inr ⟨x, rfl, fun b e => hb b e, fun c e => hc c e, rfl⟩)

/-! ## Members and methods -/

theorem mapM_value?_cons_eq_some {r : Reduced} {rs : List Reduced} {us : List Value}
    (h : (r :: rs).mapM value? = some us) :
    ∃ v vs, r = value v ∧ rs.mapM value? = some vs ∧ us = v :: vs := by
  rw [List.mapM_cons] at h
  obtain ⟨v, hv, h⟩ := Option.bind_eq_some_iff.mp h
  obtain ⟨vs, hvs, h⟩ := Option.bind_eq_some_iff.mp h
  cases h
  cases r with
  | value w =>
    cases hv
    exact ⟨v, vs, rfl, hvs, rfl⟩
  | sql x => cases hv

@[simp] theorem mapM_value?_map_value (vs : List Value) : (vs.map value).mapM value? = some vs := by
  induction vs with
  | nil => rfl
  | cons v vs ih =>
    rw [List.map_cons, List.mapM_cons, ih]
    rfl

theorem field_value (name : String) (v : Value) :
    (value v).field name = ((v.field name).mapError .evaluation).map value :=
  except_mapError_map _ _ _

theorem call_values (v : Value) (method : String) (vs : List Value) :
    (value v).call method (vs.map value) = (v.call method vs).map value := by
  rw [call, mapM_value?_map_value]

/-- Of SQL a method is called in SQL, unless it is a constant. -/
theorem call_sql {x : Sql} (hl : ∀ l, x ≠ .literal l) (hb : ∀ b, x ≠ .truth b) (method : String)
    (args : List Reduced) :
    (sql x).call method args =
      ((args.mapM value?).bind (TextMethod.ofCall? method)).elim (.error (.method method))
        fun m => .ok (sql (.method m x)) := by
  unfold call
  split
  · rename_i l h
    exact absurd (Reduced.sql.inj h) (hl l)
  · rename_i b h
    exact absurd (Reduced.sql.inj h) (hb b)
  · rename_i y h
    cases h
    cases (args.mapM value?).bind (TextMethod.ofCall? method) <;> rfl
  · rename_i h
    cases h

theorem field_value_of_field? {name : String} {v w : Value} (h : v.field? name = some w) :
    (value v).field name = .ok (value w) := by
  have hfield : v.field name = .ok w := by
    cases v with
    | record fields => rw [Value.field, h]
    | _ => cases h
  rw [field_value, hfield]
  rfl

theorem field_eq_ok {name : String} {r s : Reduced} (h : r.field name = .ok s) :
    ∃ v w, r = value v ∧ v.field name = .ok w ∧ s = value w := by
  cases r with
  | value v =>
    obtain ⟨w, hw, rfl⟩ := except_map_eq_ok.mp (except_mapError_eq_ok.mp h)
    exact ⟨v, w, rfl, hw, rfl⟩
  | sql x => cases h

theorem call_eq_ok {r s : Reduced} {method : String} {args : List Reduced}
    (h : r.call method args = .ok s) :
    ∃ vs, args.mapM value? = some vs ∧
      ((∃ x m, r = sql x ∧ (∀ l, x ≠ .literal l) ∧ (∀ b, x ≠ .truth b) ∧
          TextMethod.ofCall? method vs = some m ∧ s = sql (.method m x)) ∨
        ∃ v w, r = value v ∧ v.call method vs = .ok w ∧ s = value w) := by
  unfold call at h
  split at h
  · cases h
  · cases h
  · rename_i x hl hb
    split at h
    · rename_i m hm
      obtain ⟨vs, hvs, hm⟩ := Option.bind_eq_some_iff.mp hm
      cases h
      exact ⟨vs, hvs, Or.inl ⟨x, m, rfl, fun l e => hl l e, fun b e => hb b e, hm, rfl⟩⟩
    · cases h
  · rename_i v
    split at h
    · rename_i vs hvs
      obtain ⟨w, hw, rfl⟩ := except_map_eq_ok.mp h
      exact ⟨vs, hvs, Or.inr ⟨v, w, rfl, hw, rfl⟩⟩
    · cases h

/-! ## Leaves -/

/-- An operator is never reduced to a leaf. -/
theorem apply_isLeaf {op : Operator} {l r : Reduced} {x : Sql} (h : apply op l r = .ok (sql x)) :
    x.isLeaf = false := by
  cases hop : op.isLogical with
  | true =>
    cases op with
    | connective k =>
      rcases join_eq_ok h with ⟨p, q, -, -, heq⟩ | ⟨-, y, z, -, -, heq⟩
      · cases heq
        rfl
      · cases heq
        rfl
    | _ => cases hop
  | false =>
    rw [apply_of_not_logical hop] at h
    rcases combine_cases h with ⟨v, w, u, -, -, -, heq⟩ | ⟨-, y, z, -, -, heq⟩
    · cases heq
    · cases heq
      exact Sql.isLeaf_combine op y z

theorem negate_isLeaf {r : Reduced} {x : Sql} (h : r.negate = .ok (sql x)) : x.isLeaf = false := by
  rcases negate_eq_ok h with ⟨b, -, hb⟩ | ⟨col, -, heq⟩ | ⟨y, -, -, -, heq⟩
  · cases x with
    | truth p => rfl
    | _ => cases hb
  · cases heq
    rfl
  · cases heq
    rfl

end Reduced

/-! ## Expressions -/

namespace Expr

theorem reduce_binary_eq_ok {op : Operator} {a b : Expr} {s : Reduced}
    (h : reduce (binary op a b) = .ok s) :
    ∃ l r, reduce a = .ok l ∧ reduce b = .ok r ∧ Reduced.apply op l r = .ok s := by
  rw [reduce] at h
  obtain ⟨l, hl, h⟩ := except_bind_eq_ok.mp h
  obtain ⟨r, hr, h⟩ := except_bind_eq_ok.mp h
  exact ⟨l, r, hl, hr, h⟩

theorem reduce_binary_of_error_left {op : Operator} {a : Expr} {err : CompileError}
    (h : reduce a = .error err) (b : Expr) : reduce (binary op a b) = .error err := by
  rw [reduce, h]
  rfl

theorem reduce_binary_of_error_right {op : Operator} {a b : Expr} {l : Reduced} {err : CompileError}
    (hl : reduce a = .ok l) (h : reduce b = .error err) : reduce (binary op a b) = .error err := by
  rw [reduce, hl, h]
  rfl

theorem reduce_not_eq_ok {a : Expr} {s : Reduced} (h : reduce (not a) = .ok s) :
    ∃ r, reduce a = .ok r ∧ r.negate = .ok s := by
  rw [reduce] at h
  exact except_bind_eq_ok.mp h

theorem reduce_call_eq_ok {a : Expr} {method : String} {args : List Expr} {s : Reduced}
    (h : reduce (call a method args) = .ok s) :
    ∃ r rs, reduce a = .ok r ∧ reduceList args = .ok rs ∧ r.call method rs = .ok s := by
  rw [reduce] at h
  obtain ⟨r, hr, h⟩ := except_bind_eq_ok.mp h
  obtain ⟨rs, hrs, h⟩ := except_bind_eq_ok.mp h
  exact ⟨r, rs, hr, hrs, h⟩

theorem reduceList_cons_eq_ok {e : Expr} {es : List Expr} {ss : List Reduced}
    (h : reduceList (e :: es) = .ok ss) :
    ∃ r rs, reduce e = .ok r ∧ reduceList es = .ok rs ∧ ss = r :: rs := by
  rw [reduceList] at h
  obtain ⟨r, hr, h⟩ := except_bind_eq_ok.mp h
  obtain ⟨rs, hrs, h⟩ := except_bind_eq_ok.mp h
  cases h
  exact ⟨r, rs, hr, hrs, rfl⟩

theorem reduceList_append (as bs : List Expr) :
    reduceList (as ++ bs) = do
      let rs ← reduceList as
      let ss ← reduceList bs
      return rs ++ ss := by
  induction as with
  | nil =>
    rw [List.nil_append, reduceList]
    cases reduceList bs <;> rfl
  | cons a as ih =>
    rw [List.cons_append, reduceList, reduceList, ih]
    cases a.reduce with
    | error err => rfl
    | ok r =>
      cases reduceList as with
      | error err => rfl
      | ok rs => cases reduceList bs <;> rfl

/-- A member of anything but the row is a field. -/
theorem reduce_member {a : Expr} (ha : a ≠ row) (name : String) (enum : Option EnumType) :
    reduce (member a name enum) = reduce a >>= Reduced.field name := by
  rw [reduce]
  exact ha

theorem reduce_member_eq_ok {a : Expr} (ha : a ≠ row) {name : String} {enum : Option EnumType}
    {s : Reduced} (h : reduce (member a name enum) = .ok s) :
    ∃ r, reduce a = .ok r ∧ r.field name = .ok s := by
  rw [reduce_member ha] at h
  exact except_bind_eq_ok.mp h

theorem predicate_eq_ok {e : Expr} {x : Sql} (h : e.predicate = .ok x) :
    ∃ r, e.reduce = .ok r ∧ r.predicate = .ok x :=
  except_bind_eq_ok.mp h

/-! ### Leaves -/

/-- **Of all leaves, reduction gives the columns that are there and the null literal.** -/
theorem leaf_of_reduce {e : Expr} {x : Sql} (h : e.reduce = .ok (.sql x)) (hx : x.isLeaf = true) :
    (∃ col, e.column? = some col ∧ x = .column col) ∨ x = .null := by
  cases e with
  | row => cases h
  | constant v =>
    rw [reduce] at h
    cases v with
    | null =>
      cases h
      exact Or.inr rfl
    | bool b =>
      cases h
      cases hx
    | _ => cases h
  | member object name enum =>
    by_cases hrow : object = row
    · subst hrow
      cases h
      exact Or.inl ⟨_, rfl, rfl⟩
    · obtain ⟨r, -, hr⟩ := reduce_member_eq_ok hrow h
      obtain ⟨v, w, -, -, heq⟩ := Reduced.field_eq_ok hr
      cases heq
  | binary op a b =>
    obtain ⟨l, r, -, -, happly⟩ := reduce_binary_eq_ok h
    rw [Reduced.apply_isLeaf happly] at hx
    cases hx
  | call a method args =>
    obtain ⟨r, rs, -, -, hcall⟩ := reduce_call_eq_ok h
    obtain ⟨vs, -, ⟨y, m, -, -, -, -, heq⟩ | ⟨v, w, -, -, heq⟩⟩ := Reduced.call_eq_ok hcall
    · cases heq
      cases hx
    · cases heq
  | not a =>
    obtain ⟨r, -, hnegate⟩ := reduce_not_eq_ok h
    rw [Reduced.negate_isLeaf hnegate] at hx
    cases hx

/-- Only columns are reduced to columns. -/
theorem reduce_ne_column {e : Expr} (he : e.column? = none) {r : Reduced} (h : e.reduce = .ok r)
    (col : Column) : r ≠ .sql (.column col) := by
  rintro rfl
  rcases leaf_of_reduce h rfl with ⟨col', hcol, -⟩ | heq
  · rw [he] at hcol
    cases hcol
  · cases heq

theorem reduce_of_column? {e : Expr} {col : Column} (he : e.column? = some col) :
    e.reduce = .ok (.sql (.column col)) := by
  obtain rfl := column?_eq_some_iff.mp he
  exact reduce_column col.name col.enum

end Expr

end WhereClause

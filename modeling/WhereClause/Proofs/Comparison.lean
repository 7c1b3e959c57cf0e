import WhereClause.Evaluate

/-!
# Comparisons of values

Equality and order are two functions on values, with kinds and rules for null of their own: null is
equal to null, and neither below nor above anything. They are brought together by one fact: where two
values have an order, they are equal exactly if that order says so. All laws between the comparisons
follow from it and from what exchanging the operands does to either function. A NaN has an order with
nothing, not even with itself.

Headlines:
* `Number.compare?_eq_none_iff`: only a NaN has no order among numbers.
* `Value.order?_swap`: exchanging the operands mirrors the order.
* `Value.equal?_of_order?`: values that can be ordered are equal if their order says so.
* `Comparison.toOption_eval_mirror`: a comparison and its mirror agree, or both fail.
* `Comparison.eval_consistent`: all laws together.
-/

namespace WhereClause

/-! ## Numbers -/

theorem Binary64.nearest_ne_nan (negative : Bool) (num den : Nat) :
    nearest negative num den ≠ nan := by
  intro h
  unfold nearest at h
  dsimp only at h
  split at h
  · cases h
  · split at h
    · cases h
    · cases h

namespace Number

theorem toBinary64_eq_nan_iff {n : Number} : n.toBinary64 = .nan ↔ n = float .nan := by
  cases n with
  | signed n => exact iff_of_false (Binary64.nearest_ne_nan _ _ _) nofun
  | unsigned n => exact iff_of_false (Binary64.nearest_ne_nan _ _ _) nofun
  | float x => rw [toBinary64, float.injEq]

/-- Beside a binary64 number every number is taken as one. -/
theorem compare?_of_integer?_eq_none {a b : Number} (h : a.integer? = none ∨ b.integer? = none) :
    a.compare? b = a.toBinary64.compare? b.toBinary64 := by
  unfold compare?
  split
  · rename_i ha hb
    rw [ha, hb] at h
    rcases h with h | h <;> cases h
  · rfl

theorem exists_integers {a b : Number} (h : ¬(a.integer? = none ∨ b.integer? = none)) :
    ∃ m n, a.integer? = some m ∧ b.integer? = some n := by
  rw [not_or] at h
  obtain ⟨m, hm⟩ := Option.ne_none_iff_exists'.mp h.1
  obtain ⟨n, hn⟩ := Option.ne_none_iff_exists'.mp h.2
  exact ⟨m, n, hm, hn⟩

/-- **Only a NaN has no order**, in whatever representations. -/
theorem compare?_eq_none_iff {a b : Number} :
    a.compare? b = none ↔ a = float .nan ∨ b = float .nan := by
  by_cases h : a.integer? = none ∨ b.integer? = none
  · rw [compare?_of_integer?_eq_none h, Binary64.compare?_eq_none_iff, toBinary64_eq_nan_iff,
      toBinary64_eq_nan_iff]
  · obtain ⟨x, y, hx, hy⟩ := exists_integers h
    refine iff_of_false (by simp [compare?_of_integers hx hy]) ?_
    rintro (rfl | rfl)
    · cases hx
    · cases hy

end Number

/-! ## Values -/

namespace Value

/-- Whether the value is a NaN. -/
def isNan : Value → Bool
  | number (.float .nan) => true
  | _ => false

theorem isNan_number_iff {n : Number} : (number n).isNan = true ↔ n = .float .nan := by
  unfold isNan
  split <;> simp_all

variable {a b : Value} {o : Option Ordering}

theorem order?_swap (a b : Value) : b.order? a = (a.order? b).map (Option.map Ordering.swap) := by
  cases a <;> cases b <;> try rfl
  · rename_i m n
    exact congrArg some (Number.compare?_swap m n)
  · exact congrArg (fun o => some (some o)) Std.OrientedOrd.eq_swap
  · rename_i s t
    exact congrArg (fun o => some (some o)) (Timestamp.compare_swap s t)

/-- **Values that can be ordered are equal if their order says so.** -/
theorem equal?_of_order? (h : a.order? b = some o) : a.equal? b = some (o == some .eq) := by
  cases a <;> cases b <;> cases h
  · rfl
  · rename_i s t
    refine congrArg some ?_
    rw [Bool.eq_iff_iff, beq_iff_eq, beq_iff_eq, Option.some_inj, Std.compare_eq_iff_eq]
  · rename_i s t
    refine congrArg some ?_
    rw [Bool.eq_iff_iff, beq_iff_eq, beq_iff_eq, Option.some_inj, Timestamp.compare_eq_eq]

theorem isNull_of_order? (h : a.order? b = some o) : a.isNull = false ∧ b.isNull = false := by
  cases a <;> cases b <;> first | exact ⟨rfl, rfl⟩ | cases h

theorem eq_none_iff_isNan (h : a.order? b = some o) :
    o = none ↔ a.isNan = true ∨ b.isNan = true := by
  cases a <;> cases b <;> cases h
  · rw [isNan_number_iff, isNan_number_iff, Number.compare?_eq_none_iff]
  · exact iff_of_false nofun (by simp [isNan])
  · exact iff_of_false nofun (by simp [isNan])

end Value

/-! ## Comparisons -/

namespace Comparison

variable {c : Comparison} {a b : Value}

theorem toOption_eval_equality (hc : c.isEquality = true) (a b : Value) :
    (c.eval a b).toOption = (a.equal? b).map fun e => .bool (e == (c == .eq)) := by
  cases h : a.equal? b with
  | some e =>
    rw [eval_of_equal? hc h]
    rfl
  | none =>
    cases c with
    | eq | ne =>
      rw [eval, h]
      rfl
    | _ => cases hc

theorem eval_of_isNull (hc : c.isEquality = false) (h : (a.isNull || b.isNull) = true) :
    c.eval a b = .ok (.bool false) := by
  cases c with
  | eq | ne => cases hc
  | _ => simp only [eval, if_pos h]

theorem eval_of_order? {o : Option Ordering} (hc : c.isEquality = false)
    (h : a.order? b = some o) : c.eval a b = .ok (.bool (o.any c.holds)) := by
  obtain ⟨ha, hb⟩ := Value.isNull_of_order? h
  cases c with
  | eq | ne => cases hc
  | _ => simp only [eval, ha, hb, h]; rfl

theorem exists_order?_of_eval (hc : c.isEquality = false) (hnull : (a.isNull || b.isNull) = false)
    {v : Value} (h : c.eval a b = .ok v) : ∃ o, a.order? b = some o := by
  cases ho : a.order? b with
  | some o => exact ⟨o, rfl⟩
  | none =>
    cases c with
    | eq | ne => cases hc
    | _ => simp [eval, hnull, ho] at h

theorem toOption_eval_ordering (hc : c.isEquality = false) (hnull : (a.isNull || b.isNull) = false) :
    (c.eval a b).toOption = (a.order? b).map fun o => .bool (o.any c.holds) := by
  cases h : a.order? b with
  | some o =>
    rw [eval_of_order? hc h]
    rfl
  | none =>
    cases heval : c.eval a b with
    | error e => rfl
    | ok v =>
      obtain ⟨o, ho⟩ := exists_order?_of_eval hc hnull heval
      rw [h] at ho
      cases ho

theorem any_holds_swap (c : Comparison) (o : Option Ordering) :
    (o.map Ordering.swap).any c.holds = o.any c.mirror.holds := by
  cases o with
  | none => rfl
  | some o => exact holds_swap c o

/-- **A comparison and its mirror agree** on exchanged operands, or both fail. -/
theorem toOption_eval_mirror (c : Comparison) (a b : Value) :
    (c.eval a b).toOption = (c.mirror.eval b a).toOption := by
  cases hc : c.isEquality with
  | true =>
    have hmirror : c.mirror = c := by cases c <;> first | rfl | cases hc
    rw [hmirror, toOption_eval_equality hc, toOption_eval_equality hc, Value.equal?_comm]
  | false =>
    have hmirror : c.mirror.isEquality = false := by cases c <;> first | rfl | cases hc
    cases hnull : a.isNull || b.isNull with
    | true =>
      rw [eval_of_isNull hc hnull, eval_of_isNull hmirror (by rwa [Bool.or_comm])]
    | false =>
      rw [toOption_eval_ordering hc hnull, toOption_eval_ordering hmirror (by rwa [Bool.or_comm]),
        Value.order?_swap b a, Option.map_map]
      congr 1
      funext o
      exact congrArg Value.bool (any_holds_swap c o)

/-- `<>` negates `=`, and fails with it. -/
theorem eval_ne (a b : Value) : ne.eval a b = eq.eval a b >>= Value.negate := by
  rw [eval, eval]
  cases a.equal? b <;> rfl

/-- **Of two values that have an order the comparisons say what it says.** -/
theorem evals_of_order? {o : Option Ordering} (h : a.order? b = some o) :
    lt.eval a b = .ok (.bool (o == some .lt)) ∧ eq.eval a b = .ok (.bool (o == some .eq)) ∧
      gt.eval a b = .ok (.bool (o == some .gt)) ∧
      le.eval a b = .ok (.bool (o == some .lt || o == some .eq)) ∧
      ge.eval a b = .ok (.bool (o == some .gt || o == some .eq)) := by
  have heq := eval_of_equal? (c := .eq) rfl (Value.equal?_of_order? h)
  rw [eval_of_order? rfl h, heq, eval_of_order? rfl h, eval_of_order? rfl h, eval_of_order? rfl h]
  cases o with
  | none => exact ⟨rfl, rfl, rfl, rfl, rfl⟩
  | some o => cases o <;> exact ⟨rfl, rfl, rfl, rfl, rfl⟩

/-- **The comparisons are consistent.** Equality does not depend on the order of its operands, `<>`
negates it and fails with it, and `<` and `<=` are `>` and `>=` with the operands exchanged. Beside
null no operand is below or above another. Elsewhere, where one comparison of order is evaluated, all
are: `<=` is `<` or `=`, `>=` is `>` or `=`, never do `<` and `>` hold together, and exactly one of
`<`, `=` and `>` holds, unless an operand is a NaN. -/
theorem eval_consistent (a b : Value) :
    (eq.eval a b).toOption = (eq.eval b a).toOption ∧
      ((∃ e, ne.eval a b = .error e) ↔ ∃ e, eq.eval a b = .error e) ∧
      (∀ p, eq.eval a b = .ok (.bool p) → ne.eval a b = .ok (.bool !p)) ∧
      (lt.eval a b).toOption = (gt.eval b a).toOption ∧
      (le.eval a b).toOption = (ge.eval b a).toOption ∧
      (a.isNull = true ∨ b.isNull = true →
        ∀ c : Comparison, c.isEquality = false → c.eval a b = .ok (.bool false)) ∧
      (a.isNull = false → b.isNull = false →
        ∀ (c : Comparison) (v : Value), c.isEquality = false → c.eval a b = .ok v →
          ∃ l e g, lt.eval a b = .ok (.bool l) ∧ eq.eval a b = .ok (.bool e) ∧
            gt.eval a b = .ok (.bool g) ∧ le.eval a b = .ok (.bool (l || e)) ∧
            ge.eval a b = .ok (.bool (g || e)) ∧ (l && g) = false ∧
            ([l, e, g].count true = 1 ↔ ¬(a.isNan = true ∨ b.isNan = true))) := by
  refine ⟨toOption_eval_mirror .eq a b, ?_, ?_, toOption_eval_mirror .lt a b,
    toOption_eval_mirror .le a b, ?_, ?_⟩
  · rw [eval_ne]
    cases h : eq.eval a b with
    | error e => exact iff_of_true ⟨e, rfl⟩ ⟨e, rfl⟩
    | ok v =>
      obtain ⟨p, rfl⟩ := eval_isBool h
      exact iff_of_false nofun nofun
  · intro p h
    rw [eval_ne, h]
    rfl
  · intro hnull c hc
    exact eval_of_isNull hc (by simpa using hnull)
  · intro ha hb c v hc h
    obtain ⟨o, ho⟩ := exists_order?_of_eval hc (by simp [ha, hb]) h
    obtain ⟨hlt, heq, hgt, hle, hge⟩ := evals_of_order? ho
    refine ⟨_, _, _, hlt, heq, hgt, hle, hge, ?_⟩
    rw [← Value.eq_none_iff_isNan ho]
    cases o with
    | none => decide
    | some o => cases o <;> decide

/-- Beside a NaN none of `<`, `=` and `>` holds, and so `<>` does; beside null `>=` does not. -/
theorem eval_consistent_nan :
    (∃ l e g, lt.eval (.number (.signed 3)) (.number (.float .nan)) = .ok (.bool l) ∧
        eq.eval (.number (.signed 3)) (.number (.float .nan)) = .ok (.bool e) ∧
        gt.eval (.number (.signed 3)) (.number (.float .nan)) = .ok (.bool g) ∧
        [l, e, g].count true ≠ 1) ∧
      ne.eval (.number (.signed 3)) (.number (.float .nan)) = .ok (.bool true) ∧
      ge.eval .null (.text "") = .ok (.bool false) := by
  have hnone : Number.compare? (.signed 3) (.float .nan) = none :=
    Number.compare?_eq_none_iff.mpr (Or.inr rfl)
  have horder? : Value.order? (.number (.signed 3)) (.number (.float .nan)) = some none :=
    congrArg some hnone
  have hlt := eval_of_order? (c := .lt) rfl horder?
  have heq := eval_of_equal? (c := .eq) rfl (Value.equal?_of_order? horder?)
  obtain ⟨-, -, hne, -, -, -, horder⟩ :=
    eval_consistent (.number (.signed 3)) (.number (.float .nan))
  obtain ⟨-, -, -, -, -, hnull, -⟩ := eval_consistent .null (.text "")
  obtain ⟨l, e, g, hl, he, hg, -, -, -, hcount⟩ := horder rfl rfl .lt _ rfl hlt
  exact ⟨⟨l, e, g, hl, he, hg, fun h => hcount.mp h (Or.inr rfl)⟩, hne false heq,
    hnull (Or.inl rfl) .ge rfl⟩

end Comparison

end WhereClause

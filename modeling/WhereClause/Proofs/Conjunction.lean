import WhereClause.Expr.Builder
import WhereClause.Proofs.Reduce

/-!
# Conjunctions

An operand of `AND` is a condition (`Expr.condition?`): SQL, or a truth value. A predicate is a
condition too, but for the literal of null, which is an operand and no predicate. What an operand is
as a condition is all that a conjunction depends on: conditions that are known are joined to one that
is known, until the first that is not.

Headlines:
* `Reduced.join_and_eq_ok_iff`: what `AND` makes of two operands, and when.
* `Expr.condition?_foldl_and`: a conjunction of expressions is the conjunction of their conditions.
* `Expr.predicate_eq_ok_iff`: predicates are conditions that are not null.
* `Sql.text_conjunction`: the text of a conjunction, from the texts of its conditions.
-/

namespace WhereClause

/-! ## Conditions -/

namespace Sql

/-- The truth value that is known of SQL. -/
def truth? : Sql → Option Bool
  | truth b => some b
  | _ => none

/-- The conjunction of two conditions, which is known if both of them are. -/
def conjoin : Sql → Sql → Sql
  | truth a, truth b => truth (a && b)
  | x, y => binary (.connective .and) x y

theorem conjoin_truth {x y : Sql} {a b : Bool} (hx : x.truth? = some a) (hy : y.truth? = some b) :
    x.conjoin y = truth (a && b) := by
  cases x <;> cases hx
  cases y <;> cases hy
  rfl

theorem conjoin_of_unknown {x y : Sql} (h : x.truth? = none ∨ y.truth? = none) :
    x.conjoin y = binary (.connective .and) x y := by
  unfold conjoin
  split
  · rcases h with h | h <;> cases h
  · rfl

theorem conjoin_ne_null (x y : Sql) : x.conjoin y ≠ null := by
  unfold conjoin
  split <;> nofun

theorem combine_ne_null (op : Operator) (x y : Sql) : combine op x y ≠ null := by
  have hequality : ∀ isEqual, equality isEqual x y ≠ null := by
    intro isEqual
    unfold equality
    split <;> nofun
  unfold combine
  split
  · exact hequality true
  · exact hequality false
  · nofun

end Sql

namespace Reduced

/-- The condition that an operand of a connective is. -/
def condition? : Reduced → Option Sql
  | sql x => some x
  | value (.bool b) => some (.truth b)
  | value _ => none

theorem toPredicate_eq_ok_iff {c : Connective} {r : Reduced} {x : Sql} :
    r.toPredicate c = .ok x ↔ r.condition? = some x := by
  cases r with
  | sql y => simp [toPredicate, condition?]
  | value v => cases v <;> simp [toPredicate, condition?]

theorem truth?_condition? {r : Reduced} {x : Sql} (h : r.condition? = some x) :
    r.truth? = x.truth? := by
  cases r with
  | sql y =>
    cases h
    cases x <;> rfl
  | value v =>
    cases v with
    | bool b =>
      cases h
      rfl
    | _ => cases h

theorem condition?_of_truth? {r : Reduced} {b : Bool} (h : r.truth? = some b) :
    r.condition? = some (.truth b) := by
  unfold truth? at h
  split at h
  · cases h
    rfl
  · cases h
    rfl
  · cases h

theorem join_of_unknown {c : Connective} {l r : Reduced} {x y : Sql}
    (h : l.truth? = none ∨ r.truth? = none) (hx : l.toPredicate c = .ok x)
    (hy : r.toPredicate c = .ok y) : join c l r = .ok (sql (.binary (.connective c) x y)) := by
  unfold join
  split
  · rename_i hl hr
    rcases h with h | h
    · rw [h] at hl
      cases hl
    · rw [h] at hr
      cases hr
  · split
    · -- Two values that are operands are truth values, which are known.
      rename_i v w _
      rcases toPredicate_eq_ok hx with hv | ⟨a, hv, rfl⟩
      · cases hv
      · rcases toPredicate_eq_ok hy with hw | ⟨b, hw, rfl⟩
        · cases hw
        · cases hv
          cases hw
          rcases h with h | h <;> cases h
    · rw [hx, hy]
      rfl

theorem asPredicate_conjoin (x y : Sql) : (sql (x.conjoin y)).asPredicate = sql (x.conjoin y) := by
  unfold Sql.conjoin
  split <;> rfl

/-- **Operands of `AND` are joined as conditions**, and refused if one of them is none. -/
theorem join_and_eq_ok_iff {l r s : Reduced} :
    join .and l r = .ok s ↔
      ∃ x y, l.condition? = some x ∧ r.condition? = some y ∧ s = sql (x.conjoin y) := by
  constructor
  · intro h
    rcases join_eq_ok h with ⟨p, q, hp, hq, rfl⟩ | ⟨hunknown, x, y, hx, hy, rfl⟩
    · exact ⟨_, _, condition?_of_truth? hp, condition?_of_truth? hq, rfl⟩
    · rw [toPredicate_eq_ok_iff] at hx hy
      refine ⟨x, y, hx, hy, congrArg sql (Sql.conjoin_of_unknown ?_).symm⟩
      rw [← truth?_condition? hx, ← truth?_condition? hy]
      cases hl : l.truth? with
      | none => exact Or.inl rfl
      | some p => exact Or.inr (Option.eq_none_iff_forall_ne_some.mpr fun q => hunknown p q hl)
  · rintro ⟨x, y, hx, hy, rfl⟩
    by_cases h : l.truth? = none ∨ r.truth? = none
    · rw [join_of_unknown h (toPredicate_eq_ok_iff.mpr hx) (toPredicate_eq_ok_iff.mpr hy),
        Sql.conjoin_of_unknown]
      rwa [← truth?_condition? hx, ← truth?_condition? hy]
    · obtain ⟨hl, hr⟩ := not_or.mp h
      obtain ⟨p, hp⟩ := Option.ne_none_iff_exists'.mp hl
      obtain ⟨q, hq⟩ := Option.ne_none_iff_exists'.mp hr
      rw [join_of_truths hp hq, Sql.conjoin_truth ((truth?_condition? hx).symm.trans hp)
        ((truth?_condition? hy).symm.trans hq)]
      rfl

theorem predicate_eq_ok_iff {r : Reduced} {x : Sql} :
    r.predicate = .ok x ↔ r.asPredicate.condition? = some x ∧ x ≠ .null := by
  unfold predicate
  split
  · rename_i hr
    rw [hr]
    exact iff_of_false nofun fun h => h.2 (Option.some.inj h.1).symm
  · rename_i y hy hr
    rw [hr]
    refine ⟨fun h => ?_, fun h => congrArg Except.ok (Option.some.inj h.1)⟩
    cases h
    exact ⟨rfl, hy⟩
  · rename_i b hr
    rw [hr]
    refine ⟨fun h => ?_, fun h => congrArg Except.ok (Option.some.inj h.1)⟩
    cases h
    exact ⟨rfl, nofun⟩
  · rename_i v hv hr
    have hnone : (value v).condition? = none := by
      cases v with
      | bool b => exact (hv b rfl).elim
      | _ => rfl
    rw [hr, hnone]
    exact iff_of_false nofun fun h => nomatch h.1

theorem asPredicate_condition?_eq_null_iff {r : Reduced} :
    r.asPredicate.condition? = some .null ↔ r = sql .null := by
  cases r with
  | value v => cases v <;> simp [asPredicate, condition?]
  | sql x => cases x <;> simp [asPredicate, condition?]

end Reduced

namespace Expr

/-- The condition that an expression is as an operand of a connective. -/
def condition? (e : Expr) : Option Sql := e.reduce.toOption.bind fun r => r.asPredicate.condition?

/-- The truth value that is known of an expression. -/
def truth? (e : Expr) : Option Bool := e.reduce.toOption.bind Reduced.truth?

theorem condition?_eq_some_iff {e : Expr} {x : Sql} :
    e.condition? = some x ↔ ∃ r, e.reduce = .ok r ∧ r.asPredicate.condition? = some x := by
  unfold condition?
  cases e.reduce with
  | error err => exact ⟨nofun, nofun⟩
  | ok r => simp [Except.toOption]

theorem truth?_of_condition? {e : Expr} {x : Sql} (h : e.condition? = some x) :
    e.truth? = x.truth? := by
  obtain ⟨r, hr, hx⟩ := condition?_eq_some_iff.mp h
  rw [truth?, hr, ← Reduced.truth?_condition? hx, Reduced.truth?_asPredicate]
  rfl

/-- Only the literal of null is reduced to null that is SQL. -/
theorem reduce_eq_null_iff {e : Expr} : e.reduce = .ok (.sql .null) ↔ e = null := by
  constructor
  · intro h
    cases e with
    | row => cases h
    | constant v => cases v <;> first | rfl | cases h
    | member object name enum =>
      by_cases hrow : object = row
      · subst hrow
        cases h
      · obtain ⟨r, -, h⟩ := reduce_member_eq_ok hrow h
        obtain ⟨v, w, -, -, h⟩ := Reduced.field_eq_ok h
        cases h
    | binary op a b =>
      obtain ⟨l, r, -, -, h⟩ := reduce_binary_eq_ok h
      cases hop : op.isLogical with
      | true =>
        cases op with
        | connective c =>
          rcases Reduced.join_eq_ok h with ⟨p, q, -, -, h⟩ | ⟨-, x, y, -, -, h⟩ <;> cases h
        | _ => cases hop
      | false =>
        rw [Reduced.apply_of_not_logical hop] at h
        rcases Reduced.combine_cases h with ⟨v, w, u, -, -, -, h⟩ | ⟨-, x, y, -, -, h⟩
        · cases h
        · exact absurd (Reduced.sql.inj h).symm (Sql.combine_ne_null op x y)
    | call a method args =>
      obtain ⟨r, rs, -, -, h⟩ := reduce_call_eq_ok h
      obtain ⟨vs, -, h⟩ := Reduced.call_eq_ok h
      rcases h with ⟨x, m, -, -, -, -, h⟩ | ⟨v, w, -, -, h⟩ <;> cases h
    | not a =>
      obtain ⟨r, -, h⟩ := reduce_not_eq_ok h
      rcases Reduced.negate_eq_ok h with ⟨b, -, h⟩ | ⟨c, -, h⟩ | ⟨x, -, -, -, h⟩ <;> cases h
  · rintro rfl
    rfl

theorem condition?_and_eq_some_iff {a b : Expr} {z : Sql} :
    (a.and b).condition? = some z ↔
      ∃ x y, a.condition? = some x ∧ b.condition? = some y ∧ x.conjoin y = z := by
  simp only [condition?_eq_some_iff]
  constructor
  · rintro ⟨s, hs, hz⟩
    obtain ⟨l, r, hl, hr, h⟩ := reduce_binary_eq_ok hs
    obtain ⟨x, y, hx, hy, rfl⟩ := Reduced.join_and_eq_ok_iff.mp h
    rw [Reduced.asPredicate_conjoin] at hz
    exact ⟨x, y, ⟨l, hl, hx⟩, ⟨r, hr, hy⟩, Option.some.inj hz⟩
  · rintro ⟨x, y, ⟨l, hl, hx⟩, ⟨r, hr, hy⟩, rfl⟩
    refine ⟨.sql (x.conjoin y), ?_, by rw [Reduced.asPredicate_conjoin]; rfl⟩
    rw [Expr.and, reduce, hl, hr]
    exact Reduced.join_and_eq_ok_iff.mpr ⟨x, y, hx, hy, rfl⟩

/-- **The conjunction of two expressions is the conjunction of their conditions.** -/
theorem condition?_and (a b : Expr) :
    (a.and b).condition? = do
      let x ← a.condition?
      let y ← b.condition?
      return x.conjoin y := by
  refine Option.ext fun z => ?_
  rw [condition?_and_eq_some_iff]
  cases a.condition? <;> cases b.condition? <;> simp

/-- **A conjunction of expressions is the conjunction of their conditions**, by induction on them. -/
theorem condition?_foldl_and (e : Expr) (es : List Expr) :
    (es.foldl Expr.and e).condition? = do
      let x ← e.condition?
      let ys ← es.mapM condition?
      return ys.foldl Sql.conjoin x := by
  induction es generalizing e with
  | nil =>
    rw [List.foldl_nil]
    cases e.condition? <;> rfl
  | cons f es ih =>
    rw [List.foldl_cons, ih, condition?_and, List.mapM_cons]
    cases e.condition? with
    | none => rfl
    | some x =>
      cases f.condition? with
      | none => rfl
      | some y => cases es.mapM condition? <;> rfl

/-- **A predicate is a condition that is not null.** -/
theorem predicate_eq_ok_iff {e : Expr} {x : Sql} :
    e.predicate = .ok x ↔ e.condition? = some x ∧ x ≠ .null := by
  rw [condition?_eq_some_iff]
  constructor
  · intro h
    obtain ⟨r, hr, hx⟩ := except_bind_eq_ok.mp h
    obtain ⟨hcondition, hnull⟩ := Reduced.predicate_eq_ok_iff.mp hx
    exact ⟨⟨r, hr, hcondition⟩, hnull⟩
  · rintro ⟨⟨r, hr, hcondition⟩, hnull⟩
    exact except_bind_eq_ok.mpr ⟨r, hr, Reduced.predicate_eq_ok_iff.mpr ⟨hcondition, hnull⟩⟩

theorem condition?_eq_null_iff {e : Expr} : e.condition? = some .null ↔ e = null := by
  rw [condition?_eq_some_iff, ← reduce_eq_null_iff]
  constructor
  · rintro ⟨r, hr, hx⟩
    rw [hr, Reduced.asPredicate_condition?_eq_null_iff.mp hx]
  · intro h
    exact ⟨_, h, rfl⟩

theorem mapM_condition?_cons_eq_some {e : Expr} {es : List Expr} {xs : List Sql} :
    (e :: es).mapM condition? = some xs ↔
      ∃ x ys, e.condition? = some x ∧ es.mapM condition? = some ys ∧ xs = x :: ys := by
  rw [List.mapM_cons]
  cases e.condition? with
  | none => exact iff_of_false nofun nofun
  | some x => cases es.mapM condition? <;> simp [eq_comm]

theorem map_truth?_of_mapM {es : List Expr} {xs : List Sql} (h : es.mapM condition? = some xs) :
    es.map truth? = xs.map Sql.truth? := by
  induction es generalizing xs with
  | nil =>
    cases h
    rfl
  | cons e es ih =>
    obtain ⟨x, ys, hx, hys, rfl⟩ := mapM_condition?_cons_eq_some.mp h
    rw [List.map_cons, List.map_cons, truth?_of_condition? hx, ih hys]

end Expr

/-! ## Texts of conjunctions -/

namespace Sql

/-- Texts joined by `AND`, nested to the left. -/
def conjunctionText : List String → String
  | [] => ""
  | s :: ss => ss.foldl (fun left right => "(" ++ left ++ " AND " ++ right ++ ")") s

/-- The texts of conditions, with a single sentinel in place of those in front whose truth values
are known. -/
def mergeKnown (d : Dialect) (truths : List (Option Bool)) (texts : List String) : List String :=
  let known := truths.takeWhile Option.isSome
  if known.isEmpty then texts
  else d.constant (known.all (· == some true)) :: texts.drop known.length

theorem text_binary_and (d : Dialect) (x y : Sql) :
    (binary (.connective .and) x y).text d = "(" ++ x.text d ++ " AND " ++ y.text d ++ ")" := by
  apply String.toList_inj.mp
  simp [text, operatorText, Operator.isFunction, Operator.sql, Connective.sql]

theorem text_foldl_and (d : Dialect) (x : Sql) (ys : List Sql) :
    (ys.foldl (binary (.connective .and)) x).text d =
      conjunctionText ((x :: ys).map (text d)) := by
  rw [List.map_cons, conjunctionText, List.foldl_map]
  exact (List.foldl_hom (text d) fun y z => (text_binary_and d y z).symm).symm

theorem foldl_conjoin_of_unknown {x : Sql} (hx : x.truth? = none) (ys : List Sql) :
    ys.foldl conjoin x = ys.foldl (binary (.connective .and)) x := by
  induction ys generalizing x with
  | nil => rfl
  | cons y ys ih =>
    rw [List.foldl_cons, List.foldl_cons, conjoin_of_unknown (Or.inl hx), ih rfl]

/-- Conditions in front that are known are joined to one that is known. -/
theorem foldl_conjoin_truth (b : Bool) (ys : List Sql) :
    ys.foldl conjoin (truth b) =
      (ys.dropWhile fun y => y.truth?.isSome).foldl (binary (.connective .and))
        (truth (b && (ys.takeWhile fun y => y.truth?.isSome).all fun y => y.truth? == some true)) := by
  induction ys generalizing b with
  | nil => simp
  | cons y ys ih =>
    rw [List.foldl_cons]
    cases hy : y.truth? with
    | none =>
      -- Behind a condition that is not known nothing is merged any more.
      rw [conjoin_of_unknown (Or.inr hy), foldl_conjoin_of_unknown rfl]
      simp [hy]
    | some c =>
      rw [conjoin_truth rfl hy, ih]
      simp [hy, Bool.and_assoc]

theorem foldl_conjoin_ne_null (x y : Sql) (ys : List Sql) : (y :: ys).foldl conjoin x ≠ null := by
  induction ys generalizing x y with
  | nil => exact conjoin_ne_null x y
  | cons z ys ih => exact ih (x.conjoin y) z

theorem drop_length_takeWhile {α : Type} (p : α → Bool) (l : List α) :
    l.drop (l.takeWhile p).length = l.dropWhile p := by
  have h : (l.takeWhile p ++ l.dropWhile p).drop (l.takeWhile p).length = l.dropWhile p :=
    List.drop_left
  rwa [List.takeWhile_append_dropWhile] at h

/-- **The text of a conjunction**, from the texts of the conditions. -/
theorem text_conjunction (d : Dialect) (x : Sql) (ys : List Sql) :
    (ys.foldl conjoin x).text d =
      conjunctionText
        (mergeKnown d ((x :: ys).map truth?) ((x :: ys).map (text d))) := by
  cases hx : x.truth? with
  | none =>
    rw [foldl_conjoin_of_unknown hx, text_foldl_and]
    simp [mergeKnown, hx]
  | some b =>
    obtain rfl : x = truth b := by
      cases x <;> cases hx
      rfl
    have hknown : ((truth b :: ys).map truth?).takeWhile Option.isSome =
        some b :: (ys.takeWhile fun y => y.truth?.isSome).map truth? := by
      rw [List.map_cons, List.takeWhile_cons_of_pos (by rfl), List.takeWhile_map]
      rfl
    have hall : (some b :: (ys.takeWhile fun y => y.truth?.isSome).map truth?).all (· == some true) =
        (b && (ys.takeWhile fun y => y.truth?.isSome).all fun y => y.truth? == some true) := by
      rw [List.all_cons, List.all_map]
      cases b <;> rfl
    rw [foldl_conjoin_truth, text_foldl_and, mergeKnown, hknown, hall]
    simp only [List.isEmpty_cons, Bool.false_eq_true, if_false, List.length_cons, List.length_map,
      List.map_cons, List.drop_succ_cons]
    rw [← List.map_drop, drop_length_takeWhile]
    rfl

/-- Only the conditions in front are merged. -/
example :
    ([truth false, columnIs "open" true, truth true].foldl conjoin (truth true)).text .sqlite =
      "(((1=0) AND \"open\"=1) AND (1=1))" := by
  decide +kernel

end Sql

end WhereClause

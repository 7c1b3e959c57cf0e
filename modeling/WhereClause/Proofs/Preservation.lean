import WhereClause.Proofs.Meaning

/-!
# Conditions keep their meaning

A condition is reduced to a truth value that is known, to a column that stands for one, or to SQL
that says of each row what the condition says of it (`Reduced.Holds`). The text of such SQL has all
the parentheses that it needs, so a reader by precedence comes to the same truth value.

What the truth values are spelled as has to denote two values: with one value for both, a column
that is true could not be told from one that is false. A column that stands for a truth value has to
hold one of the two or null, because its negation is the test that it is false.

Headlines:
* `Reduced.Holds.join`, `Reduced.Holds.negate`: connectives and negation preserve truth.
* `Condition.reduce_holds`: a condition is reduced to what it says of the row.
* `Condition.compile_truth`: the text of a condition has the truth value of the condition.
-/

namespace WhereClause

/-- The truth values are spelled as two values. -/
def Interpretation.Distinguishes {α : Type} (I : Interpretation α) (d : Dialect) : Prop :=
  ∃ yes no, I.literal (d.operand (.bool true)) = some yes ∧
    I.literal (d.operand (.bool false)) = some no ∧ yes ≠ no

/-- The value is one of the two truth values, or null. -/
def Interpretation.IsTruth {α : Type} (I : Interpretation α) (d : Dialect) (x : Option α) : Prop :=
  x = none ∨ ∃ b, x = I.literal (d.operand (.bool b))

section Conditions

variable {α : Type} {d : Dialect} {I : Interpretation α} {row : Row α}

/-! ## Truth values as values -/

theorem operand_truth (row : Row α) (hd : d.SpellsConstants) (b : Bool) :
    I.operand row (d.operand (.bool b)) = I.literal (d.operand (.bool b)) := by
  obtain ⟨o, ho, hc⟩ := hd b
  have hop : d.operand (.bool b) = o := by rw [Dialect.operand, ho, Option.getD_some]
  rw [hop]
  cases o with
  | column name => cases hc
  | null => cases hc
  | _ => rfl

theorem literal_truth_ne_none (hI : I.Distinguishes d) (b : Bool) :
    (I.literal (d.operand (.bool b))).isNone = false := by
  obtain ⟨yes, no, hyes, hno, -⟩ := hI
  cases b
  · rw [hno]
    rfl
  · rw [hyes]
    rfl

variable [DecidableEq α]

/-- Literals of truth values are compared as the truth values are. -/
theorem compare_literals (hI : I.Distinguishes d) (p q : Bool) :
    I.compare .eq (I.literal (d.operand (.bool p))) (I.literal (d.operand (.bool q))) =
      .ofBool (p == q) := by
  obtain ⟨yes, no, hyes, hno, hne⟩ := hI
  cases p <;> cases q <;>
    simp [hyes, hno, hne, hne.symm, Interpretation.compare, Truth.unlessNull]

/-- That a column is false is the negation of that it is true. -/
theorem compare_false (hI : I.Distinguishes d) {x : Option α} (hx : I.IsTruth d x) :
    I.compare .eq x (I.literal (d.operand (.bool false))) =
      (I.compare .eq x (I.literal (d.operand (.bool true)))).not := by
  rcases hx with rfl | ⟨b, rfl⟩
  · rfl
  · rw [compare_literals hI, compare_literals hI, Truth.not_ofBool]
    cases b <;> rfl

/-! ## SQL that says something of a row -/

/-- The SQL has the truth value in the row, and needs no more parentheses. -/
structure Sql.Says (d : Dialect) (I : Interpretation α) (row : Row α) (x : Sql) (t : Truth) :
    Prop where
  grouped : x.isGrouped = true
  truth : (x.tree d).truth? I row = some t

namespace Sql

variable {x y : Sql} {t u : Truth}

theorem says_truth (hd : d.SpellsConstants) (hI : I.Distinguishes d) (b : Bool) :
    Says d I row (.truth b) (.ofBool b) where
  grouped := rfl
  truth := by
    have h := compare_literals hI true b
    rw [← operand_truth row hd, ← operand_truth row hd, Bool.true_beq] at h
    rw [← h]
    rfl

theorem says_columnIs (hd : d.SpellsConstants) (name : String) (b : Bool) :
    Says d I row (.columnIs name b)
      (I.compare .eq (row name) (I.literal (d.operand (.bool b)))) where
  grouped := rfl
  truth := by
    rw [← operand_truth row hd]
    rfl

theorem Says.not (hx : Says d I row x t) : Says d I row (.not x) t.not where
  grouped := hx.grouped
  truth := by
    rw [tree, Tree.truth?, hx.truth]
    rfl

theorem Says.connective (c : Connective) (hx : Says d I row x t) (hy : Says d I row y u) :
    Says d I row (.binary (.connective c) x y) (c.kleene t u) where
  grouped := by
    rw [isGrouped, hx.grouped, hy.grouped]
    rfl
  truth := by
    rw [tree, operatorTree, Tree.truth?, Tree.truth?, hx.truth, hy.truth]
    rfl

end Sql

/-! ## Reduced conditions -/

/-- What a condition has been reduced to has the truth value. -/
inductive Reduced.Holds (d : Dialect) (I : Interpretation α) (row : Row α) :
    Reduced → Truth → Prop
  | value (b : Bool) : Holds d I row (value (.bool b)) (.ofBool b)
  | column (c : Column) (hc : I.IsTruth d (row c.name)) :
    Holds d I row (sql (.column c))
      (I.compare .eq (row c.name) (I.literal (d.operand (.bool true))))
  | sql {x : Sql} {t : Truth} (hx : x.Says d I row t) : Holds d I row (sql x) t

namespace Reduced.Holds

variable {r s l : Reduced} {t u : Truth}

/-- A predicate that is known has the truth value that is known of it. -/
theorem eq_ofBool (hd : d.SpellsConstants) (hI : I.Distinguishes d) (h : Holds d I row r t)
    {b : Bool} (hb : r.truth? = some b) : t = .ofBool b := by
  cases h with
  | value b' =>
    cases hb
    rfl
  | column c => cases hb
  | @sql x _ hx =>
    cases x with
    | truth b' =>
      cases hb
      exact Option.some.inj (hx.truth.symm.trans (Sql.says_truth hd hI b).truth)
    | _ => cases hb

theorem of_truth? (hd : d.SpellsConstants) (hI : I.Distinguishes d) {b : Bool}
    (hb : r.truth? = some b) : Holds d I row r (.ofBool b) := by
  unfold truth? at hb
  split at hb
  · cases hb
    exact value b
  · cases hb
    exact sql (Sql.says_truth hd hI b)
  · cases hb

/-- As a predicate, what has been reduced is a truth value of the host or SQL. Either way the SQL of
the predicate says what the condition says. -/
theorem predicate_says (hd : d.SpellsConstants) (hI : I.Distinguishes d) (h : Holds d I row r t)
    {x : Sql}
    (hx : r.asPredicate = .sql x ∨ ∃ b, r.asPredicate = .value (.bool b) ∧ x = .truth b) :
    x.Says d I row t := by
  cases h with
  | value b =>
    rcases hx with hx | ⟨b', hb', rfl⟩
    · cases hx
    · cases hb'
      exact Sql.says_truth hd hI b
  | column c hc =>
    rcases hx with hx | ⟨b', hb', -⟩
    · cases hx
      exact Sql.says_columnIs hd c.name true
    · cases hb'
  | @sql y _ hy =>
    have hsame : (Reduced.sql y).asPredicate = .sql y := by
      cases y with
      | column c => cases hy.truth
      | _ => rfl
    rw [hsame] at hx
    rcases hx with hx | ⟨b', hb', -⟩
    · cases hx
      exact hy
    · cases hb'

/-- **Connectives preserve truth.** -/
theorem join (hd : d.SpellsConstants) (hI : I.Distinguishes d) {c : Connective}
    (hl : Holds d I row l t) (hr : Holds d I row r u)
    (h : Reduced.join c l.asPredicate r.asPredicate = .ok s) :
    Holds d I row s (c.kleene t u) := by
  rcases join_eq_ok h with ⟨p, q, hp, hq, rfl⟩ | ⟨-, x, y, hx, hy, rfl⟩
  · rw [truth?_asPredicate] at hp hq
    rw [hl.eq_ofBool hd hI hp, hr.eq_ofBool hd hI hq, Connective.kleene_ofBool]
    exact sql (Sql.says_truth hd hI _)
  · have hxt := hl.predicate_says hd hI (toPredicate_eq_ok hx)
    have hyu := hr.predicate_says hd hI (toPredicate_eq_ok hy)
    exact sql (hxt.connective c hyu)

/-- **Negation preserves truth.** -/
theorem negate (hd : d.SpellsConstants) (hI : I.Distinguishes d) (hr : Holds d I row r t)
    (h : r.negate = .ok s) : Holds d I row s t.not := by
  rcases negate_eq_ok h with ⟨b, hb, hs⟩ | ⟨c, rfl, rfl⟩ | ⟨x, rfl, -, hc, rfl⟩
  · rw [hr.eq_ofBool hd hI hb, Truth.not_ofBool]
    exact of_truth? hd hI hs
  · cases hr with
    | column _ hc =>
      rw [← compare_false hI hc]
      exact sql (Sql.says_columnIs hd c.name false)
    | sql hx => cases hx.truth
  · cases hr with
    | column c => exact absurd rfl (hc c)
    | sql hx => exact sql hx.not

end Reduced.Holds

/-! ## Comparisons -/

namespace Sql

/-- The SQL is an operand of a comparison that has the value. -/
structure Compares (d : Dialect) (I : Interpretation α) (row : Row α) (x : Sql) (m : Meaning α)
    (v : Option α) : Prop where
  grouped : x.isGrouped = true
  noNegation : x.isNegation = false
  isNull : x = .null ↔ m.isNull = true
  plain : x.plain.Denotes d I row v
  null : Tree.isNull? ((x.tree d).value? I row) ((x.tree d).truth? I row) = some v.isNone

variable {x y : Sql} {m n : Meaning α} {v w : Option α}

theorem Denotes.compares (hx : x.Denotes d I row v) (hm : x = .null ↔ m.isNull = true) :
    x.Compares d I row m v where
  grouped := isGrouped_of_isTerm hx.term
  noNegation := isNegation_of_isTerm hx.term
  isNull := hm
  plain := by
    rw [plain_of_isTerm hx.term]
    exact hx
  null := by
    rw [hx.value]
    rfl

theorem compares_truth (hd : d.SpellsConstants) (hI : I.Distinguishes d) (b : Bool) :
    Compares d I row (.truth b) (.sql (I.literal (d.operand (.bool b))))
      (I.literal (d.operand (.bool b))) where
  grouped := rfl
  noNegation := rfl
  isNull := iff_of_false nofun Bool.false_ne_true
  plain := ⟨rfl, congrArg some (operand_truth row hd b)⟩
  null := by
    rw [(says_truth hd hI b).truth, literal_truth_ne_none hI]
    cases b <;> rfl

theorem Denotes.search (place : SearchPlace) (needle : String) (hx : x.Denotes d I row v) :
    Says d I row (.method (.search place needle) x)
      (I.search v (I.literal (.text (place.pattern needle)))) where
  grouped := by
    rw [isGrouped, isGrouped_of_isTerm hx.term, fitsMethod, isNegation_of_isTerm hx.term]
    rfl
  truth := by
    rw [tree, methodTree, Tree.truth?, hx.value]
    rfl

theorem Compares.nullTest (hx : x.Compares d I row m v) (isNull : Bool) :
    Says d I row (.nullTest isNull x) (.ofBool (v.isNone == isNull)) where
  grouped := by
    rw [isGrouped, hx.grouped, hx.noNegation]
    rfl
  truth := by
    cases isNull
    · rw [tree, Tree.truth?, if_neg Bool.false_ne_true, Tree.truth?, hx.null]
      cases v <;> rfl
    · rw [tree, Tree.truth?, if_pos rfl, Tree.truth?, hx.null]
      cases v <;> rfl

theorem Denotes.comparison (c : Comparison) (hx : x.Denotes d I row v) (hy : y.Denotes d I row w) :
    Says d I row (.binary (.comparison c) x y) (I.compare c v w) where
  grouped := by
    rw [isGrouped, isGrouped_of_isTerm hx.term, isGrouped_of_isTerm hy.term,
      fits_of_isTerm _ hx.term hy.term]
    rfl
  truth := by
    rw [tree, operatorTree, Tree.truth?, Tree.truth?, hx.value, hy.value]
    rfl

/-- Equality is the test for null beside null, and a comparison otherwise. -/
theorem Compares.equality (isEqual : Bool) (hx : x.Compares d I row m v)
    (hy : y.Compares d I row n w) :
    Says d I row (equality isEqual x y)
      (if n.isNull then .ofBool (v.isNone == isEqual)
      else if m.isNull then .ofBool (w.isNone == isEqual)
      else I.compare (if isEqual then .eq else .ne) v w) := by
  by_cases hyn : y = .null
  · rw [if_pos (hy.isNull.mp hyn), hyn, equality_null_right]
    exact hx.nullTest isEqual
  · rw [if_neg fun h => hyn (hy.isNull.mpr h)]
    by_cases hxn : x = .null
    · rw [if_pos (hx.isNull.mp hxn), hxn, equality_null_left isEqual hyn]
      exact hy.nullTest isEqual
    · rw [if_neg fun h => hxn (hx.isNull.mpr h), equality_of_ne_null isEqual hxn hyn]
      exact hx.plain.comparison _ hy.plain

end Sql

/-- A comparison is left to SQL as soon as one operand is. -/
theorem Meaning.compare?_of_sql (c : Comparison) {m n : Meaning α} {x y : Option α}
    (h : (∀ v, m ≠ host v) ∨ ∀ w, n ≠ host w) (hm : m.value? d I row = some x)
    (hn : n.value? d I row = some y) :
    m.compare? d I row c n =
      some (if c.isEquality && n.isNull then .ofBool (x.isNone == (c == .eq))
        else if c.isEquality && m.isNull then .ofBool (y.isNone == (c == .eq))
        else I.compare c x y) := by
  unfold compare?
  split
  · rcases h with h | h
    · exact absurd rfl (h _)
    · exact absurd rfl (h _)
  · rw [nullTest?, nullTest?, hm, hn]
    split
    · rfl
    · split <;> rfl

namespace Reduced

variable {l r s : Reduced} {m n : Meaning α}

/-- The SQL of an operand can be compared. -/
theorem IsOperand.toSql (hd : d.SpellsConstants) (hI : I.Distinguishes d)
    (h : r.IsOperand d I row m) {x : Sql} (hx : r.toSql = .ok x) :
    ∃ v, m.value? d I row = some v ∧ x.Compares d I row m v := by
  cases h with
  | term h =>
    obtain ⟨v, hv, hxv, hnull⟩ := h.toSql hx
    exact ⟨v, hv, hxv.compares hnull⟩
  | truth b =>
    cases hx
    exact ⟨_, rfl, Sql.compares_truth hd hI b⟩

/-- **Comparisons preserve truth.** -/
theorem IsOperand.comparison (hd : d.SpellsConstants) (hI : I.Distinguishes d) {c : Comparison}
    (hl : l.IsOperand d I row m) (hr : r.IsOperand d I row n)
    (hterms : c.isEquality = true ∨ l.Means d I row m ∧ r.Means d I row n)
    (h : combine (.comparison c) l r = .ok s) :
    ∃ t, m.compare? d I row c n = some t ∧ s.Holds d I row t := by
  rcases combine_eq_ok hl.isEnumColumn hr.isEnumColumn h with
    ⟨v, w, u, rfl, rfl, hu, rfl⟩ | ⟨hsql, x, y, hx, hy, rfl⟩
  · rw [Operator.eval] at hu
    obtain ⟨b, rfl⟩ := Comparison.eval_isBool hu
    refine ⟨.ofBool b, ?_, .value b⟩
    rw [hl.eq_host, hr.eq_host, Meaning.compare?, hu]
    rfl
  · obtain ⟨v, hv, hxv⟩ := hl.toSql hd hI hx
    obtain ⟨w, hw, hyw⟩ := hr.toSql hd hI hy
    refine ⟨_, Meaning.compare?_of_sql c (hsql.imp hl.not_host hr.not_host) hv hw, .sql ?_⟩
    by_cases hc : c.isEquality = true
    · have hcombine : Sql.combine (.comparison c) x y = Sql.equality (c == .eq) x y := by
        cases c with
        | eq | ne => rfl
        | _ => cases hc
      have hsame : (if c == .eq then Comparison.eq else .ne) = c := by
        cases c with
        | eq | ne => rfl
        | _ => cases hc
      have hsays := hxv.equality (c == .eq) hyw
      rw [hsame] at hsays
      rw [hcombine, hc, Bool.true_and, Bool.true_and]
      exact hsays
    · -- the operands are terms, and the SQL of a term is compared as it stands
      obtain ⟨hlm, hrn⟩ := hterms.resolve_left hc
      obtain ⟨_, -, hxt, -⟩ := hlm.toSql hx
      obtain ⟨_, -, hyt, -⟩ := hrn.toSql hy
      have hcombine : Sql.combine (.comparison c) x y =
          .binary (.comparison c) x.plain y.plain := by
        rw [Sql.plain_of_isTerm hxt.term, Sql.plain_of_isTerm hyt.term]
        cases c with
        | eq | ne => exact absurd rfl hc
        | _ => rfl
      rw [hcombine, Bool.eq_false_iff.mpr hc, Bool.false_and, Bool.false_and]
      exact hxv.plain.comparison c hyw.plain

/-- **Searches preserve truth.** -/
theorem Means.search {place : SearchPlace} {needle : String} (hr : r.Means d I row m)
    (h : r.call place.methodName [value (.text needle)] = .ok s) :
    ∃ t, m.search? I place needle = some t ∧ s.Holds d I row t := by
  obtain ⟨vs, hvs, h⟩ := call_eq_ok h
  obtain rfl : [Value.text needle] = vs := Option.some.inj hvs
  rcases h with ⟨x, t, rfl, hl, -, ht, rfl⟩ | ⟨v, w, rfl, hw, rfl⟩
  · rw [TextMethod.ofCall?_methodName] at ht
    cases ht
    cases hr with
    | null => exact absurd rfl (hl _)
    | sql hx => exact ⟨_, rfl, .sql (hx.search place needle)⟩
  · obtain ⟨b, rfl⟩ := Value.call_search_isBool hw
    cases hr
    refine ⟨.ofBool b, ?_, .value b⟩
    rw [Meaning.search?, hw]
    rfl

end Reduced

/-! ## Conditions -/

namespace Condition

/-- **A condition is reduced to what it says of the row.** -/
theorem reduce_holds (hd : d.SpellsConstants) (hI : I.Distinguishes d) (p : Condition)
    (hrow : ∀ name ∈ p.bareColumns, I.IsTruth d (row name)) {r : Reduced}
    (h : p.toExpr.reduce = .ok r) : ∃ t, p.truth? d I row = some t ∧ r.Holds d I row t := by
  induction p generalizing r with
  | column name enum =>
    cases h
    exact ⟨_, rfl, .column ⟨name, enum⟩ (hrow name List.mem_cons_self)⟩
  | truth b =>
    cases h
    exact ⟨_, rfl, .sql (Sql.says_truth hd hI b)⟩
  | comparison c a b hterms =>
    obtain ⟨l, r', hl, hr, happly⟩ := Expr.reduce_binary_eq_ok h
    obtain ⟨m, hm, hlm, hlt⟩ := a.reduce_isOperand d I row hl
    obtain ⟨n, hn, hrn, hrt⟩ := b.reduce_isOperand d I row hr
    have hterms' := hterms.imp_right fun ht => And.intro (hlt ht.1) (hrt ht.2)
    obtain ⟨t, ht, hs⟩ := hlm.comparison hd hI hrn hterms' happly
    refine ⟨t, ?_, hs⟩
    rw [truth?, hm, hn]
    exact ht
  | search place a needle =>
    obtain ⟨r', rs, hr', hrs, hcall⟩ := Expr.reduce_call_eq_ok h
    cases hrs
    obtain ⟨m, hm, hmeans⟩ := a.reduce_means d I row hr'
    obtain ⟨t, ht, hs⟩ := hmeans.search hcall
    refine ⟨t, ?_, hs⟩
    rw [truth?, hm]
    exact ht
  | connective c p q ihp ihq =>
    obtain ⟨l, r', hl, hr, hjoin⟩ := Expr.reduce_binary_eq_ok h
    obtain ⟨t, ht, hlt⟩ := ihp (fun name hn => hrow name (List.mem_append_left _ hn)) hl
    obtain ⟨u, hu, hru⟩ := ihq (fun name hn => hrow name (List.mem_append_right _ hn)) hr
    refine ⟨c.kleene t u, ?_, hlt.join hd hI hru hjoin⟩
    rw [truth?, ht, hu]
    rfl
  | not p ih =>
    obtain ⟨r', hr', hnegate⟩ := Expr.reduce_not_eq_ok h
    obtain ⟨t, ht, hrt⟩ := ih hrow hr'
    refine ⟨t.not, ?_, hrt.negate hd hI hnegate⟩
    rw [truth?, ht]
    rfl

/-- **The text of a condition has the truth value of the condition**, in every row whose bare
columns hold truth values, and for every interpretation that tells the truth values apart. -/
theorem compile_truth {d : Dialect} (hd : d.SpellsConstants) {I : Interpretation α}
    (hI : I.Distinguishes d) {row : Row α} (p : Condition)
    (hrow : ∀ name ∈ p.bareColumns, I.IsTruth d (row name)) {s : String}
    (h : p.toExpr.compile d = .ok s) :
    ∃ x t, Tree.ofText? s = some x ∧ x.truth? I row = some t ∧ p.truth? d I row = some t := by
  obtain ⟨x, hx, rfl⟩ := Expr.compile_eq_ok_iff.mp h
  obtain ⟨r, hr, hpred⟩ := Expr.predicate_eq_ok hx
  obtain ⟨t, ht, hholds⟩ := p.reduce_holds hd hI hrow hr
  have hsays := hholds.predicate_says hd hI (Reduced.predicate_eq_ok hpred)
  have hread := (Tree.ofText?_eq_some_iff (Sql.lex_text hd x)).mpr
    (x.ordered_tree_iff.mpr hsays.grouped)
  exact ⟨x.tree d, t, hread, hsays.truth, ht⟩

end Condition

end Conditions

/-- The interpretation in which literals denote themselves, texts stay as they are, and nothing is
known of numbers and patterns. -/
def Interpretation.ofLiterals : Interpretation Operand where
  literal := some
  arithmetic _ _ _ := none
  coalesce := Option.or
  upper := id
  lower := id
  trim _ := id
  order _ _ _ := .unknown
  like _ _ := .unknown

/-- A row without an owner, and with a truth value that is false. -/
def Row.openTask : Row Operand := fun name =>
  if name = "done" then some (Dialect.sqlite.operand (.bool false)) else none

/-- That a task is not done and has no owner. -/
def Condition.isOpen : Condition :=
  .connective .and (.not (.column "done" none))
    (.comparison .eq (.term (.column "owner")) (.term (.constant .null rfl)) (Or.inl rfl))

theorem Condition.isOpen_openTask :
    isOpen.toExpr.compile .sqlite = .ok "(\"done\"=0 AND (\"owner\" is null))" ∧
      ∃ x, Tree.ofText? "(\"done\"=0 AND (\"owner\" is null))" = some x ∧
        x.truth? Interpretation.ofLiterals Row.openTask = some .holds := by
  have hI : Interpretation.ofLiterals.Distinguishes .sqlite := ⟨_, _, rfl, rfl, by decide +kernel⟩
  have hrow : ∀ name ∈ isOpen.bareColumns,
      Interpretation.ofLiterals.IsTruth .sqlite (Row.openTask name) := by
    intro name hname
    rw [List.mem_singleton.mp hname]
    exact Or.inr ⟨false, rfl⟩
  have h : isOpen.toExpr.compile .sqlite = .ok "(\"done\"=0 AND (\"owner\" is null))" := rfl
  obtain ⟨x, t, hread, htruth, ht⟩ :=
    compile_truth Dialect.spellsLiterals_sqlite.constants hI isOpen hrow h
  have hholds : isOpen.truth? .sqlite Interpretation.ofLiterals Row.openTask = some .holds := by
    decide +kernel
  refine ⟨h, x, hread, ?_⟩
  rw [htruth, ← ht, hholds]

end WhereClause

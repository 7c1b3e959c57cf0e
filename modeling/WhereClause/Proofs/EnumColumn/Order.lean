import WhereClause.Proofs.EnumColumn.Ordinal
import WhereClause.Proofs.Grouping
import WhereClause.Proofs.Interpretation

/-!
# The order of stored names

Members of an enum are ordered by ordinal in the host, and a column of the enum holds names, which
SQL orders by code points. A comparison of the column with an ordinal becomes one with a name. For
`=` and `<>` that is the same. For the comparisons that order it is the same exactly if the names
ascend with the ordinals, which nothing makes them do: `Red`, `Green` and `Blue` in this order
descend.

Headlines:
* `EnumType.compare_names`: names that ascend are ordered as the ordinals are.
* `EnumType.namesAscend_iff`: no comparison but `=` and `<>` hides that they do not.
* `Expr.holdsIn_column_ordinal`, `Expr.holdsIn_ordinal_column`: in a row that stores a name, the
  comparison is one of names.
* `Expr.ordinal_comparison_iff`: it is one of ordinals for every pair of members exactly if it tests
  equality or the names ascend.
-/

namespace WhereClause

/-! ## Comparisons and orders -/

/-- A comparison that tests equality asks only whether the operands are equal. -/
theorem Comparison.holds_of_isEquality {c : Comparison} (hc : c.isEquality = true) {o p : Ordering}
    (h : o = .eq ↔ p = .eq) : c.holds o = c.holds p := by
  have heq : (o == .eq) = (p == .eq) := by rw [Bool.eq_iff_iff, beq_iff_eq, beq_iff_eq, h]
  cases c with
  | eq => exact heq
  | ne => exact congrArg not heq
  | _ => cases hc

/-- Every other comparison tells all orders apart, if the operands are compared both ways. -/
theorem Comparison.eq_of_holds {c : Comparison} (hc : c.isEquality = false) {o p : Ordering}
    (h : c.holds o = c.holds p) (hswap : c.holds o.swap = c.holds p.swap) : o = p := by
  cases c with
  | eq | ne => cases hc
  | _ =>
    cases o <;> cases p <;>
      first | rfl | exact absurd h (by decide) | exact absurd hswap (by decide)

namespace EnumType

/-- Members with greater ordinals have greater names. -/
def NamesAscend (t : EnumType) : Prop :=
  ∀ m ∈ t.members, ∀ k ∈ t.members, m.1.toInt < k.1.toInt → compare m.2 k.2 = .lt

variable {t : EnumType} {m k : Int64 × String}

theorem name_eq_iff_ordinal_eq (hordinals : (t.members.map Prod.fst).Nodup)
    (hnames : (t.members.map Prod.snd).Nodup) (hm : m ∈ t.members) (hk : k ∈ t.members) :
    m.2 = k.2 ↔ m.1 = k.1 := by
  constructor
  · intro h
    have hlookup := ordinalOf?_of_mem hnames hm
    rw [h, ordinalOf?_of_mem hnames hk] at hlookup
    exact (Option.some.inj hlookup).symm
  · intro h
    have hlookup := nameOf?_of_mem hordinals hm
    rw [h, nameOf?_of_mem hordinals hk] at hlookup
    exact (Option.some.inj hlookup).symm

/-- **Names that ascend are ordered as the ordinals are.** -/
theorem compare_names (hordinals : (t.members.map Prod.fst).Nodup) (ht : t.NamesAscend)
    (hm : m ∈ t.members) (hk : k ∈ t.members) :
    compare m.2 k.2 = compare m.1.toInt k.1.toInt := by
  have hswap : compare m.2 k.2 = (compare k.2 m.2).swap := Std.OrientedOrd.eq_swap
  cases h : compare m.1.toInt k.1.toInt with
  | lt => exact ht m hm k hk (Std.compare_eq_lt.mp h)
  | eq =>
    have hname := nameOf?_of_mem hordinals hm
    rw [Int64.toInt_inj.mp (Std.compare_eq_iff_eq.mp h), nameOf?_of_mem hordinals hk] at hname
    exact Std.compare_eq_iff_eq.mpr (Option.some.inj hname).symm
  | gt => rw [hswap, ht k hk m hm (Std.compare_eq_gt.mp h)]; rfl

/-- A comparison that tests equality does not tell names from ordinals. -/
theorem holds_names_of_isEquality (hordinals : (t.members.map Prod.fst).Nodup)
    (hnames : (t.members.map Prod.snd).Nodup) {c : Comparison} (hc : c.isEquality = true)
    (hm : m ∈ t.members) (hk : k ∈ t.members) :
    c.holds (compare m.2 k.2) = c.holds (compare m.1.toInt k.1.toInt) := by
  apply Comparison.holds_of_isEquality hc
  rw [Std.compare_eq_iff_eq, Std.compare_eq_iff_eq, Int64.toInt_inj]
  exact name_eq_iff_ordinal_eq hordinals hnames hm hk

/-- **Every other comparison tells them apart, unless the names ascend.** -/
theorem namesAscend_iff (hordinals : (t.members.map Prod.fst).Nodup) {c : Comparison}
    (hc : c.isEquality = false) :
    t.NamesAscend ↔ ∀ m ∈ t.members, ∀ k ∈ t.members,
      c.holds (compare m.2 k.2) = c.holds (compare m.1.toInt k.1.toInt) := by
  constructor
  · intro ht m hm k hk
    rw [compare_names hordinals ht hm hk]
  · intro hagree m hm k hk hlt
    have hswap := hagree k hk m hm
    rw [Std.OrientedOrd.eq_swap (a := k.2), Std.OrientedOrd.eq_swap (a := k.1.toInt)] at hswap
    rw [Comparison.eq_of_holds hc (hagree m hm k hk) hswap]
    exact Std.compare_eq_lt.mpr hlt

end EnumType

/-! ## Rows of names -/

/-- The interpretation in which texts stand for themselves and are ordered by code points. Nothing
but texts is known. -/
def Interpretation.ofTexts : Interpretation String where
  literal
    | .text s => some s
    | _ => none
  arithmetic _ _ _ := none
  coalesce := Option.or
  upper := id
  lower := id
  trim _ := id
  order c a b := .ofBool (c.holds (Ord.compare a b))
  like _ _ := .unknown

/-- Texts are compared by code points, also by the comparisons that test equality. -/
theorem Interpretation.compare_ofTexts (c : Comparison) (a b : String) :
    ofTexts.compare c (some a) (some b) = .ofBool (c.holds (Ord.compare a b)) := by
  have heq : decide (a = b) = (Ord.compare a b == .eq) := by
    rw [Bool.eq_iff_iff, decide_eq_true_iff, beq_iff_eq, Std.compare_eq_iff_eq]
  cases c with
  | eq => exact congrArg Truth.ofBool heq
  | ne =>
    have hne : decide (a ≠ b) = (Ord.compare a b != .eq) := by rw [decide_not, heq, bne]
    exact congrArg Truth.ofBool hne
  | _ => rfl

/-- A comparison of two operands is read as what it says. -/
theorem Sql.ofText?_comparison (c : Comparison) {s t : String} {o p : Operand}
    (hs : Operand.ofText? s = some o) (ht : Operand.ofText? t = some p) :
    Tree.ofText? (operatorText (.comparison c) s t) =
      some (.group (.binary (.comparison c) (.leaf o) (.leaf p))) := by
  have hlex := (lexes_operatorText (.comparison c) (Lexes.leaf hs) (Lexes.leaf ht)).lex_eq
  exact (Tree.ofText?_eq_some_iff hlex).mpr (ordered_leaves (.comparison c) o p)

namespace Expr

/-- The text of the predicate, read by precedence, is true in the row. -/
def HoldsIn (d : Dialect) (row : Row String) (e : Expr) : Prop :=
  ∃ s x, e.compile d = .ok s ∧ Tree.ofText? s = some x ∧
    x.truth? .ofTexts row = some .holds

variable {d : Dialect} {row : Row String} {c : Comparison}

theorem holdsIn_comparison {e : Expr} {s t : String} {o p : Operand}
    (h : e.compile d = .ok (Sql.operatorText (.comparison c) s t))
    (hs : Operand.ofText? s = some o) (ht : Operand.ofText? t = some p) :
    HoldsIn d row e ↔
      Interpretation.ofTexts.compare c (Interpretation.ofTexts.operand row o)
        (Interpretation.ofTexts.operand row p) = .holds := by
  have hread := Sql.ofText?_comparison c hs ht
  constructor
  · rintro ⟨text, x, htext, hx, htruth⟩
    obtain rfl := Except.ok.inj (h.symm.trans htext)
    obtain rfl := Option.some.inj (hread.symm.trans hx)
    exact Option.some.inj htruth
  · intro hholds
    exact ⟨_, _, h, hread, congrArg some hholds⟩

variable {name stored s : String} {t : EnumType} {o : Int64}

theorem compare_ofTexts_eq_holds_iff (a b : String) :
    Interpretation.ofTexts.compare c (some a) (some b) = .holds ↔
      c.holds (Ord.compare a b) = true := by
  rw [Interpretation.compare_ofTexts]
  cases c.holds (Ord.compare a b) <;> simp [Truth.ofBool]

/-- **In a row that stores a name, an ordinal behind the column is compared as its name.** -/
theorem holdsIn_column_ordinal (hrow : row name = some stored) (hs : t.nameOf? o = some s) :
    HoldsIn d row (binary (.comparison c) (column name (some t)) (ordinal o)) ↔
      c.holds (compare stored s) = true := by
  have hop : (Operator.comparison c).isLogical = false := rfl
  have hreduce : (ordinal o).reduce = .ok (.value (.number (.signed o))) := rfl
  have h := compile_column_ordinal d name hop hreduce (Word.signed?_toInt o) hs
  have hcolumn : Interpretation.ofTexts.operand row (.column name) = some stored := hrow
  rw [holdsIn_comparison h (Operand.ofText?_identifier name) (Operand.ofText?_quoted s), hcolumn]
  exact compare_ofTexts_eq_holds_iff stored s

/-- **In a row that stores a name, an ordinal in front of the column is compared as its name.** -/
theorem holdsIn_ordinal_column (hrow : row name = some stored) (hs : t.nameOf? o = some s) :
    HoldsIn d row (binary (.comparison c) (ordinal o) (column name (some t))) ↔
      c.holds (compare s stored) = true := by
  have hop : (Operator.comparison c).isLogical = false := rfl
  have hreduce : (ordinal o).reduce = .ok (.value (.number (.signed o))) := rfl
  have h := compile_ordinal_column d name hop hreduce (Word.signed?_toInt o) hs
  have hcolumn : Interpretation.ofTexts.operand row (.column name) = some stored := hrow
  rw [holdsIn_comparison h (Operand.ofText?_quoted s) (Operand.ofText?_identifier name), hcolumn]
  exact compare_ofTexts_eq_holds_iff s stored

/-- In every row that stores a member, comparing the column with the ordinal of another compares the
two in the order, whichever stands in front. -/
def ComparesBy (d : Dialect) (name : String) (t : EnumType) (c : Comparison)
    (order : Int64 × String → Int64 × String → Ordering) : Prop :=
  ∀ m ∈ t.members, ∀ k ∈ t.members, ∀ row : Row String, row name = some m.2 →
    (HoldsIn d row (binary (.comparison c) (column name (some t)) (ordinal k.1)) ↔
        c.holds (order m k) = true) ∧
      (HoldsIn d row (binary (.comparison c) (ordinal k.1) (column name (some t))) ↔
        c.holds (order k m) = true)

theorem comparesBy_names (hordinals : (t.members.map Prod.fst).Nodup) (d : Dialect) (name : String)
    (c : Comparison) : ComparesBy d name t c fun m k => compare m.2 k.2 := by
  intro m _ k hk row hrow
  have hname := EnumType.nameOf?_of_mem hordinals hk
  exact ⟨holdsIn_column_ordinal hrow hname, holdsIn_ordinal_column hrow hname⟩

/-- Members are compared in two orders if the comparison does not tell the orders apart. -/
theorem ComparesBy.iff {order other : Int64 × String → Int64 × String → Ordering}
    (h : ComparesBy d name t c order) :
    ComparesBy d name t c other ↔
      ∀ m ∈ t.members, ∀ k ∈ t.members, c.holds (order m k) = c.holds (other m k) := by
  constructor
  · intro hother m hm k hk
    -- any row that stores the member will do
    have hrow := h m hm k hk (fun _ => some m.2) rfl
    have hrow' := hother m hm k hk (fun _ => some m.2) rfl
    rw [Bool.eq_iff_iff, ← hrow.1, ← hrow'.1]
  · intro hagree m hm k hk row hrow
    rw [← hagree m hm k hk, ← hagree k hk m hm]
    exact h m hm k hk row hrow

/-- **A comparison with an ordinal is one of ordinals exactly if it tests equality or the names
ascend.** It is always one of the names. -/
theorem ordinal_comparison_iff (hordinals : (t.members.map Prod.fst).Nodup)
    (hnames : (t.members.map Prod.snd).Nodup) (d : Dialect) (name : String) (c : Comparison) :
    (ComparesBy d name t c fun m k => compare m.2 k.2) ∧
      ((ComparesBy d name t c fun m k => compare m.1.toInt k.1.toInt) ↔
        c.isEquality = true ∨ t.NamesAscend) := by
  have hcompares := comparesBy_names hordinals d name c
  refine ⟨hcompares, hcompares.iff.trans ?_⟩
  cases hc : c.isEquality with
  | true =>
    refine iff_of_true ?_ (Or.inl rfl)
    intro m hm k hk
    exact EnumType.holds_names_of_isEquality hordinals hnames hc hm hk
  | false =>
    rw [EnumType.namesAscend_iff hordinals hc]
    simp

/-- Red is before green, and its name behind: a row that stores it is not found below green. -/
theorem red_not_below_green :
    (EnumType.colour.members.map Prod.fst).Nodup ∧ (EnumType.colour.members.map Prod.snd).Nodup ∧
      (binary (.comparison .lt) (column "color" (some .colour)) (ordinal 1)).compile .sqlite =
        .ok "(\"color\" < 'Green')" ∧
      Comparison.lt.holds (compare (0 : Int64).toInt (1 : Int64).toInt) = true ∧
      ¬HoldsIn .sqlite (fun _ => some "Red")
        (binary (.comparison .lt) (column "color" (some .colour)) (ordinal 1)) := by
  have hordinals : (EnumType.colour.members.map Prod.fst).Nodup := by decide
  have hnames : (EnumType.colour.members.map Prod.snd).Nodup := by decide
  obtain ⟨hcompares, -⟩ := ordinal_comparison_iff hordinals hnames .sqlite "color" .lt
  have hred : (0, "Red") ∈ EnumType.colour.members := by simp [EnumType.colour]
  have hgreen : (1, "Green") ∈ EnumType.colour.members := by simp [EnumType.colour]
  refine ⟨hordinals, hnames, rfl, by decide, ?_⟩
  rw [(hcompares _ hred _ hgreen _ rfl).1]
  decide

end Expr

end WhereClause

import WhereClause.Proofs.EnumColumn

/-!
# Whole numbers beside an enum column

The table of an enum has signed words for keys, and a whole number may be an unsigned one. What
stands beside an enum column is found in the table by its value, whichever representation it has. A
value that a signed word can hold is written as a stored name or refused. One beyond the signed
words is the ordinal of no member, and it is not refused: it is written as its digits, beside a
column of names.

Headlines:
* `EnumType.storedName?_eq_some_iff`: the name of a value is that of the first entry that has it.
* `Number.toSigned?_eq_none_iff`: which whole numbers are no ordinals.
* `Expr.compile_beside_enumColumn`: what is written for a whole number beside an enum column.
-/

namespace WhereClause

/-! ## Look-ups by value -/

namespace EnumType

variable {t : EnumType} {i : Int}

/-- The stored name of the first entry whose ordinal has the value. -/
def storedName? (t : EnumType) (i : Int) : Option String :=
  (t.members.find? fun m => m.1.toInt == i).map Prod.snd

theorem storedName?_eq_some_iff {s : String} :
    t.storedName? i = some s ↔
      ∃ before o after, t.members = before ++ (o, s) :: after ∧ o.toInt = i ∧
        ∀ m ∈ before, m.1.toInt ≠ i := by
  unfold storedName?
  rw [Option.map_eq_some_iff]
  constructor
  · rintro ⟨⟨o, s'⟩, hfind, rfl⟩
    obtain ⟨ho, before, after, hsplit, hbefore⟩ := List.find?_eq_some_iff_append.mp hfind
    exact ⟨before, o, after, hsplit, by simpa using ho, fun m hm => by simpa using hbefore m hm⟩
  · rintro ⟨before, o, after, hsplit, ho, hbefore⟩
    have hfind : t.members.find? (fun m => m.1.toInt == i) = some (o, s) := by
      refine List.find?_eq_some_iff_append.mpr ⟨by simpa using ho, before, after, hsplit, ?_⟩
      intro m hm
      simpa using hbefore m hm
    exact ⟨(o, s), hfind, rfl⟩

theorem storedName?_eq_none_iff : t.storedName? i = none ↔ ∀ m ∈ t.members, m.1.toInt ≠ i := by
  simp [storedName?]

/-- The value of an ordinal is looked up as the ordinal itself. -/
theorem storedName?_toInt (t : EnumType) (o : Int64) : t.storedName? o.toInt = t.nameOf? o := by
  have hkey : (fun m : Int64 × String => m.1.toInt == o.toInt) = fun m => m.1 == o := by
    funext m
    rw [Bool.eq_iff_iff, beq_iff_eq, beq_iff_eq, Int64.toInt_inj]
  rw [storedName?, hkey, nameOf?]

/-- No entry has an ordinal beyond the signed words. -/
theorem storedName?_of_wide (t : EnumType) (hi : 9223372036854775807 < i) :
    t.storedName? i = none := by
  rw [storedName?_eq_none_iff]
  intro m _ he
  have hbounds := Word.toInt_bounds m.1
  omega

end EnumType

namespace Number

variable {n : Number} {i : Int}

theorem toSigned?_of_integer? (hi : n.integer? = some i) : n.toSigned? = Word.signed? i := by
  rw [toSigned?, hi, Option.bind_some]

/-- No whole number lies below the signed words. -/
theorem le_of_integer? (hi : n.integer? = some i) : -9223372036854775808 ≤ i := by
  cases n with
  | signed w =>
    cases hi
    exact (Word.toInt_bounds w).1
  | unsigned w =>
    cases hi
    omega
  | float x => cases hi

/-- The whole numbers that are no ordinals are those beyond the signed words. -/
theorem toSigned?_eq_none_iff (hi : n.integer? = some i) :
    n.toSigned? = none ↔ 9223372036854775807 < i := by
  have hlo := le_of_integer? hi
  rw [toSigned?_of_integer? hi, Word.signed?_eq_none_iff]
  omega

end Number

/-! ## Whole numbers as operands -/

namespace Reduced

variable {t : EnumType} {n : Number}

theorem toSqlFor_unknown {o : Int64} (hn : n.toSigned? = some o) (hs : t.nameOf? o = none) :
    (value (.number n)).toSqlFor (some t) = .error (.unknownOrdinal t.name o) := by
  have hnumber : (Value.number n).number?.bind Number.toSigned? = some o := hn
  rw [toSqlFor, toSqlBeside, hnumber]
  simp only [hs]

/-- A number that is no ordinal is written as if no enum were asked about. -/
theorem toSqlFor_of_toSigned?_eq_none (t : EnumType) (hn : n.toSigned? = none) :
    (value (.number n)).toSqlFor (some t) = (value (.number n)).toSqlFor none := by
  have hnumber : (Value.number n).number?.bind Number.toSigned? = none := hn
  rw [toSqlFor, toSqlBeside, hnumber]
  rfl

end Reduced

namespace Expr

section

variable (d : Dialect) (op : Operator) (name : String) (t : EnumType) (e : Expr)

/-- On either side of the column of the enum, the text stands for the expression. -/
def WrittenBeside (text : String) : Prop :=
  (binary op (column name (some t)) e).compile d =
      .ok (Sql.operatorText op (Text.identifier name) text) ∧
    (binary op e (column name (some t))).compile d =
      .ok (Sql.operatorText op text (Text.identifier name))

/-- On either side of the column of the enum, the expression is refused. -/
def RefusedBeside (err : CompileError) : Prop :=
  (binary op (column name (some t)) e).compile d = .error err ∧
    (binary op e (column name (some t))).compile d = .error err

end

variable (d : Dialect) {op : Operator} (name : String) {t : EnumType} {e : Expr} {n : Number}
  {i : Int}

/-- **What is written for a whole number beside an enum column**, on either side and in every
dialect. If a signed word has its value, it is written as the name of the first entry with that
ordinal, and refused if there is none. Beyond the signed words it is always written as its digits,
although no entry can have such an ordinal. -/
theorem compile_beside_enumColumn (hop : op.isLogical = false)
    (he : e.reduce = .ok (.value (.number n))) (hi : n.integer? = some i) :
    (∀ s, t.storedName? i = some s → WrittenBeside d op name t e (Text.quoted s)) ∧
      (t.storedName? i = none → i ≤ 9223372036854775807 →
        ∃ o : Int64, o.toInt = i ∧ RefusedBeside d op name t e (.unknownOrdinal t.name o)) ∧
      (9223372036854775807 < i →
        t.storedName? i = none ∧ WrittenBeside d op name t e (Text.ofInt i)) := by
  refine ⟨?_, ?_, ?_⟩
  · intro s hs
    obtain ⟨-, o, -, -, ho, -⟩ := EnumType.storedName?_eq_some_iff.mp hs
    have hn : n.toSigned? = some o := by
      rw [Number.toSigned?_of_integer? hi, ← ho, Word.signed?_toInt]
    rw [← ho, t.storedName?_toInt] at hs
    exact ⟨compile_column_ordinal d name hop he hn hs, compile_ordinal_column d name hop he hn hs⟩
  · intro hs hle
    have hsome : n.toSigned? ≠ none := by
      rw [ne_eq, Number.toSigned?_eq_none_iff hi]
      omega
    obtain ⟨o, hn⟩ := Option.ne_none_iff_exists'.mp hsome
    have ho : o.toInt = i := by
      rw [Number.toSigned?_of_integer? hi] at hn
      exact Word.signed?_eq_some_iff.mp hn
    rw [← ho, t.storedName?_toInt] at hs
    have hrefused := Reduced.toSqlFor_unknown hn hs
    exact ⟨o, ho, compile_column_refused d name hop he hrefused,
      compile_value_refused d name hop he hrefused⟩
  · intro hlt
    have hn : n.toSigned? = none := (Number.toSigned?_eq_none_iff hi).mpr hlt
    have hdigits : (Reduced.value (.number n)).toSqlFor (some t) = .ok (.literal (.integer i)) := by
      rw [Reduced.toSqlFor_of_toSigned?_eq_none t hn, Reduced.toSqlFor_none_number hi]
    refine ⟨t.storedName?_of_wide hlt, ?_, ?_⟩
    · rw [compile_column_value d name hop he hdigits nofun]
      rfl
    · rw [compile_value_column d name hop he hdigits nofun]
      rfl

/-- The first number beyond the signed words, beside a column of colours: no colour has it, and the
digits are written. -/
theorem unknown_colour_written :
    EnumType.colour.storedName? 9223372036854775808 = none ∧
      (binary (.comparison .eq) (column "s" (some .colour))
          (constant (.number (.unsigned 9223372036854775808)))).compile .sqlite =
        .ok "(\"s\" = 9223372036854775808)" := by
  have hvalue : (Number.unsigned 9223372036854775808).integer? = some 9223372036854775808 := by
    decide +kernel
  have hdigits : Sql.operatorText (.comparison .eq) (Text.identifier "s")
      (Text.ofInt 9223372036854775808) = "(\"s\" = 9223372036854775808)" := by
    decide +kernel
  have hop : (Operator.comparison .eq).isLogical = false := rfl
  have hreduce : (constant (.number (.unsigned 9223372036854775808))).reduce =
      .ok (.value (.number (.unsigned 9223372036854775808))) := rfl
  obtain ⟨-, -, hwide⟩ := compile_beside_enumColumn .sqlite "s" (t := .colour) hop hreduce hvalue
  obtain ⟨hnone, hwritten, -⟩ := hwide (by decide)
  rw [hdigits] at hwritten
  exact ⟨hnone, hwritten⟩

end Expr

end WhereClause

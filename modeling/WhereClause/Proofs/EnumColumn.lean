import WhereClause.Proofs.Operand

/-!
# Columns of an enum

A column of an enum stores names, and the host has ordinals. Beside such a column an ordinal is
looked up in the table of the enum, and the name that is found is written in its place. On a table
whose ordinals and whose names are distinct, looking up the name of an ordinal and the ordinal of a
name are inverse to one another, although each takes the first entry that fits.

Headlines:
* `EnumType.nameOf?_of_mem`, `EnumType.ordinalOf?_of_mem`: the entries of a table are found in it.
* `Expr.compile_column_ordinal`, `Expr.compile_ordinal_column`: an ordinal beside a column is
  written as its name.
* `Sql.operatorText_injective_right`, `Sql.operatorText_injective_left`: an operand can be read off
  the text.
-/

namespace WhereClause

/-! ## Look-ups -/

/-- The first entry with the key of an entry is that entry, where keys are distinct. -/
theorem find?_of_nodup {α β : Type} [DecidableEq β] (key : α → β) {table : List α}
    (h : (table.map key).Nodup) {a : α} (ha : a ∈ table) :
    (table.find? fun b => key b == key a) = some a := by
  induction table with
  | nil => cases ha
  | cons b table ih =>
    rw [List.map_cons, List.nodup_cons] at h
    rcases List.mem_cons.mp ha with rfl | ha
    · simp
    · have hb : key b ≠ key a := by
        intro e
        rw [e] at h
        exact h.1 (List.mem_map_of_mem ha)
      rw [List.find?_cons_of_neg (by simpa using hb)]
      exact ih h.2 ha

namespace EnumType

/-- Three colours, numbered in this order. -/
def colour : EnumType := ⟨"Color", [(0, "Red"), (1, "Green"), (2, "Blue")]⟩

theorem nameOf?_of_mem {t : EnumType} (h : (t.members.map Prod.fst).Nodup) {m : Int64 × String}
    (hm : m ∈ t.members) : t.nameOf? m.1 = some m.2 := by
  rw [nameOf?, find?_of_nodup Prod.fst h hm]
  rfl

theorem ordinalOf?_of_mem {t : EnumType} (h : (t.members.map Prod.snd).Nodup) {m : Int64 × String}
    (hm : m ∈ t.members) : t.ordinalOf? m.2 = some m.1 := by
  rw [ordinalOf?, find?_of_nodup Prod.snd h hm]
  rfl

end EnumType

/-! ## Texts of operators -/

namespace Text

theorem quoted_injective {s t : String} (h : quoted s = quoted t) : s = t := by
  have hlist := congrArg String.toList h
  rw [toList_quoted, toList_quoted] at hlist
  exact String.toList_injective (Quoted.enclose_injective '\'' hlist)

end Text

namespace Sql

theorem operatorText_injective_right (op : Operator) (x : String) {y z : String}
    (h : operatorText op x y = operatorText op x z) : y = z := by
  unfold operatorText at h
  split at h
  · rw [String.append_left_inj, String.append_right_inj] at h
    exact h
  · rw [String.append_left_inj, String.append_right_inj] at h
    exact h

theorem operatorText_injective_left (op : Operator) (z : String) {x y : String}
    (h : operatorText op x z = operatorText op y z) : x = y := by
  unfold operatorText at h
  split at h
  · simp only [String.append_left_inj, String.append_right_inj] at h
    exact h
  · simp only [String.append_left_inj, String.append_right_inj] at h
    exact h

end Sql

/-! ## Ordinals beside a column -/

namespace Reduced

variable {t : EnumType} {n : Number} {ordinal : Int64} {s : String}

/-- Beside a column of its enum an ordinal is its stored name. -/
theorem toSqlFor_ordinal (hn : n.toSigned? = some ordinal) (hs : t.nameOf? ordinal = some s) :
    (value (.number n)).toSqlFor (some t) = .ok (.literal (.text s)) := by
  have hnumber : (Value.number n).number?.bind Number.toSigned? = some ordinal := hn
  rw [toSqlFor, toSqlBeside, hnumber]
  simp only [hs]

end Reduced

namespace Expr

variable (d : Dialect) {op : Operator} (name : String) {t : EnumType} {e : Expr} {n : Number}
  {ordinal : Int64} {s : String}

/-- **An ordinal behind a column of its enum is written as its stored name.** -/
theorem compile_column_ordinal (hop : op.isLogical = false) (he : e.reduce = .ok (.value (.number n)))
    (hn : n.toSigned? = some ordinal) (hs : t.nameOf? ordinal = some s) :
    (binary op (column name (some t)) e).compile d =
      .ok (Sql.operatorText op (Text.identifier name) (Text.quoted s)) := by
  rw [compile_column_value d name hop he (Reduced.toSqlFor_ordinal hn hs) nofun]
  rfl

/-- **An ordinal in front of a column of its enum is written as its stored name.** -/
theorem compile_ordinal_column (hop : op.isLogical = false) (he : e.reduce = .ok (.value (.number n)))
    (hn : n.toSigned? = some ordinal) (hs : t.nameOf? ordinal = some s) :
    (binary op e (column name (some t))).compile d =
      .ok (Sql.operatorText op (Text.quoted s) (Text.identifier name)) := by
  rw [compile_value_column d name hop he (Reduced.toSqlFor_ordinal hn hs) nofun]
  rfl

end Expr

end WhereClause

import WhereClause.Value

/-!
# Literals

What a value is written as in SQL. A value has a literal as one SQL type and not as another:
integers also as floats, texts also as enum names, and null as everything. Records, infinities and
NaNs have none.

Headlines:
* `Literal.ofValue_isOk_iff`: which values have a literal as the type they have by themselves.
-/

namespace WhereClause

/-- The SQL types that a literal can have. -/
inductive SqlType where
  | text
  | integer
  | float
  | boolean
  | timestamp
  | enumName
  | null
  deriving Repr, DecidableEq

/-- The name of an SQL type. -/
def SqlType.name : SqlType → String
  | text => "text"
  | integer => "integer"
  | float => "float"
  | boolean => "boolean"
  | timestamp => "datetime"
  | enumName => "enum name"
  | null => "null"

/-- The SQL type that a value has by itself. A record has none. -/
def Value.sqlType? : Value → Option SqlType
  | null => some .null
  | bool _ => some .boolean
  | number n => some (if n.isIntegral then .integer else .float)
  | text _ => some .text
  | timestamp _ => some .timestamp
  | record _ => none

/-- A value was refused as a literal, of the given type or of any. -/
structure LiteralError where
  kind : Kind
  target : Option SqlType
  deriving Repr, DecidableEq

/-- What is wrong with the value. -/
def LiteralError.message (e : LiteralError) : String :=
  "cannot render " ++ e.kind.name ++ " value as a " ++ (e.target.elim "any" SqlType.name)
    ++ " literal"

/-- A literal. How truth values and timestamps are spelled is left to the dialect. -/
inductive Literal where
  | null
  | bool (b : Bool)
  | integer (n : Int)
  | float (x : Binary64) (finite : x.isFinite = true)
  | text (s : String)
  | timestamp (t : Timestamp)
  deriving Repr, DecidableEq

namespace Literal

/-- The literal of a number written as a float: an integer keeps its digits. -/
def ofNumber? : Number → Option Literal
  | .float x => if h : x.isFinite = true then some (float x h) else none
  | n => n.integer?.map integer

/-- The literal of a value as an SQL type, if it has one. -/
def ofTyped? : Value → SqlType → Option Literal
  | .null, _ => some null
  | .text s, .text | .text s, .enumName => some (text s)
  | .number n, .integer => n.integer?.map integer
  | .number n, .float => ofNumber? n
  | .bool b, .boolean => some (bool b)
  | .timestamp t, .timestamp => some (timestamp t)
  | _, _ => none

/-- The literal of a value as an SQL type. -/
def ofTyped (v : Value) (type : SqlType) : Except LiteralError Literal :=
  match ofTyped? v type with
  | some l => .ok l
  | none => .error ⟨v.kind, some type⟩

/-- The literal of a value as the type that it has by itself. -/
def ofValue (v : Value) : Except LiteralError Literal :=
  match v.sqlType? with
  | some type => ofTyped v type
  | none => .error ⟨v.kind, none⟩

/-- Every value has a literal but records and the numbers that are not finite. -/
theorem ofValue_isOk_iff {v : Value} :
    (ofValue v).isOk = true ↔
      (∀ fields, v ≠ .record fields) ∧ ∀ x, v = .number (.float x) → x.isFinite = true := by
  cases v with
  | number n =>
    cases n with
    | float x =>
      by_cases h : x.isFinite = true
      · simp [ofValue, Value.sqlType?, Number.isIntegral, Number.integer?, ofTyped, ofTyped?,
          ofNumber?, h, Except.isOk, Except.toBool]
      · simp [ofValue, Value.sqlType?, Number.isIntegral, Number.integer?, ofTyped, ofTyped?,
          ofNumber?, h, Except.isOk, Except.toBool]
    | _ =>
      simp [ofValue, Value.sqlType?, Number.isIntegral, Number.integer?, ofTyped, ofTyped?,
        Except.isOk, Except.toBool]
  | record fields => simp [ofValue, Value.sqlType?, Except.isOk, Except.toBool]
  | _ => simp [ofValue, Value.sqlType?, ofTyped, ofTyped?, Except.isOk, Except.toBool]

end Literal

end WhereClause

import WhereClause.Literal
import WhereClause.Page
import WhereClause.TextMethod
import WhereClause.Timestamp.Format
import WhereClause.Text.Quoted

/-!
# Dialects

An SQL dialect, as far as a predicate and its page depend on it: how the truth values are spelled,
how much of a timestamp is written, and the forms of trimming and paging. All else is the same in
every dialect.

Headlines:
* `Dialect.quote_eq`, `Dialect.quoteValue_eq`: quoting a value chooses its literal, which no dialect
  has a part in, and spells it.
-/

namespace WhereClause

/-- How one-sided trimming is written: `trim(leading from x)`, or by a function `ltrim(x)`. -/
inductive TrimForm where
  | clause
  | function
  deriving Repr, DecidableEq

/-- How a page is written: `ROWS m TO n` by the numbers of its rows, or `LIMIT l OFFSET s`. -/
inductive PageForm where
  | rows
  | limitOffset
  deriving Repr, DecidableEq

/-- An SQL dialect. -/
structure Dialect where
  name : String
  trueLiteral : String
  falseLiteral : String
  timestampFormat : TimestampFormat
  trimForm : TrimForm
  pageForm : PageForm
  deriving Repr, DecidableEq

namespace Dialect

/-- Firebird: truth values are small integers, timestamps have milliseconds. -/
def firebird : Dialect := ⟨"firebird", "1", "0", .milliseconds, .clause, .rows⟩

/-- SQLite: truth values are integers, trimming is by functions. -/
def sqlite : Dialect := ⟨"sqlite", "1", "0", .seconds, .function, .limitOffset⟩

/-- A dialect with spellings and a timestamp format of its own, and Firebird's forms. -/
def custom (trueLiteral falseLiteral : String) (format : TimestampFormat) : Dialect :=
  ⟨"custom", trueLiteral, falseLiteral, format, .clause, .rows⟩

/-! ## Spellings -/

/-- The spelling of a truth value. -/
def truth (d : Dialect) (b : Bool) : String := if b then d.trueLiteral else d.falseLiteral

/-- The predicate that always has the given truth value. -/
def constant (d : Dialect) (b : Bool) : String := "(" ++ d.trueLiteral ++ "=" ++ d.truth b ++ ")"

/-- The spelling of a literal. -/
def literal (d : Dialect) : Literal → String
  | .null => "null"
  | .bool b => d.truth b
  | .integer n => Text.ofInt n
  | .float x _ => x.text
  | .text s => Text.quoted s
  | .timestamp t => "'" ++ String.ofList (t.text d.timestampFormat) ++ "'"

/-! ## Quoting -/

/-- The text of a number as a float. Infinities and NaNs have none. -/
def floatText? : Number → Option String
  | .float x => if x.isFinite then some x.text else none
  | n => some n.text

/-- A value as a literal of the given type, by the rules that all dialects share: they supply the
spellings of true and false, and how much of a timestamp is written. -/
def quoteStandard (truths : String × String) (format : TimestampFormat) (v : Value)
    (type : SqlType) : Except LiteralError String :=
  let unsupported := .error ⟨v.kind, some type⟩
  match v, type with
  | .null, _ => .ok "null"
  | .text s, .text | .text s, .enumName => .ok (Text.quoted s)
  | .number n, .integer => if n.isIntegral then .ok n.text else unsupported
  | .number n, .float => (floatText? n).elim unsupported .ok
  | .bool b, .boolean => .ok (if b then truths.1 else truths.2)
  | .timestamp t, .timestamp => .ok ("'" ++ String.ofList (t.text format) ++ "'")
  | _, _ => unsupported

/-- A value as a literal of the given type. -/
def quote (d : Dialect) (v : Value) (type : SqlType) : Except LiteralError String :=
  quoteStandard (d.trueLiteral, d.falseLiteral) d.timestampFormat v type

/-- A value as a literal of the type that it has by itself. -/
def quoteValue (d : Dialect) (v : Value) : Except LiteralError String :=
  match v.sqlType? with
  | some type => d.quote v type
  | none => .error ⟨v.kind, none⟩

/-- The name of a column. No dialect has a form of its own for it. -/
def quoteColumn (_ : Dialect) (name : String) : String := Text.identifier name

/-- **Quoting chooses a literal and spells it.** Which literal it is, or that there is none, does not
depend on the dialect. -/
theorem quote_eq (d : Dialect) (v : Value) (type : SqlType) :
    d.quote v type = (Literal.ofTyped v type).map d.literal := by
  cases v with
  | number n =>
    cases type with
    | integer => cases n <;> rfl
    | float =>
      cases n with
      | float x =>
        by_cases hx : x.isFinite = true
        · simp [quote, quoteStandard, floatText?, Literal.ofTyped, Literal.ofTyped?,
            Literal.ofNumber?, hx, Except.map, literal]
        · simp [quote, quoteStandard, floatText?, Literal.ofTyped, Literal.ofTyped?,
            Literal.ofNumber?, hx, Except.map]
      | _ => rfl
    | _ => rfl
  | _ => cases type <;> rfl

theorem quoteValue_eq (d : Dialect) (v : Value) :
    d.quoteValue v = (Literal.ofValue v).map d.literal := by
  unfold quoteValue Literal.ofValue
  cases v.sqlType? with
  | some type => exact d.quote_eq v type
  | none => rfl

/-! ## Trimming and paging -/

/-- The trimmed form of a text expression. -/
def trim (d : Dialect) (side : TrimSide) (x : String) : String :=
  match side, d.trimForm with
  | .both, _ => "trim(" ++ x ++ ")"
  | .leading, .clause => "trim(leading from " ++ x ++ ")"
  | .leading, .function => "ltrim(" ++ x ++ ")"
  | .trailing, .clause => "trim(trailing from " ++ x ++ ")"
  | .trailing, .function => "rtrim(" ++ x ++ ")"

/-- The clause of a row window. An open window has no last row to name, and its limit is `-1` where
a limit has to be named. -/
def windowClause (d : Dialect) (w : RowWindow) : String :=
  match d.pageForm with
  | .rows =>
    "ROWS " ++ Text.ofInt w.first.toInt ++ " " ++
      w.last.elim "" fun row => "TO " ++ Text.ofInt row.toInt
  | .limitOffset =>
    "LIMIT " ++ Text.ofInt (w.limit.elim (-1) Int64.toInt) ++ " OFFSET " ++
      Text.ofInt w.skip.toInt

/-- The clause of a page, empty for the whole result. -/
def pageClause (d : Dialect) (p : Page) : Except PageError String :=
  p.window.map fun w => w.elim "" d.windowClause

end Dialect

end WhereClause

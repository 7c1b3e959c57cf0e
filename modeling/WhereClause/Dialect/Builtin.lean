import WhereClause.Dialect
import WhereClause.Text.Blank

/-!
# Built-in dialects

The dialects that can be named in a setting. Names are taken in any ASCII letter case and with
blanks around them.
-/

namespace WhereClause

/-- A dialect that has a name of its own. -/
inductive BuiltinDialect where
  | firebird
  | sqlite
  deriving Repr, DecidableEq

/-- No dialect has the name. -/
structure UnknownDialect where
  name : String
  deriving Repr, DecidableEq

/-- What is wrong with the name. -/
def UnknownDialect.message (e : UnknownDialect) : String := "unknown dialect: '" ++ e.name ++ "'"

namespace BuiltinDialect

/-- The dialect where none is named. -/
instance : Inhabited BuiltinDialect := ⟨firebird⟩

/-- The name of a dialect. -/
def name : BuiltinDialect → String
  | firebird => "firebird"
  | sqlite => "sqlite"

/-- The dialect itself. -/
def dialect : BuiltinDialect → Dialect
  | firebird => .firebird
  | sqlite => .sqlite

/-- The dialect of a name. -/
def ofName (text : String) : Except UnknownDialect BuiltinDialect :=
  match (Text.trim text).toLower with
  | "firebird" => .ok firebird
  | "sqlite" => .ok sqlite
  | _ => .error ⟨text⟩

end BuiltinDialect

end WhereClause

import WhereClause.Value
import WhereClause.Text.Blank
import WhereClause.Text.LetterCase
import WhereClause.Text.Search

/-!
# Text methods

The methods that can be called on a text, whether it is a value of the host or an expression over
columns. A call names a method and gives its arguments; a name or a list of arguments outside this
set is no method at all.
-/

namespace WhereClause

/-- Where blanks are trimmed. -/
inductive TrimSide where
  | both
  | leading
  | trailing
  deriving Repr, DecidableEq

/-- Where a text is searched for. -/
inductive SearchPlace where
  | starting
  | ending
  | anywhere
  deriving Repr, DecidableEq

/-- A method with its arguments. -/
inductive TextMethod where
  | trim (side : TrimSide)
  | upper
  | lower
  | search (place : SearchPlace) (needle : String)
  deriving Repr, DecidableEq

namespace TrimSide

/-- Trims a text of the host. -/
def apply : TrimSide → String → String
  | .both => Text.trim
  | .leading => Text.trimStart
  | .trailing => Text.trimEnd

end TrimSide

namespace SearchPlace

/-- Whether a text of the host has `needle` in this place. -/
def found (place : SearchPlace) (needle s : String) : Bool :=
  match place with
  | .starting => Text.startsWith s needle
  | .ending => Text.endsWith s needle
  | .anywhere => Text.contains s needle

/-- The `like` pattern of the place: `%` stands for what may surround `needle`. Wildcards within
`needle` keep their meaning. -/
def pattern (place : SearchPlace) (needle : String) : String :=
  match place with
  | .starting => needle ++ "%"
  | .ending => "%" ++ needle
  | .anywhere => "%" ++ needle ++ "%"

end SearchPlace

namespace TextMethod

/-- The method that a call means. Letter case counts in its name, and the number of arguments and
their kinds have to fit. -/
def ofCall? (name : String) (args : List Value) : Option TextMethod :=
  match name, args with
  | "Trim", [] => some (trim .both)
  | "TrimStart", [] | "LTrim", [] => some (trim .leading)
  | "TrimEnd", [] | "RTrim", [] => some (trim .trailing)
  | "ToUpper", [] => some upper
  | "ToLower", [] => some lower
  | "StartsWith", [.text needle] => some (search .starting needle)
  | "EndsWith", [.text needle] => some (search .ending needle)
  | "Contains", [.text needle] => some (search .anywhere needle)
  | _, _ => none

/-- Applies a method to a text of the host. -/
def apply : TextMethod → String → Value
  | trim side, s => .text (side.apply s)
  | upper, s => .text (Text.toUpper s)
  | lower, s => .text (Text.toLower s)
  | search place needle, s => .bool (place.found needle s)

end TextMethod

end WhereClause

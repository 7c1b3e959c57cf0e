/-!
# Enum types

An enum type is a name and a table of members, each an ordinal and the name under which the member
is stored. Hosts compare members by ordinal, columns hold the stored names. A table may repeat an
entry; the first one that fits is the one that counts.
-/

namespace WhereClause

/-- A type whose values are members of a closed set. -/
structure EnumType where
  name : String
  members : List (Int64 × String)
  deriving Repr, DecidableEq

namespace EnumType

/-- The stored name of an ordinal. -/
def nameOf? (t : EnumType) (ordinal : Int64) : Option String :=
  (t.members.find? fun m => m.1 == ordinal).map Prod.snd

/-- The ordinal of a stored name. -/
def ordinalOf? (t : EnumType) (name : String) : Option Int64 :=
  (t.members.find? fun m => m.2 == name).map Prod.fst

end EnumType

end WhereClause

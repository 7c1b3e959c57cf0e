import WhereClause.Yaml.Directive

/-!
# YAML tokens

What a YAML text is made of once blanks, line ends and comments are gone. That a mapping in block
style starts and ends is told by indentation, which tokens have no trace of; so it has tokens of its
own. So has the key of an entry, which no mark needs to precede.
-/

namespace WhereClause.Yaml

/-- A token. -/
inductive Token where
  | directive (d : Directive)
  | documentStart
  | documentEnd
  | mappingStart
  | mappingEnd
  | flowStart
  | flowEntry
  | flowEnd
  | key
  | value
  | anchor
  | tag (t : Tag)
  | scalar (isPlain : Bool) (text : String)
  deriving Repr, DecidableEq

/-- Whether a text goes on with one of these tokens, so that what may be left out before them is. -/
def Token.leavesEmpty (before : List Token) (s : List Token) : Bool := s.head?.any before.contains

end WhereClause.Yaml

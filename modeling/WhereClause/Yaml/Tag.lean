import WhereClause.Yaml.Tag.Address

/-!
# Tags

A tag is an address with a handle in front, which a directive of the document may make short for
the start of an address. Without such a directive a single exclamation mark is short for itself.
-/

namespace WhereClause.Yaml

open Placed

/-- A tag as it is written. The handle of a full address is empty. -/
structure Tag where
  handle : String
  suffix : Address
  deriving Repr, DecidableEq

/-- A handle and the start of an address that it is short for. -/
structure Handle where
  name : String
  start : Address
  deriving Repr, DecidableEq

namespace Handle

/-- What handles are short for where no directive tells otherwise. -/
def defaults : List Handle :=
  [⟨"!", [some '!']⟩, ⟨"!!", "tag:yaml.org,2002:".toList.map some⟩]

/-- Reads the name of a handle behind its first mark, and whether a second mark closes it. -/
def read (s : List Placed) : String × Bool × List Placed :=
  let letters := (s.takeWhile (isNameChar ·.char)).map Placed.char
  let rest := s.dropWhile (isNameChar ·.char)
  if isNext '!' rest then (String.ofList ('!' :: letters ++ ['!']), true, rest.drop 1)
  else (String.ofList ('!' :: letters), false, rest)

end Handle

namespace Tag

/-- The address that a tag stands for, given the handles of directives. -/
def resolve? (handles : List Handle) (t : Tag) : Option Address :=
  if t.handle.isEmpty then some t.suffix
  else ((handles ++ Handle.defaults).find? (·.name == t.handle)).map (·.start ++ t.suffix)

/-- Reads a tag behind its first mark, and what follows it: a full address between angle brackets,
an address behind a handle, or a local one. A mark alone is a tag too. -/
def read? (inFlow : Bool) (s : List Placed) : Option (Tag × List Placed) := do
  let (t, rest) ←
    if isNext '<' s then do
      let (a, rest) ← someAddress? true (s.drop 1)
      if isNext '>' rest then some (⟨"", a.cut⟩, rest.drop 1) else none
    else
      match Handle.read s with
      | (name, true, rest) => do
        let (a, rest) ← someAddress? false rest
        some (⟨name, a.cut⟩, rest)
      | (name, false, rest) => do
        let (a, rest) ← address? false [] none rest
        let suffix := Address.cut ((name.toList.drop 1).map some ++ a)
        some (if suffix.isEmpty then ⟨"", [some '!']⟩ else ⟨"!", suffix⟩, rest)
  if atSeparator rest || (inFlow && isNext ',' rest) then some (t, rest) else none

end Tag

end WhereClause.Yaml

import WhereClause.Yaml.Tag

/-!
# Directives

Lines with a percent sign in front of a document: the version of YAML that it is written in, and
handles of tags. Any other directive is refused.
-/

namespace WhereClause.Yaml

open Placed

/-- A version of YAML. -/
structure Version where
  major : Nat
  minor : Nat
  deriving Repr, DecidableEq

/-- Whether a version can be read. -/
def Version.isKnown (v : Version) : Bool := v.major == 1 && (v.minor == 1 || v.minor == 2)

/-- A directive. -/
inductive Directive where
  | version (v : Version)
  | handle (h : Handle)
  deriving Repr, DecidableEq

namespace Directive

/-- Reads a number of one to nine digits. -/
def number? (s : List Placed) : Option (Nat × List Placed) :=
  let digits := s.takeWhile (·.char.isDigit)
  if digits.isEmpty || 9 < digits.length then none
  else
    some (digits.foldl (fun n p => 10 * n + (p.char.toNat - '0'.toNat)) 0,
      s.dropWhile (·.char.isDigit))

/-- Reads a version: two numbers with a point between them. -/
def version? (s : List Placed) : Option (Directive × List Placed) := do
  let (major, s) ← number? s
  if isNext '.' s then
    let (minor, s) ← number? (s.drop 1)
    some (version ⟨major, minor⟩, s)
  else none

/-- Reads a handle of tags, and the start of an address that it is short for. -/
def handle? (s : List Placed) : Option (Directive × List Placed) :=
  if isNext '!' s then
    let (name, closed, s) := Handle.read (s.drop 1)
    if (closed || name == "!") && s.head?.any (isSpace ·.char) then do
      let (a, s) ← someAddress? true (dropSpaces s)
      if atSeparator s then some (handle ⟨name, a.cut⟩, s) else none
    else none
  else none

/-- Reads a directive behind its percent sign, and what follows from the next line on. -/
def read? (s : List Placed) : Option (Directive × List Placed) := do
  let name := String.ofList ((s.takeWhile (isNameChar ·.char)).map Placed.char)
  let rest := s.dropWhile (isNameChar ·.char)
  if atSeparator rest then
    let (d, rest) ←
      if name == "YAML" then version? (dropSpaces rest)
      else if name == "TAG" then handle? (dropSpaces rest)
      else none
    let rest ← nextLine? rest
    some (d, rest)
  else none

end Directive

end WhereClause.Yaml

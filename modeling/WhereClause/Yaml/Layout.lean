import WhereClause.Yaml.Token

/-!
# Layout

How the places of tokens make a structure. A block mapping lasts as long as the text is indented as
much as its first key. A key has no mark in front, and shows to be one by the colon behind it; so
from where a key may start, tokens are held back until the colon is found, or until it can no longer
come: on the next line, or after 1024 characters. There is one mapping at most; a mapping within
another one is refused where it starts.

Headlines:
* `Layout.expire?_of_no_candidate`: no key is given up where none is expected.
* `Layout.closeDeeper_of_first`: a mapping in the first column is not ended by indentation.
-/

namespace WhereClause.Yaml

/-- What may turn out to be a key: whether it has to, where it starts, and the tokens since then,
last first. -/
structure Candidate where
  required : Bool
  line : Nat
  column : Nat
  since : List Token := []
  deriving Repr, DecidableEq

/-- What is known at some place of a text: whether it is within a flow mapping, the column of the
block mapping that it is in, whether a key may start, what may turn out to be a key, and the tokens
before that, last first. -/
structure Layout where
  inFlow : Bool := false
  indent : Option Nat := none
  keyAllowed : Bool := true
  candidate : Option Candidate := none
  tokens : List Token := []
  deriving Repr, DecidableEq

namespace Layout

/-- The layout with one more token. -/
def emit (t : Token) (l : Layout) : Layout :=
  match l.candidate with
  | some k => { l with candidate := some { k with since := t :: k.since } }
  | none => { l with tokens := t :: l.tokens }

/-- Gives up what might have been a key, unless it has to be one. -/
def abandon? (l : Layout) : Option Layout :=
  match l.candidate with
  | none => some l
  | some k =>
    if k.required then none else some { l with candidate := none, tokens := k.since ++ l.tokens }

/-- Gives up what might have been a key where its colon can no longer come. -/
def expire? (p : Placed) (l : Layout) : Option Layout :=
  if l.candidate.any fun k => k.line < p.line || k.column + 1024 < p.column then l.abandon?
  else some l

theorem expire?_of_no_candidate {p : Placed} {l : Layout} (h : l.candidate = none) :
    l.expire? p = some l := by
  rw [expire?, h]
  rfl

/-- Notes that a key may start here, if it may. Right behind it no other may. In a block mapping, a
key has to start where the line is indented as much as the mapping. -/
def offer? (p : Placed) (l : Layout) : Option Layout :=
  if l.keyAllowed then do
    let l ← l.abandon?
    let required := !l.inFlow && l.indent == some p.column
    some { l with keyAllowed := false, candidate := some ⟨required, p.line, p.column, []⟩ }
  else some l

/-- Ends the block mapping. -/
def close (l : Layout) : Layout :=
  if l.indent.isSome then { l.emit .mappingEnd with indent := none } else l

/-- Ends the block mapping if the text is indented less at `p`. -/
def closeDeeper (p : Placed) (l : Layout) : Layout :=
  if l.indent.any (p.column < ·) then l.close else l

/-- No text is indented less than its first column. -/
theorem closeDeeper_of_first {p : Placed} {l : Layout} (h : l.indent.all (· == 0) = true) :
    l.closeDeeper p = l := by
  unfold closeDeeper
  cases hindent : l.indent with
  | none => rfl
  | some k =>
    have hk : k = 0 := by simpa [hindent] using h
    simp [hk]

/-- Starts a block mapping at a column, or goes on with the one that is there. -/
def openMapping? (column : Nat) (l : Layout) : Option Layout :=
  if l.inFlow then some l
  else
    match l.indent with
    | none => some { l.emit .mappingStart with indent := some column }
    | some n => if n < column then none else some l

/-- A question mark in front of a key. -/
def key? (p : Placed) (l : Layout) : Option Layout :=
  if l.inFlow || l.keyAllowed then do
    let l ← l.openMapping? p.column
    let l ← l.abandon?
    some ({ l with keyAllowed := !l.inFlow }.emit .key)
  else none

/-- A colon behind a key, or where there is none. -/
def value? (p : Placed) (l : Layout) : Option Layout :=
  match l.candidate with
  | some k => do
    let l ← { l with candidate := none, keyAllowed := false }.openMapping? k.column
    some { l with tokens := .value :: (k.since ++ .key :: l.tokens) }
  | none =>
    if l.inFlow || l.keyAllowed then do
      let l ← l.openMapping? p.column
      some ({ l with keyAllowed := !l.inFlow }.emit .value)
    else none

/-- The start of a flow mapping. -/
def flowStart? (l : Layout) : Option Layout :=
  if l.inFlow || l.indent.isSome then none
  else do
    let l ← l.abandon?
    some { l.emit .flowStart with inFlow := true, keyAllowed := true }

/-- A comma in a flow mapping. -/
def flowEntry? (l : Layout) : Option Layout :=
  if l.inFlow then do
    let l ← l.abandon?
    some { l.emit .flowEntry with keyAllowed := true }
  else none

/-- The end of a flow mapping. -/
def flowEnd? (l : Layout) : Option Layout :=
  if l.inFlow then do
    let l ← l.abandon?
    some { l.emit .flowEnd with inFlow := false, keyAllowed := false }
  else none

/-- A marker of documents, or a directive: it ends the mapping. -/
def separate? (t : Token) (l : Layout) : Option Layout := do
  let l ← l.close.abandon?
  some ({ l with keyAllowed := false }.emit t)

/-- All tokens in order, at the end of the text. -/
def finish? (l : Layout) : Option (List Token) := l.close.abandon?.map (·.tokens.reverse)

end Layout

end WhereClause.Yaml

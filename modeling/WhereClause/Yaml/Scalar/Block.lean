import WhereClause.Text.Digit
import WhereClause.Yaml.Scalar

/-!
# Block scalars

Scalars of whole lines behind `|`, which keeps the breaks, or `>`, which folds them. The lines are
indented by what the header states, or else by as much as the first of them; the header also tells
what becomes of the breaks at the end.
-/

namespace WhereClause.Yaml

open Placed

/-! ## Headers -/

/-- What becomes of the breaks at the end of a block scalar. -/
inductive Chomping where
  | strip
  | clip
  | keep
  deriving Repr, DecidableEq

namespace Chomping

/-- The chomping that a sign states. -/
def ofChar? (c : Char) : Option Chomping :=
  if c == '-' then some strip else if c == '+' then some keep else none

/-- The breaks that are kept of a gap at the end. -/
def ending : Chomping → Gap → List Char
  | strip, _ => []
  | clip, .breaks first _ => first.toList
  | clip, .spaces _ => []
  | keep, g => g.literal

end Chomping

/-- The header of a block scalar: its chomping, and the indentation that it states. -/
structure BlockHeader where
  chomping : Chomping := .clip
  indentation : Option Nat := none
  deriving Repr, DecidableEq

/-- The indentation that a digit states. -/
def indentation? (c : Char) : Option Nat := (Text.digit? 10 c).filter (· != 0)

/-- Reads the header behind the indicator: a sign and a digit, in either order, or one of them, or
neither. -/
def BlockHeader.read : List Placed → BlockHeader × List Placed
  | p :: s =>
    match Chomping.ofChar? p.char, indentation? p.char with
    | some chomping, _ =>
      match s with
      | q :: t =>
        match indentation? q.char with
        | some n => (⟨chomping, some n⟩, t)
        | none => (⟨chomping, none⟩, q :: t)
      | [] => (⟨chomping, none⟩, [])
    | none, some n =>
      match s with
      | q :: t =>
        match Chomping.ofChar? q.char with
        | some chomping => (⟨chomping, some n⟩, t)
        | none => (⟨.clip, some n⟩, q :: t)
      | [] => (⟨.clip, some n⟩, [])
    | none, none => ({}, p :: s)
  | [] => ({}, [])

/-! ## Lines -/

/-- The indentation of the lines at the start of a text, if it is not stated: that of the first line
that is not blank, or of a deeper line of spaces before it. Tabs do not indent. -/
def deepest? (deepest : Nat) : List Placed → Option Nat
  | [] => some deepest
  | p :: s =>
    if p.char == ' ' then deepest? deepest s
    else if p.char == '\t' then none
    else if isBreak p.char then deepest? (max deepest p.column) s
    else some (max deepest p.column)

/-- A block scalar while it is read: whether a line is being read, whether that line starts with a
blank, and its text with the gap behind it. -/
structure BlockDraft where
  inLine : Bool := false
  startsBlank : Bool := false
  draft : Draft := { gap := .breaks none [] }
  deriving Repr, DecidableEq

/-- The draft at the first character of a line. Two lines are folded unless one of them starts with
a blank. -/
def BlockDraft.startLine (folds : Bool) (c : Char) (b : BlockDraft) : BlockDraft :=
  let gap := b.draft.gap
  let between := if folds && !b.startsBlank && !isSpace c then gap.folded else gap.literal
  ⟨true, isSpace c, ⟨c :: (between.reverse ++ b.draft.written), .breaks none []⟩⟩

/-- Reads the lines of a block scalar, and what follows them. -/
def blockLines? (folds : Bool) (indent : Nat) (b : BlockDraft) :
    List Placed → Option (Draft × List Placed)
  | [] => some (b.draft, [])
  | p :: s =>
    let d := b.draft
    if b.inLine then
      if isBreak p.char then
        blockLines? folds indent
          { b with inLine := false, draft := { d with gap := .breaks (some p.char) [] } } s
      else blockLines? folds indent { b with draft := { d with written := p.char :: d.written } } s
    else if isBreak p.char then
      blockLines? folds indent { b with draft := d.pass p.char } s
    else if p.column < indent && p.char == ' ' then blockLines? folds indent b s
    else if p.column < indent && p.char == '\t' then none
    else if p.column == indent then blockLines? folds indent (b.startLine folds p.char) s
    else some (d, p :: s)

/-- Reads a block scalar behind its indicator, and what follows it. Its lines are indented more than
the mapping at column `outer` that it is in, and always by one at least. -/
def block? (folds : Bool) (outer : Option Nat) (s : List Placed) :
    Option (String × List Placed) := do
  let (header, s) := BlockHeader.read s
  let s ← nextLine? s
  let indent ← match header.indentation with
    | some n => some (outer.getD 0 + n)
    | none => (deepest? 0 s).map fun n => max n (outer.elim 1 (· + 1))
  let (d, rest) ← blockLines? folds indent {} s
  some (String.ofList (d.written.reverse ++ header.chomping.ending d.gap), rest)

end WhereClause.Yaml

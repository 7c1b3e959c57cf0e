import WhereClause.Text.Blank
import WhereClause.Text.Digit

/-!
# Discriminants

The discriminant of a declared member is source text. It counts as a literal when it is an integer
literal, or one directly behind a minus sign: decimal or with the base `0x`, `0o` or `0b`, with `_`
between the digits and a suffix behind them. Comments may stand around either, and attributes in
front. Anything else is some other expression.
-/

namespace WhereClause

/-- A discriminant as far as it is read: a literal with its sign, or some other expression. -/
inductive Discriminant where
  | literal (negative : Bool) (magnitude : Nat)
  | other
  deriving Repr, DecidableEq

namespace Discriminant

/-! ## Between tokens -/

/-- Whether a character stands between tokens: a blank, or a mark of the direction of writing. -/
def isBetween (c : Char) : Bool := Text.isBlank c || c == '\u200e' || c == '\u200f'

/-- What is being passed over: blanks, a comment of one line, a comment within `outer` others, an
attribute, from its mark or from within `outer` further brackets on, or the second character of a
mark in front of one of these. -/
inductive Passing where
  | blanks
  | line
  | comment (outer : Nat)
  | mark
  | attribute (outer : Nat)
  | second (next : Passing)
  deriving Repr, DecidableEq

/-- What is being passed over at the end of what is within `outer` others. -/
def Passing.outward (within : Nat → Passing) : Nat → Passing
  | 0 => blanks
  | outer + 1 => within outer

/-- Whether a comment documents what is behind it, given the second character of its mark and its
text. -/
def isDocumentation (mark : Char) (s : List Char) : Bool :=
  s.head? == some mark && (s.drop 1).head? != some mark && (s.drop 1).head? != some '/'

/-- Whether a text goes on with a comment that may stand in front of a literal (`leading`) or behind
it, given the second character of its mark. One that documents may not stand behind a literal; one
that documents what it is within may stand nowhere. -/
def startsComment (leading : Bool) (mark : Char) (s : List Char) : Bool :=
  s.head? == some mark && (s.drop 1).head? != some '!' &&
    (leading || !isDocumentation mark (s.drop 1))

/-- Passes over blanks and comments, in front of a literal also over attributes. A comment with
marks at both ends may hold others, and has to be closed. -/
def pass? (leading : Bool) (passing : Passing) : List Char → Option (List Char)
  | [] => if passing == .blanks || passing == .line then some [] else none
  | c :: s =>
    match passing with
    | .blanks =>
      if isBetween c then pass? leading .blanks s
      else if c == '/' && startsComment leading '/' s then pass? leading (.second .line) s
      else if c == '/' && startsComment leading '*' s then pass? leading (.second (.comment 0)) s
      else if c == '#' && leading then pass? leading .mark s
      else some (c :: s)
    | .line => pass? leading (if c == '\n' then .blanks else .line) s
    | .comment outer =>
      if c == '*' && s.head? == some '/' then
        pass? leading (.second (.outward .comment outer)) s
      else if c == '/' && s.head? == some '*' then
        pass? leading (.second (.comment (outer + 1))) s
      else pass? leading (.comment outer) s
    | .mark =>
      if isBetween c then pass? leading .mark s
      else if c == '[' then pass? leading (.attribute 0) s
      else none
    | .attribute outer =>
      if c == '[' then pass? leading (.attribute (outer + 1)) s
      else if c == ']' then pass? leading (.outward .attribute outer) s
      else pass? leading (.attribute outer) s
    | .second next => pass? leading next s

/-! ## Numerals -/

/-- Whether a character belongs to the digits of a numeral. -/
def isNumeralChar (base : Nat) (c : Char) : Bool := c == '_' || (Text.digit? base c).isSome

/-- The value of digits, behind digits of value `high`; separators are passed over. -/
def digitsValue (base high : Nat) (s : List Char) : Nat :=
  s.foldl (fun n c => match Text.digit? base c with | some d => base * n + d | none => n) high

/-- Whether a character belongs to a word: a letter, a digit or an underscore. Beyond ASCII,
whatever does not separate is taken for a letter. -/
def isWordChar (c : Char) : Bool :=
  c.isAlphanum || c == '_' || (0x80 ≤ c.toNat && !isBetween c)

/-- Whether a word behind the digits of a decimal numeral makes it a number with an exponent. -/
def isExponent : List Char → Bool
  | 'e' :: s | 'E' :: s => (s.dropWhile (· == '_')).head?.any Char.isDigit
  | _ => false

/-- Whether a word may stand behind the digits of an integer: none, or one that starts with a
letter and is no exponent. -/
def isSuffix (base : Nat) (s : List Char) : Bool :=
  !s.head?.any Char.isDigit && !(base == 10 && isExponent s)

/-- The value of an integer literal in a base, without its sign and the mark of its base. Nothing
follows it. -/
def numeral? (base : Nat) (s : List Char) : Option Nat :=
  let digits := s.takeWhile (isNumeralChar base)
  let behind := s.dropWhile (isNumeralChar base)
  let isAlone := pass? false .blanks (behind.dropWhile isWordChar) == some []
  if digits.any (· != '_') && isSuffix base (behind.takeWhile isWordChar) && isAlone then
    some (digitsValue base 0 digits)
  else none

/-- The value of an integer literal without its sign. -/
def magnitude? : List Char → Option Nat
  | '0' :: 'x' :: s => numeral? 16 s
  | '0' :: 'o' :: s => numeral? 8 s
  | '0' :: 'b' :: s => numeral? 2 s
  | '_' :: _ => none
  | s => numeral? 10 s

/-- Reads the source text of a discriminant. -/
def ofSource (source : String) : Discriminant :=
  let start := pass? true .blanks source.toList
  let (negative, value) :=
    match start with
    | some ('-' :: s) => (true, (pass? true .blanks s).bind magnitude?)
    | s => (false, s.bind magnitude?)
  value.elim other (literal negative)

end Discriminant

end WhereClause

import WhereClause.Word
import WhereClause.Binary64.Shortest

/-!
# Numbers

A number is a signed word, an unsigned word or a binary64 number. The three representations are
kept apart: they differ in what they are written as and in how their arithmetic may end.

Headlines:
* `compare?_swap`: exchanging the operands mirrors the order.
* `compare?_of_integers`: whole representations are ordered by their values.
-/

namespace WhereClause

/-- A number in one of its representations. -/
inductive Number where
  | signed (n : Int64)
  | unsigned (n : UInt64)
  | float (x : Binary64)
  deriving Repr, DecidableEq

namespace Number

/-- The value of a whole representation. -/
def integer? : Number → Option Int
  | signed n => some n.toInt
  | unsigned n => some n.toNat
  | float _ => none

/-- Whether the representation is a whole one, whatever the value. -/
def isIntegral (n : Number) : Bool := n.integer?.isSome

/-- The number as a binary64 number; words are rounded to the nearest. -/
def toBinary64 : Number → Binary64
  | signed n => .ofInt n.toInt
  | unsigned n => .ofInt n.toNat
  | float x => x

/-- The number as a signed word, if it is a whole representation whose value fits. -/
def toSigned? (n : Number) : Option Int64 := n.integer?.bind Word.signed?

/-- The order of two numbers: by value when both are whole representations, and otherwise as
binary64 numbers, where a NaN has none. -/
def compare? (a b : Number) : Option Ordering :=
  match a.integer?, b.integer? with
  | some x, some y => some (compare x y)
  | _, _ => a.toBinary64.compare? b.toBinary64

/-- Whether two numbers are the same: equal values in one representation. A NaN is not the same as
anything, and the two zeros are the same. -/
def same : Number → Number → Bool
  | signed a, signed b => a == b
  | unsigned a, unsigned b => a == b
  | float x, float y => x.compare? y == some .eq
  | _, _ => false

/-- The decimal text of a number. -/
def text : Number → String
  | signed n => Text.ofInt n.toInt
  | unsigned n => Text.ofInt n.toNat
  | float x => x.text

theorem compare?_of_integers {a b : Number} {x y : Int} (ha : a.integer? = some x)
    (hb : b.integer? = some y) : a.compare? b = some (compare x y) := by
  simp only [compare?, ha, hb]

theorem compare?_swap (a b : Number) : b.compare? a = (a.compare? b).map Ordering.swap := by
  unfold compare?
  cases a.integer? with
  | none => cases b.integer? <;> exact Binary64.compare?_swap _ _
  | some x =>
    cases b.integer? with
    | none => exact Binary64.compare?_swap _ _
    | some y => exact congrArg some Std.OrientedOrd.eq_swap

end Number

end WhereClause

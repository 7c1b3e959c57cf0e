import WhereClause.Number
import WhereClause.Operator
import WhereClause.Binary64.Arithmetic

/-!
# Arithmetic on numbers

Two whole representations are combined in a word of double width, and the result has to fit: in an
unsigned word when both operands are unsigned, and in a signed word otherwise or when it is negative.
As soon as one operand is a binary64 number, both are taken as such. Division truncates, a remainder
has the sign of the dividend, and a divisor of zero is refused in every representation.
-/

namespace WhereClause

/-- Why arithmetic has no result. -/
inductive ArithmeticError where
  | divisionByZero
  | overflow (a : Int) (op : Arithmetic) (b : Int)
  deriving Repr, DecidableEq

/-- What is wrong with the operands. -/
def ArithmeticError.message : ArithmeticError → String
  | divisionByZero => "division by zero"
  | overflow a op b =>
    "integer overflow in " ++ Text.ofInt a ++ " " ++ op.sql ++ " " ++ Text.ofInt b

namespace Arithmetic

/-- The exact result on integers; none when the divisor is zero. -/
def exact : Arithmetic → Int → Int → Option Int
  | .add, x, y => some (x + y)
  | .sub, x, y => some (x - y)
  | .mul, x, y => some (x * y)
  | .div, x, y => if y = 0 then none else some (x.tdiv y)
  | .mod, x, y => if y = 0 then none else some (x.tmod y)

/-- The rounded result on binary64 numbers; none when the divisor is a zero. -/
def rounded : Arithmetic → Binary64 → Binary64 → Option Binary64
  | .add, x, y => some (x.add y)
  | .sub, x, y => some (x.sub y)
  | .mul, x, y => some (x.mul y)
  | .div, x, y => if y.isZero then none else some (x.div y)
  | .mod, x, y => if y.isZero then none else some (x.rem y)

end Arithmetic

namespace Number

/-- Whether the representation is the unsigned word. -/
def isUnsigned : Number → Bool
  | unsigned _ => true
  | _ => false

/-- The number of value `n`, as an unsigned word if that is preferred and possible. -/
def ofInteger? (preferUnsigned : Bool) (n : Int) : Option Number :=
  match if preferUnsigned then Word.unsigned? n else none with
  | some w => some (unsigned w)
  | none => (Word.signed? n).map signed

/-- Applies an arithmetic operation to two numbers. -/
def apply (op : Arithmetic) (a b : Number) : Except ArithmeticError Number :=
  match a.integer?, b.integer? with
  | some x, some y =>
    match op.exact x y with
    | none => .error .divisionByZero
    | some n =>
      match (Word.wide? n).bind (ofInteger? (a.isUnsigned && b.isUnsigned)) with
      | some r => .ok r
      | none => .error (.overflow x op y)
  | _, _ =>
    match op.rounded a.toBinary64 b.toBinary64 with
    | some x => .ok (float x)
    | none => .error .divisionByZero

end Number

end WhereClause

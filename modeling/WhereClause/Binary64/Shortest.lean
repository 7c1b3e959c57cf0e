import WhereClause.Binary64.Rounding
import WhereClause.Text.Numeral

/-!
# Shortest decimal text

A finite number is written with the fewest decimal digits that read back as the number. Among the
decimals of that many digits the two neighbours of the number are the candidates; the nearer one is
taken, and of two equally near the larger. The digits are laid out positionally, with no exponent
and with no point behind a whole number.

Headlines:
* `shortest?_reads_back`: whatever is found reads back.
-/

namespace WhereClause.Binary64

/-- The decimal `coefficient · 10 ^ exponent`. -/
structure Decimal where
  coefficient : Nat
  exponent : Int
  deriving Repr, DecidableEq

/-- The number nearest to a decimal. -/
def Decimal.toBinary64 (d : Decimal) : Binary64 := ofDecimal d.coefficient d.exponent

/-- Where the first digit of a positive number of units stands: the number is below `10 ^ place` and
not below a tenth of that. Three hundred and twenty-four decimal places are enough to see it. -/
def place (units : Nat) : Int :=
  (Nat.toDigits 10 (units * Nat.pow 10 324 / unitsPerOne)).length - 324

/-- The decimal with `count` digits, next to the given number of units, that reads back as
`target`. -/
def neighbour? (target : Binary64) (units count : Nat) : Option Decimal :=
  let exponent := place units - count
  let num := if 0 ≤ exponent then units else units * Nat.pow 10 (-exponent).toNat
  let den := if 0 ≤ exponent then unitsPerOne * Nat.pow 10 exponent.toNat else unitsPerOne
  let below : Decimal := ⟨num / den, exponent⟩
  let above : Decimal := ⟨num / den + 1, exponent⟩
  let near := if 2 * (num % den) < den then [below, above] else [above, below]
  near.find? fun d => d.toBinary64 = target

/-- The shortest decimal of a positive number of units. Seventeen digits are always enough. -/
def shortest? (target : Binary64) (units : Nat) : Option Decimal :=
  (List.range' 1 17).findSome? (neighbour? target units)

/-- The positional text of a decimal. Zeros at the end of the fraction are left out, and the point
with them when nothing is left behind it. -/
def Decimal.text (d : Decimal) : List Char :=
  if 0 ≤ d.exponent then
    Nat.toDigits 10 d.coefficient ++ List.replicate d.exponent.toNat '0'
  else
    let places := (-d.exponent).toNat
    let digits := Text.padded (places + 1) d.coefficient
    let whole := digits.take (digits.length - places)
    let fraction := (digits.drop (digits.length - places)).reverse.dropWhile (· == '0')
    if fraction.isEmpty then whole else whole ++ '.' :: fraction.reverse

/-- The text of a magnitude of `m · 2ᵏ` units. -/
def magnitudeText (m k : Nat) (h : Canonical m k) : List Char :=
  if m = 0 then ['0']
  else
    match shortest? (finite false m k h) (m <<< k) with
    | some d => d.text
    | none => Nat.toDigits 10 (m <<< k / unitsPerOne)

/-- The text of a number. -/
def text : Binary64 → String
  | nan => "NaN"
  | infinite s => if s then "-inf" else "inf"
  | finite s m k h =>
    String.ofList (if s then '-' :: magnitudeText m k h else magnitudeText m k h)

theorem shortest?_reads_back {target : Binary64} {units : Nat} {d : Decimal}
    (h : shortest? target units = some d) : d.toBinary64 = target := by
  obtain ⟨n, _, hn⟩ := List.exists_of_findSome?_eq_some h
  have := List.find?_some hn
  simpa using this

end WhereClause.Binary64

import WhereClause.Text.Digit
import WhereClause.Yaml.Placed

/-!
# Tag addresses

The characters that tags are made of. A character may be written as its UTF-8 octets, each as a
percent sign and two hexadecimal digits. Octets of the right shape that stand for no character are
read all the same, as something that is no character; an address goes no further than a NUL.
-/

namespace WhereClause.Yaml

open Placed

/-- The characters of an address; `none` stands for octets that are no character. -/
abbrev Address := List (Option Char)

namespace Address

/-- The address up to its first NUL. -/
def cut (a : Address) : Address := a.takeWhile (· != some '\x00')

/-- The text of a local address, which starts with an exclamation mark: what stands behind the mark,
or the mark itself if nothing does. -/
def localName? : Address → Option String
  | some '!' :: [] => some "!"
  | some '!' :: a => (a.mapM id).map String.ofList
  | _ => none

end Address

/-! ## Octets -/

/-- A character of which some octets are read: how many are to come, the least character that takes
as many octets, and the value of the octets read. -/
structure Octets where
  left : Nat
  least : Nat
  value : Nat
  deriving Repr, DecidableEq

namespace Octets

/-- The first octet of a character. -/
def start? (octet : Nat) : Option Octets :=
  if octet < 0x80 then some ⟨0, 0, octet⟩
  else if octet < 0xC0 then none
  else if octet < 0xE0 then some ⟨1, 0x80, octet - 0xC0⟩
  else if octet < 0xF0 then some ⟨2, 0x800, octet - 0xE0⟩
  else if octet < 0xF8 then some ⟨3, 0x10000, octet - 0xF0⟩
  else none

/-- A further octet of a character. -/
def next? (o : Octets) (octet : Nat) : Option Octets :=
  if 0x80 ≤ octet && octet < 0xC0 then some ⟨o.left - 1, o.least, 64 * o.value + (octet - 0x80)⟩
  else none

/-- The character of all its octets, if they are the shortest ones of a character. -/
def char? (o : Octets) : Option Char :=
  if o.least ≤ o.value && o.value.isValidChar then some (Char.ofNat o.value) else none

/-- The octet behind a percent sign. -/
def ofDigits? (high low : Char) : Option Nat := do
  let h ← Text.digit? 16 high
  let l ← Text.digit? 16 low
  some (16 * h + l)

end Octets

/-! ## Reading -/

/-- Whether a character may stand in an address as it is. Those of a `wide` one may also have what
is an indicator of flow collections. -/
def isAddressChar (wide : Bool) (c : Char) : Bool :=
  isNameChar c || ";/?:@&=+$.!~*'()".toList.contains c || (wide && ",[]".toList.contains c)

/-- Reads an address, and what follows it. The characters read so far come last first; `o` is one of
which octets are to come. -/
def address? (wide : Bool) (a : Address) (o : Option Octets) :
    List Placed → Option (Address × List Placed)
  | [] => if o.isSome then none else some (a.reverse, [])
  | p :: s =>
    if p.char == '%' then
      match s with
      | high :: low :: t =>
        match Octets.ofDigits? high.char low.char with
        | none => none
        | some octet =>
          match o.elim (Octets.start? octet) (·.next? octet) with
          | none => none
          | some o =>
            if o.left = 0 then address? wide (o.char? :: a) none t
            else address? wide a (some o) t
      | _ => none
    else if o.isSome then none
    else if isAddressChar wide p.char then address? wide (some p.char :: a) none s
    else some (a.reverse, p :: s)

/-- Reads an address that is not empty. -/
def someAddress? (wide : Bool) (s : List Placed) : Option (Address × List Placed) :=
  (address? wide [] none s).filter (!·.1.isEmpty)

end WhereClause.Yaml

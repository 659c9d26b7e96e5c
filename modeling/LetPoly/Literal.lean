import LetPoly.Decimal

/-!
# Integer literals

An integer literal is an optional sign followed by decimal digits whose value fits into 64 bits
with sign. Leading zeros are allowed. A numeral of more than `Decimal.maxDigits` digits is not read
at all, whatever its value: that is an error, and not the answer "no".
-/

namespace LetPoly

namespace Literal

/-- A sign and the digits after it. -/
structure Numeral where
  negative : Bool
  digits : List Char
deriving DecidableEq, Inhabited

/-- At least one digit and nothing else. -/
def areDigits (cs : List Char) : Bool := !cs.isEmpty && cs.all Char.isDigit

/-- Reads an optional sign and digits. -/
def numeral? (cs : List Char) : Option Numeral :=
  let (negative, digits) := match cs with
    | '-' :: ds => (true, ds)
    | '+' :: ds => (false, ds)
    | ds => (false, ds)
  if areDigits digits then some { negative, digits } else none

/-- The value of a numeral. -/
def Numeral.value (n : Numeral) : Int :=
  if n.negative then -(Decimal.value n.digits : Int) else Decimal.value n.digits

end Literal

open Literal

/-- Whether a text is an integer of 64 bits. -/
def isIntegerLiteral (text : String) : Except Error Bool :=
  match numeral? text.toList with
  | none => .ok false
  | some n =>
    if n.digits.length > Decimal.maxDigits then .error (.numeralTooLong n.digits.length)
    else .ok (isInteger n.value)

end LetPoly

/-!
# Positions

Positions in a list count from zero, and negative ones from the end. A position is an integer of 64
bits with sign, also where it is out of range.
-/

namespace LetPoly

/-- The least integer of 64 bits. -/
def minInteger : Int := -9223372036854775808

/-- The greatest integer of 64 bits. -/
def maxInteger : Int := 9223372036854775807

/-- Whether a number is an integer of 64 bits. -/
def isInteger (n : Int) : Bool := minInteger ≤ n && n ≤ maxInteger

namespace Position

/-- Why there is nothing at a position. -/
inductive Fault where
  /-- The number is no integer of 64 bits. -/
  | tooLarge
  /-- The list does not reach so far. -/
  | outOfRange
deriving DecidableEq, Inhabited

/-- The fault in words, with a word for the list. -/
def Fault.message (list : String) : Fault → String
  | .tooLarge => "cannot fit 'int' into an index-sized integer"
  | .outOfRange => list ++ " index out of range"

/-- The position from the start, which negative numbers give from the end. -/
def fromStart (size : Nat) (i : Int) : Int := if i < 0 then i + size else i

/-- What is at a position of a list, with the position from the start. -/
def get {α : Type} (xs : List α) (i : Int) : Except Fault (Nat × α) :=
  if !isInteger i then .error .tooLarge
  else
    let k := fromStart xs.length i
    if k < 0 then .error .outOfRange
    else
      match xs[k.toNat]? with
      | some x => .ok (k.toNat, x)
      | none => .error .outOfRange

end Position

end LetPoly

import LetPoly.Error

/-!
# Decimal numerals

Numbers are read from digits and written in digits, up to `maxDigits` of them: a longer numeral is
neither read nor written. The sign does not count.
-/

namespace LetPoly.Decimal

/-- The longest numeral that is read or written. -/
def maxDigits : Nat := 4300

/-- The value of digits. -/
def value (ds : List Char) : Nat := ds.foldl (fun n d => 10 * n + (d.toNat - 48)) 0

/-- The number in digits. -/
def write (n : Int) : Except Error String :=
  if n.natAbs.repr.length > maxDigits then .error .numberTooLong else .ok (toString n)

end LetPoly.Decimal

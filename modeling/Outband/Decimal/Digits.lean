/-! Decimal digits and the numbers that they stand for. -/

namespace Outband.Decimal

def value (digits : List Char) : Nat :=
  digits.foldl (fun n d => 10 * n + (d.toNat - '0'.toNat)) 0

end Outband.Decimal

namespace QuantumDebug

/-!
Natural numbers in decimal digits.
-/

namespace Text

def numeralValue (digits : List Char) : Nat :=
  digits.foldl (fun n c => n * 10 + (c.toNat - 48)) 0

/-- The number of 64 bits that a text of decimal digits stands for, perhaps after a plus sign. -/
def readNatural64 (s : List Char) : Option Nat :=
  let digits := match s with
    | '+' :: r => r
    | r => r
  if digits ≠ [] ∧ digits.all Char.isDigit ∧ numeralValue digits < 0x1_0000_0000_0000_0000 then
    some (numeralValue digits)
  else none

end Text

end QuantumDebug

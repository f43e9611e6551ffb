/-!
Unsigned numbers in arguments: decimal digits, any number of leading zeros, and at most one plus
sign before them.
-/

namespace PlatformBridge.Text

def digitsValue (digits : List Char) : Nat :=
  digits.foldl (fun n c => n * 10 + (c.toNat - '0'.toNat)) 0

/-- The number behind an optional plus sign, if there are digits and nothing else. -/
def unsigned? (text : List Char) : Option Nat :=
  let digits := match text with
    | '+' :: rest => rest
    | rest => rest
  if digits ≠ [] ∧ digits.all Char.isDigit then some (digitsValue digits) else none

end PlatformBridge.Text

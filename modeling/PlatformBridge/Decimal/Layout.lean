import PlatformBridge.Decimal.Shortest

/-!
How a decimal is laid out: positionally while its leading digit stands near the point, and with an
exponent outside that range.
-/

namespace PlatformBridge.Decimal

/-- A layout: the exponents of the leading digit that are still written positionally. -/
structure Layout where
  least : Int
  most : Int
  deriving DecidableEq, Repr

/-- The digits of a decimal without the zeros at their end, and the exponent of the leading one. -/
def Scaled.significant (d : Scaled) : List Char × Int :=
  let digits := Nat.toDigits 10 d.digits
  let kept := (digits.reverse.dropWhile (· == '0')).reverse
  (if kept.isEmpty then ['0'] else kept, d.exponent + digits.length - 1)

/-- Digits with the point after the digit of exponent zero; a whole number keeps one zero after
the point. -/
def positional (digits : List Char) (leading : Int) : List Char :=
  if leading < 0 then
    ['0', '.'] ++ List.replicate (-leading - 1).toNat '0' ++ digits
  else
    let size := leading.toNat + 1
    let whole := digits.take size ++ List.replicate (size - digits.length) '0'
    let rest := digits.drop size
    whole ++ ['.'] ++ if rest.isEmpty then ['0'] else rest

/-- Digits with the point after the first of them, and the exponent with its sign. -/
def scientific (digits : List Char) (leading : Int) : List Char :=
  let rest := digits.drop 1
  digits.take 1 ++ (if rest.isEmpty then [] else '.' :: rest)
    ++ ['e', if leading < 0 then '-' else '+'] ++ Nat.toDigits 10 leading.natAbs

def Layout.render (layout : Layout) (d : Scaled) : List Char :=
  let (digits, leading) := d.significant
  if layout.least ≤ leading ∧ leading ≤ layout.most then positional digits leading
  else scientific digits leading

def signBit : Nat := 0x8000000000000000

/-- A double in a layout, by the fewest digits that read back; a zero keeps its sign. -/
def Layout.renderDouble (layout : Layout) (x : Float) : String :=
  let bits := x.toBits.toNat
  let sign := if signBit ≤ bits then ['-'] else []
  if bits % signBit = 0 then String.ofList (sign ++ ['0', '.', '0'])
  else String.ofList (sign ++ layout.render (Binary.ofBits (bits % signBit)).shortest)

end PlatformBridge.Decimal

/-!
The fewest decimal digits that read back as a binary fraction. The fraction is `significand` times
a power of two; the reals that round to it form an interval around it, with its ends if the
significand is even. On the grid of multiples of a power of ten only the two neighbours of the
fraction can be the nearest points of the interval, so the first grid, from the coarsest on, with
one of them inside gives the digits, and of two inside the nearer is taken.

All of it is arithmetic of natural numbers: the interval is scaled by four so that its ends are
whole.
-/

namespace PlatformBridge.Decimal

/-- A positive binary fraction `significand * 2 ^ exponent` among those of one precision. -/
structure Binary where
  significand : Nat
  exponent : Int
  /-- Whether the next fraction below is only half as far as the next one above. -/
  closeBelow : Bool
  deriving DecidableEq, Repr

/-- The decimal `digits * 10 ^ exponent`. -/
structure Scaled where
  digits : Nat
  exponent : Int
  deriving DecidableEq, Repr, Inhabited

namespace Binary

/-- The fraction that a double of 64 bits stands for, its sign aside. -/
def ofBits (bits : Nat) : Binary :=
  let low : Nat := bits % 0x10000000000000
  let high : Nat := bits / 0x10000000000000 % 0x800
  if high = 0 then ⟨low, -1074, false⟩
  else ⟨0x10000000000000 + low, (high : Int) - 1075, low = 0 && 1 < high⟩

/-- A quarter of a unit in the last place, as a quotient: what the ends are counted in. -/
def quarter (b : Binary) : Nat × Nat :=
  (Nat.pow 2 (b.exponent - 2).toNat, Nat.pow 2 (2 - b.exponent).toNat)

/-- The fraction in quarters. -/
def middle (b : Binary) : Nat := 4 * b.significand

/-- The lower end of the interval in quarters. -/
def lower (b : Binary) : Nat := 4 * b.significand - if b.closeBelow then 1 else 2

/-- The upper end of the interval in quarters. -/
def upper (b : Binary) : Nat := 4 * b.significand + 2

/-- The exponent of the leading decimal digit. No double is below `10 ^ (-330)`. -/
def leading (b : Binary) : Int :=
  let (up, down) := b.quarter
  (Nat.toDigits 10 (b.middle * up * Nat.pow 10 330 / down)).length - 331

/-- A number of quarters on the grid of multiples of `10 ^ grid`, over a common denominator. -/
def onGrid (b : Binary) (grid : Int) (quarters : Nat) : Nat :=
  quarters * b.quarter.1 * Nat.pow 10 (-grid).toNat

/-- The distance between two points of the grid, over the same denominator. -/
def gridStep (b : Binary) (grid : Int) : Nat := b.quarter.2 * Nat.pow 10 grid.toNat

/-- Whether the multiple `d * 10 ^ grid` rounds to the fraction. -/
def covers (b : Binary) (grid : Int) (d : Nat) : Bool :=
  let point := d * b.gridStep grid
  let low := b.onGrid grid b.lower
  let high := b.onGrid grid b.upper
  if b.significand % 2 = 0 then low ≤ point && point ≤ high else low < point && point < high

/-- The neighbour of the fraction on the grid that rounds to it, and of two the nearer; of two
equally near the even one. -/
def neighbour? (b : Binary) (grid : Int) : Option Scaled :=
  let middle := b.onGrid grid b.middle
  let step := b.gridStep grid
  let d := middle / step
  let below := b.covers grid d
  let above := b.covers grid (d + 1)
  if below && above then
    let gapBelow := middle - d * step
    let gapAbove := (d + 1) * step - middle
    if gapBelow < gapAbove || (gapBelow = gapAbove && d % 2 = 0) then some ⟨d, grid⟩
    else some ⟨d + 1, grid⟩
  else if below then some ⟨d, grid⟩
  else if above then some ⟨d + 1, grid⟩
  else none

/-- **The fewest digits that read back.** Seventeen digits tell any two doubles apart. -/
def shortest (b : Binary) : Scaled :=
  ((List.range 17).findSome? fun k => b.neighbour? (b.leading - (k : Nat))).getD
    ⟨b.significand, b.exponent⟩

end Binary

end PlatformBridge.Decimal

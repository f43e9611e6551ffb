import PlatformBridge.Decimal.Layout
import PlatformBridge.Json.Reader

/-!
Numbers of a JSON document. `readNumeral` takes a numeral apart; `Numeral.value` gives what it
stands for: an integer where it is written as one and fits into 64 bits, a double otherwise.

The double is formed from the first digits that fit into 64 bits, scaled once by a power of ten,
so it may differ from the nearest double in its last digit.
-/

namespace PlatformBridge.Json

/-! ### Numerals -/

/-- A numeral in its parts; the digits are characters. -/
structure Numeral where
  negative : Bool
  whole : List Char
  fraction : Option (List Char)
  /-- Whether the exponent is negative, and its digits. -/
  exponent : Option (Bool × List Char)
  deriving DecidableEq, Repr, Inhabited

def isDigit (c : Char) : Bool := '0' ≤ c && c ≤ '9'

/-- The digits at the front of a text, and what is left. -/
def spanDigits (text : List Char) : List Char × List Char :=
  (text.takeWhile isDigit, text.dropWhile isDigit)

/-- Reads the whole part: a single zero, or digits that start with another. The end of the text
is reported as `atEnd`. -/
def readWhole (atEnd : Cause) : Reader (List Char)
  | [] => here atEnd []
  | c :: text =>
    if c = '0' then
      match text with
      | d :: _ => if isDigit d then peek .invalidNumber text else .ok ([c], text)
      | [] => .ok ([c], [])
    else if isDigit c then
      let (digits, rest) := spanDigits text
      .ok (c :: digits, rest)
    else peek .invalidNumber (c :: text)

def readFraction (atEnd : Cause) : Reader (Option (List Char))
  | '.' :: text =>
    match spanDigits text with
    | ([], []) => here atEnd []
    | ([], rest) => peek .invalidNumber rest
    | (digits, rest) => .ok (some digits, rest)
  | text => .ok (none, text)

def readExponentDigits (atEnd : Cause) (negative : Bool) : Reader (Option (Bool × List Char))
  | [] => here atEnd []
  | c :: text =>
    if isDigit c then
      let (digits, rest) := spanDigits text
      .ok (some (negative, c :: digits), rest)
    else peek .invalidNumber (c :: text)

def readExponent (atEnd : Cause) : Reader (Option (Bool × List Char))
  | c :: text =>
    if c = 'e' ∨ c = 'E' then
      match text with
      | '+' :: rest => readExponentDigits atEnd false rest
      | '-' :: rest => readExponentDigits atEnd true rest
      | rest => readExponentDigits atEnd false rest
    else .ok (none, c :: text)
  | [] => .ok (none, [])

/-- Reads a numeral behind its sign. -/
def readUnsigned (atEnd : Cause) (negative : Bool) : Reader Numeral := fun text => do
  let (whole, text) ← readWhole atEnd text
  let (fraction, text) ← readFraction atEnd text
  let (exponent, text) ← readExponent atEnd text
  return (⟨negative, whole, fraction, exponent⟩, text)

def readNumeral (atEnd : Cause) : Reader Numeral
  | '-' :: text => readUnsigned atEnd true text
  | text => readUnsigned atEnd false text

def startsNumeral (c : Char) : Bool := c = '-' || isDigit c

/-! ### What a numeral stands for -/

/-- The value of a numeral. -/
inductive Number where
  | integer (value : Int)
  | real (value : Float)

def digitValue (c : Char) : Nat := c.toNat - 48

/-- Appends digits to a number as long as it stays below the bound; also gives the number of digits
left over. -/
def absorb (bound : Nat) : Nat → List Char → Nat × Nat
  | n, [] => (n, 0)
  | n, d :: digits =>
    if n * 10 + digitValue d < bound then absorb bound (n * 10 + digitValue d) digits
    else (n, digits.length + 1)

def powerOfTen (n : Nat) : Float := Float.ofScientific 1 false n

/-- Divides by a power of ten, in steps of at most `10 ^ 308`. After three steps nothing is left
of a number of 64 bits. -/
def scaleDown : (steps : Nat) → Float → Nat → Float
  | 0, x, _ => x
  | steps + 1, x, n =>
    if n ≤ 308 then x / powerOfTen n
    else if x == 0 then x
    else scaleDown steps (x / powerOfTen 308) (n - 308)

/-- The double for `digits * 10 ^ exponent`, if there is one. -/
def scale (digits : Nat) (exponent : Int) : Option Float :=
  let x := (UInt64.ofNat digits).toFloat
  if exponent < 0 then some (scaleDown 4 x exponent.natAbs)
  else if exponent ≤ 308 then
    let y := x * powerOfTen exponent.toNat
    if y.isInf then none else some y
  else if digits = 0 then some x
  else none

/-- Integers stay below this bound, and below zero they go no further than half of it. -/
def wordBound : Nat := 0x10000000000000000

/-- Exponents stay below this bound. -/
def exponentBound : Nat := 0x80000000

namespace Numeral

/-- The digits that a double keeps and the power of ten they still lack, the exponent aside. -/
def significand (n : Numeral) : Nat × Int :=
  let (digits, dropped) := absorb wordBound 0 n.whole
  match n.fraction with
  | none => (digits, dropped)
  | some fraction =>
    let (digits, left) := absorb wordBound digits fraction
    (digits, (dropped : Int) - (fraction.length - left))

/-- The integer that a numeral without fraction and exponent stands for, if it is in the range of
64 bits; a negative zero is none. -/
def integer? (n : Numeral) : Option Int :=
  match n.fraction, n.exponent with
  | none, none =>
    let (value, dropped) := absorb wordBound 0 n.whole
    if dropped ≠ 0 then none
    else if !n.negative then some value
    else if value = 0 ∨ wordBound < 2 * value then none
    else some (-(value : Int))
  | _, _ => none

/-- The double that a numeral stands for. An exponent beyond 31 bits is reported behind the digit
that makes it so, unless it leaves a zero. -/
def real (n : Numeral) (rest : List Char) : Except Fault Float := do
  let (digits, power) := n.significand
  let sign (x : Float) : Float := if n.negative then -x else x
  let settle (exponent : Int) : Except Fault Float :=
    match scale digits exponent with
    | some x => .ok (sign x)
    | none => here .numberOutOfRange rest
  match n.exponent with
  | none => settle power
  | some (negative, places) =>
    let (exponent, left) := absorb exponentBound 0 places
    if left = 0 then settle (if negative then power - exponent else power + exponent)
    else if digits ≠ 0 ∧ !negative then
      here .numberOutOfRange (places.drop (places.length - left + 1) ++ rest)
    else return sign 0

/-- The value of a numeral, which `rest` follows. -/
def value (n : Numeral) (rest : List Char) : Except Fault Number :=
  match n.integer? with
  | some value => .ok (.integer value)
  | none => (n.real rest).map .real

end Numeral

def readNumber : Reader Number := fun text => do
  let (numeral, rest) ← readNumeral .endInValue text
  return (← numeral.value rest, rest)

/-- **Doubles are positional from `10 ^ (-5)` on and below `10 ^ 16`.** -/
def realLayout : Decimal.Layout := ⟨-5, 15⟩

/-- What a number is called where something else was expected. -/
def Number.found : Number → Found
  | integer value => .integer value
  | real value => .real (realLayout.renderDouble value)

end PlatformBridge.Json

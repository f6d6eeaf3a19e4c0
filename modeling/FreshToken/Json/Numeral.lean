import FreshToken.Json.Document
import FreshToken.Json.Value
/-!
# What numerals denote

A numeral without fraction and exponent is an integer where 64 bits hold it.  Every other numeral
is a float: as many of its leading digits as fit 64 bits make a significand, and one power of ten
multiplies or divides it.
-/

namespace FreshToken.Json

/-- A significand that takes digits from the front of a list while it stays below `2 ^ 64`, with
the number of digits it took. -/
def gather (significand : Nat) : List Nat → Nat × Nat
  | [] => (significand, 0)
  | d :: ds =>
    if significand * 10 + d < 18446744073709551616 then
      let (full, taken) := gather (significand * 10 + d) ds
      (full, taken + 1)
    else (significand, 0)

def digitsValue (ds : List Nat) : Nat := ds.foldl (fun n d => n * 10 + d) 0

/-- The greatest power of ten that is taken in one step. -/
def widestPower : Nat := 308

def powerOfTen (n : Nat) : Float := Float.ofScientific 1 false n

def divideByPower (x : Float) (power : Nat) : Float :=
  if power ≤ widestPower then x / powerOfTen power
  else if x == 0.0 then x
  else divideByPower (x / powerOfTen widestPower) (power - widestPower)
termination_by power
decreasing_by simp only [widestPower] at *; omega

/-- The product of a significand and a power of ten, unless it is beyond every float. -/
def scaled? (significand : Nat) (power : Int) : Option Float :=
  let x := (UInt64.ofNat significand).toFloat
  if power < 0 then some (divideByPower x power.natAbs)
  else if power ≤ widestPower then
    let product := x * powerOfTen power.toNat
    if product.isInf then none else some product
  else if x == 0.0 then some x
  else none

namespace Numeral

def magnitude? (n : Numeral) : Option Float :=
  let (front, taken) := gather 0 n.whole
  let dropped := n.whole.length - taken
  let (significand, places) := gather front n.fraction
  let (minus, exponent) := n.exponent.getD (false, [])
  let shift : Int := digitsValue exponent
  scaled? significand (dropped - places + (if minus then -shift else shift))

/-- The value of a numeral, unless it is beyond every float.  The negated zero is a float, since
no integer has a negative zero. -/
def value? (n : Numeral) : Option Value :=
  let whole : Nat := digitsValue n.whole
  if n.fraction.isEmpty && n.exponent.isNone && !n.negative && whole < 18446744073709551616 then
    some (.int whole)
  else if n.fraction.isEmpty && n.exponent.isNone && n.negative && whole ≠ 0 &&
      whole ≤ 9223372036854775808 then
    some (.int (-whole))
  else n.magnitude?.map fun x => .float (if n.negative then -x else x)

end Numeral

end FreshToken.Json

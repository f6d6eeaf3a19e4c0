import FreshToken.Decimal.Shortest
/-!
# Layout of a float

Where the digits of a float are written out with a decimal point, and where in scientific form.
-/

namespace FreshToken.Decimal

structure Layout where
  /-- The least power of the leading digit that is written without an exponent. -/
  leastPlain : Int
  /-- The greatest power of the leading digit that is written without an exponent. -/
  mostPlain : Int
  /-- What stands before an exponent that is not negative. -/
  plus : String

/-- The digits of `g` without the zeros at their end. -/
def GridPoint.digits (g : GridPoint) : List Char :=
  ((Nat.toDigits 10 g.count).reverse.dropWhile (· == '0')).reverse

/-- The power of ten of the leading digit of `g`. -/
def GridPoint.leadingPower (g : GridPoint) : Int :=
  g.power + (Nat.toDigits 10 g.count).length - 1

/-- Digits with a point after the first `whole` of them, filled up with zeros so that at least
one digit stands on either side of the point. -/
def withPoint (whole : Nat) (digits : List Char) : String :=
  let front := digits.take whole ++ List.replicate (whole - digits.length) '0'
  let back := digits.drop whole
  String.ofList (front ++ '.' :: (if back.isEmpty then ['0'] else back))

def Layout.write (l : Layout) (ds : List Char) (p : Int) : String :=
  if l.leastPlain ≤ p ∧ p ≤ l.mostPlain then
    if p < 0 then withPoint 1 ('0' :: List.replicate (-p - 1).toNat '0' ++ ds)
    else withPoint (p + 1).toNat ds
  else
    let head := String.ofList (ds.take 1)
    let tail := ds.drop 1
    let significand := if tail.isEmpty then head else head ++ "." ++ String.ofList tail
    significand ++ "e" ++ (if p < 0 then "-" else l.plus) ++ toString p.natAbs

def Layout.text (l : Layout) (x : Float) : String :=
  let bits : Nat := x.toBits.toNat
  let magnitude : Nat := bits % twoTo 63
  let sign := if bits / twoTo 63 = 1 then "-" else ""
  if magnitude = 0 then sign ++ "0.0"
  else
    let g := (Binary.ofBits x.toBits).shortest
    sign ++ l.write g.digits g.leadingPower

end FreshToken.Decimal

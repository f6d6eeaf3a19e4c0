/-!
# Shortest decimal of a float

The digits that identify a double among all doubles: of the decimals that read back as the number
those with the fewest digits, and of these the nearest.  Everything is decided in natural numbers,
from the bits of the float.
-/

namespace FreshToken.Decimal

/-- A positive double `significand · 2 ^ exponent`.  The middle between it and the next double
above lies two quarter units up, the middle to the one below `quartersBelow` quarters down. -/
structure Binary where
  significand : Nat
  exponent : Int
  quartersBelow : Nat

def twoTo (n : Nat) : Nat := Nat.pow 2 n

def tenTo (n : Nat) : Nat := Nat.pow 10 n

/-- The exact value of the bits of a finite double, its sign aside. -/
def Binary.ofBits (bits : UInt64) : Binary :=
  let fraction : Nat := bits.toNat % twoTo 52
  let field : Nat := bits.toNat / twoTo 52 % twoTo 11
  if field = 0 then ⟨fraction, -1074, 2⟩
  else ⟨twoTo 52 + fraction, (field : Int) - 1075, if fraction = 0 ∧ field ≠ 1 then 1 else 2⟩

def Binary.leadingPower (b : Binary) : Int :=
  let shifted := b.significand * twoTo b.exponent.toNat * tenTo 400 / twoTo (-b.exponent).toNat
  ((Nat.toDigits 10 shifted).length : Int) - 401

/-- A decimal `count · 10 ^ power`. -/
structure GridPoint where
  count : Nat
  power : Int

/-- The multiple of `10 ^ power` that is nearest to `b` and reads back as `b`, if one does.  Only
the two neighbours of `b` on the grid can; a tie goes to the even one.  The number and the limits
of what reads back are compared with the grid over one common denominator. -/
def Binary.onGrid? (b : Binary) (power : Int) : Option GridPoint :=
  let scale := twoTo b.exponent.toNat * tenTo (-power).toNat
  let unit := 4 * twoTo (-b.exponent).toNat * tenTo power.toNat
  let value := 4 * b.significand * scale
  let low := (4 * b.significand - b.quartersBelow) * scale
  let high := (4 * b.significand + 2) * scale
  let inside (n : Nat) : Bool :=
    if b.significand % 2 = 0 then low ≤ n * unit && n * unit ≤ high
    else low < n * unit && n * unit < high
  let below := value / unit
  let rest := value % unit
  match inside below, inside (below + 1) with
  | true, true =>
    some ⟨if 2 * rest < unit ∨ (2 * rest = unit ∧ below % 2 = 0) then below else below + 1, power⟩
  | true, false => some ⟨below, power⟩
  | false, true => some ⟨below + 1, power⟩
  | false, false => none

/-- The first hit among the grids of spacing `10 ^ power`, `10 ^ (power - 1)` and so on. -/
def Binary.search (b : Binary) (power : Int) : Nat → GridPoint
  | 0 => ⟨b.significand, power⟩
  | more + 1 => (b.onGrid? power).getD (b.search (power - 1) more)

/-- The shortest decimal of a positive finite double; seventeen digits always suffice. -/
def Binary.shortest (b : Binary) : GridPoint := b.search b.leadingPower 17

end FreshToken.Decimal

import FreshToken.Duration
/-!
# Durations as text

A duration is written in the largest unit among seconds, milliseconds, microseconds and
nanoseconds that it fills at least once; what is left over follows the point, without trailing
zeros.
-/

namespace FreshToken.Duration

def paddedDigits (width n : Nat) : List Char :=
  let digits := (toString n).toList
  List.replicate (width - digits.length) '0' ++ digits

/-- The fraction `rest / 10 ^ places` after a decimal point, or nothing if it is zero. -/
def fractionText (places rest : Nat) : String :=
  if rest = 0 then ""
  else
    let digits := paddedDigits places rest
    String.ofList ('.' :: (digits.reverse.dropWhile (· == '0')).reverse)

def inUnit (unit : String) (places whole rest : Nat) : String :=
  toString whole ++ fractionText places rest ++ unit

/-- The text of a duration, such as `7200s`, `1.5s`, `10ms`, `1.0015ms` or `0ns`. -/
def text (d : Duration) : String :=
  if d.seconds ≠ 0 then inUnit "s" 9 d.seconds d.nanos
  else if 1000000 ≤ d.nanos then inUnit "ms" 6 (d.nanos / 1000000) (d.nanos % 1000000)
  else if 1000 ≤ d.nanos then inUnit "µs" 3 (d.nanos / 1000) (d.nanos % 1000)
  else inUnit "ns" 0 d.nanos 0

end FreshToken.Duration

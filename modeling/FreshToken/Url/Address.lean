import FreshToken.Text.Pieces
import FreshToken.Url.Percent
/-!
# Numeric hosts

Internet addresses of 32 and of 128 bits.  A host whose last part is a number must be an address
of 32 bits, of which each part may be decimal, octal after a zero, or hexadecimal after `0x`; the
last part fills all bytes that are left.  A host in brackets is an address of 128 bits.
-/

namespace FreshToken.Url

/-! ## Addresses of 32 bits -/

/-- The number that digits of a number system make, unless one of them is none of its digits. -/
def numberIn? (base : Nat) (cs : List Char) : Option Nat :=
  cs.foldl (fun n c =>
    match n, hexDigitValue? c with
    | some n, some d => if d < base then some (n * base + d) else none
    | _, _ => none) (some 0)

def hostNumber? : List Char → Option Nat
  | [] => none
  | '0' :: 'x' :: cs | '0' :: 'X' :: cs => numberIn? 16 cs
  | '0' :: c :: cs => numberIn? 8 (c :: cs)
  | cs => numberIn? 10 cs

def hostParts (cs : List Char) : List (List Char) := Text.pieces (· = '.') cs

/-- The parts of a host, without the empty one after a point at its end. -/
def significantParts (cs : List Char) : List (List Char) :=
  let parts := hostParts cs
  if 1 < parts.length ∧ parts.getLast? = some [] then parts.dropLast else parts

def endsInNumber (cs : List Char) : Bool :=
  match (significantParts cs).getLast? with
  | some part => (!part.isEmpty && part.all Char.isDigit) || (hostNumber? part).isSome
  | none => false

/-- The number of addresses that agree in their first `n` bytes. -/
def addressesBelow (n : Nat) : Nat := Nat.pow 256 (4 - n)

/-- The address that numbers make: one byte for each number but the last. -/
def address4? (numbers : List Nat) : Option Nat :=
  let front := numbers.dropLast
  match numbers.getLast? with
  | none => none
  | some last =>
    if 4 < numbers.length ∨ front.any (fun n => decide (255 < n)) ∨
        addressesBelow front.length ≤ last then none
    else some (front.foldl (fun a n => a * 256 + n) 0 * addressesBelow front.length + last)

def readAddress4? (cs : List Char) : Option Nat :=
  ((significantParts cs).mapM hostNumber?).bind address4?

def address4Text (a : Nat) : String :=
  ".".intercalate ([a / 16777216 % 256, a / 65536 % 256, a / 256 % 256, a % 256].map toString)

/-! ## Addresses of 128 bits -/

/-- The two groups that an address of 32 bits fills when it ends one of 128. -/
def tailGroups? (cs : List Char) : Option (List Nat) :=
  let parts := hostParts cs
  let sound (part : List Char) : Bool :=
    part.all Char.isDigit && (part.length = 1 || part.head? ≠ some '0')
  if parts.length = 4 ∧ parts.all sound then
    match parts.mapM (numberIn? 10) with
    | some [a, b, c, d] =>
      if a < 256 ∧ b < 256 ∧ c < 256 ∧ d < 256 then some [a * 256 + b, c * 256 + d] else none
    | _ => none
  else none

def group? (cs : List Char) : Option Nat :=
  if 1 ≤ cs.length ∧ cs.length ≤ 4 then numberIn? 16 cs else none

/-- The groups between colons, of which the last may be an address of 32 bits if `mayEnd`. -/
def groups? (mayEnd : Bool) : List (List Char) → Option (List Nat)
  | [] => some []
  | [cs] =>
    if cs.contains '.' then if mayEnd then tailGroups? cs else none
    else (group? cs).map ([·])
  | cs :: rest => do return (← group? cs) :: (← groups? mayEnd rest)

/-- The pieces of a text between colons; an empty text has none. -/
def colonPieces (cs : List Char) : List (List Char) :=
  if cs.isEmpty then [] else Text.pieces (· = ':') cs

def splitAtGap : List Char → Option (List Char × List Char)
  | ':' :: ':' :: rest => some ([], rest)
  | c :: rest => (splitAtGap rest).map fun (front, back) => (c :: front, back)
  | [] => none

/-- The eight groups of an address of 128 bits.  A pair of colons stands for as many zero groups
as are missing, at least one. -/
def readAddress6? (cs : List Char) : Option (List Nat) :=
  match splitAtGap cs with
  | none => (groups? true (colonPieces cs)).filter (·.length = 8)
  | some (front, back) => do
    let front ← groups? false (colonPieces front)
    let back ← groups? true (colonPieces back)
    if front.length + back.length < 8 then
      return front ++ List.replicate (8 - front.length - back.length) 0 ++ back
    else none

/-- The place and the length of the first longest run of zeros, from group `i` on. -/
def longestZeros (groups : List Nat) (i : Nat) : Nat × Nat :=
  match groups with
  | [] => (i, 0)
  | g :: rest =>
    let here := ((g :: rest).takeWhile (· = 0)).length
    let later := longestZeros rest (i + 1)
    if later.2 ≤ here then (i, here) else later

def groupsText (groups : List Nat) : String :=
  ":".intercalate (groups.map fun g => String.ofList (Nat.toDigits 16 g))

/-- An address of 128 bits, where a pair of colons stands for the longest run of zero groups. -/
def address6Text (groups : List Nat) : String :=
  let (start, length) := longestZeros groups 0
  if length < 2 then groupsText groups
  else groupsText (groups.take start) ++ "::" ++ groupsText (groups.drop (start + length))

end FreshToken.Url

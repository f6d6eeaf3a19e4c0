import FreshToken.Text.Pieces
/-!
# Tables of characters

Properties of characters as lines of words.  A word gives the first code point it is about, the
last one after a hyphen, every how many of them count after a slash, then a mark, and numbers
between points; all numbers are hexadecimal.
-/

namespace FreshToken.Text

structure Row where
  first : Nat
  last : Nat
  /-- Every how many code points of the range count. -/
  step : Nat
  mark : Option Char
  values : List Nat

def tableDigit? (c : Char) : Option Nat :=
  if '0' ≤ c && c ≤ '9' then some (c.toNat - 0x30)
  else if 'a' ≤ c && c ≤ 'f' then some (c.toNat - 0x57)
  else none

def tableNumber (cs : List Char) : Nat × List Char :=
  let digits := cs.takeWhile fun c => (tableDigit? c).isSome
  (digits.foldl (fun n c => n * 16 + (tableDigit? c).getD 0) 0, cs.drop digits.length)

/-- The number after a mark, if that mark is next, and what follows. -/
def tableOption (mark : Char) (cs : List Char) : Option Nat × List Char :=
  match cs with
  | c :: rest =>
    if c = mark then
      let (n, rest) := tableNumber rest
      (some n, rest)
    else (none, cs)
  | [] => (none, cs)

def Row.ofWord (cs : List Char) : Row :=
  let (first, cs) := tableNumber cs
  let (last, cs) := tableOption '-' cs
  let (step, cs) := tableOption '/' cs
  let values := (Text.pieces (· = '.') cs.tail).filter fun p => !p.isEmpty
  ⟨first, last.getD first, step.getD 1, cs.head?, values.map fun p => (tableNumber p).1⟩

def Row.covers (r : Row) (n : Nat) : Bool :=
  r.first ≤ n && n ≤ r.last && (n - r.first) % r.step = 0

def findRow? (table : List String) (p : Row → Bool) : Option Row :=
  table.findSome? fun line =>
    ((Text.pieces (· = ' ') line.toList).map Row.ofWord).find? p

end FreshToken.Text

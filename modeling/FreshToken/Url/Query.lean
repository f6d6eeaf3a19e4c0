import FreshToken.Text.Pieces
import FreshToken.Url.Percent
/-!
# Query pairs

Names and values in a query: pairs are set apart by ampersands, a name and its value by an equals
sign.  Letters, digits and four marks stand as they are, a space is a plus sign, and everything
else is percent encoded, so neither sign can come from a name or a value.
-/

namespace FreshToken.Url

def keepsInPair (c : Char) : Bool :=
  ('a' ≤ c && c ≤ 'z') || ('A' ≤ c && c ≤ 'Z') || ('0' ≤ c && c ≤ '9') ||
    ['*', '-', '.', '_'].contains c

def formChar (c : Char) : List Char := if c = ' ' then ['+'] else percentChar keepsInPair c

def formText (cs : List Char) : List Char := cs.flatMap formChar

def formPair (name value : String) : List Char :=
  formText name.toList ++ '=' :: formText value.toList

def appendPair (query : List Char) (name value : String) : List Char :=
  if query.isEmpty then formPair name value else query ++ '&' :: formPair name value

/-! ## Reading pairs back -/

def formBytes (cs : List Char) : List UInt8 :=
  percentDecode (cs.map fun c => if c = '+' then ' ' else c)

/-- The pair that a piece of a query stands for; without an equals sign the value is empty. -/
def readPair (piece : List Char) : List UInt8 × List UInt8 :=
  (formBytes (piece.takeWhile (· ≠ '=')), formBytes ((piece.dropWhile (· ≠ '=')).drop 1))

/-- The pairs of a query, in bytes; empty pieces are none. -/
def readPairs (query : List Char) : List (List UInt8 × List UInt8) :=
  ((Text.pieces (· = '&') query).filter fun piece => !piece.isEmpty).map readPair

end FreshToken.Url

/-!
# Percent encoding

A character that must not stand as it is becomes a percent sign and two hexadecimal digits for
each of its bytes.  Which characters may stand differs between the parts of an address, and every
set below is contained in the one before it where an address nests them.
-/

namespace FreshToken.Url

def upperHexDigit (n : Nat) : Char :=
  if n < 10 then Char.ofNat (0x30 + n) else Char.ofNat (0x37 + n)

def hexDigitValue? (c : Char) : Option Nat :=
  if '0' ≤ c && c ≤ '9' then some (c.toNat - 0x30)
  else if 'A' ≤ c && c ≤ 'F' then some (c.toNat - 0x37)
  else if 'a' ≤ c && c ≤ 'f' then some (c.toNat - 0x57)
  else none

def percentByte (b : UInt8) : List Char :=
  ['%', upperHexDigit (b.toNat / 16), upperHexDigit (b.toNat % 16)]

/-- A character that stands as it is where `keeps` allows it, and is encoded otherwise. -/
def percentChar (keeps : Char → Bool) (c : Char) : List Char :=
  if keeps c then [c] else (String.utf8EncodeChar c).flatMap percentByte

def percentEncode (keeps : Char → Bool) (cs : List Char) : List Char :=
  cs.flatMap (percentChar keeps)

/-! ## What may stand where -/

def isGraphicOrSpace (c : Char) : Bool := 0x20 ≤ c.toNat && c.toNat < 0x7f

def keepsInFragment (c : Char) : Bool :=
  isGraphicOrSpace c && !([' ', '"', '<', '>', '\x60'].contains c)

def keepsInPath (c : Char) : Bool :=
  keepsInFragment c && !(['#', '?', '\x7b', '\x7d'].contains c)

def keepsInUser (c : Char) : Bool :=
  keepsInPath c && !(['/', ':', ';', '=', '@', '[', '\\', ']', '^', '|'].contains c)

def keepsInQuery (c : Char) : Bool :=
  isGraphicOrSpace c && !([' ', '"', '#', '<', '>'].contains c)

def keepsInSpecialQuery (c : Char) : Bool := keepsInQuery c && c ≠ '\''

/-! ## Decoding -/

/-- The bytes of a text whose percent escapes are resolved; what is no escape stands for itself. -/
def percentDecode : List Char → List UInt8
  | [] => []
  | '%' :: high :: low :: rest =>
    match hexDigitValue? high, hexDigitValue? low with
    | some h, some l => UInt8.ofNat (h * 16 + l) :: percentDecode rest
    | _, _ => 0x25 :: percentDecode (high :: low :: rest)
  | c :: rest => String.utf8EncodeChar c ++ percentDecode rest

end FreshToken.Url

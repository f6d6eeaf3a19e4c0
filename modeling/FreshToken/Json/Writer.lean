import FreshToken.Json.Value
import FreshToken.Decimal.Layout
/-!
# Writing JSON

The compact text of a value: no blanks, members in their order, and strings that escape only the
quote, the backslash and the controls.
-/

namespace FreshToken.Json

/-- Numbers have a point or an exponent, the latter below `10 ^ -5` and from `10 ^ 16` on, and a
positive exponent has a sign. -/
def floatLayout : Decimal.Layout := ⟨-5, 15, "+"⟩

def hexDigit (n : Nat) : Char := Nat.digitChar (n % 16)

def escapedChar (c : Char) : List Char :=
  if c = '"' then ['\\', '"']
  else if c = '\\' then ['\\', '\\']
  else if c = '\x08' then ['\\', 'b']
  else if c = '\x0c' then ['\\', 'f']
  else if c = '\n' then ['\\', 'n']
  else if c = '\r' then ['\\', 'r']
  else if c = '\t' then ['\\', 't']
  else if c.toNat < 0x20 then ['\\', 'u', '0', '0', hexDigit (c.toNat / 16), hexDigit c.toNat]
  else [c]

def stringText (s : String) : List Char :=
  '"' :: (s.toList.flatMap escapedChar ++ ['"'])

/-- A float, or `null` for one that is not finite. -/
def floatText (x : Float) : List Char :=
  if x.isFinite then (floatLayout.text x).toList else "null".toList

namespace Value

mutual

def chars : Value → List Char
  | .null => ['n', 'u', 'l', 'l']
  | .bool true => ['t', 'r', 'u', 'e']
  | .bool false => ['f', 'a', 'l', 's', 'e']
  | .int n => (toString n).toList
  | .float x => floatText x
  | .string s => stringText s
  | .list [] => ['[', ']']
  | .list (item :: items) => '[' :: (chars item ++ moreItems items)
  | .object [] => ['{', '}']
  | .object ((key, value) :: members) =>
    '{' :: (stringText key ++ ':' :: (chars value ++ moreMembers members))

def moreItems : List Value → List Char
  | [] => [']']
  | item :: items => ',' :: (chars item ++ moreItems items)

def moreMembers : List (String × Value) → List Char
  | [] => ['}']
  | (key, value) :: members =>
    ',' :: (stringText key ++ ':' :: (chars value ++ moreMembers members))

end

def text (v : Value) : String := String.ofList v.chars

def encode (v : Value) : List UInt8 := v.text.toUTF8.toList

end Value

end FreshToken.Json

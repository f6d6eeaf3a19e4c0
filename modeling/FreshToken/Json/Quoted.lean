import FreshToken.Json.Document
/-!
# What quoted strings denote

The text of a string whose escapes are resolved.  Two escapes may stand for the two halves of one
character; a half without the other is malformed, and so are bytes that are not UTF-8.
-/

namespace FreshToken.Json

/-- The number of a character that needs a second half to follow. -/
def isHighHalf (u : Nat) : Bool := 0xd800 ≤ u && u ≤ 0xdbff

def isLowHalf (u : Nat) : Bool := 0xdc00 ≤ u && u ≤ 0xdfff

def joinHalves (high low : Nat) : Char :=
  Char.ofNat (0x10000 + (high - 0xd800) * 0x400 + (low - 0xdc00))

/-- The bytes that the units of a string stand for, where `ending` is what ends the string if its
closing quote does not. -/
def resolve (ending : Option Damage) : List Piece → Except Damage (List UInt8)
  | [] => .ok []
  | .byte b :: rest => do return b :: (← resolve ending rest)
  | .unit u :: rest =>
    if isLowHalf u then .error .malformed
    else if isHighHalf u then
      match rest with
      | [] => .error (ending.getD .malformed)
      | .byte _ :: _ => .error .malformed
      | .unit v :: rest =>
        if isLowHalf v then do return String.utf8EncodeChar (joinHalves u v) ++ (← resolve ending rest)
        else .error .malformed
    else do return String.utf8EncodeChar (Char.ofNat u) ++ (← resolve ending rest)

def Quoted.text (q : Quoted) : Except Damage String := do
  let bytes ← resolve q.damage q.pieces
  match q.damage with
  | some d => .error d
  | none =>
    match String.fromUTF8? ⟨bytes.toArray⟩ with
    | some s => .ok s
    | none => .error .malformed

end FreshToken.Json

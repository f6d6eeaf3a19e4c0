import FreshToken.Text.Unshown
/-!
# Quoted text

Characters and strings between quotes.  The quote and the backslash are escaped, a few controls
have a letter, and every other character without a shape of its own is written by its number in
hexadecimal, as in `\u{301}`.
-/

namespace FreshToken.Text

def hexDigits (n : Nat) : String := String.ofList (Nat.toDigits 16 n)

def escaped (quote c : Char) : String :=
  if c = '\x00' then "\\0"
  else if c = '\t' then "\\t"
  else if c = '\r' then "\\r"
  else if c = '\n' then "\\n"
  else if c = '\\' then "\\\\"
  else if c = quote then String.ofList ['\\', quote]
  else if isUnshown c then "\\u\x7b" ++ hexDigits c.toNat ++ "\x7d"
  else String.ofList [c]

def quoted (s : String) : String :=
  "\"" ++ String.join (s.toList.map (escaped '"')) ++ "\""

def quotedChar (c : Char) : String := "'" ++ escaped '\'' c ++ "'"

end FreshToken.Text

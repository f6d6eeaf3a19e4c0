import FreshToken.Json.Reader
import FreshToken.Text.Record
/-!
# Application identifiers

An application identifier is one to sixty-four letters, digits, underscores and hyphens of ASCII.
The first character outside this alphabet is reported before the length is looked at, so where
the length counts, every character is a single byte.
-/

namespace FreshToken

inductive AppIdFault where
  | empty
  /-- The first character outside the alphabet. -/
  | unsupported (c : Char)
  | tooLong
  deriving DecidableEq, Repr

namespace AppIdFault

def maxLength : Nat := 64

def message : AppIdFault → String
  | .empty => "App identifier cannot be empty."
  | .unsupported c =>
    "App identifier contains unsupported character " ++ Text.quotedChar c ++ "."
  | .tooLong => "App identifier exceeds " ++ toString maxLength ++ " characters."

def record : AppIdFault → Text.Record
  | .empty => .word "Empty"
  | .unsupported c =>
    .fields "UnsupportedCharacter" [("found", .word (Text.quotedChar c))]
  | .tooLong => .fields "TooLong" [("max", .nat maxLength)]

end AppIdFault

def isIdChar (c : Char) : Bool :=
  ('a' ≤ c && c ≤ 'z') || ('A' ≤ c && c ≤ 'Z') || ('0' ≤ c && c ≤ '9') || c = '_' || c = '-'

/-- The first fault of a text as an application identifier. -/
def appIdFault? (s : String) : Option AppIdFault :=
  if s.isEmpty then some .empty
  else
    match s.toList.find? (fun c => !isIdChar c) with
    | some c => some (.unsupported c)
    | none => if s.utf8ByteSize > AppIdFault.maxLength then some .tooLong else none

structure AppId where
  text : String
  sound : appIdFault? text = none
  deriving DecidableEq

namespace AppId

def ofString (s : String) : Except AppIdFault AppId :=
  match h : appIdFault? s with
  | none => .ok ⟨s, h⟩
  | some f => .error f

theorem ofString_text (a : AppId) : ofString a.text = .ok a := by
  obtain ⟨s, h⟩ := a
  unfold ofString
  split
  · rfl
  · rename_i h'
    rw [h] at h'
    cases h'

/-- An identifier as a record: it is no secret. -/
def record (a : AppId) : Text.Record := .word ("AppId(" ++ a.text ++ ")")

def toJson (a : AppId) : Json.Value := .string a.text

def reader : Json.Reader AppId :=
  Json.Reader.text.checked fun s => (ofString s).mapError AppIdFault.message

end AppId

end FreshToken

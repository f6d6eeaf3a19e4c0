/-!
# Records as text

The text of a structured value, on one line or indented with one field per line.  Values of the
library are first turned into such a record, so both layouts agree by construction.
-/

namespace FreshToken.Text

inductive Record where
  /-- Text that is written as it stands. -/
  | word (text : String)
  /-- A name with unnamed parts, such as `Some(1)`. -/
  | call (name : String) (parts : List Record)
  /-- A name with named parts, such as `Point { x: 1, y: 2 }`. -/
  | fields (name : String) (parts : List (String × Record))
  /-- A list, such as `[1, 2]`. -/
  | list (items : List Record)

namespace Record

def optional (r : Option Record) : Record :=
  match r with
  | some r => .call "Some" [r]
  | none => .word "None"

def nat (n : Nat) : Record := .word (toString n)

mutual

def line : Record → String
  | .word text => text
  | .call name parts => name ++ "(" ++ ", ".intercalate (lines parts) ++ ")"
  | .fields name parts => name ++ " \x7b " ++ ", ".intercalate (namedLines parts) ++ " \x7d"
  | .list items => "[" ++ ", ".intercalate (lines items) ++ "]"

def lines : List Record → List String
  | [] => []
  | r :: rest => r.line :: lines rest

def namedLines : List (String × Record) → List String
  | [] => []
  | (name, r) :: rest => (name ++ ": " ++ r.line) :: namedLines rest

end

def margin (depth : Nat) : String := String.ofList (List.replicate (4 * depth) ' ')

/-- The parts of a block, each on a line of its own and followed by a comma. -/
def block (depth : Nat) (opening closing : String) (parts : List String) : String :=
  opening ++ "\n" ++ String.join (parts.map fun p => margin (depth + 1) ++ p ++ ",\n") ++
    margin depth ++ closing

mutual

/-- The record over several lines, where `depth` levels are open already. -/
def indented (depth : Nat) : Record → String
  | .word text => text
  | .call name parts => block depth (name ++ "(") ")" (indentedParts (depth + 1) parts)
  | .fields name parts =>
    block depth (name ++ " \x7b") "\x7d" (indentedFields (depth + 1) parts)
  | .list [] => "[]"
  | .list (item :: items) =>
    block depth "[" "]" (indented (depth + 1) item :: indentedParts (depth + 1) items)

def indentedParts (depth : Nat) : List Record → List String
  | [] => []
  | r :: rest => indented depth r :: indentedParts depth rest

def indentedFields (depth : Nat) : List (String × Record) → List String
  | [] => []
  | (name, r) :: rest => (name ++ ": " ++ indented depth r) :: indentedFields depth rest

end

def pretty (r : Record) : String := r.indented 0

end Record

end FreshToken.Text

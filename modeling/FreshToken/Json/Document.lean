/-!
# JSON documents as they stand

What the bytes of a document spell, before anything is decided about types: numbers are digits,
strings are bytes and escapes.  Reading never fails as a whole.  Where the bytes stop making sense
the document holds a mark of damage, so whoever walks the document in reading order meets each
value before the damage that follows it.
-/

namespace FreshToken.Json

inductive Damage where
  | cutOff
  | malformed
  deriving DecidableEq, Repr

structure Numeral where
  negative : Bool
  whole : List Nat
  /-- Digits after the point; empty if there is no point. -/
  fraction : List Nat
  /-- Sign and digits of the exponent. -/
  exponent : Option (Bool × List Nat)
  deriving DecidableEq, Repr

/-- A unit of a string: a byte as it stands or a `\u` escape with its number.  The short escapes
stand for a byte and are kept as that byte. -/
inductive Piece where
  | byte (b : UInt8)
  | unit (u : Nat)
  deriving DecidableEq, Repr

/-- A string as it stands, and what ended it if that was not the closing quote. -/
structure Quoted where
  pieces : List Piece
  damage : Option Damage
  deriving DecidableEq, Repr

mutual

inductive Doc where
  | null
  | bool (b : Bool)
  | number (n : Numeral)
  | string (q : Quoted)
  | list (items : Items)
  | object (members : Members)
  /-- A number that the end of the input cuts short. -/
  | cutNumber
  | damaged (d : Damage)

/-- What follows the opening bracket or an item of a list. -/
inductive Items where
  | closed
  | item (first : Doc) (rest : Items)
  /-- The list is not continued properly, `afterComma` or before one. -/
  | broken (afterComma : Bool) (d : Damage)

inductive Members where
  | closed
  | member (key : Quoted) (value : Doc) (rest : Members)
  /-- Neither a key nor the closing brace follows. -/
  | broken (d : Damage)
  /-- No colon follows the key. -/
  | noColon (key : Quoted) (d : Damage)

end

instance : Inhabited Doc := ⟨.damaged .cutOff⟩

/-! ## Damage met by a reader that skips

A value that nobody asks for is only followed to its end.  Its strings need not be text and its
numbers need not be in range, and a number cut short counts as malformed. -/

mutual

/-- The first damage in a value that is skipped. -/
def Doc.damage? : Doc → Option Damage
  | .null | .bool _ | .number _ => none
  | .string q => q.damage
  | .list items => items.damage?
  | .object members => members.damage?
  | .cutNumber => some .malformed
  | .damaged d => some d

def Items.damage? : Items → Option Damage
  | .closed => none
  | .item first rest => first.damage?.or rest.damage?
  | .broken _ d => some d

def Members.damage? : Members → Option Damage
  | .closed => none
  | .member key value rest => key.damage.or (value.damage?.or rest.damage?)
  | .broken d => some d
  | .noColon key d => key.damage.or (some d)

end

end FreshToken.Json
